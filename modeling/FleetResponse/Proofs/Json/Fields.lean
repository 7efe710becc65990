import Mathlib.Data.List.Nodup
import Mathlib.Data.Option.Basic
import FleetResponse.Json.Record

namespace FleetResponse.Json

variable {field : Field} {fields : List Field} {members others : List (Option String × Json)}

/-! ## Members of a name -/

def keyed (members : List (String × Json)) : List (Option String × Json) :=
  members.map fun (name, value) => (some name, value)

theorem keyed_names (members : List (String × Json)) :
    (keyed members).map Prod.fst = (members.map Prod.fst).map some := by
  rw [keyed, List.map_map, List.map_map]
  rfl

theorem named_append (name : String) (members others : List (Option String × Json)) :
    named name (members ++ others) = named name members ++ named name others :=
  List.filterMap_append

theorem named_perm (order : members.Perm others) (name : String) :
    (named name members).Perm (named name others) :=
  order.filterMap _

theorem length_named (name : String) (members : List (Option String × Json)) :
    (named name members).length = (members.map Prod.fst).count (some name) := by
  rw [named, List.length_filterMap_eq_countP, List.count, List.countP_map]
  refine List.countP_congr fun member _ => ?_
  by_cases same : member.1 = some name <;> simp [same]

theorem named_eq_nil_iff {name : String} :
    named name members = [] ↔ some name ∉ members.map Prod.fst := by
  rw [← List.length_eq_zero_iff, length_named, List.count_eq_zero]

theorem mem_named {name : String} {value : Json} :
    value ∈ named name members ↔ (some name, value) ∈ members := by
  rw [named, List.mem_filterMap]
  constructor
  · rintro ⟨⟨key, held⟩, listed, same⟩
    simp only at same
    split at same
    · rename_i known
      cases same
      exact known ▸ listed
    · cases same
  · intro listed
    exact ⟨(some name, value), listed, if_pos rfl⟩

theorem fieldByName_perm (order : members.Perm others) :
    fieldByName members = fieldByName others := by
  funext field
  have alike := named_perm order field.name
  rw [fieldByName, fieldByName]
  generalize named field.name members = values at alike
  generalize named field.name others = found at alike
  rcases values with _ | ⟨value, _ | ⟨next, more⟩⟩
  · rw [alike.nil_eq]
  · rw [List.singleton_perm.mp alike]
  · rcases found with _ | ⟨other, _ | ⟨_, _⟩⟩
    · cases alike.length_eq
    · cases alike.length_eq
    · rfl

theorem fieldByName_append (foreign : some field.name ∉ others.map Prod.fst) :
    fieldByName (others ++ members) field = fieldByName members field := by
  rw [fieldByName, fieldByName, named_append, named_eq_nil_iff.mpr foreign, List.nil_append]

theorem fieldByName_repeated
    (twice : 1 < (members.map Prod.fst).count (some field.name)) :
    fieldByName members field = none := by
  rw [← length_named] at twice
  rw [fieldByName]
  split
  · rename_i none
    rw [none] at twice
    cases twice
  · rename_i one
    rw [one] at twice
    exact absurd twice (Nat.lt_irrefl 1)
  · rfl

theorem fieldByName_missing (required : field.presence = .required)
    (absent : some field.name ∉ members.map Prod.fst) : fieldByName members field = none := by
  rw [fieldByName, named_eq_nil_iff.mpr absent]
  simp [Field.mayMissByName, required]

/-! ## Objects -/

theorem mapM_eq_none {α β : Type} {f : α → Option β} {l : List α} {a : α} (listed : a ∈ l)
    (fails : f a = none) : l.mapM f = none := by
  induction l with
  | nil => cases listed
  | cons b l ih =>
      rw [List.mapM_cons]
      rcases List.mem_cons.mp listed with rfl | later
      · rw [fails]
        rfl
      · rw [ih later]
        cases f b <;> rfl

theorem mapM_congr {α β : Type} {f g : α → Option β} {l : List α} (alike : ∀ a ∈ l, f a = g a) :
    l.mapM f = l.mapM g := by
  induction l with
  | nil => rfl
  | cons b l ih =>
      obtain ⟨first, rest⟩ := List.forall_mem_cons.mp alike
      rw [List.mapM_cons, List.mapM_cons, first, ih rest]

theorem fields?_perm (order : members.Perm others) :
    fields? fields (.object members) = fields? fields (.object others) := by
  rw [fields?, fields?, fieldByName_perm order, order.all_eq]

theorem fields?_foreign {extras : List (String × Json)}
    (foreign : ∀ extra ∈ extras, extra.1 ∉ fields.map Field.name) :
    fields? fields (.object (keyed extras ++ members)) = fields? fields (.object members) := by
  have each : ∀ field ∈ fields,
      fieldByName (keyed extras ++ members) field = fieldByName members field := by
    intro field listed
    refine fieldByName_append fun member => ?_
    rw [keyed_names, List.mem_map] at member
    obtain ⟨name, held, same⟩ := member
    obtain ⟨extra, extra_held, rfl⟩ := List.mem_map.mp held
    exact foreign extra extra_held (Option.some.inj same ▸ List.mem_map_of_mem listed)
  have texts : ∀ member ∈ keyed extras, member.1.isSome = true := List.forall_mem_map.mpr
    fun _ _ => rfl
  rw [fields?, fields?, mapM_congr each, List.all_append, List.all_eq_true.mpr texts,
    Bool.true_and]

theorem fields?_of_field (listed : field ∈ fields) (fails : fieldByName members field = none) :
    fields? fields (.object members) = none := by
  rw [fields?, mapM_eq_none listed fails]
  split <;> rfl

theorem fields?_repeated (listed : field ∈ fields)
    (twice : 1 < (members.map Prod.fst).count (some field.name)) :
    fields? fields (.object members) = none :=
  fields?_of_field listed (fieldByName_repeated twice)

theorem fields?_missing (listed : field ∈ fields) (required : field.presence = .required)
    (absent : some field.name ∉ members.map Prod.fst) : fields? fields (.object members) = none :=
  fields?_of_field listed (fieldByName_missing required absent)

theorem fields?_concat : fields? (fields ++ [field]) (.object members) =
    (fields? fields (.object members)).bind fun found =>
      (fieldByName members field).map fun value => found ++ [value] := by
  rw [fields?, fields?]
  split
  · simp only [List.mapM_append, List.mapM_cons, List.mapM_nil]
    cases fields.mapM (fieldByName members) with
    | none => rfl
    | some found => cases fieldByName members field <;> rfl
  · rfl

/-! ## Values by name and by place -/

theorem fieldByName_keyed {members : List (String × Json)} {value : Json}
    (distinct : (members.map Prod.fst).Nodup) (listed : (field.name, value) ∈ members) :
    fieldByName (keyed members) field = some (some value) := by
  have once : (named field.name (keyed members)).length = 1 := by
    rw [length_named, keyed_names]
    have names := List.Nodup.map (Option.some_injective String) distinct
    exact List.count_eq_one_of_mem names
      (List.mem_map_of_mem (List.mem_map_of_mem (f := Prod.fst) listed))
  have held : value ∈ named field.name (keyed members) :=
    mem_named.mpr (List.mem_map_of_mem (f := fun (name, value) => (some name, value)) listed)
  obtain ⟨only, alone⟩ := List.length_eq_one_iff.mp once
  rw [alone, List.mem_singleton] at held
  rw [fieldByName, alone, held]

theorem fields?_record {members : List (String × Json)} (distinct : (fields.map Field.name).Nodup)
    (names : fields.map Field.name = members.map Prod.fst) :
    fields? fields (record members) = some (members.map fun member => some member.2) := by
  rw [names] at distinct
  have each : ∀ (rest : List (String × Json)) (fields : List Field), rest ⊆ members →
      fields.map Field.name = rest.map Prod.fst →
      fields.mapM (fieldByName (keyed members)) = some (rest.map fun member => some member.2) := by
    intro rest fields inside names
    induction rest generalizing fields with
    | nil =>
        obtain rfl := List.map_eq_nil_iff.mp names
        rfl
    | cons member rest ih =>
        cases fields with
        | nil => cases names
        | cons field fields =>
            obtain ⟨name, value⟩ := member
            obtain ⟨rfl, namesLeft⟩ := List.cons.inj names
            have first := fieldByName_keyed distinct (inside List.mem_cons_self)
            rw [List.mapM_cons, first, ih fields (List.subset_of_cons_subset inside) namesLeft]
            rfl
  rw [record, fields?, if_pos]
  · exact each members fields (List.Subset.refl _) names
  · simp

theorem fields?_array {values : List Json} (filled : values.length = fields.length) :
    fields? fields (.array values) = some (values.map some) := by
  rw [fields?]
  induction fields generalizing values with
  | nil =>
      obtain rfl := List.length_eq_zero_iff.mp filled
      rfl
  | cons field fields ih =>
      cases values with
      | nil => cases filled
      | cons value values => rw [fieldsInOrder, ih (Nat.succ.inj filled)]; rfl

theorem fields?_array_eq_none {values : List Json}
    (plain : ∀ field ∈ fields, field.presence ≠ .defaulted)
    (unfilled : values.length ≠ fields.length) : fields? fields (.array values) = none := by
  rw [fields?]
  induction fields generalizing values with
  | nil =>
      cases values with
      | nil => exact absurd rfl unfilled
      | cons value values => rfl
  | cons field fields ih =>
      obtain ⟨first, rest⟩ := List.forall_mem_cons.mp plain
      cases values with
      | nil =>
          have kept : ¬ field.mayMissAtEnd = true := by simpa [Field.mayMissAtEnd] using first
          rw [fieldsInOrder, if_neg kept]
      | cons value values =>
          rw [fieldsInOrder, ih rest fun same => unfilled (congrArg Nat.succ same)]
          rfl

/-- A value in an object under the name of a field, or in an array at its place. -/
inductive Holds (fields : List Field) (name : String) (value : Json) : Json → Prop
  | byName {members : List (Option String × Json)} (listed : (some name, value) ∈ members) :
      Holds fields name value (.object members)
  | byPlace {values : List Json} (listed : (name, value) ∈ (fields.map Field.name).zip values) :
      Holds fields name value (.array values)

theorem eq_of_fieldByName {value : Json} {read : Option Json}
    (found : fieldByName members field = some read) (listed : (some field.name, value) ∈ members) :
    read = some value := by
  have held := mem_named.mpr listed
  rw [fieldByName] at found
  split at found
  · rename_i none
    rw [none] at held
    cases held
  · rename_i only alone
    rw [alone, List.mem_singleton] at held
    exact (Option.some.inj found).symm.trans (congrArg some held.symm)
  · cases found

theorem mem_zip_of_mapM {found : List (Option Json)} {value : Json}
    (read : fields.mapM (fieldByName members) = some found) (listed : field ∈ fields)
    (held : (some field.name, value) ∈ members) :
    (field.name, some value) ∈ (fields.map Field.name).zip found := by
  induction fields generalizing found with
  | nil => cases listed
  | cons first fields ih =>
      rw [List.mapM_cons] at read
      simp only [Option.bind_eq_bind, Option.bind_eq_some_iff] at read
      obtain ⟨x, here, more, later, same⟩ := read
      cases same
      rw [List.map_cons, List.zip_cons_cons, List.mem_cons]
      rcases List.mem_cons.mp listed with rfl | elsewhere
      · rw [eq_of_fieldByName here held]
        exact .inl rfl
      · exact .inr (ih later elsewhere)

theorem mem_zip_of_fieldsInOrder {found : List (Option Json)} {values : List Json} {name : String}
    {value : Json} (read : fieldsInOrder fields values = some found)
    (held : (name, value) ∈ (fields.map Field.name).zip values) :
    (name, some value) ∈ (fields.map Field.name).zip found := by
  induction fields generalizing values found with
  | nil => cases held
  | cons first fields ih =>
      cases values with
      | nil => cases held
      | cons here values =>
          rw [fieldsInOrder] at read
          obtain ⟨more, later, rfl⟩ := Option.map_eq_some_iff.mp read
          rw [List.map_cons, List.zip_cons_cons, List.mem_cons] at held ⊢
          rcases held with same | elsewhere
          · cases same
            exact .inl rfl
          · exact .inr (ih later elsewhere)

theorem Holds.found {name : String} {value v : Json} {found : List (Option Json)}
    (holds : Holds fields name value v) (known : name ∈ fields.map Field.name)
    (read : fields? fields v = some found) :
    (name, some value) ∈ (fields.map Field.name).zip found := by
  cases holds with
  | byName listed =>
      obtain ⟨field, field_listed, rfl⟩ := List.mem_map.mp known
      rw [fields?] at read
      split at read
      · exact mem_zip_of_mapM read field_listed listed
      · cases read
  | byPlace listed => exact mem_zip_of_fieldsInOrder read listed

end FleetResponse.Json
