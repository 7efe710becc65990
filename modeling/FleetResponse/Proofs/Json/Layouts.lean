import FleetResponse.Proofs.Json.Documents
import FleetResponse.Proofs.Json.Fields
import FleetResponse.Proofs.Json.Records

namespace FleetResponse

namespace Json

variable {α : Type}

def decode (read : Json → Option α) (document : String) : Option α :=
  (parse? document).bind read

theorem Document.decode_eq {v : Json} {document : String} (spelled : Document v document)
    (read : Json → Option α) : decode read document = read v := by
  rw [decode, parse?_eq_some_iff.mpr spelled, Option.bind_some]

structure FreeLayout (fields : List Field) (read : Json → Option α) : Prop where
  blanks : ∀ {document other : String}, parse? document ≠ none → parse? other ≠ none →
    bare false document.toList = bare false other.toList →
    decode read document = decode read other
  order : ∀ {members others : List (Option String × Json)}, members.Perm others →
    ∀ {document other : String}, Document (.object members) document →
      Document (.object others) other → decode read document = decode read other
  foreign : ∀ {extras : List (String × Json)} {members : List (Option String × Json)},
    (∀ extra ∈ extras, extra.1 ∉ fields.map Field.name) →
    ∀ {document other : String}, Document (.object (keyed extras ++ members)) document →
      Document (.object members) other → decode read document = decode read other
  place : ∀ {values : List Json}, values.length = fields.length →
    ∀ {document other : String}, Document (record ((fields.map Field.name).zip values)) document →
      Document (.array values) other → decode read document = decode read other
  repeated : ∀ {members : List (Option String × Json)}, ∀ field ∈ fields,
    1 < (members.map Prod.fst).count (some field.name) →
    ∀ {document : String}, Document (.object members) document → decode read document = none
  missing : ∀ {members : List (Option String × Json)}, ∀ field ∈ fields,
    field.name ≠ "quarantine_reason" → some field.name ∉ members.map Prod.fst →
    ∀ {document : String}, Document (.object members) document → decode read document = none
  unfilled : ∀ {values : List Json}, values.length ≠ fields.length →
    ∀ {document : String}, Document (.array values) document → decode read document = none

theorem freeLayout_of_fields {fields : List Field} {read : Json → Option α}
    (alike : ∀ v w, fields? fields v = fields? fields w → read v = read w)
    (nothing : ∀ v, fields? fields v = none → read v = none)
    (distinct : (fields.map Field.name).Nodup)
    (required : ∀ field ∈ fields, field.name ≠ "quarantine_reason" → field.presence = .required)
    (plain : ∀ field ∈ fields, field.presence ≠ .defaulted) : FreeLayout fields read where
  blanks parsed otherParsed same := by
    rw [decode, decode, parse?_congr same parsed otherParsed]
  order order _ _ spelled otherSpelled := by
    rw [spelled.decode_eq, otherSpelled.decode_eq]
    exact alike _ _ (fields?_perm order)
  foreign foreign _ _ spelled otherSpelled := by
    rw [spelled.decode_eq, otherSpelled.decode_eq]
    exact alike _ _ (fields?_foreign foreign)
  place {values} filled _ _ spelled otherSpelled := by
    have short : (fields.map Field.name).length = values.length := by
      rw [List.length_map, filled]
    have names : fields.map Field.name = ((fields.map Field.name).zip values).map Prod.fst :=
      (List.map_fst_zip (Nat.le_of_eq short)).symm
    have listed : ((fields.map Field.name).zip values).map (fun member => some member.2) =
        values.map some :=
      List.map_map.symm.trans
        (congrArg (List.map some) (List.map_snd_zip (Nat.le_of_eq short.symm)))
    rw [spelled.decode_eq, otherSpelled.decode_eq]
    refine alike _ _ ?_
    rw [fields?_record distinct names, fields?_array filled, listed]
  repeated field listed twice _ spelled := by
    rw [spelled.decode_eq]
    exact nothing _ (fields?_repeated listed twice)
  missing field listed other absent _ spelled := by
    rw [spelled.decode_eq]
    exact nothing _ (fields?_missing listed (required field listed other) absent)
  unfilled unfilled _ spelled := by
    rw [spelled.decode_eq]
    exact nothing _ (fields?_array_eq_none plain unfilled)

end Json

open Json

theorem Device.freeLayout : FreeLayout fields ofJson? :=
  freeLayout_of_fields (fun v w same => by simp only [ofJson?, same])
    (fun v none => by simp only [ofJson?, none]) (by decide) (by decide) (by decide)

theorem Incident.freeLayout : FreeLayout fields ofJson? :=
  freeLayout_of_fields (fun v w same => by simp only [ofJson?, same])
    (fun v none => by simp only [ofJson?, none]) (by decide) (by decide) (by decide)

theorem Summary.freeLayout : FreeLayout fields ofJson? :=
  freeLayout_of_fields (fun v w same => by simp only [ofJson?, same])
    (fun v none => by simp only [ofJson?, none]) (by decide) (by decide) (by decide)

namespace Reading

theorem freeLayout : FreeLayout fields ofJson? :=
  freeLayout_of_fields (fun v w same => by simp only [ofJson?, same])
    (fun v none => by simp only [ofJson?, none]) (by decide) (by decide) (by decide)

theorem ofJson?_without {before after : List (Option String × Json)}
    (without : some "quarantine_reason" ∉ (before ++ after).map Prod.fst) :
    ofJson? (.object (before ++ after)) =
      ofJson? (.object (before ++ (some "quarantine_reason", .null) :: after)) := by
  have parted : fields = fields.dropLast ++ [⟨"quarantine_reason", .optional⟩] := rfl
  have order : (before ++ (some "quarantine_reason", .null) :: after).Perm
      (keyed [("quarantine_reason", .null)] ++ (before ++ after)) := List.perm_middle
  have absent : fieldByName (before ++ after) ⟨"quarantine_reason", .optional⟩ = some none := by
    rw [fieldByName, named_eq_nil_iff.mpr without]
    rfl
  have present : fieldByName (keyed [("quarantine_reason", .null)] ++ (before ++ after))
      ⟨"quarantine_reason", .optional⟩ = some (some .null) := by
    rw [fieldByName, named_append, named_eq_nil_iff.mpr without]
    rfl
  have rest : fields? fields.dropLast
      (.object (keyed [("quarantine_reason", .null)] ++ (before ++ after))) =
        fields? fields.dropLast (.object (before ++ after)) :=
    fields?_foreign (by decide)
  rw [ofJson?, ofJson?, fields?_perm order, parted, fields?_concat, fields?_concat, absent, present,
    rest]
  cases fields? fields.dropLast (.object (before ++ after)) with
  | none => rfl
  | some found =>
      simp only [Option.bind_some, Option.map_some]
      split
      · rename_i id device value timestamp status reason same
        have both : found ++ [none] =
            [some id, some device, some value, some timestamp, some status] ++ [reason] :=
          Option.some.inj same
        obtain ⟨rfl, last⟩ := List.append_inj' both rfl
        obtain rfl := List.singleton_inj.mp last
        rfl
      · rename_i unlike
        split
        · rename_i id device value timestamp status reason same
          have both : found ++ [some .null] =
              [some id, some device, some value, some timestamp, some status] ++ [reason] :=
            Option.some.inj same
          obtain ⟨rfl, -⟩ := List.append_inj' both rfl
          exact absurd rfl (unlike id device value timestamp status none)
        · rfl

theorem timestamp_of_ofJson? {v value : Json} {r : Reading} (read : ofJson? v = some r)
    (holds : Holds fields "timestamp" value v) : value.asTimestamp? = some r.timestamp := by
  rw [ofJson?] at read
  split at read
  · rename_i id device measured timestamp status reason found
    have held := holds.found (by decide) found
    have same : value = timestamp := by simpa [fields] using held
    simp only [Option.bind_eq_bind, Option.bind_eq_some_iff] at read
    obtain ⟨_, -, _, -, _, -, instant, timed, _, -, _, -, made⟩ := read
    cases made
    exact same ▸ timed
  · cases read

end Reading

namespace Json

/-- The four kinds of records are laid out freely, and their own documents are read as them. -/
theorem records_freeLayout :
    (FreeLayout Device.fields Device.ofJson? ∧ FreeLayout Reading.fields Reading.ofJson? ∧
      FreeLayout Incident.fields Incident.ofJson? ∧ FreeLayout Summary.fields Summary.ofJson?) ∧
    (∀ before after : List (Option String × Json),
      some "quarantine_reason" ∉ (before ++ after).map Prod.fst →
      ∀ document other, Document (.object (before ++ after)) document →
        Document (.object (before ++ (some "quarantine_reason", .null) :: after)) other →
        decode Reading.ofJson? document = decode Reading.ofJson? other) ∧
    (∀ (v : Json) (document : String) (r : Reading), Document v document →
      decode Reading.ofJson? document = some r →
      ∀ value, Holds Reading.fields "timestamp" value v →
        value.asTimestamp? = some r.timestamp) ∧
    (∀ (d : Device) (document : String), Document d.json document →
      decode Device.ofJson? document = some { d with createdAt := d.createdAt.written }) ∧
    (∀ (r : Reading) (value : Json), value.asDouble? = some r.value →
      ∀ document, Document (r.json fun _ => value) document →
        decode Reading.ofJson? document = some { r with timestamp := r.timestamp.written }) ∧
    (∀ (incident : Incident) (document : String), Document incident.json document →
      decode Incident.ofJson? document = some { incident with
        windowStart := incident.windowStart.written
        windowEnd := incident.windowEnd.written }) ∧
    ∀ suspended quarantined notified : UInt64,
      let summary : Summary := ⟨suspended.toNat, quarantined.toNat, notified.toNat⟩
      ∀ document, Document summary.json document →
        decode Summary.ofJson? document = some summary := by
  refine ⟨⟨Device.freeLayout, Reading.freeLayout, Incident.freeLayout, Summary.freeLayout⟩,
    ?_, ?_, ?_, ?_, ?_, ?_⟩
  · intro before after without document other spelled otherSpelled
    rw [spelled.decode_eq, otherSpelled.decode_eq, Reading.ofJson?_without without]
  · intro v document r spelled read value holds
    rw [spelled.decode_eq] at read
    exact Reading.timestamp_of_ofJson? read holds
  · intro d document spelled
    rw [spelled.decode_eq, Device.ofJson?_json]
  · intro r value measured document spelled
    rw [spelled.decode_eq, Reading.ofJson?_json, measured, Option.map_some]
  · intro incident document spelled
    rw [spelled.decode_eq, Incident.ofJson?_json]
  · intro suspended quarantined notified summary document spelled
    rw [spelled.decode_eq]
    exact Summary.ofJson?_json suspended.toNat_lt quarantined.toNat_lt notified.toNat_lt

def lateMembers : List (String × Json) :=
  [("quarantine_reason", .optionalText lateReading.reason),
    ("status", .text lateReading.status.name), ("timestamp", .ofTimestamp lateReading.timestamp),
    ("value", oneAndAHalf), ("device_id", .ofIdent lateReading.device),
    ("id", .ofIdent lateReading.id)]

def note : String × Json :=
  ("note", .array [record [("id", .ofIdent lateReading.id)], .null])

theorem proper_lateMembers : ∀ member ∈ lateMembers, Proper (.value member.2) := by
  simp only [lateMembers, List.forall_mem_cons]
  exact ⟨proper_optionalText _, .text _, proper_ofTimestamp _, proper_oneAndAHalf,
    proper_ofIdent _, proper_ofIdent _, fun _ member => by cases member⟩

theorem proper_note : Proper (.value note.2) := by
  refine proper_array (List.forall_mem_cons.mpr ⟨proper_record ?_, ?_⟩)
  · exact List.forall_mem_cons.mpr ⟨proper_ofIdent _, fun _ member => by cases member⟩
  · exact List.forall_mem_cons.mpr ⟨.null, fun _ member => by cases member⟩

theorem document_render {v : Json} (proper : Proper (.value v)) : Document v v.render :=
  parse?_eq_some_iff.mp (parse?_render proper)

theorem records_freeLayout_scattered :
    decode Reading.ofJson? (record (note :: lateMembers)).renderIndented = some lateReading ∧
    decode Reading.ofJson? (record lateMembers.tail).render =
      some { lateReading with reason := none } ∧
    decode Reading.ofJson? (record (lateMembers ++ lateMembers)).render = none := by
  have value : oneAndAHalf.asDouble? = some lateReading.value := by decide +kernel
  have inOrder (r : Reading) : Document (r.json fun _ => oneAndAHalf) _ :=
    document_render (Reading.proper_json proper_oneAndAHalf)
  have reversed := document_render (proper_record proper_lateMembers)
  have kept (r : Reading) (late : r.timestamp = lateReading.timestamp) :
      some { r with timestamp := r.timestamp.written } = some r := by
    rw [late, Timestamp.written_of_regular (by decide), ← late]
  obtain ⟨⟨-, freeLayout, -, -⟩, without, -, -, itself, -, -⟩ := records_freeLayout
  refine ⟨?_, ?_, ?_⟩
  · have noted : Document (record (note :: lateMembers))
        (record (note :: lateMembers)).renderIndented :=
      parse?_eq_some_iff.mp (parse?_renderIndented (proper_record
        (List.forall_mem_cons.mpr ⟨proper_note, proper_lateMembers⟩)))
    have foreign : ∀ extra ∈ [note], extra.1 ∉ Reading.fields.map Field.name := by decide
    calc decode Reading.ofJson? (record (note :: lateMembers)).renderIndented
        = decode Reading.ofJson? (record lateMembers).render :=
          freeLayout.foreign foreign noted reversed
      _ = decode Reading.ofJson? (lateReading.json fun _ => oneAndAHalf).render :=
          freeLayout.order (List.reverse_perm _).symm reversed (inOrder lateReading)
      _ = some lateReading :=
          (itself lateReading oneAndAHalf value _ (inOrder lateReading)).trans
            (kept lateReading rfl)
  · have each : ∀ member ∈ lateMembers.tail, Proper (.value member.2) := fun member listed =>
      proper_lateMembers member (List.mem_of_mem_tail listed)
    have unreasoned := document_render (proper_record each)
    have nulled : Document (record (("quarantine_reason", .null) :: lateMembers.tail)) _ :=
      document_render (proper_record (List.forall_mem_cons.mpr ⟨.null, each⟩))
    let read : Reading := { lateReading with reason := none }
    calc decode Reading.ofJson? (record lateMembers.tail).render
        = decode Reading.ofJson?
            (record (("quarantine_reason", .null) :: lateMembers.tail)).render :=
          without [] (keyed lateMembers.tail) (by decide) _ _ unreasoned nulled
      _ = decode Reading.ofJson? (read.json fun _ => oneAndAHalf).render :=
          freeLayout.order (List.reverse_perm _).symm nulled (inOrder read)
      _ = some read :=
          (itself read oneAndAHalf value _ (inOrder read)).trans (kept read rfl)
  · have twice := document_render (proper_record (List.forall_mem_append.mpr
      ⟨proper_lateMembers, proper_lateMembers⟩))
    exact freeLayout.repeated ⟨"id", .required⟩ (by decide) (by decide) twice

end Json

end FleetResponse
