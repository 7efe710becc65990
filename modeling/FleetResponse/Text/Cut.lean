namespace FleetResponse.Text

def cut? (mark : Char) : List Char → Option (List Char × List Char)
  | [] => none
  | c :: cs =>
      if c = mark then some ([], cs)
      else (cut? mark cs).map fun (before, after) => (c :: before, after)

def fields (mark : Char) : List Char → List (List Char)
  | [] => [[]]
  | c :: cs =>
      if c = mark then [] :: fields mark cs
      else match fields mark cs with
        | [] => [[c]]
        | part :: parts => (c :: part) :: parts

def upTo (mark : Char) (cs : List Char) : List Char :=
  cs.takeWhile (· ≠ mark)

theorem fields_ne_nil (mark : Char) (cs : List Char) : fields mark cs ≠ [] := by
  cases cs with
  | nil => simp [fields]
  | cons c cs =>
      unfold fields
      split
      · simp
      · split <;> simp

theorem eq_append_of_cut? {mark : Char} {cs before after : List Char}
    (h : cut? mark cs = some (before, after)) : cs = before ++ mark :: after := by
  induction cs generalizing before with
  | nil => simp [cut?] at h
  | cons c cs ih =>
      unfold cut? at h
      split at h
      · simp_all
      · simp only [Option.map_eq_some_iff] at h
        obtain ⟨⟨front, back⟩, found, same⟩ := h
        simp only [Prod.mk.injEq] at same
        obtain ⟨rfl, rfl⟩ := same
        simp [← ih found]

theorem cut?_append {mark : Char} {before after : List Char} (absent : mark ∉ before) :
    cut? mark (before ++ mark :: after) = some (before, after) := by
  induction before with
  | nil => simp [cut?]
  | cons c before ih =>
      obtain ⟨other, absent⟩ := not_or.mp (mt List.mem_cons.mpr absent)
      simp [cut?, Ne.symm other, ih absent]

theorem cut?_eq_none_iff {mark : Char} {cs : List Char} : cut? mark cs = none ↔ mark ∉ cs := by
  induction cs with
  | nil => simp [cut?]
  | cons c cs ih =>
      unfold cut?
      split
      · rename_i same
        simp [same]
      · rename_i other
        simp [ih, Ne.symm other]

theorem not_mem_of_cut? {mark : Char} {cs before after : List Char}
    (h : cut? mark cs = some (before, after)) : mark ∉ before := by
  induction cs generalizing before with
  | nil => simp [cut?] at h
  | cons c cs ih =>
      unfold cut? at h
      split at h
      · simp_all
      · rename_i other
        obtain ⟨⟨front, back⟩, found, same⟩ := Option.map_eq_some_iff.mp h
        obtain ⟨rfl, rfl⟩ := Prod.mk.inj same
        simp [Ne.symm other, ih found]

end FleetResponse.Text
