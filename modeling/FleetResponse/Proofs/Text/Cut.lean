import Mathlib.Data.List.TakeWhile
import FleetResponse.Text.Blank
import FleetResponse.Text.Cut

namespace FleetResponse.Text

/-! ## Trimming -/

structure Trimmed (cs : List Char) : Prop where
  start : ∀ c ∈ cs.head?, isBlank c = false
  stop : ∀ c ∈ cs.getLast?, isBlank c = false

theorem skipBlank_eq_self {cs : List Char} (start : ∀ c ∈ cs.head?, isBlank c = false) :
    skipBlank cs = cs := by
  cases cs with
  | nil => rfl
  | cons c cs => exact List.dropWhile_cons_of_neg (by simp [start c rfl])

theorem trim_eq_self {cs : List Char} (trimmed : Trimmed cs) : trim cs = cs := by
  have back : ∀ c ∈ cs.reverse.head?, isBlank c = false := by
    rw [List.head?_reverse]
    exact trimmed.stop
  rw [trim, skipBlank_eq_self trimmed.start, skipBlank_eq_self back, List.reverse_reverse]

theorem skipBlank_append {before : List Char} (blank : allBlank before = true) (cs : List Char) :
    skipBlank (before ++ cs) = skipBlank cs :=
  List.dropWhile_append_of_pos (List.all_eq_true.mp blank)

theorem trim_surrounded {before after : List Char} (front : allBlank before = true)
    (back : allBlank after = true) (cs : List Char) : trim (before ++ cs ++ after) = trim cs := by
  have behind : allBlank after.reverse = true := by rwa [allBlank, List.all_reverse]
  rw [trim, List.append_assoc, skipBlank_append front, trim]
  by_cases empty : skipBlank cs = []
  · have gone : skipBlank (cs ++ after) = [] := by
      rw [skipBlank, List.dropWhile_append, ← skipBlank, empty, List.isEmpty_nil, if_pos rfl]
      exact List.dropWhile_eq_nil_iff.mpr (List.all_eq_true.mp back)
    rw [gone, empty]
  · have kept : skipBlank (cs ++ after) = skipBlank cs ++ after := by
      rw [skipBlank, List.dropWhile_append, ← skipBlank, if_neg (by simpa using empty)]
    rw [kept, List.reverse_append, skipBlank_append behind]

theorem trim_marked {cs : List Char} (start : ∀ c ∈ cs.head?, isBlank c = false) {mark : Char}
    (visible : isBlank mark = false) (rest : List Char) :
    ∃ left, trim (cs ++ mark :: rest) = cs ++ mark :: left := by
  -- After a mark that is not blank, trimming can only take something off the rest.
  have front : ∀ c ∈ (cs ++ mark :: rest).head?, isBlank c = false := by
    cases cs with
    | nil => simpa using visible
    | cons c cs => exact start
  have back : skipBlank (mark :: cs.reverse) = mark :: cs.reverse :=
    skipBlank_eq_self (by simpa using visible)
  refine ⟨(skipBlank rest.reverse).reverse, ?_⟩
  rw [trim, skipBlank_eq_self front, List.reverse_append, List.reverse_cons, List.append_assoc,
    List.singleton_append, skipBlank, List.dropWhile_append, ← skipBlank, ← skipBlank, back]
  split
  · rename_i gone
    rw [List.isEmpty_iff.mp gone]
    simp
  · simp

/-! ## Parts -/

theorem upTo_eq_self {mark : Char} {cs : List Char} (absent : mark ∉ cs) : upTo mark cs = cs := by
  refine List.takeWhile_eq_self_iff.mpr fun c member => decide_eq_true ?_
  rintro rfl
  exact absent member

theorem upTo_append {mark : Char} {cs : List Char} (absent : mark ∉ cs) (rest : List Char) :
    upTo mark (cs ++ mark :: rest) = cs := by
  have before : ∀ c ∈ cs, decide (c ≠ mark) = true := by
    intro c member
    refine decide_eq_true ?_
    rintro rfl
    exact absent member
  rw [upTo, List.takeWhile_append_of_pos before, List.takeWhile_cons_of_neg (by simp),
    List.append_nil]

theorem fields_eq_splitOn (mark : Char) (cs : List Char) : fields mark cs = cs.splitOn mark := by
  induction cs with
  | nil => rfl
  | cons c cs ih =>
      rw [fields, List.splitOn_cons_eq_if_modifyHead, ih]
      by_cases marked : c = mark
      · simp [marked]
      · rw [if_neg marked, if_neg (by simpa using marked)]
        cases parted : cs.splitOn mark with
        | nil => exact absurd parted (List.splitOn_ne_nil mark cs)
        | cons part parts => rfl

theorem not_mem_of_mem_fields {mark : Char} {cs part : List Char}
    (member : part ∈ fields mark cs) : mark ∉ part ∧ ∀ c ∈ part, c ∈ cs := by
  induction cs generalizing part with
  | nil =>
      obtain rfl : part = [] := by simpa [fields] using member
      simp
  | cons c cs ih =>
      rw [fields] at member
      split at member
      · rcases List.mem_cons.mp member with rfl | later
        · simp
        · exact ⟨(ih later).1, fun d held => List.mem_cons_of_mem c ((ih later).2 d held)⟩
      · rename_i other
        split at member
        · rename_i none_left
          exact absurd none_left (fields_ne_nil mark cs)
        · rename_i first parts parted
          rw [parted] at ih
          rcases List.mem_cons.mp member with rfl | later
          · obtain ⟨absent, kept⟩ := ih List.mem_cons_self
            refine ⟨fun held => ?_, fun d held => ?_⟩
            · rcases List.mem_cons.mp held with same | held
              · exact other same.symm
              · exact absent held
            · rcases List.mem_cons.mp held with rfl | held
              · exact List.mem_cons_self
              · exact List.mem_cons_of_mem c (kept d held)
          · obtain ⟨absent, kept⟩ := ih (List.mem_cons_of_mem first later)
            exact ⟨absent, fun d held => List.mem_cons_of_mem c (kept d held)⟩

def dotted (parts : List (List Char)) : List Char :=
  ['.'].intercalate parts

theorem dotted_singleton (part : List Char) : dotted [part] = part :=
  List.intercalate_singleton

theorem dotted_cons_cons (part next : List Char) (parts : List (List Char)) :
    dotted (part :: next :: parts) = part ++ '.' :: dotted (next :: parts) := by
  rw [dotted, List.intercalate_cons_cons, List.append_assoc]
  rfl

theorem dotted_concat {parts : List (List Char)} (filled : parts ≠ []) (part : List Char) :
    dotted (parts ++ [part]) = dotted parts ++ '.' :: part := by
  induction parts with
  | nil => exact absurd rfl filled
  | cons first parts ih =>
      cases parts with
      | nil => rw [List.singleton_append, dotted_cons_cons, dotted_singleton, dotted_singleton]
      | cons next parts =>
          rw [List.cons_append, List.cons_append, dotted_cons_cons, ← List.cons_append,
            ih (List.cons_ne_nil _ _), dotted_cons_cons, List.append_assoc, List.cons_append]

theorem fields_dotted {parts : List (List Char)} (filled : parts ≠ [])
    (undotted : ∀ part ∈ parts, '.' ∉ part) : fields '.' (dotted parts) = parts := by
  rw [fields_eq_splitOn, dotted, List.splitOn_intercalate '.' undotted filled]

theorem dotted_fields (cs : List Char) : dotted (fields '.' cs) = cs := by
  rw [fields_eq_splitOn, dotted, List.intercalate_splitOn]

theorem mem_dotted {c : Char} {parts : List (List Char)} (member : c ∈ dotted parts) :
    c = '.' ∨ ∃ part ∈ parts, c ∈ part := by
  induction parts with
  | nil => cases member
  | cons part parts ih =>
      cases parts with
      | nil =>
          rw [dotted_singleton] at member
          exact .inr ⟨part, List.mem_cons_self, member⟩
      | cons next parts =>
          rw [dotted_cons_cons, List.mem_append, List.mem_cons] at member
          rcases member with here | dot | later
          · exact .inr ⟨part, List.mem_cons_self, here⟩
          · exact .inl dot
          · refine (ih later).imp_right fun ⟨other, listed, held⟩ => ?_
            exact ⟨other, List.mem_cons_of_mem part listed, held⟩

end FleetResponse.Text
