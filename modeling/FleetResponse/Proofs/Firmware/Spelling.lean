import FleetResponse.Firmware.Version
import FleetResponse.Proofs.Text.Cut

namespace FleetResponse.Firmware

open Text

structure Plain (cs : List Char) : Prop extends Trimmed cs where
  bare : '+' ∉ cs

def Unmarked (cs : List Char) : Prop :=
  ∀ c ∈ cs.head?, c ≠ 'v' ∧ c ≠ 'V'

/-- A text in its parts: the `v` in front, the segments of the release, and those of the
pre-release that stands after the first hyphen. -/
structure Spelling where
  lead : List Char
  release : List (List Char)
  preRelease? : Option (List (List Char))

namespace Spelling

def suffix (preRelease? : Option (List (List Char))) : List Char :=
  preRelease?.elim [] fun preRelease => '-' :: dotted preRelease

def text (s : Spelling) : List Char :=
  s.lead ++ (dotted s.release ++ suffix s.preRelease?)

structure Proper (s : Spelling) : Prop where
  lead : s.lead = ['v'] ∨ s.lead = ['V'] ∨ s.lead = [] ∧ Unmarked s.text
  filled : s.release ≠ []
  release : ∀ part ∈ s.release, '.' ∉ part ∧ '-' ∉ part
  preRelease : ∀ segments ∈ s.preRelease?, segments ≠ [] ∧ ∀ part ∈ segments, '.' ∉ part

end Spelling

/-! ## The lead of a text -/

theorem withoutLeadingV_eq_self {cs : List Char} (unmarked : Unmarked cs) :
    Version.withoutLeadingV cs = cs := by
  unfold Version.withoutLeadingV
  split
  · exact absurd rfl (unmarked 'v' rfl).1
  · exact absurd rfl (unmarked 'V' rfl).2
  · rfl

theorem exists_lead (cs : List Char) : ∃ lead rest, cs = lead ++ rest ∧
    (lead = ['v'] ∨ lead = ['V'] ∨ lead = [] ∧ Unmarked cs) := by
  by_cases unmarked : Unmarked cs
  · exact ⟨[], cs, rfl, .inr (.inr ⟨rfl, unmarked⟩)⟩
  · cases cs with
    | nil => exact absurd (fun c member => by cases member) unmarked
    | cons c cs =>
        have marked : c = 'v' ∨ c = 'V' := by
          by_contra other
          rw [not_or] at other
          exact unmarked (by simpa [Unmarked] using other)
        rcases marked with rfl | rfl
        · exact ⟨['v'], cs, rfl, .inl rfl⟩
        · exact ⟨['V'], cs, rfl, .inr (.inl rfl)⟩

theorem withoutLeadingV_append {mark : Char} (other : mark ≠ 'v' ∧ mark ≠ 'V')
    (cs rest : List Char) : Version.withoutLeadingV (cs ++ mark :: rest) =
      Version.withoutLeadingV cs ++ mark :: rest := by
  obtain ⟨lead, body, rfl, led⟩ := exists_lead cs
  rcases led with rfl | rfl | ⟨rfl, unmarked⟩
  · rfl
  · rfl
  · rw [List.nil_append] at unmarked ⊢
    have still : Unmarked (body ++ mark :: rest) := by
      cases body with
      | nil => simpa [Unmarked] using other
      | cons c body => exact unmarked
    rw [withoutLeadingV_eq_self unmarked, withoutLeadingV_eq_self still]

theorem not_mem_withoutLeadingV {mark : Char} {cs : List Char} (absent : mark ∉ cs) :
    mark ∉ Version.withoutLeadingV cs := by
  unfold Version.withoutLeadingV
  split
  · exact fun held => absent (List.mem_cons_of_mem 'v' held)
  · exact fun held => absent (List.mem_cons_of_mem 'V' held)
  · exact absent

theorem body_eq {t : String} (plain : Plain t.toList) :
    Version.body ⟨t⟩ = Version.withoutLeadingV t.toList := by
  rw [Version.body, trim_eq_self plain.toTrimmed, upTo_eq_self (not_mem_withoutLeadingV plain.bare)]

/-! ## The parts of a text -/

namespace Spelling

variable {s : Spelling}

theorem exists_text_eq (cs : List Char) : ∃ s : Spelling, s.Proper ∧ s.text = cs := by
  obtain ⟨lead, rest, rfl, led⟩ := exists_lead cs
  cases cut : cut? '-' rest with
  | none =>
      have whole : text ⟨lead, fields '.' rest, none⟩ = lead ++ rest := by
        simp [text, suffix, dotted_fields]
      refine ⟨⟨lead, fields '.' rest, none⟩, ⟨whole ▸ led, fields_ne_nil _ _, ?_, ?_⟩, whole⟩
      · intro part member
        obtain ⟨undotted, kept⟩ := not_mem_of_mem_fields member
        exact ⟨undotted, fun held => cut?_eq_none_iff.mp cut (kept _ held)⟩
      · rintro segments ⟨⟩
  | some parts =>
      obtain ⟨release, preRelease⟩ := parts
      have split := eq_append_of_cut? cut
      have whole : text ⟨lead, fields '.' release, some (fields '.' preRelease)⟩ =
          lead ++ rest := by
        simp [text, suffix, dotted_fields, split]
      refine ⟨⟨lead, fields '.' release, some (fields '.' preRelease)⟩,
        ⟨whole ▸ led, fields_ne_nil _ _, ?_, ?_⟩, whole⟩
      · intro part member
        obtain ⟨undotted, kept⟩ := not_mem_of_mem_fields member
        exact ⟨undotted, fun held => not_mem_of_cut? cut (kept _ held)⟩
      · rintro segments ⟨⟩
        exact ⟨fields_ne_nil _ _, fun part member => (not_mem_of_mem_fields member).1⟩

theorem Proper.withoutLeadingV_text (proper : s.Proper) :
    Version.withoutLeadingV s.text = dotted s.release ++ suffix s.preRelease? := by
  rcases proper.lead with lead | lead | ⟨lead, unmarked⟩
  · rw [text, lead]
    rfl
  · rw [text, lead]
    rfl
  · rw [withoutLeadingV_eq_self unmarked, text, lead, List.nil_append]

theorem Proper.cut?_text (proper : s.Proper) :
    cut? '-' (dotted s.release ++ suffix s.preRelease?) =
      s.preRelease?.map fun preRelease => (dotted s.release, dotted preRelease) := by
  have unhyphened : '-' ∉ dotted s.release := by
    intro held
    rcases mem_dotted held with same | ⟨part, member, held⟩
    · exact absurd same (by decide)
    · exact (proper.release part member).2 held
  cases s.preRelease? with
  | none =>
      rw [suffix, Option.elim_none, List.append_nil]
      exact cut?_eq_none_iff.mpr unhyphened
  | some preRelease => exact cut?_append unhyphened

theorem parts_eq (proper : s.Proper) {t : String} (plain : Plain t.toList)
    (spelled : s.text = t.toList) :
    Version.release ⟨t⟩ = s.release.map Segment.parse ∧
      Version.preRelease? ⟨t⟩ = s.preRelease?.map (·.map Segment.parse) := by
  have body : Version.body ⟨t⟩ = dotted s.release ++ suffix s.preRelease? := by
    rw [body_eq plain, ← spelled, proper.withoutLeadingV_text]
  have release := fields_dotted proper.filled fun part member => (proper.release part member).1
  have cut := proper.cut?_text
  rw [Version.release, Version.preRelease?, Version.parts, body]
  cases given : s.preRelease? with
  | none =>
      rw [given] at cut
      rw [cut]
      simp [suffix, Segment.list, release]
  | some preRelease =>
      rw [given] at cut
      obtain ⟨filled, undotted⟩ := proper.preRelease preRelease given
      rw [cut]
      simp [Segment.list, release, fields_dotted filled undotted]

end Spelling

end FleetResponse.Firmware
