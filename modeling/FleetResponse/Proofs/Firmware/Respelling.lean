import Mathlib.Data.List.Forall2
import FleetResponse.Proofs.Firmware.Range
import FleetResponse.Proofs.Firmware.Spelling
import FleetResponse.Proofs.Text.Numeral

namespace FleetResponse.Firmware

open Text

namespace Spelling

inductive Widened : List Char → List Char → Prop
  | same (part : List Char) : Widened part part
  | zeros {part : List Char} (filled : part ≠ []) (digits : AllDigits part) (count : Nat) :
      Widened part (List.replicate count '0' ++ part)

structure Widens (s t : Spelling) : Prop where
  lead : t.lead = s.lead
  release : List.Forall₂ Widened s.release t.release
  preRelease : Option.Rel (List.Forall₂ Widened) s.preRelease? t.preRelease?

def lengthened (s : Spelling) (count : Nat) : Spelling :=
  { s with release := s.release ++ List.replicate count ['0'] }

end Spelling

/-- Another text for the same version. -/
inductive Respelling : List Char → List Char → Prop
  | blanks {cs before after : List Char} (front : allBlank before = true)
      (back : allBlank after = true) : Respelling cs (before ++ cs ++ after)
  | build {cs : List Char} (build : List Char) : Respelling cs (cs ++ '+' :: build)
  | lead {cs : List Char} {mark : Char} (marks : mark = 'v' ∨ mark = 'V')
      (unmarked : Unmarked cs) : Respelling cs (mark :: cs)
  | widened {s t : Spelling} (proper : s.Proper) (widens : s.Widens t) : Respelling s.text t.text
  | lengthened {s : Spelling} (proper : s.Proper) (count : Nat) :
      Respelling s.text (s.lengthened count).text

/-! ## Zeros and dots put into a text -/

/-- What a text keeps while zeros and dots are put into it: what it starts and ends with, but for
these, and what it holds. -/
structure Grown (before after : List Char) : Prop where
  start : after.head? = before.head? ∨ after.head? = some '0' ∨ after.head? = some '.'
  stop : after.getLast? = before.getLast? ∨ after.getLast? = some '0'
  held : ∀ c ∈ after, c ∈ before ∨ c = '0' ∨ c = '.'

namespace Grown

variable {before after more others : List Char}

theorem refl (cs : List Char) : Grown cs cs :=
  ⟨.inl rfl, .inl rfl, fun _ => .inl⟩

theorem nil_of_nil (h : Grown before []) : before = [] := by
  rcases h.stop with same | zero
  · exact List.getLast?_eq_none_iff.mp same.symm
  · cases zero

theorem append (h : Grown before after) (g : Grown more others) :
    Grown (before ++ more) (after ++ others) where
  start := by
    cases after with
    | nil => simpa [h.nil_of_nil] using g.start
    | cons c after =>
        refine h.start.imp_left fun same => ?_
        rw [List.head?_append, List.head?_append, ← same]
        rfl
  stop := by
    cases last : others.getLast? with
    | none =>
        obtain rfl := List.getLast?_eq_none_iff.mp last
        simpa [g.nil_of_nil] using h.stop
    | some c =>
        rw [List.getLast?_append, List.getLast?_append, last, Option.some_or]
        refine (last ▸ g.stop).imp_left fun same => ?_
        rw [← same, Option.some_or]
  held c member := by
    rcases List.mem_append.mp member with front | back
    · exact (h.held c front).imp_left (List.mem_append_left _)
    · exact (g.held c back).imp_left (List.mem_append_right _)

theorem plain (h : Grown before after) (plain : Plain before) : Plain after where
  start c member := by
    rcases h.start with same | zero | dot
    · exact plain.start c (same ▸ member)
    · rw [zero] at member
      cases member
      rfl
    · rw [dot] at member
      cases member
      rfl
  stop c member := by
    rcases h.stop with same | zero
    · exact plain.stop c (same ▸ member)
    · rw [zero] at member
      cases member
      rfl
  bare member := by
    rcases h.held '+' member with plus | zero | dot
    · exact plain.bare plus
    · exact absurd zero (by decide)
    · exact absurd dot (by decide)

theorem unmarked (h : Grown before after) (unmarked : Unmarked before) : Unmarked after := by
  intro c member
  rcases h.start with same | zero | dot
  · exact unmarked c (same ▸ member)
  · rw [zero] at member
    cases member
    decide
  · rw [dot] at member
    cases member
    decide

theorem of_widened (h : Spelling.Widened before after) : Grown before after := by
  cases h with
  | same => exact refl before
  | zeros filled digits count =>
      refine ⟨?_, .inl ?_, fun c member => ?_⟩
      · cases count with
        | zero => exact .inl rfl
        | succ count => exact .inr (.inl rfl)
      · rw [List.getLast?_append, List.getLast?_eq_some_getLast filled, Option.some_or]
      · rcases List.mem_append.mp member with zero | digit
        · exact .inr (.inl (List.eq_of_mem_replicate zero))
        · exact .inl digit

theorem dotted {parts wider : List (List Char)}
    (widened : List.Forall₂ Spelling.Widened parts wider) :
    Grown (Text.dotted parts) (Text.dotted wider) := by
  induction widened with
  | nil => exact refl _
  | cons first rest ih =>
      cases rest with
      | nil =>
          rw [dotted_singleton, dotted_singleton]
          exact of_widened first
      | cons next rest =>
          rw [dotted_cons_cons, dotted_cons_cons]
          exact (of_widened first).append ((refl ['.']).append ih)

theorem suffix {parts wider : Option (List (List Char))}
    (widened : Option.Rel (List.Forall₂ Spelling.Widened) parts wider) :
    Grown (Spelling.suffix parts) (Spelling.suffix wider) := by
  cases widened with
  | none => exact refl []
  | some widened => exact (refl ['-']).append (dotted widened)

theorem dotted_zeros {parts : List (List Char)} (filled : parts ≠ []) (count : Nat) :
    Grown (Text.dotted parts) (Text.dotted (parts ++ List.replicate count ['0'])) := by
  induction count with
  | zero => simpa using refl (Text.dotted parts)
  | succ count ih =>
      have zero : Grown [] ['.', '0'] := ⟨by simp, by simp, by simp⟩
      have longer := ih.append zero
      rwa [List.append_nil, ← dotted_concat (by simp [filled]), List.append_assoc,
        ← List.replicate_succ'] at longer

end Grown

namespace Spelling

variable {s t : Spelling}

theorem Widened.absent {part wide : List Char} (h : Widened part wide) {c : Char} (other : c ≠ '0')
    (absent : c ∉ part) : c ∉ wide := by
  cases h with
  | same => exact absent
  | zeros filled digits count =>
      intro held
      rcases List.mem_append.mp held with zero | digit
      · exact other (List.eq_of_mem_replicate zero)
      · exact absent digit

theorem Widened.parse_eq {part wide : List Char} (h : Widened part wide) :
    Segment.parse wide = Segment.parse part := by
  cases h with
  | same => rfl
  | zeros filled digits count =>
      have zeros : ∀ c ∈ List.replicate count '0', c = '0' := fun c => List.eq_of_mem_replicate
      have wide_filled : List.replicate count '0' ++ part ≠ [] := by simp [filled]
      have wide_digits : (List.replicate count '0' ++ part).all Char.isDigit = true := by
        refine List.all_eq_true.mpr fun c member => ?_
        rcases List.mem_append.mp member with zero | digit
        · rw [zeros c zero]
          rfl
        · exact digits c digit
      have significant : Segment.significant (List.replicate count '0' ++ part) =
          Segment.significant part := by
        rw [Segment.significant, List.dropWhile_append_of_pos fun c zero =>
          decide_eq_true (zeros c zero), ← Segment.significant]
      rw [Segment.parse, Segment.parse, if_pos ⟨wide_filled, wide_digits⟩,
        if_pos ⟨filled, List.all_eq_true.mpr digits⟩, significant]

theorem forall_widened {parts wider : List (List Char)} (widened : List.Forall₂ Widened parts wider)
    {holds : List Char → Prop} (kept : ∀ part wide, Widened part wide → holds part → holds wide)
    (each : ∀ part ∈ parts, holds part) : ∀ part ∈ wider, holds part := by
  induction widened with
  | nil => exact each
  | cons first rest ih =>
      obtain ⟨here, later⟩ := List.forall_mem_cons.mp each
      exact List.forall_mem_cons.mpr ⟨kept _ _ first here, ih later⟩

theorem map_parse_widened {parts wider : List (List Char)}
    (widened : List.Forall₂ Widened parts wider) :
    wider.map Segment.parse = parts.map Segment.parse := by
  induction widened with
  | nil => rfl
  | cons first rest ih => rw [List.map_cons, List.map_cons, first.parse_eq, ih]

theorem map_parse_suffix {parts wider : Option (List (List Char))}
    (widened : Option.Rel (List.Forall₂ Widened) parts wider) :
    wider.map (·.map Segment.parse) = parts.map (·.map Segment.parse) := by
  cases widened with
  | none => rfl
  | some widened => exact congrArg some (map_parse_widened widened)

theorem ne_nil_of_widened {parts wider : List (List Char)}
    (widened : List.Forall₂ Widened parts wider) (filled : parts ≠ []) : wider ≠ [] := by
  rintro rfl
  exact filled (List.forall₂_nil_right_iff.mp widened)

theorem Widens.grown (h : s.Widens t) : Grown s.text t.text := by
  rw [text, text, h.lead]
  exact (Grown.refl s.lead).append ((Grown.dotted h.release).append (Grown.suffix h.preRelease))

theorem Widens.proper (h : s.Widens t) (proper : s.Proper) : t.Proper where
  lead := by
    rw [h.lead]
    exact proper.lead.imp_right
      (·.imp_right fun ⟨bare, unmarked⟩ => ⟨bare, h.grown.unmarked unmarked⟩)
  filled := ne_nil_of_widened h.release proper.filled
  release := forall_widened h.release (fun part wide widened ⟨undotted, unhyphened⟩ =>
    ⟨widened.absent (by decide) undotted, widened.absent (by decide) unhyphened⟩) proper.release
  preRelease wider given := by
    have related := h.preRelease
    rw [Option.mem_def.mp given] at related
    cases held : s.preRelease? with
    | none =>
        rw [held] at related
        cases related
    | some segments =>
        rw [held, Option.rel_some_some] at related
        obtain ⟨filled, undotted⟩ := proper.preRelease segments held
        exact ⟨ne_nil_of_widened related filled,
          forall_widened related (fun part wide widened => widened.absent (by decide)) undotted⟩

theorem grown_lengthened (proper : s.Proper) (count : Nat) :
    Grown s.text (s.lengthened count).text :=
  (Grown.refl s.lead).append ((Grown.dotted_zeros proper.filled count).append (Grown.refl _))

theorem Proper.lengthened (proper : s.Proper) (count : Nat) : (s.lengthened count).Proper where
  lead := proper.lead.imp_right (·.imp_right fun ⟨bare, unmarked⟩ =>
    ⟨bare, (grown_lengthened proper count).unmarked unmarked⟩)
  filled := List.append_ne_nil_of_left_ne_nil proper.filled _
  release part member := by
    rcases List.mem_append.mp member with given | zero
    · exact proper.release part given
    · rw [List.eq_of_mem_replicate zero]
      decide
  preRelease := proper.preRelease

end Spelling

/-! ## Spellings of one version -/

namespace Version

theorem same_of_parts {a b : Version} (release : compareRelease a.release b.release = .eq)
    (preRelease : a.preRelease? = b.preRelease?) : same a b = true := by
  have pre : comparePreRelease a.preRelease? b.preRelease? = .eq := by
    rw [preRelease]
    exact Std.ReflCmp.compare_self
  rw [same, compare, release, pre]
  rfl

theorem same_of_body {a b : Version} (body : a.body = b.body) : same a b = true := by
  have parts : a.parts = b.parts := by rw [Version.parts, Version.parts, body]
  refine same_of_parts ?_ ?_
  · rw [release, release, parts]
    exact Std.ReflCmp.compare_self
  · rw [preRelease?, preRelease?, parts]

theorem compareRelease_append_zeros (segments : List Segment) (count : Nat) :
    compareRelease segments (segments ++ List.replicate count Segment.zero) = .eq := by
  induction segments with
  | nil =>
      induction count with
      | zero => rw [List.nil_append, List.replicate_zero, compareRelease_nil]
      | succ count ih =>
          rw [List.nil_append] at ih ⊢
          rw [List.replicate_succ, compareRelease_nil_cons, ih, Std.ReflOrd.compare_self]
          rfl
  | cons first segments ih =>
      rw [List.cons_append, compareRelease_cons, ih, Std.ReflOrd.compare_self]
      rfl

end Version

theorem body_blanks {t t' : String} {before after : List Char} (front : allBlank before = true)
    (back : allBlank after = true) (spelled : t'.toList = before ++ t.toList ++ after) :
    Version.body ⟨t'⟩ = Version.body ⟨t⟩ := by
  rw [Version.body, Version.body, spelled, trim_surrounded front back]

theorem body_build {t t' : String} (plain : Plain t.toList) {build : List Char}
    (spelled : t'.toList = t.toList ++ '+' :: build) : Version.body ⟨t'⟩ = Version.body ⟨t⟩ := by
  have visible : isBlank '+' = false := by decide
  obtain ⟨left, trimmed⟩ := trim_marked plain.start visible build
  rw [body_eq plain, Version.body, spelled, trimmed, withoutLeadingV_append (by decide),
    upTo_append (not_mem_withoutLeadingV plain.bare)]

theorem Plain.cons_lead {cs : List Char} (plain : Plain cs) {mark : Char}
    (marks : mark = 'v' ∨ mark = 'V') : Plain (mark :: cs) where
  start := by
    rcases marks with rfl | rfl <;> simp only [List.head?_cons] <;> rintro c ⟨⟩ <;> rfl
  stop := by
    cases cs with
    | nil => rcases marks with rfl | rfl <;> rintro c ⟨⟩ <;> rfl
    | cons c cs => exact plain.stop
  bare := by
    have other : '+' ≠ mark := by rcases marks with rfl | rfl <;> decide
    simp [other, plain.bare]

theorem body_lead {t t' : String} (plain : Plain t.toList) (unmarked : Unmarked t.toList)
    {mark : Char} (marks : mark = 'v' ∨ mark = 'V') (spelled : t'.toList = mark :: t.toList) :
    Version.body ⟨t'⟩ = Version.body ⟨t⟩ := by
  have marked : Plain t'.toList := spelled ▸ plain.cons_lead marks
  rw [body_eq plain, body_eq marked, spelled, withoutLeadingV_eq_self unmarked]
  rcases marks with rfl | rfl <;> rfl

theorem Respelling.same {t t' : String} (plain : Plain t.toList)
    (respelled : Respelling t.toList t'.toList) : Version.same ⟨t⟩ ⟨t'⟩ = true := by
  generalize before : t.toList = cs, after : t'.toList = ds at respelled
  cases respelled with
  | blanks front back =>
      subst before
      exact Version.same_of_body (body_blanks front back after).symm
  | build build =>
      subst before
      exact Version.same_of_body (body_build plain after).symm
  | lead marks unmarked =>
      subst before
      exact Version.same_of_body (body_lead plain unmarked marks after).symm
  | widened proper widens =>
      have plain' : Plain t'.toList := after ▸ widens.grown.plain (before ▸ plain)
      obtain ⟨release, preRelease⟩ := Spelling.parts_eq proper plain before.symm
      obtain ⟨release', preRelease'⟩ := Spelling.parts_eq (widens.proper proper) plain' after.symm
      refine Version.same_of_parts ?_ ?_
      · rw [release, release', Spelling.map_parse_widened widens.release]
        exact Std.ReflCmp.compare_self
      · rw [preRelease, preRelease', Spelling.map_parse_suffix widens.preRelease]
  | lengthened proper count =>
      have plain' : Plain t'.toList :=
        after ▸ (Spelling.grown_lengthened proper count).plain (before ▸ plain)
      obtain ⟨release, preRelease⟩ := Spelling.parts_eq proper plain before.symm
      obtain ⟨release', preRelease'⟩ :=
        Spelling.parts_eq (proper.lengthened count) plain' after.symm
      refine Version.same_of_parts ?_ (preRelease.trans preRelease'.symm)
      rw [release, release', Spelling.lengthened, List.map_append, List.map_replicate]
      exact Version.compareRelease_append_zeros _ count

/-! ## Respelled bounds -/

theorem allBlank_eq_false {cs : List Char} (plain : Plain cs) (filled : cs ≠ []) :
    allBlank cs = false := by
  cases cs with
  | nil => exact absurd rfl filled
  | cons c cs => rw [allBlank, List.all_cons, plain.start c rfl, Bool.false_and]

theorem Respelling.filled {cs ds : List Char} (respelled : Respelling cs ds) (plain : Plain cs)
    (filled : allBlank cs = false) : allBlank ds = false := by
  have grown (growth : Grown cs ds) : allBlank ds = false := by
    refine allBlank_eq_false (growth.plain plain) ?_
    rintro rfl
    rw [growth.nil_of_nil] at filled
    cases filled
  cases respelled with
  | blanks front back =>
      rw [allBlank] at filled ⊢
      rw [List.all_append, List.all_append, filled, Bool.and_false, Bool.false_and]
  | build build =>
      rw [allBlank] at filled ⊢
      rw [List.all_append, filled, Bool.false_and]
  | lead marks unmarked => exact allBlank_eq_false (plain.cons_lead marks) (List.cons_ne_nil _ _)
  | widened proper widens => exact grown widens.grown
  | lengthened proper count => exact grown (Spelling.grown_lengthened proper count)

namespace Version

/-- A text with nothing around it and its respelling are one version, to every comparison and every
range, and as a bound they make the same ranges. Each is still shown as it was given. -/
theorem compare_respelled {t t' : String} (plain : Plain t.toList)
    (respelled : Respelling t.toList t'.toList) :
    same ⟨t⟩ ⟨t'⟩ = true ∧
    (∀ other, compare ⟨t⟩ other = compare ⟨t'⟩ other ∧
      compare other ⟨t⟩ = compare other ⟨t'⟩) ∧
    (∀ range : Range, range.contains ⟨t⟩ = range.contains ⟨t'⟩) ∧
    (allBlank t.toList = false → ∀ bound,
      (Range.between t bound).toOption.map Range.contains =
        (Range.between t' bound).toOption.map Range.contains ∧
      (Range.between bound t).toOption.map Range.contains =
        (Range.between bound t').toOption.map Range.contains) ∧
    (Version.mk t').text = t' ∧ ∃ s : Spelling, s.Proper ∧ s.text = t.toList := by
  have alike := respelled.same plain
  exact ⟨alike, compare_congr alike, fun range => range.contains_congr alike,
    fun filled => Range.members_congr alike filled (respelled.filled plain filled), rfl,
    Spelling.exists_text_eq t.toList⟩

theorem compare_respelled_candidate :
    Plain "1.2-rc.7".toList ∧ Respelling "1.2-rc.7".toList "1.02-rc.007".toList ∧
      allBlank "1.2-rc.7".toList = false ∧ same ⟨"1.2-rc.7"⟩ ⟨"1.02-rc.007"⟩ = true ∧
      ∀ range : Range, range.contains ⟨"1.2-rc.7"⟩ = range.contains ⟨"1.02-rc.007"⟩ := by
  have plain : Plain "1.2-rc.7".toList := by
    refine ⟨⟨?_, ?_⟩, ?_⟩
    · rintro c ⟨⟩
      rfl
    · rintro c ⟨⟩
      rfl
    · decide
  have respelled : Respelling "1.2-rc.7".toList "1.02-rc.007".toList := by
    let s : Spelling := ⟨[], [['1'], ['2']], some [['r', 'c'], ['7']]⟩
    let t : Spelling := ⟨[], [['1'], ['0', '2']], some [['r', 'c'], ['0', '0', '7']]⟩
    have proper : s.Proper := by
      refine ⟨.inr (.inr ⟨rfl, ?_⟩), by decide, by decide, ?_⟩
      · rintro c ⟨⟩
        decide
      · rintro segments ⟨⟩
        decide
    have widens : s.Widens t := by
      refine ⟨rfl, .cons (.same _) (.cons ?_ .nil), .some (.cons (.same _) (.cons ?_ .nil))⟩
      · exact .zeros (by decide) (by simp [AllDigits]) 1
      · exact .zeros (by decide) (by simp [AllDigits]) 2
    exact .widened proper widens
  have alike := compare_respelled plain respelled
  exact ⟨plain, respelled, by decide, alike.1, alike.2.2.1⟩

end Version

end FleetResponse.Firmware
