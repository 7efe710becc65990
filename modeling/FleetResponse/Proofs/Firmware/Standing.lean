import Mathlib.Data.List.DropRight
import Mathlib.Data.List.GetD
import FleetResponse.Proofs.Firmware.Order
import FleetResponse.Proofs.Text.Numeral

/-!
# Where a version stands

The order of versions by what their texts stand for: segments of digits for the numbers that they
write, and a release for an endless sequence of segments that are zero from some position on.
-/

namespace FleetResponse.Firmware

open Std

/-- Where a segment stands among all segments: a run of digits as the number that it writes, any
other part as itself. -/
inductive Rank
  | number (value : Nat)
  | word (text : List Char)
deriving DecidableEq, Repr

namespace Rank

def zero : Rank := .number 0

def ofPart (part : List Char) : Rank :=
  if part ≠ [] ∧ part.all Char.isDigit then .number (Text.digitsValue part) else .word part

def compare : Rank → Rank → Ordering
  | .number a, .number b => Ord.compare a b
  | .number _, .word _ => .lt
  | .word _, .number _ => .gt
  | .word a, .word b => Ord.compare a b

instance : Ord Rank where
  compare := compare

instance : LawfulEqOrd Rank where
  compare_self {a} := by
    cases a with
    | number n => exact ReflOrd.compare_self (a := n)
    | word text => exact ReflOrd.compare_self (a := text)
  eq_of_compare {a b} same := by
    cases a with
    | number m =>
        cases b with
        | number n => exact congrArg number (LawfulEqOrd.eq_of_compare (a := m) (b := n) same)
        | word y => cases same
    | word x =>
        cases b with
        | number n => cases same
        | word y => exact congrArg word (LawfulEqOrd.eq_of_compare (a := x) (b := y) same)

end Rank

structure Standing where
  release : List Rank
  preRelease? : Option (List Rank)
deriving DecidableEq, Repr

namespace Standing

/-- The rank at a position of a release, which goes on with zeros without end. -/
def place (release : List Rank) (position : Nat) : Rank :=
  release.getD position .zero

def compareRelease (a b : List Rank) : Ordering :=
  (List.range (max a.length b.length)).foldr
    (fun position later => (Ord.compare (place a position) (place b position)).then later) .eq

def comparePreRelease : Option (List Rank) → Option (List Rank) → Ordering
  | none, none => .eq
  | some _, none => .lt
  | none, some _ => .gt
  | some a, some b => Ord.compare a b

def compare (a b : Standing) : Ordering :=
  (compareRelease a.release b.release).then (comparePreRelease a.preRelease? b.preRelease?)

def core (release : List Rank) : List Rank :=
  release.rdropWhile (· = .zero)

/-! ## Releases -/

theorem place_succ (release : List Rank) (position : Nat) :
    place release (position + 1) = place release.tail position := by
  cases release <;> rfl

theorem compareRelease_tail {a b : List Rank} (filled : a ≠ [] ∨ b ≠ []) :
    compareRelease a b =
      (Ord.compare (place a 0) (place b 0)).then (compareRelease a.tail b.tail) := by
  have long : max a.length b.length = max a.tail.length b.tail.length + 1 := by
    rw [← List.length_pos_iff, ← List.length_pos_iff] at filled
    simp only [List.length_tail]
    omega
  rw [compareRelease, compareRelease, long, List.range_succ_eq_map, List.foldr_cons,
    List.foldr_map]
  simp only [place_succ]

theorem foldr_then_eq_eq_iff {positions : List Nat} {decide : Nat → Ordering} :
    positions.foldr (fun position later => (decide position).then later) .eq = .eq ↔
      ∀ position ∈ positions, decide position = .eq := by
  induction positions with
  | nil => simp
  | cons position positions ih =>
      rw [List.foldr_cons, Ordering.then_eq_eq, ih, List.forall_mem_cons]

theorem place_of_length_le {release : List Rank} {position : Nat}
    (past : release.length ≤ position) : place release position = .zero :=
  List.getD_eq_default _ _ past

theorem place_getElem {release : List Rank} {position : Nat} (inside : position < release.length) :
    place release position = release[position] :=
  List.getD_eq_getElem _ _ inside

theorem compareRelease_eq_eq_iff {a b : List Rank} :
    compareRelease a b = .eq ↔ ∀ position, place a position = place b position := by
  rw [compareRelease, foldr_then_eq_eq_iff]
  constructor
  · intro same position
    by_cases inside : position < max a.length b.length
    · exact LawfulEqOrd.eq_of_compare (same position (List.mem_range.mpr inside))
    · rw [place_of_length_le (by omega), place_of_length_le (by omega)]
  · intro same position _
    rw [same position]
    exact ReflOrd.compare_self

theorem place_core (release : List Rank) (position : Nat) :
    place (core release) position = place release position := by
  have zeros : ∀ rank ∈ release.rtakeWhile (· = .zero), rank = .zero := by
    intro rank member
    simpa using List.mem_rtakeWhile_imp member
  have whole : core release ++ release.rtakeWhile (· = .zero) = release :=
    List.rdropWhile_append_rtakeWhile
  conv_rhs => rw [← whole]
  rw [place, place]
  by_cases inside : position < (core release).length
  · rw [List.getD_append _ _ _ _ inside]
  · have past := Nat.le_of_not_lt inside
    rw [List.getD_append_right _ _ _ _ past, ← place, place_of_length_le past]
    by_cases more : position - (core release).length < (release.rtakeWhile (· = .zero)).length
    · rw [List.getD_eq_getElem _ _ more, zeros _ (List.getElem_mem more)]
    · rw [List.getD_eq_default _ _ (Nat.le_of_not_lt more)]

theorem length_core_le {a b : List Rank}
    (same : ∀ position, place (core a) position = place (core b) position) :
    (core b).length ≤ (core a).length := by
  by_contra shorter
  have filled : core b ≠ [] := List.ne_nil_of_length_pos (by omega)
  have last : (core b).getLast filled ≠ .zero := fun zero =>
    List.rdropWhile_last_not (· = Rank.zero) b filled (decide_eq_true zero)
  apply last
  rw [List.getLast_eq_getElem, ← place_getElem, ← same, place_of_length_le (by omega)]

theorem core_eq_iff {a b : List Rank} :
    core a = core b ↔ ∀ position, place a position = place b position := by
  constructor
  · intro same position
    rw [← place_core a, ← place_core b, same]
  · intro same
    have cores : ∀ position, place (core a) position = place (core b) position := by
      intro position
      rw [place_core, place_core, same]
    have long : (core a).length = (core b).length :=
      Nat.le_antisymm (length_core_le fun position => (cores position).symm) (length_core_le cores)
    refine List.ext_getElem long fun position left right => ?_
    rw [← place_getElem left, ← place_getElem right, cores]

theorem comparePreRelease_eq_eq_iff {a b : Option (List Rank)} :
    comparePreRelease a b = .eq ↔ a = b := by
  cases a with
  | none => cases b <;> simp [comparePreRelease]
  | some a =>
      cases b with
      | none => simp [comparePreRelease]
      | some b =>
          rw [comparePreRelease, Std.compare_eq_iff_eq, Option.some_inj]

end Standing

/-! ## Segments -/

namespace Segment

structure Stripped (digits : List Char) : Prop where
  all : Text.AllDigits digits
  head : digits.head? = some '0' → digits = ['0']
  filled : digits ≠ []

theorem significant_stripped {digits : List Char} (given : Text.AllDigits digits) :
    Stripped (significant digits) := by
  unfold significant
  split
  · exact ⟨by simp [Text.AllDigits], fun _ => rfl, List.cons_ne_nil _ _⟩
  · rename_i c cs dropped
    have kept : ∀ d ∈ c :: cs, d ∈ digits :=
      fun d member => (List.dropWhile_sublist _).subset (dropped ▸ member)
    refine ⟨fun d member => given d (kept d member), fun zero => ?_, List.cons_ne_nil _ _⟩
    have first : ¬ c = '0' := by
      have stop := List.head?_dropWhile_not (· = '0') digits
      simpa [dropped] using stop
    exact absurd (Option.some_inj.mp zero) first

theorem digitsValue_significant {digits : List Char} (given : Text.AllDigits digits) :
    Text.digitsValue (significant digits) = Text.digitsValue digits := by
  have zeros : digits.takeWhile (· = '0') =
      List.replicate (digits.takeWhile (· = '0')).length '0' :=
    List.eq_replicate_of_mem fun c member => by simpa using List.mem_takeWhile_imp member
  have dropped : Text.AllDigits (digits.dropWhile (· = '0')) :=
    fun c member => given c ((List.dropWhile_sublist _).subset member)
  have value : Text.digitsValue (digits.dropWhile (· = '0')) = Text.digitsValue digits := by
    conv_rhs => rw [← List.takeWhile_append_dropWhile (p := (· = '0')) (l := digits), zeros]
    rw [Text.digitsValue_replicate_append dropped]
  rw [← value]
  unfold significant
  split
  · rename_i none_left
    rw [none_left]
    rfl
  · rename_i left
    rw [left]

theorem Stripped.pow_le {digits : List Char} (h : Stripped digits) (long : 1 < digits.length) :
    10 ^ (digits.length - 1) ≤ Text.digitsValue digits := by
  cases digits with
  | nil => cases long
  | cons c cs =>
      have other : c ≠ '0' := by
        rintro rfl
        rw [h.head rfl] at long
        exact Nat.lt_irrefl 1 long
      have bounds := Text.digit_bounds (h.all c List.mem_cons_self)
      have positive : 1 ≤ c.toNat - '0'.toNat := by
        have apart : c.toNat ≠ '0'.toNat := fun same => other (Char.toNat_inj.mp same)
        omega
      have scaled := Nat.mul_le_mul_left (10 ^ cs.length) positive
      rw [Text.digitsValue_cons h.all, List.length_cons, Nat.add_sub_cancel]
      omega

theorem Stripped.lt_of_length_lt {xs ys : List Char} (left : Stripped xs) (right : Stripped ys)
    (shorter : xs.length < ys.length) : Text.digitsValue xs < Text.digitsValue ys := by
  have filled := List.length_pos_of_ne_nil left.filled
  calc Text.digitsValue xs
      < 10 ^ xs.length := Text.digitsValue_lt left.all
    _ ≤ 10 ^ (ys.length - 1) := Nat.pow_le_pow_right (by decide) (by omega)
    _ ≤ Text.digitsValue ys := right.pow_le (by omega)

theorem Stripped.compareDigits_eq {xs ys : List Char} (left : Stripped xs) (right : Stripped ys) :
    compareDigits xs ys = Ord.compare (Text.digitsValue xs) (Text.digitsValue ys) := by
  -- Without leading zeros, the number of digits and then the digits decide as the numbers do.
  change (Ord.compare xs.length ys.length).then (Ord.compare xs ys) = _
  rcases Nat.lt_trichotomy xs.length ys.length with shorter | long | longer
  · rw [Nat.compare_eq_lt.mpr shorter, Nat.compare_eq_lt.mpr (left.lt_of_length_lt right shorter)]
    rfl
  · rw [Nat.compare_eq_eq.mpr long, Text.compare_digitsValue left.all right.all long]
    rfl
  · rw [Nat.compare_eq_gt.mpr longer, Nat.compare_eq_gt.mpr (right.lt_of_length_lt left longer)]
    rfl

theorem compare_parse (x y : List Char) :
    Ord.compare (parse x) (parse y) = Ord.compare (Rank.ofPart x) (Rank.ofPart y) := by
  have digits {part : List Char} (given : part ≠ [] ∧ part.all Char.isDigit = true) :
      Text.AllDigits part := List.all_eq_true.mp given.2
  unfold parse Rank.ofPart
  split
  · rename_i left
    split
    · rename_i right
      have stripped := significant_stripped (digits left)
      have others := significant_stripped (digits right)
      refine (stripped.compareDigits_eq others).trans ?_
      rw [digitsValue_significant (digits left), digitsValue_significant (digits right)]
      rfl
    · rfl
  · split <;> rfl

end Segment

/-! ## Versions -/

theorem compare_map {α β γ : Type} [Ord β] [Ord γ] {f : α → β} {g : α → γ}
    (alike : ∀ x y, Ord.compare (f x) (f y) = Ord.compare (g x) (g y)) (xs ys : List α) :
    Ord.compare (xs.map f) (ys.map f) = Ord.compare (xs.map g) (ys.map g) := by
  induction xs generalizing ys with
  | nil => cases ys <;> rfl
  | cons x xs ih =>
      cases ys with
      | nil => rfl
      | cons y ys =>
          rw [List.map_cons, List.map_cons, List.map_cons, List.map_cons, List.compare_cons_cons,
            List.compare_cons_cons, alike, ih]

namespace Version

def standing (v : Version) : Standing where
  release := (Text.fields '.' v.parts.1).map Rank.ofPart
  preRelease? := v.parts.2.map fun preRelease => (Text.fields '.' preRelease).map Rank.ofPart

theorem compareRelease_parse (xs ys : List (List Char)) :
    compareRelease (xs.map Segment.parse) (ys.map Segment.parse) =
      Standing.compareRelease (xs.map Rank.ofPart) (ys.map Rank.ofPart) := by
  have zero : Segment.zero = Segment.parse ['0'] := rfl
  induction xs generalizing ys with
  | nil =>
      induction ys with
      | nil => rfl
      | cons y ys ih =>
          rw [List.map_cons, List.map_cons, List.map_nil, List.map_nil, compareRelease_nil_cons,
            zero, Segment.compare_parse, Standing.compareRelease_tail (.inr (List.cons_ne_nil _ _))]
          exact congrArg _ ih
  | cons x xs ih =>
      rw [List.map_cons, List.map_cons,
        Standing.compareRelease_tail (.inl (List.cons_ne_nil _ _))]
      cases ys with
      | nil =>
          rw [List.map_nil, compareRelease_cons_nil, zero, Segment.compare_parse]
          exact congrArg _ (ih [])
      | cons y ys =>
          rw [List.map_cons, compareRelease_cons, Segment.compare_parse]
          exact congrArg _ (ih ys)

theorem comparePreRelease_parse (a b : Option (List (List Char))) :
    comparePreRelease (a.map (·.map Segment.parse)) (b.map (·.map Segment.parse)) =
      Standing.comparePreRelease (a.map (·.map Rank.ofPart)) (b.map (·.map Rank.ofPart)) := by
  cases a with
  | none => cases b <;> rfl
  | some xs =>
      cases b with
      | none => rfl
      | some ys => exact compare_map Segment.compare_parse xs ys

theorem compare_eq_standing (a b : Version) : compare a b = a.standing.compare b.standing := by
  have release := compareRelease_parse (Text.fields '.' a.parts.1) (Text.fields '.' b.parts.1)
  have preRelease := comparePreRelease_parse (a.parts.2.map (Text.fields '.'))
    (b.parts.2.map (Text.fields '.'))
  rw [Option.map_map, Option.map_map, Option.map_map, Option.map_map] at preRelease
  exact congrArg₂ Ordering.then release preRelease

/-- The order of versions is that of their standings, and versions are the same just when their
releases have the same core and their pre-releases are the same. -/
theorem compare_eq_compare_standing (a b : Version) :
    compare a b = a.standing.compare b.standing ∧
      (same a b ↔ Standing.core a.standing.release = Standing.core b.standing.release ∧
        a.standing.preRelease? = b.standing.preRelease?) := by
  refine ⟨compare_eq_standing a b, ?_⟩
  rw [same, beq_iff_eq, compare_eq_standing, Standing.compare, Ordering.then_eq_eq,
    Standing.compareRelease_eq_eq_iff, Standing.core_eq_iff, Standing.comparePreRelease_eq_eq_iff]

example : standing ⟨"v1.010-rc.2+b7"⟩ =
    ⟨[.number 1, .number 10], some [.word ['r', 'c'], .number 2]⟩ := by decide

end Version

end FleetResponse.Firmware
