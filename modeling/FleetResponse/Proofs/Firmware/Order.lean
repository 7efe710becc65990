import FleetResponse.Firmware.Version

namespace FleetResponse.Firmware

open Std

namespace Segment

def compareDigits : List Char → List Char → Ordering :=
  compareLex (compareOn List.length) Ord.compare

instance compareDigits_trans : TransCmp compareDigits :=
  inferInstanceAs (TransCmp (compareLex (compareOn List.length) Ord.compare))

theorem compare_swap (a b : Segment) : compare a b = (compare b a).swap := by
  cases a with
  | number x =>
      cases b with
      | number y => exact compareDigits_trans.eq_swap
      | word y => rfl
  | word x =>
      cases b with
      | number y => rfl
      | word y => exact OrientedOrd.eq_swap (a := x) (b := y)

theorem compare_isLE_trans {a b c : Segment} (ab : (compare a b).isLE) (bc : (compare b c).isLE) :
    (compare a c).isLE := by
  cases a with
  | number x =>
      cases c with
      | word z => rfl
      | number z =>
          cases b with
          | number y => exact compareDigits_trans.isLE_trans ab bc
          | word y => cases bc
  | word x =>
      cases b with
      | number y => cases ab
      | word y =>
          cases c with
          | number z => cases bc
          | word z => exact TransOrd.isLE_trans (a := x) (b := y) (c := z) ab bc

instance : TransOrd Segment where
  eq_swap := compare_swap _ _
  isLE_trans := compare_isLE_trans

end Segment

namespace Version

def padded (length : Nat) (release : List Segment) : List Segment :=
  release.rightpad length Segment.zero

theorem padded_cons (n : Nat) (a : Segment) (as : List Segment) :
    padded (n + 1) (a :: as) = a :: padded n as := by
  simp [padded, List.rightpad]

theorem padded_nil (n : Nat) : padded (n + 1) [] = Segment.zero :: padded n [] := by
  simp [padded, List.rightpad, List.replicate_succ]

theorem compareRelease_nil : compareRelease [] [] = .eq :=
  rfl

theorem compareRelease_nil_cons (b : Segment) (bs : List Segment) :
    compareRelease [] (b :: bs) = (Ord.compare Segment.zero b).then (compareRelease [] bs) :=
  rfl

theorem compareRelease_cons_nil (a : Segment) (as : List Segment) :
    compareRelease (a :: as) [] = (Ord.compare a Segment.zero).then (compareRelease as []) :=
  rfl

theorem compareRelease_cons (a b : Segment) (as bs : List Segment) :
    compareRelease (a :: as) (b :: bs) = (Ord.compare a b).then (compareRelease as bs) :=
  rfl

theorem compareRelease_padded {n : Nat} {as bs : List Segment} (left : as.length ≤ n)
    (right : bs.length ≤ n) : compareRelease as bs = Ord.compare (padded n as) (padded n bs) := by
  -- How far both releases are filled up does not matter, as long as nothing of them is left.
  induction n generalizing as bs with
  | zero =>
      obtain rfl := List.length_eq_zero_iff.mp (Nat.le_zero.mp left)
      obtain rfl := List.length_eq_zero_iff.mp (Nat.le_zero.mp right)
      rw [compareRelease_nil, ReflOrd.compare_self]
  | succ n ih =>
      cases as with
      | nil =>
          cases bs with
          | nil => rw [compareRelease_nil, ReflOrd.compare_self]
          | cons b bs =>
              have rest : compareRelease [] bs = Ord.compare (padded n []) (padded n bs) :=
                ih (Nat.zero_le n) (Nat.le_of_succ_le_succ right)
              rw [padded_nil, padded_cons, List.compare_cons_cons, compareRelease_nil_cons, rest]
      | cons a as =>
          cases bs with
          | nil =>
              have rest : compareRelease as [] = Ord.compare (padded n as) (padded n []) :=
                ih (Nat.le_of_succ_le_succ left) (Nat.zero_le n)
              rw [padded_nil, padded_cons, List.compare_cons_cons, compareRelease_cons_nil, rest]
          | cons b bs =>
              have rest := ih (Nat.le_of_succ_le_succ left) (Nat.le_of_succ_le_succ right)
              rw [padded_cons, padded_cons, List.compare_cons_cons, compareRelease_cons, rest]

instance compareRelease_trans : TransCmp compareRelease where
  eq_swap {as bs} := by
    rw [compareRelease_padded (Nat.le_max_left as.length bs.length) (Nat.le_max_right _ _),
      compareRelease_padded (Nat.le_max_right as.length bs.length) (Nat.le_max_left _ _)]
    exact OrientedOrd.eq_swap
  isLE_trans {as bs cs} ab bc := by
    have a : as.length ≤ max as.length (max bs.length cs.length) := by omega
    have b : bs.length ≤ max as.length (max bs.length cs.length) := by omega
    have c : cs.length ≤ max as.length (max bs.length cs.length) := by omega
    rw [compareRelease_padded a b] at ab
    rw [compareRelease_padded b c] at bc
    rw [compareRelease_padded a c]
    exact TransOrd.isLE_trans ab bc

instance comparePreRelease_trans : TransCmp comparePreRelease where
  eq_swap {a b} := by
    cases a with
    | none => cases b <;> rfl
    | some a =>
        cases b with
        | none => rfl
        | some b => exact OrientedOrd.eq_swap (a := a) (b := b)
  isLE_trans {a b c} ab bc := by
    cases c with
    | none => cases a <;> rfl
    | some c =>
        cases b with
        | none => cases bc
        | some b =>
            cases a with
            | none => cases ab
            | some a => exact TransOrd.isLE_trans (a := a) (b := b) (c := c) ab bc

instance : TransCmp fun a b : Version => compareRelease a.release b.release where
  eq_swap := compareRelease_trans.eq_swap
  isLE_trans := compareRelease_trans.isLE_trans

instance : TransCmp fun a b : Version => comparePreRelease a.preRelease? b.preRelease? where
  eq_swap := comparePreRelease_trans.eq_swap
  isLE_trans := comparePreRelease_trans.isLE_trans

instance compare_trans : TransCmp compare :=
  inferInstanceAs (TransCmp (compareLex (fun a b : Version => compareRelease a.release b.release)
    fun a b => comparePreRelease a.preRelease? b.preRelease?))

/-- Versions, and so all texts, are ordered totally, up to spelling. -/
theorem compare_total_order (a b c : Version) :
    compare a a = .eq ∧ compare a b = (compare b a).swap ∧ (le a b ∨ le b a) ∧
      (le a b → le b c → le a c) ∧ (le a b → le b a → same a b) ∧
      (same a b ↔ compare a b = .eq) ∧ (same a b → compare a c = compare b c) := by
  have same_iff : same a b ↔ compare a b = .eq := beq_iff_eq
  have swap : compare a b = (compare b a).swap := OrientedCmp.eq_swap
  refine ⟨ReflCmp.compare_self, swap, ?_, ?_, ?_, same_iff, ?_⟩
  · unfold le
    rw [swap]
    cases compare b a <;> simp
  · exact TransCmp.isLE_trans
  · intro ab ba
    exact same_iff.mpr (OrientedCmp.isLE_antisymm ab ba)
  · intro spelled
    exact TransCmp.congr_left (same_iff.mp spelled)

example : same ⟨" v1.0.0+b7 "⟩ ⟨"1"⟩ = true := by decide

end Version

end FleetResponse.Firmware
