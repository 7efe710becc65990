import Mathlib.Algebra.Group.Nat.Defs
import Mathlib.Data.List.TakeDrop
import FleetResponse.Text.Numeral

namespace FleetResponse.Text

def AllDigits (cs : List Char) : Prop :=
  ∀ c ∈ cs, c.isDigit = true

def Undigit (cs : List Char) : Prop :=
  ∀ c ∈ cs.head?, c.isDigit = false

theorem undigit_cons {c : Char} (other : c.isDigit = false) (cs : List Char) :
    Undigit (c :: cs) := by
  simpa [Undigit] using other

theorem digitsValue_eq {cs : List Char} (digits : AllDigits cs) :
    digitsValue cs = Nat.ofDigitChars 10 cs 0 := by
  have each : ∀ value, cs.foldl (fun n c => 10 * n + (digitValue? c).getD 0) value
      = Nat.ofDigitChars 10 cs value := by
    induction cs with
    | nil => simp
    | cons c cs ih =>
        intro value
        have first : digitValue? c = some (c.toNat - '0'.toNat) :=
          if_pos (digits c List.mem_cons_self)
        rw [List.foldl_cons, first, Nat.ofDigitChars_cons]
        exact ih (fun d member => digits d (List.mem_cons_of_mem c member)) _
  exact each 0

theorem digitsValue_replicate_append {cs : List Char} (digits : AllDigits cs) (count : Nat) :
    digitsValue (List.replicate count '0' ++ cs) = digitsValue cs := by
  have zeros : AllDigits (List.replicate count '0' ++ cs) := by
    rintro c member
    rcases List.mem_append.mp member with zero | digit
    · rw [List.eq_of_mem_replicate zero]
      rfl
    · exact digits c digit
  rw [digitsValue_eq zeros, digitsValue_eq digits, Nat.ofDigitChars_append]
  simp

theorem digitsValue_append_replicate {cs : List Char} (digits : AllDigits cs) (count : Nat) :
    digitsValue (cs ++ List.replicate count '0') = digitsValue cs * 10 ^ count := by
  have zeros : AllDigits (cs ++ List.replicate count '0') := by
    rintro c member
    rcases List.mem_append.mp member with digit | zero
    · exact digits c digit
    · rw [List.eq_of_mem_replicate zero]
      rfl
  rw [digitsValue_eq zeros, digitsValue_eq digits, Nat.ofDigitChars_append,
    Nat.ofDigitChars_replicate_zero, Nat.mul_comm]

theorem allDigits_digits (n : Nat) : AllDigits (digits n) :=
  fun _ member => Nat.isDigit_of_mem_toDigits (by decide) (by decide) member

theorem digits_ne_nil (n : Nat) : digits n ≠ [] :=
  Nat.toDigits_ne_nil

@[simp]
theorem digitsValue_digits (n : Nat) : digitsValue (digits n) = n := by
  rw [digitsValue_eq (allDigits_digits n), digits, Nat.ofDigitChars_ten_toDigits]

theorem head?_digits {n : Nat} (positive : 0 < n) : (digits n).head? ≠ some '0' := by
  induction n using Nat.strongRecOn with
  | ind n ih =>
      rw [digits, Nat.toDigits_eq_if (by decide)]
      split
      · rename_i small
        have each : ∀ d : Fin 10, 0 < d.val → Nat.digitChar d ≠ '0' := by decide
        simpa using each ⟨n, small⟩ positive
      · rename_i large
        have front : (digits (n / 10)).head? ≠ some '0' := ih (n / 10) (by omega) (by omega)
        have filled := List.head?_eq_some_head (digits_ne_nil (n / 10))
        rw [List.head?_append, ← digits, filled]
        rwa [filled] at front

theorem allDigits_padded (width n : Nat) : AllDigits (padded width n) := by
  intro c member
  rcases List.mem_append.mp member with zero | digit
  · rw [List.eq_of_mem_replicate zero]
    rfl
  · exact allDigits_digits n c digit

@[simp]
theorem digitsValue_padded (width n : Nat) : digitsValue (padded width n) = n := by
  rw [padded, List.leftpad, digitsValue_replicate_append (allDigits_digits n), digitsValue_digits]

theorem padded_ne_nil (width n : Nat) : padded width n ≠ [] :=
  List.append_ne_nil_of_right_ne_nil _ (digits_ne_nil n)

theorem length_padded {width n : Nat} (positive : 0 < width) (fits : n < 10 ^ width) :
    (padded width n).length = width := by
  have short : (digits n).length ≤ width :=
    (Nat.length_toDigits_le_iff (by decide) positive).mpr fits
  rw [padded, List.length_leftpad]
  exact Nat.max_eq_left short

theorem takeWhile_digits {cs rest : List Char} (digits : AllDigits cs) (stop : Undigit rest) :
    (cs ++ rest).takeWhile Char.isDigit = cs := by
  rw [List.takeWhile_append_of_pos digits]
  cases rest with
  | nil => simp
  | cons c rest => simp [stop c rfl]

theorem span_digits {cs rest : List Char} (digits : AllDigits cs) (stop : Undigit rest) :
    (cs ++ rest).span Char.isDigit = (cs, rest) := by
  rw [List.span_eq_takeWhile_dropWhile, takeWhile_digits digits stop,
    List.dropWhile_append_of_pos digits]
  cases rest with
  | nil => simp
  | cons c rest => simp [stop c rfl]

/-! ## The order of numbers -/

theorem AllDigits.of_cons {c : Char} {cs : List Char} (digits : AllDigits (c :: cs)) :
    c.isDigit = true ∧ AllDigits cs :=
  List.forall_mem_cons.mp digits

theorem digitsValue_cons {c : Char} {cs : List Char} (digits : AllDigits (c :: cs)) :
    digitsValue (c :: cs) = 10 ^ cs.length * (c.toNat - '0'.toNat) + digitsValue cs := by
  rw [digitsValue_eq digits, digitsValue_eq digits.of_cons.2, Nat.ofDigitChars_cons,
    Nat.ofDigitChars_eq_ofDigitChars_zero, Nat.mul_zero, Nat.zero_add]

theorem digit_bounds {c : Char} (digit : c.isDigit = true) :
    '0'.toNat ≤ c.toNat ∧ c.toNat ≤ '9'.toNat := by
  simp only [Char.isDigit, Bool.and_eq_true, decide_eq_true_eq] at digit
  exact digit

theorem digitsValue_lt {cs : List Char} (digits : AllDigits cs) :
    digitsValue cs < 10 ^ cs.length := by
  induction cs with
  | nil => exact Nat.one_pos
  | cons c cs ih =>
      obtain ⟨first, rest⟩ := digits.of_cons
      have small : c.toNat - '0'.toNat ≤ 9 := Nat.sub_le_of_le_add (digit_bounds first).2
      have below := ih rest
      have scaled := Nat.mul_le_mul_left (10 ^ cs.length) small
      rw [digitsValue_cons digits, List.length_cons, Nat.pow_succ]
      omega

theorem compare_toNat (c d : Char) : compare c d = compare c.toNat d.toNat := by
  have less : c < d ↔ c.toNat < d.toNat := Iff.rfl
  have same : c = d ↔ c.toNat = d.toNat := Char.toNat_inj.symm
  simp only [compare, compareOfLessAndEq, less, same]

theorem compare_mul_add {unit u w : Nat} (a b : Nat) (left : u < unit) (right : w < unit) :
    compare (unit * a + u) (unit * b + w) = (compare a b).then (compare u w) := by
  -- Of two numbers in parts the larger parts decide, and then the rests, which are below one.
  rcases Nat.lt_trichotomy a b with less | rfl | more
  · have scaled := Nat.mul_le_mul_left unit (Nat.succ_le_of_lt less)
    rw [Nat.mul_succ] at scaled
    rw [Nat.compare_eq_lt.mpr less, Nat.compare_eq_lt.mpr (by omega)]
    rfl
  · rw [Nat.compare_eq_eq.mpr rfl, Ordering.eq_then]
    rcases Nat.lt_trichotomy u w with less | rfl | more
    · rw [Nat.compare_eq_lt.mpr less, Nat.compare_eq_lt.mpr (by omega)]
    · rw [Nat.compare_eq_eq.mpr rfl, Nat.compare_eq_eq.mpr rfl]
    · rw [Nat.compare_eq_gt.mpr more, Nat.compare_eq_gt.mpr (by omega)]
  · have scaled := Nat.mul_le_mul_left unit (Nat.succ_le_of_lt more)
    rw [Nat.mul_succ] at scaled
    rw [Nat.compare_eq_gt.mpr more, Nat.compare_eq_gt.mpr (by omega)]
    rfl

theorem compare_digitsValue {xs ys : List Char} (left : AllDigits xs) (right : AllDigits ys)
    (long : xs.length = ys.length) :
    compare (digitsValue xs) (digitsValue ys) = compare xs ys := by
  induction xs generalizing ys with
  | nil =>
      obtain rfl := List.length_eq_zero_iff.mp long.symm
      rfl
  | cons x xs ih =>
      cases ys with
      | nil => cases long
      | cons y ys =>
          obtain ⟨x_digit, xs_digits⟩ := left.of_cons
          obtain ⟨y_digit, ys_digits⟩ := right.of_cons
          have rest : xs.length = ys.length := Nat.succ.inj long
          have x_bounds := digit_bounds x_digit
          have y_bounds := digit_bounds y_digit
          have first : compare (x.toNat - '0'.toNat) (y.toNat - '0'.toNat) = compare x y := by
            have less : x.toNat - '0'.toNat < y.toNat - '0'.toNat ↔ x.toNat < y.toNat := by omega
            have same : x.toNat - '0'.toNat = y.toNat - '0'.toNat ↔ x.toNat = y.toNat := by omega
            rw [compare_toNat]
            simp only [compare, compareOfLessAndEq, less, same]
          rw [digitsValue_cons left, digitsValue_cons right, rest,
            compare_mul_add _ _ (rest ▸ digitsValue_lt xs_digits) (digitsValue_lt ys_digits),
            first, ih xs_digits ys_digits rest, List.compare_cons_cons]

/-! ## Unsigned numbers -/

/-- The texts of an unsigned number: digits, at least one, and a plus before them if one likes. -/
inductive Unsigned : List Char → Nat → Prop
  | plain {ds : List Char} (digits : AllDigits ds) (filled : ds ≠ []) : Unsigned ds (digitsValue ds)
  | plus {ds : List Char} (digits : AllDigits ds) (filled : ds ≠ []) :
      Unsigned ('+' :: ds) (digitsValue ds)

theorem appendDigits_eq_ok_iff {bound value n : Nat} (below : value < bound) {cs : List Char} :
    appendDigits bound value cs = .ok n ↔
      AllDigits cs ∧ Nat.ofDigitChars 10 cs value = n ∧ n < bound := by
  -- Appending digits never makes a number smaller, so the last number tells whether the bound
  -- was reached on the way.
  induction cs generalizing value with
  | nil =>
      simp only [appendDigits, Except.ok.injEq, Nat.ofDigitChars_nil]
      constructor
      · rintro rfl
        exact ⟨List.forall_mem_nil _, rfl, below⟩
      · exact fun h => h.2.1
  | cons c cs ih =>
      by_cases digit : c.isDigit = true
      · have first : digitValue? c = some (c.toNat - '0'.toNat) := if_pos digit
        have grows : 10 * value + (c.toNat - '0'.toNat) ≤ Nat.ofDigitChars 10 (c :: cs) value := by
          rw [Nat.ofDigitChars_cons, Nat.ofDigitChars_eq_ofDigitChars_zero]
          exact Nat.le_add_right_of_le (Nat.le_mul_of_pos_left _ (Nat.pow_pos (by decide)))
        rw [appendDigits, first]
        simp only
        split
        · rename_i inside
          rw [ih inside, Nat.ofDigitChars_cons]
          simp [AllDigits, digit]
        · simp only [reduceCtorEq, false_iff]
          rintro ⟨-, rfl, small⟩
          omega
      · have first : digitValue? c = none := if_neg digit
        rw [appendDigits, first]
        simp [AllDigits, digit]

theorem unsigned_eq_ok_iff {bound n : Nat} (positive : 0 < bound) {cs : List Char} :
    unsigned bound cs = .ok n ↔ Unsigned cs n ∧ n < bound := by
  unfold unsigned
  split
  · simp only [reduceCtorEq, false_iff]
    rintro ⟨written, -⟩
    cases written with
    | plain digits filled => exact filled rfl
  · simp only [reduceCtorEq, false_iff]
    rintro ⟨written, -⟩
    cases written with
    | plain digits filled => cases digits '+' List.mem_cons_self
    | plus digits filled => exact filled rfl
  · rename_i ds filled
    rw [appendDigits_eq_ok_iff positive]
    constructor
    · rintro ⟨digits, rfl, small⟩
      exact ⟨digitsValue_eq digits ▸ .plus digits filled, small⟩
    · rintro ⟨written, small⟩
      cases written with
      | plain digits filled => cases digits '+' List.mem_cons_self
      | plus digits filled => exact ⟨digits, (digitsValue_eq digits).symm, small⟩
  · rename_i cs filled _ unsigned
    rw [appendDigits_eq_ok_iff positive]
    constructor
    · rintro ⟨digits, rfl, small⟩
      exact ⟨digitsValue_eq digits ▸ .plain digits filled, small⟩
    · rintro ⟨written, small⟩
      cases written with
      | plain digits filled => exact ⟨digits, (digitsValue_eq digits).symm, small⟩
      | plus digits filled => exact absurd rfl (unsigned _)

theorem not_unsigned_of_error {bound : Nat} {cs : List Char} {e : NumeralError}
    (failed : unsigned bound cs = .error e) : ∀ n < bound, ¬ Unsigned cs n := by
  intro n small written
  rw [(unsigned_eq_ok_iff (Nat.zero_lt_of_lt small)).mpr ⟨written, small⟩] at failed
  cases failed

end FleetResponse.Text
