import FleetResponse.Time.Calendar

namespace FleetResponse

namespace Calendar

theorem daysBefore_cycle (cycles year : Int) :
    daysBefore (400 * cycles + year) = 146097 * cycles + daysBefore year := by
  simp only [daysBefore]
  omega

theorem yearOf_spec (day : Int) :
    daysBefore (yearOf day) ≤ day ∧ day < daysBefore (yearOf day + 1) := by
  have length : cycle = 146097 := rfl
  rw [yearOf, length]
  split
  · rename_i reached
    refine ⟨reached, ?_⟩
    rw [Int.add_assoc, daysBefore_cycle, daysBefore]
    omega
  · rename_i ahead
    refine ⟨?_, by rw [Int.sub_add_cancel]; omega⟩
    rw [Int.add_sub_assoc, daysBefore_cycle, daysBefore]
    omega

theorem total_monthLengths (year : Int) :
    (total (monthLengths year) : Int) = daysBefore (year + 1) - daysBefore year := by
  have sum : total (monthLengths year) = if isLeap year then 366 else 365 := by
    unfold monthLengths
    split <;> rfl
  rw [sum]
  simp only [daysBefore, isLeap, Bool.and_eq_true, Bool.or_eq_true, decide_eq_true_eq]
  split <;> omega

theorem monthLengths_le (year : Int) (month : Nat) : (monthLengths year).getD month 0 ≤ 31 := by
  have each : ∀ length ∈ monthLengths year, length ≤ 31 := by
    unfold monthLengths
    cases isLeap year <;> decide
  rw [List.getD_eq_getElem?_getD]
  cases found : (monthLengths year)[month]? with
  | none => decide
  | some length => exact each length (List.mem_of_getElem? found)

theorem locate_spec {lengths : List Nat} {day : Nat} (inside : day < total lengths) :
    (locate lengths day).1 < lengths.length ∧
      (locate lengths day).2 < lengths.getD (locate lengths day).1 0 ∧
      total (lengths.take (locate lengths day).1) + (locate lengths day).2 = day := by
  induction lengths generalizing day with
  | nil => cases inside
  | cons length more ih =>
      rw [locate]
      split
      · rename_i first
        exact ⟨Nat.succ_pos _, first, Nat.zero_add day⟩
      · rename_i later
        have rest : day - length < total more := by
          simp only [total, List.foldr_cons] at inside ⊢
          omega
        obtain ⟨month, short, sum⟩ := ih rest
        refine ⟨Nat.succ_lt_succ month, short, ?_⟩
        simp only [total, List.take_succ_cons, List.foldr_cons] at sum ⊢
        omega

theorem daysBefore_mono {year later : Int} (inOrder : year ≤ later) :
    daysBefore year ≤ daysBefore later := by
  simp only [daysBefore]
  omega

theorem total_take_le {lengths : List Nat} {month later : Nat} (earlier : month < later) :
    total (lengths.take month) + lengths.getD month 0 ≤ total (lengths.take later) := by
  induction lengths generalizing month later with
  | nil => simp [total]
  | cons length more ih =>
      obtain ⟨later, rfl⟩ := Nat.exists_eq_succ_of_ne_zero (Nat.ne_zero_of_lt earlier)
      cases month with
      | zero => simp [total]
      | succ month =>
          have rest := ih (Nat.lt_of_succ_lt_succ earlier)
          simp only [total, List.take_succ_cons, List.foldr_cons, List.getD_cons_succ] at rest ⊢
          omega

end Calendar

namespace Date

open Calendar

/-- The month and the day of the month of a day, both counted from zero, and its year. -/
theorem ofDayNumber_spec (day : Int) : ∃ year month rest,
    ofDayNumber day = ⟨year, month + 1, rest + 1⟩ ∧ month < (monthLengths year).length ∧
    rest < (monthLengths year).getD month 0 ∧
    daysBefore year + total ((monthLengths year).take month) + rest = day + epoch := by
  obtain ⟨started, goesOn⟩ := yearOf_spec (day + epoch)
  obtain ⟨year, sameYear⟩ : ∃ year, yearOf (day + epoch) = year := ⟨_, rfl⟩
  obtain ⟨offset, sameOffset⟩ : ∃ offset, (day + epoch - daysBefore year).toNat = offset :=
    ⟨_, rfl⟩
  have date : ofDayNumber day = ⟨year, (locate (monthLengths year) offset).1 + 1,
      (locate (monthLengths year) offset).2 + 1⟩ := by
    rw [← sameOffset, ← sameYear]
    rfl
  have length := total_monthLengths year
  rw [sameYear] at started goesOn
  obtain ⟨month, short, sum⟩ := locate_spec (show offset < total (monthLengths year) by omega)
  exact ⟨_, _, _, date, month, short, by omega⟩

theorem isValid_ofDayNumber (day : Int) : (ofDayNumber day).IsValid := by
  obtain ⟨year, month, rest, date, inYear, inMonth, -⟩ := ofDayNumber_spec day
  have months : (monthLengths year).length = 12 := rfl
  rw [date]
  exact ⟨Nat.succ_pos _, by simp only; omega, Nat.succ_pos _, inMonth⟩

theorem dayNumber_ofDayNumber (day : Int) : (ofDayNumber day).dayNumber = day := by
  obtain ⟨year, month, rest, date, -, -, sum⟩ := ofDayNumber_spec day
  rw [date, dayNumber]
  simp only [Nat.add_sub_cancel]
  omega

/-! ## The order of dates -/

def Before (d e : Date) : Prop :=
  d.year < e.year ∨ d.year = e.year ∧ (d.month < e.month ∨ d.month = e.month ∧ d.day < e.day)

variable {d e : Date}

theorem eq_iff : d = e ↔ d.year = e.year ∧ d.month = e.month ∧ d.day = e.day := by
  cases d
  cases e
  exact iff_of_eq (mk.injEq ..)

theorem before_or (d e : Date) : d.Before e ∨ d = e ∨ e.Before d := by
  rw [eq_iff, Before, Before]
  omega

theorem IsValid.inMonth (valid : d.IsValid) :
    daysBefore d.year - epoch + total ((monthLengths d.year).take (d.month - 1)) ≤ d.dayNumber ∧
      ∀ later, d.month ≤ later →
        d.dayNumber < daysBefore d.year - epoch + total ((monthLengths d.year).take later) := by
  -- A date comes no earlier than the first of its month, and before that of every later month.
  obtain ⟨firstMonth, -, firstDay, inMonth⟩ := valid
  rw [dayNumber]
  refine ⟨by omega, fun later reached => ?_⟩
  have month : total ((monthLengths d.year).take (d.month - 1)) +
      (monthLengths d.year).getD (d.month - 1) 0 ≤ total ((monthLengths d.year).take later) :=
    total_take_le (by omega)
  omega

theorem IsValid.inYear (valid : d.IsValid) :
    daysBefore d.year ≤ d.dayNumber + epoch ∧ d.dayNumber + epoch < daysBefore (d.year + 1) := by
  obtain ⟨low, high⟩ := valid.inMonth
  have length := total_monthLengths d.year
  have whole : (monthLengths d.year).take 12 = monthLengths d.year := rfl
  have high := high 12 valid.2.1
  rw [whole] at high
  omega

theorem dayNumber_lt_of_before (d_valid : d.IsValid) (e_valid : e.IsValid) (before : d.Before e) :
    d.dayNumber < e.dayNumber := by
  rcases before with year | ⟨year, month | ⟨month, day⟩⟩
  · have years := daysBefore_mono (show d.year + 1 ≤ e.year by omega)
    have d_inYear := d_valid.inYear
    have e_inYear := e_valid.inYear
    omega
  · have d_end := d_valid.inMonth.2 (e.month - 1) (by omega)
    have e_start := e_valid.inMonth.1
    rw [year] at d_end
    omega
  · have first := d_valid.2.2.1
    rw [dayNumber, dayNumber, year, month]
    omega

theorem dayNumber_inj (d_valid : d.IsValid) (e_valid : e.IsValid)
    (same : d.dayNumber = e.dayNumber) : d = e := by
  rcases d.before_or e with before | equal | after
  · exact absurd same (Int.ne_of_lt (dayNumber_lt_of_before d_valid e_valid before))
  · exact equal
  · exact absurd same.symm (Int.ne_of_lt (dayNumber_lt_of_before e_valid d_valid after))

theorem dayNumber_lt_iff (d_valid : d.IsValid) (e_valid : e.IsValid) :
    d.dayNumber < e.dayNumber ↔ d.Before e := by
  constructor
  · intro earlier
    rcases d.before_or e with before | rfl | after
    · exact before
    · exact absurd earlier (Int.lt_irrefl _)
    · exact absurd earlier (Int.lt_asymm (dayNumber_lt_of_before e_valid d_valid after))
  · exact dayNumber_lt_of_before d_valid e_valid

theorem ofDayNumber_dayNumber (valid : d.IsValid) : ofDayNumber d.dayNumber = d :=
  dayNumber_inj (isValid_ofDayNumber _) valid (dayNumber_ofDayNumber _)

theorem le_year_iff (valid : d.IsValid) (year : Int) :
    year ≤ d.year ↔ daysBefore year ≤ d.dayNumber + epoch := by
  obtain ⟨started, goesOn⟩ := valid.inYear
  constructor
  · intro reached
    exact Int.le_trans (daysBefore_mono reached) started
  · intro reached
    rcases Int.lt_or_le d.year year with later | inOrder
    · have years := daysBefore_mono (show d.year + 1 ≤ year from later)
      omega
    · exact inOrder

end Date

end FleetResponse
