import Mathlib.Data.List.TakeWhile
import FleetResponse.Proofs.Text.Numeral
import FleetResponse.Proofs.Time.Calendar
import FleetResponse.Time.Printer
import FleetResponse.Time.Reader

namespace FleetResponse.Timestamp

open Text

namespace Reader

theorem isBlank_of_isDigit {c : Char} (digit : c.isDigit = true) : isBlank c = false := by
  have value : c.toNat = c.val.toNat := rfl
  simp only [Char.isDigit, Bool.and_eq_true, decide_eq_true_eq, ge_iff_le,
    UInt32.le_iff_toNat_le] at digit
  obtain ⟨least, most⟩ := digit
  simp at least most
  simp [isBlank, blankRanges]
  omega

theorem skipBlank_digits {cs : List Char} (digits : AllDigits cs) (filled : cs ≠ [])
    (rest : List Char) : skipBlank (cs ++ rest) = cs ++ rest := by
  obtain ⟨c, cs, rfl⟩ := List.exists_cons_of_ne_nil filled
  simp [skipBlank, isBlank_of_isDigit (digits c List.mem_cons_self)]

theorem number_padded {width n : Nat} (positive : 0 < width) (fits : n < 10 ^ width)
    (rest : List Char) : number width (padded width n ++ rest) = some (n, rest) := by
  have digits := allDigits_padded width n
  have length := length_padded positive fits
  have run : ((padded width n ++ rest).take width).takeWhile Char.isDigit = padded width n := by
    rw [List.take_left' length, List.takeWhile_eq_self_iff.mpr digits]
  rw [number, skipBlank_digits digits (padded_ne_nil width n), run]
  split
  · rename_i empty
    exact absurd empty (padded_ne_nil width n)
  · rw [digitsValue_padded, List.drop_left' rfl]

theorem longNumber_padded (width n : Nat) {rest : List Char} (stop : Undigit rest) :
    longNumber (padded width n ++ rest) = some (n, rest) := by
  rw [longNumber, span_digits (allDigits_padded width n) stop]
  split
  · rename_i same
    exact absurd (congrArg Prod.fst same) (padded_ne_nil width n)
  · rename_i same
    cases same
    rw [digitsValue_padded]

theorem skipBlank_mark {mark : Char} (visible : isBlank mark = false) (rest : List Char) :
    skipBlank (mark :: rest) = mark :: rest := by
  simp [skipBlank, visible]

theorem after?_mark {mark : Char} (visible : isBlank mark = false) (rest : List Char) :
    after? mark (mark :: rest) = some rest := by
  rw [after?, skipBlank_mark visible]
  exact if_pos rfl

/-! ## Dates -/

theorem year_eq (y : Int) {rest : List Char} (stop : Undigit rest) :
    year (Printer.year y ++ rest) = some (y, rest) := by
  unfold Printer.year
  split_ifs with short negative
  · have fits : y.toNat < 10 ^ 4 := by omega
    have filled := padded_ne_nil 4 y.toNat
    have read := number_padded (by decide) fits rest
    obtain ⟨c, cs, written⟩ := List.exists_cons_of_ne_nil filled
    -- The reader looks for a sign first, and finds a digit.
    have digit : c.isDigit = true := allDigits_padded 4 y.toNat c (by simp [written])
    rw [year, skipBlank_digits (allDigits_padded 4 y.toNat) filled]
    split
    · rename_i same
      rw [written] at same
      cases same
      cases digit
    · rename_i same
      rw [written] at same
      cases same
      cases digit
    · rw [read, Option.map_some]
      simp only
      rw [Int.toNat_of_nonneg short.1]
  · rw [List.cons_append, year, skipBlank_mark (by decide)]
    simp only
    rw [longNumber_padded 4 _ stop, Option.map_some]
    congr
    omega
  · rw [List.cons_append, year, skipBlank_mark (by decide)]
    simp only
    rw [longNumber_padded 4 _ stop, Option.map_some]
    congr
    omega

theorem date_eq {d : Date} (month : d.month < 100) (day : d.day < 100) (rest : List Char) :
    date (Printer.date d ++ rest) = some (d, rest) := by
  simp only [Printer.date, List.append_assoc, List.cons_append]
  rw [date, year_eq d.year (undigit_cons rfl _), Option.bind_eq_bind, Option.bind_some]
  simp only
  rw [after?_mark (by decide), Option.bind_eq_bind, Option.bind_some,
    number_padded (by decide) month, Option.bind_eq_bind, Option.bind_some]
  simp only
  rw [after?_mark (by decide), Option.bind_some, number_padded (by decide) day]
  rfl

/-! ## Times of day -/

theorem nanos_padded {width n : Nat} (positive : 0 < width) (short : width ≤ 9)
    (fits : n < 10 ^ width) : nanos (padded width n) = n * 10 ^ (9 - width) := by
  have length := length_padded positive fits
  have nine : (padded width n ++ List.replicate 9 '0').take 9
      = padded width n ++ List.replicate (9 - width) '0' := by
    rw [List.take_append, List.take_of_length_le (by omega), length, List.take_replicate]
    congr 2
    omega
  rw [nanos, nine, digitsValue_append_replicate (allDigits_padded width n), digitsValue_padded]

theorem fraction_padded {width n : Nat} (positive : 0 < width) (short : width ≤ 9)
    (fits : n < 10 ^ width) {rest : List Char} (stop : Undigit rest) :
    fraction ('.' :: (padded width n ++ rest)) = some (n * 10 ^ (9 - width), rest) := by
  rw [fraction, span_digits (allDigits_padded width n) stop]
  split
  · rename_i same
    exact absurd (congrArg Prod.fst same) (padded_ne_nil width n)
  · rename_i same
    cases same
    rw [nanos_padded positive short fits]

theorem fraction_eq {nano : Nat} (fits : nano < nanosPerSecond) {rest : List Char}
    (stop : Undigit rest) (noPoint : ∀ c ∈ rest.head?, c ≠ '.') :
    fraction (Printer.fraction nano ++ rest) = some (nano, rest) := by
  have second : nanosPerSecond = 1000000000 := rfl
  unfold Printer.fraction
  split_ifs with zero millis micros
  · subst zero
    cases rest with
    | nil => rfl
    | cons c rest => exact fraction.eq_2 _ fun _ same => noPoint c rfl (List.cons.inj same).1
  · rw [List.cons_append, fraction_padded (by decide) (by decide) (by omega) stop]
    congr
    omega
  · rw [List.cons_append, fraction_padded (by decide) (by decide) (by omega) stop]
    congr
    omega
  · rw [List.cons_append, fraction_padded (by decide) (by decide) (by omega) stop]
    congr
    omega

theorem time_eq {t : Timestamp} (regular : t.IsLeap → t.second % 60 = 59) {rest : List Char}
    (stop : Undigit rest) (noPoint : ∀ c ∈ rest.head?, c ≠ '.') :
    time (Printer.time t ++ rest) = some ((t.second, t.nano), rest) := by
  have inDay := t.second_lt
  have inSecond := t.nano_lt
  simp only [IsLeap, nanosPerSecond] at inSecond regular
  have two : 0 < 2 := by decide
  have hour := number_padded two (show t.second / 3600 < 10 ^ 2 by omega)
  have minute := number_padded two (show t.second / 60 % 60 < 10 ^ 2 by omega)
  have second := number_padded two
    (show t.second % 60 + t.nano / 1000000000 < 10 ^ 2 by omega)
  have nano := fraction_eq (show t.nano % 1000000000 < nanosPerSecond from Nat.mod_lt _ (by decide))
    stop noPoint
  have colon := after?_mark (show isBlank ':' = false by decide)
  simp only [time, Printer.time, nanosPerSecond, List.append_assoc, List.cons_append, hour, minute,
    second, nano, colon, Option.bind_eq_bind, Option.bind_some]
  rw [if_pos (by omega)]
  split_ifs with sixty
  · congr <;> omega
  · congr <;> omega

end Reader

/-! ## Leap seconds -/

/-- The timestamp that the text of another one is read as. A leap second is written as the second
after its own, which is an ordinary one unless the minute is over. -/
def written (t : Timestamp) : Timestamp :=
  if h : t.IsLeap ∧ t.second % 60 ≠ 59 then
    { t with
      second := t.second + 1
      nano := t.nano - nanosPerSecond
      second_lt := by have := t.second_lt; omega
      nano_lt := by have := t.nano_lt; omega }
  else t

variable {t : Timestamp}

theorem written_of_regular (regular : t.IsLeap → t.second % 60 = 59) : t.written = t :=
  dif_neg fun early => early.2 (regular early.1)

theorem written_of_early (leap : t.IsLeap) (early : t.second % 60 ≠ 59) :
    t.written.day = t.day ∧ t.written.second = t.second + 1 ∧
      t.written.nano = t.nano - nanosPerSecond := by
  rw [written, dif_pos ⟨leap, early⟩]
  exact ⟨rfl, rfl, rfl⟩

theorem written_eq_self_iff : t.written = t ↔ (t.IsLeap → t.second % 60 = 59) := by
  refine ⟨fun same leap => ?_, written_of_regular⟩
  by_contra early
  have later := (written_of_early leap early).2.1
  rw [same] at later
  omega

theorem written_regular (t : Timestamp) : t.written.IsLeap → t.written.second % 60 = 59 := by
  by_cases early : t.IsLeap ∧ t.second % 60 ≠ 59
  · have under := t.nano_lt
    rw [IsLeap, (written_of_early early.1 early.2).2.2]
    omega
  · have regular : t.IsLeap → t.second % 60 = 59 := fun leap =>
      Decidable.byContradiction fun other => early ⟨leap, other⟩
    rwa [written_of_regular regular]

theorem json_written (t : Timestamp) : t.written.json = t.json := by
  by_cases early : t.IsLeap ∧ t.second % 60 ≠ 59
  · obtain ⟨day, second, nano⟩ := written_of_early early.1 early.2
    obtain ⟨leap, early⟩ := early
    have under := t.nano_lt
    simp only [IsLeap, nanosPerSecond] at leap under
    have hour : (t.second + 1) / 3600 = t.second / 3600 := by omega
    have minute : (t.second + 1) / 60 % 60 = t.second / 60 % 60 := by omega
    have sum : (t.second + 1) % 60 + (t.nano - 1000000000) / 1000000000 =
        t.second % 60 + t.nano / 1000000000 := by omega
    have rest : (t.nano - 1000000000) % 1000000000 = t.nano % 1000000000 := by omega
    simp only [json, Printer.time, day, second, nano, nanosPerSecond, hour, minute, sum, rest]
  · rw [written, dif_neg early]

/-! ## Whole texts -/

theorem ofLocal?_self (t : Timestamp) :
    ofLocal? (Date.ofDayNumber t.day) t.second t.nano 0 = some t := by
  have inDay := t.second_lt
  have seconds : (t.second : Int) - 60 * 0 = t.second := by omega
  have day : t.day + t.second / 86400 = t.day := by omega
  have second : ((t.second : Int) % 86400).toNat = t.second := by omega
  rw [ofLocal?, if_pos (Date.isValid_ofDayNumber t.day), Date.dayNumber_ofDayNumber, of?_self,
    Option.bind_eq_bind, Option.bind_some]
  simp only [seconds]
  rw [day, second, of?_self]

theorem parse?_of_regular {t : Timestamp} (regular : t.IsLeap → t.second % 60 = 59) :
    parse? t.json = some t := by
  obtain ⟨year, month, day, same, inYear, inMonth, -⟩ := Date.ofDayNumber_spec t.day
  have months : (Calendar.monthLengths year).length = 12 := rfl
  have days := Calendar.monthLengths_le year month
  have twoDigits : (Date.ofDayNumber t.day).month < 100 ∧ (Date.ofDayNumber t.day).day < 100 := by
    rw [same]
    exact ⟨by simp only; omega, by simp only; omega⟩
  have date := Reader.date_eq twoDigits.1 twoDigits.2 ('T' :: (Printer.time t ++ ['Z']))
  have joint : Reader.joint? ('T' :: (Printer.time t ++ ['Z'])) =
      some (Printer.time t ++ ['Z']) := by
    simp [Reader.joint?]
  have time := Reader.time_eq regular (undigit_cons (by decide : 'Z'.isDigit = false) [])
    (by simp : ∀ c ∈ ['Z'].head?, c ≠ '.')
  rw [parse?, json, String.toList_ofList, List.append_assoc, List.cons_append, date,
    Option.bind_eq_bind, Option.bind_some]
  simp only
  rw [joint, Option.bind_eq_bind, Option.bind_some, time]
  exact ofLocal?_self t

theorem parse?_json (t : Timestamp) : parse? t.json = some t.written := by
  rw [← t.json_written]
  exact parse?_of_regular t.written_regular

end FleetResponse.Timestamp
