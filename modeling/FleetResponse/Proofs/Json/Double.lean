import Mathlib.Data.Rat.Floor
import Mathlib.Tactic.NormNum
import Mathlib.Tactic.Ring
import FleetResponse.Json.Double
import FleetResponse.Proofs.Json.Printing

namespace FleetResponse.Json

namespace Double

open Float.Model Float.Model.UnpackedFloat

theorem log2_lt_of_lt_two_pow {m k : Nat} (below : m < 2 ^ k) (positive : 0 < k) : m.log2 < k := by
  by_cases zero : m = 0
  · simpa [zero] using positive
  · exact (Nat.log2_lt zero).mpr below

theorem div_two_pow_log2 {m : Nat} (wide : 2 ^ 52 ≤ m) :
    2 ^ 52 ≤ m / 2 ^ (m.log2 - 52) ∧ m / 2 ^ (m.log2 - 52) < 2 ^ 53 := by
  have least := (Nat.le_log2 (by omega)).mpr wide
  constructor
  · rw [Nat.le_div_iff_mul_le (Nat.two_pow_pos _), ← Nat.pow_add,
      show 52 + (m.log2 - 52) = m.log2 by omega]
    exact Nat.log2_self_le (by omega)
  · rw [Nat.div_lt_iff_lt_mul (Nat.two_pow_pos _), ← Nat.pow_add,
      show 53 + (m.log2 - 52) = m.log2 + 1 by omega]
    exact Nat.lt_log2_self

/-! ## Rounding -/

theorem mantissa_shiftRight (em : ExtendedMantissa) (k : Nat) :
    (em >>> k).mantissa = em.mantissa / 2 ^ k := by
  induction k with
  | zero => simp [HShiftRight.hShiftRight, Nat.repeat]
  | succ k ih =>
      change (em >>> k).mantissa / 2 = _
      rw [ih, Nat.div_div_eq_div_mul, Nat.pow_succ]

theorem roundedMantissa_bounds (em : ExtendedMantissa) :
    em.mantissa ≤ em.roundedMantissa ∧ em.roundedMantissa ≤ em.mantissa + 1 := by
  rcases em with ⟨m, roundBit, stickyBit⟩
  cases roundBit <;> cases stickyBit <;>
    simp [ExtendedMantissa.roundedMantissa, ExtendedMantissa.accuracy,
      Accuracy.roundToNearestEven]
  omega

def excess (m : Nat) (e : Int) : Nat :=
  (Format.binary64.targetExponent (totalExponent m e) - e).toNat

def rounded (m : Nat) (e : Int) : Nat :=
  (ExtendedMantissa.ofMantissaAndAccuracy m .exact >>> excess m e).roundedMantissa

theorem targetExponent_eq (m : Nat) (e : Int) :
    Format.binary64.targetExponent (totalExponent m e) = max ((m.log2 : Int) + e - 52) (-1074) := by
  change max ((m.log2 : Int) + 1 + e - (53 : Nat)) (3 - 1024 - (53 : Nat)) = _
  omega

theorem excess_eq (m : Nat) (e : Int) :
    (excess m e : Int) = max (max ((m.log2 : Int) - 52) (-1074 - e)) 0 := by
  rw [excess, targetExponent_eq]
  omega

theorem rounded_bounds (m : Nat) (e : Int) :
    m / 2 ^ excess m e ≤ rounded m e ∧ rounded m e ≤ m / 2 ^ excess m e + 1 := by
  have bounds := roundedMantissa_bounds
    (ExtendedMantissa.ofMantissaAndAccuracy m .exact >>> excess m e)
  rwa [mantissa_shiftRight] at bounds

theorem rounded_of_fits {m : Nat} {e : Int} (fits : excess m e = 0) : rounded m e = m := by
  rw [rounded, fits]
  rfl

theorem finite_congr {s : Sign} {m n : Nat} {e f : Int} (positive : 0 < m) (mantissa : m = n)
    (exponent : e = f) :
    UnpackedFloat.finite s m e positive = .finite s n f (mantissa ▸ positive) := by
  subst mantissa exponent
  rfl

theorem roundWithAccuracy_eq (s : Sign) (m : Nat) (e : Int) :
    roundWithAccuracy .binary64 s m e .exact =
      if h : rounded m e / 2 ^ excess (rounded m e) (e + excess m e) = 0 then .zero s
      else .finite s (rounded m e / 2 ^ excess (rounded m e) (e + excess m e))
        (e + excess m e + excess (rounded m e) (e + excess m e)) (Nat.pos_of_ne_zero h) := by
  let last := ExtendedMantissa.ofMantissaAndAccuracy (rounded m e) .exact >>>
    excess (rounded m e) (e + excess m e)
  have whole : last.mantissa = rounded m e / 2 ^ excess (rounded m e) (e + excess m e) :=
    mantissa_shiftRight _ _
  change (if h : last.mantissa = 0 then UnpackedFloat.zero s
    else .finite s last.mantissa _ (Nat.pos_of_ne_zero h)) = _
  by_cases nothing : last.mantissa = 0
  · rw [dif_pos nothing, dif_pos (whole ▸ nothing)]
  · rw [dif_neg nothing, dif_neg (whole ▸ nothing)]
    exact finite_congr _ whole rfl

/-! ## The bits of a double -/

theorem pack_finite (s : Sign) {m : Nat} {e : Int} (positive : 0 < m) :
    UnpackedFloat.pack .binary64 (.finite s m e positive) =
      if 2048 ≤ (e + (1023 : Nat) + (52 : Nat)).toNat + 1 then packedInfinity .binary64 s
      else if m.log2 + 1 = 53 then
        packComponents .binary64 s (BitVec.ofNat 11 (e + (1023 : Nat) + (52 : Nat)).toNat)
          (BitVec.ofNat 52 m)
      else packComponents .binary64 s 0#11 (BitVec.ofNat 52 m) :=
  rfl

theorem isInf_of_unpackExponent {b : BitVec Format.binary64.numBits}
    (other : unpackExponent b ≠ -1#_) : (unpack .binary64 b).isInf = false := by
  have parts : unpack .binary64 b = _ := if_neg other
  by_cases first : unpackExponent b = 0#_
  · by_cases nothing : unpackMantissa b = 0#_
    · exact congrArg UnpackedFloat.isInf (parts.trans ((if_pos first).trans (dif_pos nothing)))
    · exact congrArg UnpackedFloat.isInf (parts.trans ((if_pos first).trans (dif_neg nothing)))
  · exact congrArg UnpackedFloat.isInf (parts.trans (if_neg first))

theorem exists_unpack_eq {b : BitVec Format.binary64.numBits} (notLast : unpackExponent b ≠ -1#_)
    (notFirst : unpackExponent b ≠ 0#_) :
    ∃ positive, unpack .binary64 b = .finite (Sign.ofBitVec (unpackSign b))
      (1#1 ++ unpackMantissa b).toNat
      ((unpackExponent b).toNat - ((1023 : Nat) + (52 : Nat))) positive :=
  ⟨_, (if_neg notLast).trans (if_neg notFirst)⟩

/-! ## Overflow -/

theorem isInf_pack_zero (s : Sign) : (Float.Model.pack (.zero s)).isInf = false := by
  cases s <;> rfl

theorem isInf_pack_finite {s : Sign} {m : Nat} {e : Int} (positive : 0 < m) (small : e ≤ 971) :
    (Float.Model.pack (.finite s m e positive)).isInf = false := by
  refine isInf_of_unpackExponent ?_
  change unpackExponent (UnpackedFloat.pack .binary64 (.finite s m e positive)) ≠ _
  rw [pack_finite, if_neg (by omega)]
  split
  · rw [unpackExponent_packComponents, ne_eq, ← BitVec.toNat_inj, BitVec.toNat_ofNat]
    change ¬ (e + (1023 : Nat) + (52 : Nat)).toNat % 2048 = 2047
    omega
  · rw [unpackExponent_packComponents]
    decide

theorem isInf_pack_roundWithAccuracy (s : Sign) {m : Nat} {e : Int} (small : e ≤ 971)
    (below : m < (2 ^ 53 - 1) * 2 ^ (971 - e).toNat) :
    (Float.Model.pack (roundWithAccuracy .binary64 s m e .exact)).isInf = false := by
  have power {n k : Nat} (under : n < 2 ^ 53 * 2 ^ k) : n.log2 < 53 + k :=
    log2_lt_of_lt_two_pow (Nat.pow_add 2 53 k ▸ under) (by omega)
  have first : e + excess m e ≤ 971 := by
    have wide := power (Nat.lt_of_lt_of_le below (Nat.mul_le_mul_right _ (by decide)))
    rw [excess_eq]
    omega
  have parted : (971 - e).toNat = excess m e + (971 - (e + excess m e)).toNat := by omega
  rw [parted, Nat.pow_add, Nat.mul_left_comm] at below
  have cut : m / 2 ^ excess m e < (2 ^ 53 - 1) * 2 ^ (971 - (e + excess m e)).toNat :=
    Nat.div_lt_of_lt_mul below
  -- Rounding up can carry into one bit more, but not beyond the last binade.
  have second : e + excess m e + excess (rounded m e) (e + excess m e) ≤ 971 := by
    have above := (rounded_bounds m e).2
    have room : 0 < 2 ^ (971 - (e + excess m e)).toNat := Nat.two_pow_pos _
    have wide := power (n := rounded m e) (k := (971 - (e + excess m e)).toNat) (by omega)
    rw [excess_eq (rounded m e)]
    omega
  rw [roundWithAccuracy_eq]
  by_cases nothing : rounded m e / 2 ^ excess (rounded m e) (e + excess m e) = 0
  · rw [dif_pos nothing]
    exact isInf_pack_zero s
  · rw [dif_neg nothing]
    exact isInf_pack_finite _ second

/-! ## Doubles of whole numbers -/

def spare (m : Nat) : Nat :=
  if m < 2 ^ 53 then 0 else 2 ^ (m.log2 - 52)

theorem rounded_le (m : Nat) {e : Int} (wide : 2 ^ 52 ≤ m) (inRange : -1074 ≤ e) :
    rounded m e * 2 ^ excess m e ≤ m + spare m := by
  have least := (Nat.le_log2 (by omega)).mpr wide
  have bits := excess_eq m e
  rw [spare]
  split
  · have narrow := log2_lt_of_lt_two_pow ‹_› (by decide)
    have fits : excess m e = 0 := by omega
    rw [rounded_of_fits fits, fits]
    omega
  · have shift : excess m e = m.log2 - 52 := by omega
    rw [← shift]
    calc rounded m e * 2 ^ excess m e
        ≤ (m / 2 ^ excess m e + 1) * 2 ^ excess m e :=
          Nat.mul_le_mul_right _ (rounded_bounds m e).2
      _ = m / 2 ^ excess m e * 2 ^ excess m e + 2 ^ excess m e := by rw [Nat.add_mul, Nat.one_mul]
      _ ≤ m + 2 ^ excess m e := Nat.add_le_add_right (Nat.div_mul_le_self _ _) _

theorem roundWithAccuracy_le (s : Sign) {m : Nat} {e : Int} (wide : 2 ^ 52 ≤ m)
    (inRange : -1074 ≤ e) :
    ∃ (r k : Nat) (positive : 0 < r),
      roundWithAccuracy .binary64 s m e .exact = .finite s r (e + k) positive ∧
        (2 ^ 52 ≤ r ∧ r < 2 ^ 53) ∧ k ≤ m.log2 - 51 ∧ r * 2 ^ k ≤ m + spare m := by
  have least := (Nat.le_log2 (by omega)).mpr wide
  have first : excess m e = m.log2 - 52 := by
    have bits := excess_eq m e
    omega
  have cut := div_two_pow_log2 wide
  obtain ⟨low, high⟩ := rounded_bounds m e
  rw [first] at low high
  have carried := div_two_pow_log2 (cut.1.trans low)
  have second : excess (rounded m e) (e + excess m e) = (rounded m e).log2 - 52 := by
    have bits := excess_eq (rounded m e) (e + excess m e)
    have least := (Nat.le_log2 (by omega)).mpr (cut.1.trans low)
    omega
  have most : (rounded m e).log2 < 54 := log2_lt_of_lt_two_pow (by omega) (by decide)
  rw [← second] at carried
  have positive : ¬ rounded m e / 2 ^ excess (rounded m e) (e + excess m e) = 0 := by omega
  refine ⟨_, excess m e + excess (rounded m e) (e + excess m e), Nat.pos_of_ne_zero positive, ?_,
    carried, by omega, ?_⟩
  · rw [roundWithAccuracy_eq, dif_neg positive]
    exact finite_congr _ rfl (by omega)
  · rw [Nat.pow_add, Nat.mul_comm (2 ^ excess m e), ← Nat.mul_assoc]
    exact (Nat.mul_le_mul_right _ (Nat.div_mul_le_self _ _)).trans (rounded_le m wide inRange)

theorem unpack_pack_normal (s : Sign) {m : Nat} {e : Int} (positive : 0 < m)
    (wide : 2 ^ 52 ≤ m ∧ m < 2 ^ 53) (inRange : -1074 ≤ e ∧ e ≤ 971) :
    ∃ s', (Float.Model.pack (.finite s m e positive)).unpack = .finite s' m e positive := by
  let bits := packComponents .binary64 s (BitVec.ofNat 11 (e + (1023 : Nat) + (52 : Nat)).toNat)
    (BitVec.ofNat 52 m)
  have packed : UnpackedFloat.pack .binary64 (.finite s m e positive) = bits := by
    have least := (Nat.le_log2 (Nat.ne_of_gt positive)).mpr wide.1
    have most := log2_lt_of_lt_two_pow wide.2 (by decide)
    rw [pack_finite, if_neg (by omega), if_pos (by omega)]
  have exponent : (unpackExponent bits).toNat = (e + 1075).toNat := by
    rw [unpackExponent_packComponents, BitVec.toNat_ofNat]
    change _ % 2048 = _
    omega
  have mantissa : (1#1 ++ unpackMantissa bits).toNat = m := by
    rw [unpackMantissa_packComponents, BitVec.toNat_append,
      ← Nat.shiftLeft_add_eq_or_of_lt (BitVec.ofNat 52 m).isLt, BitVec.toNat_ofNat,
      Nat.shiftLeft_eq]
    change 1 * 2 ^ 52 + m % 2 ^ 52 = m
    omega
  have notLast : unpackExponent bits ≠ -1#_ := by
    rw [ne_eq, ← BitVec.toNat_inj, exponent]
    change ¬ _ = 2047
    omega
  have notFirst : unpackExponent bits ≠ 0#_ := by
    rw [ne_eq, ← BitVec.toNat_inj, exponent]
    change ¬ _ = 0
    omega
  obtain ⟨above, unpacked⟩ := exists_unpack_eq notLast notFirst
  have restored : ((unpackExponent bits).toNat : Int) - ((1023 : Nat) + (52 : Nat)) = e := by
    rw [exponent]
    omega
  exact ⟨_, (congrArg (unpack .binary64) packed).trans
    (unpacked.trans (finite_congr above mantissa restored))⟩

theorem unpack_toFloat {n : UInt64} (positive : 0 < n.toNat) :
    ∃ (s : Sign) (m k : Nat) (above : 0 < m),
      n.toFloat.toModel.unpack = .finite s m (k - 52) above ∧ 2 ^ 52 ≤ m ∧
        m * 2 ^ k ≤ (n.toNat + spare n.toNat) * 2 ^ 52 := by
  have some : n.toNat ≠ 0 := Nat.ne_of_gt positive
  have below : n.toNat.log2 < 64 := (Nat.log2_lt some).mpr n.toNat_lt
  let j := 52 - n.toNat.log2
  have target : Format.binary64.targetExponent (totalExponent n.toNat 0) =
      (n.toNat.log2 : Int) - 52 := by
    rw [targetExponent_eq]
    omega
  have shift : (0 - Format.binary64.targetExponent (totalExponent n.toNat 0)).toNat = j := by omega
  have made : n.toFloat.toModel = Float.Model.pack
      (roundWithAccuracy .binary64 .positive (n.toNat <<< j) (0 - (j : Nat)) .exact) := by
    have order : Ord.compare (n.toNat : Int) 0 = .gt := Int.compare_eq_gt.mpr (by omega)
    change Float.Model.pack (UnpackedFloat.normalize .binary64 (n.toNat : Int) 0 .positive) = _
    simp only [UnpackedFloat.normalize, order, UnpackedFloat.round, decreaseExponent, shift,
      Int.toNat_natCast]
  have least : 2 ^ n.toNat.log2 ≤ n.toNat := Nat.log2_self_le some
  have most : n.toNat < 2 ^ (n.toNat.log2 + 1) := Nat.lt_log2_self
  have scaled : n.toNat <<< j = n.toNat * 2 ^ j := Nat.shiftLeft_eq _ _
  have wide : 2 ^ 52 ≤ n.toNat <<< j := by
    calc 2 ^ 52 ≤ 2 ^ (n.toNat.log2 + j) := Nat.pow_le_pow_right (by decide) (by omega)
      _ = 2 ^ n.toNat.log2 * 2 ^ j := Nat.pow_add ..
      _ ≤ n.toNat <<< j := scaled ▸ Nat.mul_le_mul_right _ least
  -- Either the number is moved up until it fills a double, or it fills one already.
  have filled : n.toNat <<< j < 2 ^ 53 ∧ j ≤ 52 ∨ j = 0 ∧ n.toNat <<< j = n.toNat := by
    by_cases short : j = 0
    · exact .inr ⟨short, by rw [scaled, short, Nat.pow_zero, Nat.mul_one]⟩
    · refine .inl ⟨?_, Nat.sub_le ..⟩
      calc n.toNat <<< j < 2 ^ (n.toNat.log2 + 1) * 2 ^ j :=
            scaled ▸ Nat.mul_lt_mul_of_pos_right most (Nat.two_pow_pos _)
        _ = 2 ^ (n.toNat.log2 + 1 + j) := (Nat.pow_add ..).symm
        _ = 2 ^ 53 := by congr 1; omega
  have bits : (n.toNat <<< j).log2 < 64 := by
    refine log2_lt_of_lt_two_pow ?_ (by decide)
    have inside := n.toNat_lt
    omega
  obtain ⟨m, k, above, rounds, range, small, near⟩ :=
    roundWithAccuracy_le .positive wide (e := 0 - (j : Nat)) (by omega)
  obtain ⟨s, same⟩ := unpack_pack_normal .positive above range (e := 0 - (j : Nat) + k) (by omega)
  have unit : (0 - (j : Nat) + k : Int) = ((52 - j + k : Nat) : Int) - 52 := by omega
  refine ⟨s, m, 52 - j + k, above, ?_, range.1, ?_⟩
  · rw [made, rounds, same, unit]
  · have spared : spare (n.toNat <<< j) * 2 ^ (52 - j) ≤ spare n.toNat * 2 ^ 52 := by
      rcases filled with ⟨narrow, -⟩ | ⟨none, same⟩
      · rw [spare, if_pos narrow]
        omega
      · rw [same, none]
    calc m * 2 ^ (52 - j + k) = m * 2 ^ k * 2 ^ (52 - j) := by
          rw [Nat.add_comm, Nat.pow_add, Nat.mul_assoc]
      _ ≤ (n.toNat <<< j + spare (n.toNat <<< j)) * 2 ^ (52 - j) := Nat.mul_le_mul_right _ near
      _ = n.toNat * (2 ^ j * 2 ^ (52 - j)) + spare (n.toNat <<< j) * 2 ^ (52 - j) := by
          rw [Nat.add_mul, scaled, Nat.mul_assoc]
      _ = n.toNat * 2 ^ 52 + spare (n.toNat <<< j) * 2 ^ (52 - j) := by
          rw [← Nat.pow_add, show j + (52 - j) = 52 by omega]
      _ ≤ (n.toNat + spare n.toNat) * 2 ^ 52 := by
          rw [Nat.add_mul]
          exact Nat.add_le_add_left spared _

/-! ## Products with powers of ten -/

def roomFor (power : Nat) : Nat :=
  if power < 292 then 10 ^ 17 + 16 else 17976931348623156 / 10 ^ (power - 292)

def fits (power : Nat) : Bool :=
  match (Float.ofScientific 1 false power).toModel.unpack with
  | .finite _ m e _ => decide (2 ^ 52 ≤ m ∧ -52 ≤ e ∧
      roomFor power * m * 2 ^ (e + 52).toNat < (2 ^ 53 - 1) * 2 ^ 1023)
  | _ => false

theorem fits_all : ∀ power < 309, fits power = true := by
  decide +kernel

theorem isInf_mul (f g : Float) :
    (f * g).isInf = (Float.Model.pack (mul .binary64 f.toModel.unpack g.toModel.unpack)).isInf :=
  rfl

theorem isInf_mul_of_zero {f : Float} {s : Sign} (zero : f.toModel.unpack = .zero s) {power : Nat}
    (tabled : power < 309) : (f * Float.ofScientific 1 false power).isInf = false := by
  have fitting := fits_all power tabled
  rw [isInf_mul, zero]
  unfold fits at fitting
  split at fitting
  · rename_i factor
    rw [factor]
    exact isInf_pack_zero _
  · cases fitting

theorem product_below {m m' k k' room top : Nat} (wide : 2 ^ 52 ≤ m) (wide' : 2 ^ 52 ≤ m')
    (near : m * 2 ^ k ≤ room * 2 ^ 52) (below : room * m' * 2 ^ k' < (2 ^ 53 - 1) * 2 ^ top) :
    k + k' < top + 1 ∧ m * m' < (2 ^ 53 - 1) * 2 ^ (top + 52 - (k + k')) := by
  have product : m * m' * 2 ^ (k + k') < (2 ^ 53 - 1) * 2 ^ (top + 52) := by
    calc m * m' * 2 ^ (k + k') = m * 2 ^ k * (m' * 2 ^ k') := by rw [Nat.pow_add]; ring
      _ ≤ room * 2 ^ 52 * (m' * 2 ^ k') := Nat.mul_le_mul_right _ near
      _ = room * m' * 2 ^ k' * 2 ^ 52 := by ring
      _ < (2 ^ 53 - 1) * 2 ^ top * 2 ^ 52 := Nat.mul_lt_mul_of_pos_right below (by decide)
      _ = (2 ^ 53 - 1) * 2 ^ (top + 52) := by rw [Nat.mul_assoc, ← Nat.pow_add]
  have small : k + k' < top + 1 := by
    have powers : 2 ^ (52 + 52 + (k + k')) < 2 ^ (53 + (top + 52)) := by
      calc 2 ^ (52 + 52 + (k + k')) = 2 ^ 52 * 2 ^ 52 * 2 ^ (k + k') := by
            rw [Nat.pow_add, Nat.pow_add]
        _ ≤ m * m' * 2 ^ (k + k') := Nat.mul_le_mul_right _ (Nat.mul_le_mul wide wide')
        _ < (2 ^ 53 - 1) * 2 ^ (top + 52) := product
        _ ≤ 2 ^ 53 * 2 ^ (top + 52) := Nat.mul_le_mul_right _ (by decide)
        _ = 2 ^ (53 + (top + 52)) := (Nat.pow_add ..).symm
    have exponents := (Nat.pow_lt_pow_iff_right (by decide)).mp powers
    omega
  refine ⟨small, Nat.lt_of_mul_lt_mul_right (a := 2 ^ (k + k')) ?_⟩
  rwa [Nat.mul_assoc (2 ^ 53 - 1), ← Nat.pow_add,
    show top + 52 - (k + k') + (k + k') = top + 52 by omega]

theorem isInf_toFloat_mul {n : UInt64} (positive : 0 < n.toNat) {power : Nat}
    (tabled : power < 309) (room : n.toNat + spare n.toNat ≤ roomFor power) :
    (n.toFloat * Float.ofScientific 1 false power).isInf = false := by
  have fitting := fits_all power tabled
  unfold fits at fitting
  split at fitting
  · rename_i s' m' e above' factor
    obtain ⟨wide', least, below⟩ := of_decide_eq_true fitting
    obtain ⟨s, m, k, above, whole, wide, near⟩ := unpack_toFloat positive
    rw [isInf_mul, whole, factor]
    obtain ⟨k', rfl⟩ : ∃ k' : Nat, e = k' - 52 := ⟨(e + 52).toNat, by omega⟩
    have scale : ((k' : Int) - 52 + 52).toNat = k' := by omega
    rw [scale] at below
    obtain ⟨small, less⟩ :=
      product_below wide wide' (near.trans (Nat.mul_le_mul_right _ room)) below
    refine isInf_pack_roundWithAccuracy _ (by omega) ?_
    rwa [show (971 - ((k : Int) - 52 + (k' - 52))).toNat = 1023 + 52 - (k + k') by omega]
  · cases fitting

end Double

/-! ## Literals -/

namespace Numeral

def significand (n : Numeral) : Nat :=
  Text.digitsValue (n.whole ++ n.fraction)

def power (n : Numeral) : Int :=
  (match n.exponent with
    | none => 0
    | some (true, digits) => -Text.digitsValue digits
    | some (false, digits) => Text.digitsValue digits) - n.fraction.length

def magnitude (n : Numeral) : ℚ :=
  n.significand * 10 ^ n.power

/-- What the literal of a double is like: short, of seventeen digits at most from the first that is
not zero, and not above the literal of the largest double. -/
structure OfDouble (n : Numeral) : Prop where
  proper : n.Proper
  short : (n.whole ++ n.fraction).length ≤ 24
  digits : n.significand < 10 ^ 17
  bounded : n.magnitude ≤ 17976931348623157 * 10 ^ 292

end Numeral

namespace Decimal

open Double

theorem le_foldl (value : Nat) (cs : List Char) :
    value ≤ cs.foldl (fun n c => 10 * n + (Text.digitValue? c).getD 0) value := by
  induction cs generalizing value with
  | nil => exact Nat.le_refl value
  | cons c cs ih => exact Nat.le_trans (by omega) (ih (10 * value + (Text.digitValue? c).getD 0))

theorem absorb_eq {value : Nat} {cs : List Char}
    (fits : cs.foldl (fun n c => 10 * n + (Text.digitValue? c).getD 0) value <
      18446744073709551616) :
    absorb value cs = (cs.foldl (fun n c => 10 * n + (Text.digitValue? c).getD 0) value, []) := by
  induction cs generalizing value with
  | nil => rfl
  | cons c cs ih =>
      have next := (le_foldl (10 * value + (Text.digitValue? c).getD 0) cs).trans_lt fits
      rw [absorb, if_pos next]
      exact ih fits

theorem ofDigits_eq {whole fraction : List Char}
    (fits : Text.digitsValue (whole ++ fraction) < 18446744073709551616) :
    ofDigits whole fraction = ⟨Text.digitsValue (whole ++ fraction), -fraction.length⟩ := by
  rw [Text.digitsValue, List.foldl_append] at fits
  have first := absorb_eq ((le_foldl _ fraction).trans_lt fits)
  rw [ofDigits, first]
  simp only [absorb_eq fits, List.length_nil, Text.digitsValue, List.foldl_append]
  congr 1
  omega

theorem isSome_scale_of_neg (steps : Nat) (f : Float) {power : Int} (negative : power < 0) :
    (scale steps f power).isSome = true := by
  induction steps generalizing f power with
  | zero =>
      unfold scale
      split_ifs <;> first | rfl | omega
  | succ steps ih =>
      unfold scale
      split_ifs with near zero up
      · rfl
      · rfl
      · omega
      · refine ih _ ?_
        unfold powerLimit at *
        omega

theorem power_lt_of_bounded {m power top : Nat} (positive : 0 < m)
    (bounded : m * 10 ^ power ≤ 17976931348623157 * 10 ^ top) : power < 17 + top := by
  refine (Nat.pow_lt_pow_iff_right (by decide : 1 < 10)).mp ?_
  calc 10 ^ power ≤ m * 10 ^ power := Nat.le_mul_of_pos_left _ positive
    _ ≤ 17976931348623157 * 10 ^ top := bounded
    _ < 10 ^ 17 * 10 ^ top := Nat.mul_lt_mul_of_pos_right (by decide) (Nat.pow_pos (by decide))
    _ = 10 ^ (17 + top) := (Nat.pow_add ..).symm

theorem scaled_le_of_bounded {m k top : Nat}
    (bounded : m * 10 ^ (top + k) ≤ 17976931348623157 * 10 ^ top) :
    m * 10 ^ k ≤ 17976931348623157 := by
  rw [Nat.add_comm, Nat.pow_add, ← Nat.mul_assoc] at bounded
  exact Nat.le_of_mul_le_mul_right bounded (Nat.pow_pos (by decide))

theorem spare_le {m k : Nat} (narrow : m < 2 ^ (53 + k)) : spare m ≤ 2 ^ k := by
  have bits := log2_lt_of_lt_two_pow narrow (by omega)
  unfold spare
  split
  · exact Nat.zero_le _
  · exact Nat.pow_le_pow_right (by decide) (by omega)

theorem room_of_bounded {m power : Nat} (digits : m < 10 ^ 17)
    (bounded : m * 10 ^ power ≤ 17976931348623157 * 10 ^ 292) :
    m + spare m ≤ roomFor power ∨ power = 292 ∧
      (m = 17976931348623155 ∨ m = 17976931348623156 ∨ m = 17976931348623157) := by
  rcases Nat.lt_or_ge power 292 with low | high
  · clear bounded
    have most := spare_le (m := m) (k := 4) (by omega)
    rw [roomFor, if_pos low]
    omega
  · obtain ⟨k, rfl⟩ := Nat.exists_eq_add_of_le high
    have scaled := scaled_le_of_bounded bounded
    clear bounded
    rw [roomFor, if_neg (by omega), Nat.add_sub_cancel_left]
    cases k with
    | zero =>
        have most := spare_le (m := m) (k := 1) (by omega)
        omega
    | succ k =>
        -- No multiple of ten lies between the two bounds, and what is ten times smaller is exact.
        left
        rw [Nat.pow_succ, ← Nat.mul_assoc] at scaled
        have less : m ≤ m * 10 ^ k := Nat.le_mul_of_pos_right _ (Nat.pow_pos (by decide))
        have kept : spare m = 0 := if_pos (by omega)
        rw [kept, Nat.add_zero, Nat.le_div_iff_mul_le (Nat.pow_pos (by decide)), Nat.pow_succ,
          ← Nat.mul_assoc]
        omega

theorem isSome_scale {m : Nat} {power : Int} (digits : m < 10 ^ 17)
    (bounded : m * 10 ^ power.toNat ≤ 17976931348623157 * 10 ^ 292) (steps : Nat) :
    (scale steps m.toUInt64.toFloat power).isSome = true := by
  rcases Int.lt_or_le power 0 with negative | natural
  · exact isSome_scale_of_neg steps _ negative
  · obtain ⟨power, rfl⟩ := Int.eq_ofNat_of_zero_le natural
    rw [Int.toNat_natCast] at bounded
    rcases Nat.eq_zero_or_pos m with rfl | positive
    · unfold scale
      rw [Int.natAbs_natCast]
      by_cases near : power ≤ powerLimit
      · have finite := isInf_mul_of_zero (f := (0 : Nat).toUInt64.toFloat) (s := .positive) rfl
          (Nat.lt_succ_of_le near)
        rw [if_pos near, if_neg (by omega), finite]
        rfl
      · rw [if_neg near]
        rfl
    · have tabled := power_lt_of_bounded positive bounded
      have room := room_of_bounded digits bounded
      -- The three significands next to that of the largest double are rounded one by one.
      have same : m.toUInt64.toNat = m := Nat.mod_eq_of_lt (by omega)
      have finite : (m.toUInt64.toFloat * Float.ofScientific 1 false power).isInf = false := by
        rcases room with room | ⟨rfl, rfl | rfl | rfl⟩
        · exact isInf_toFloat_mul (same.symm ▸ positive) tabled (same.symm ▸ room)
        · decide +kernel
        · decide +kernel
        · decide +kernel
      unfold scale
      rw [if_pos (by unfold powerLimit; omega), if_neg (by omega), Int.natAbs_natCast, finite]
      rfl

end Decimal

namespace Numeral

variable {n : Numeral}

theorem OfDouble.bounded_nat (written : n.OfDouble) :
    n.significand * 10 ^ n.power.toNat ≤ 17976931348623157 * 10 ^ 292 := by
  rcases Int.lt_or_le n.power 0 with negative | natural
  · rw [Int.toNat_of_nonpos (by omega), Nat.pow_zero, Nat.mul_one]
    have digits := written.digits
    omega
  · have bounded := written.bounded
    rw [magnitude, ← Int.toNat_of_nonneg natural, zpow_natCast] at bounded
    exact_mod_cast bounded

theorem OfDouble.ofNumeral? (written : n.OfDouble) :
    Decimal.ofNumeral? n = some ⟨n.significand, n.power⟩ ∨
      Decimal.ofNumeral? n = some ⟨0, 0⟩ := by
  have digits := written.digits
  have decimal : Decimal.ofDigits n.whole n.fraction = ⟨n.significand, -n.fraction.length⟩ :=
    Decimal.ofDigits_eq (Nat.lt_trans digits (by decide))
  rw [Decimal.ofNumeral?, decimal]
  cases given : n.exponent with
  | none =>
      left
      simp only [power, given]
      rw [Int.zero_sub]
  | some e =>
      obtain ⟨negative, run⟩ := e
      have shifted : n.power = (if negative then -(Text.digitsValue run : Int)
          else Text.digitsValue run) - n.fraction.length := by
        rw [power, given]
        cases negative <;> rfl
      simp only
      split_ifs with near behind far
      · left
        rw [shifted, if_pos behind]
        congr 2
        omega
      · left
        rw [shifted, if_neg behind]
        congr 2
        omega
      · exact .inr rfl
      · -- A positive exponent beyond the limit makes the number larger than any double.
        exfalso
        have short := written.short
        rw [List.length_append] at short
        rw [if_neg fun sign => far (.inl sign)] at shifted
        have below := Decimal.power_lt_of_bounded
          (Nat.pos_of_ne_zero fun zero => far (.inr zero)) written.bounded_nat
        unfold Decimal.exponentLimit at near
        omega

theorem OfDouble.isSome_double? (written : n.OfDouble) : n.double?.isSome = true := by
  have finite : ∃ d, Decimal.ofNumeral? n = some d ∧
      (Decimal.scale 3 d.significand.toUInt64.toFloat d.power).isSome = true := by
    rcases written.ofNumeral? with read | zero
    · exact ⟨_, read, Decimal.isSome_scale written.digits written.bounded_nat 3⟩
    · exact ⟨_, zero, Decimal.isSome_scale (m := 0) (by decide) (by omega) 3⟩
  obtain ⟨d, read, scaled⟩ := finite
  obtain ⟨f, scaled⟩ := Option.isSome_iff_exists.mp scaled
  rw [double?, read, Option.bind_eq_bind, Option.bind_some, scaled]
  rfl

end Numeral

/-- How doubles are written: finite ones as numbers, all others as null. -/
structure WritesDoubles (write : UInt64 → Json) : Prop where
  finite : ∀ bits, (Float.ofBits bits).isFinite = true →
    ∃ n : Numeral, n.OfDouble ∧ write bits = .number n
  other : ∀ bits, (Float.ofBits bits).isFinite = false → write bits = .null

namespace WritesDoubles

variable {write : UInt64 → Json} {bits : UInt64}

theorem proper (writes : WritesDoubles write) (bits : UInt64) : Proper (.value (write bits)) := by
  cases finite : (Float.ofBits bits).isFinite with
  | true =>
      obtain ⟨n, written, same⟩ := writes.finite bits finite
      exact same ▸ .number written.proper
  | false => exact writes.other bits finite ▸ .null

theorem asDouble?_of_finite (writes : WritesDoubles write)
    (finite : (Float.ofBits bits).isFinite = true) :
    ∃ read, (write bits).asDouble? = some read := by
  obtain ⟨n, written, same⟩ := writes.finite bits finite
  rw [same]
  exact Option.isSome_iff_exists.mp written.isSome_double?

theorem asDouble?_of_not_finite (writes : WritesDoubles write)
    (other : (Float.ofBits bits).isFinite = false) : (write bits).asDouble? = none := by
  rw [writes.other bits other]
  rfl

end WritesDoubles

end FleetResponse.Json
