import FleetResponse.Proofs.Time.Micros

/-!
# The edge of a window

Cutting timestamps to the microsecond keeps their order, so a window loses nothing of what lies
between its two timestamps. Outside of them it only reaches to the ends of their microseconds.
-/

namespace FleetResponse

namespace Timestamp

theorem le_total (s t : Timestamp) : s.le t = true ∨ t.le s = true := by
  rw [le_iff, le_iff]
  omega

theorem le_antisymm {s t : Timestamp} (st : s.le t = true) (ts : t.le s = true) : s = t := by
  rw [le_iff] at st ts
  have s_inside := s.second_lt
  have t_inside := t.second_lt
  cases s
  cases t
  simp only [secondNumber, secondsPerDay, mk.injEq] at *
  omega

theorem storagePrecision_mono {s t : Timestamp} (st : s.le t = true) :
    s.storagePrecision.le t.storagePrecision = true := by
  rw [le_iff] at st ⊢
  simp only [storagePrecision_secondNumber, storagePrecision_nano]
  omega

def KeptBetween (t since till : Timestamp) : Prop :=
  since.storagePrecision.le t.storagePrecision = true ∧
    t.storagePrecision.le till.storagePrecision = true

instance (t since till : Timestamp) : Decidable (t.KeptBetween since till) :=
  inferInstanceAs (Decidable (_ ∧ _))

variable {t since till : Timestamp}

theorem keptBetween_of_between (after : since.le t = true) (before : t.le till = true) :
    t.KeptBetween since till :=
  ⟨storagePrecision_mono after, storagePrecision_mono before⟩

theorem between_or_cut_alike (kept : t.KeptBetween since till) :
    since.le t = true ∧ t.le till = true ∨ t.storagePrecision = since.storagePrecision ∨
      t.storagePrecision = till.storagePrecision := by
  obtain ⟨low, high⟩ := kept
  rcases since.le_total t with after | early
  · rcases t.le_total till with before | late
    · exact .inl ⟨after, before⟩
    · exact .inr (.inr (le_antisymm high (storagePrecision_mono late)))
  · exact .inr (.inl (le_antisymm (storagePrecision_mono early) low))

end Timestamp

namespace Window

variable {since till : Timestamp} {w : Window}

theorem isOk_between_iff : (between since till).isOk = true ↔
    since.storagePrecision.le till.storagePrecision = true := by
  unfold between
  split
  · rename_i inOrder
    exact iff_of_true rfl inOrder
  · rename_i upsideDown
    exact iff_of_false Bool.false_ne_true upsideDown

theorem contains_of_between (made : between since till = .ok w) (t : Timestamp) :
    w.contains t = (since.storagePrecision.le t && t.le till.storagePrecision) := by
  unfold between at made
  split at made
  · obtain rfl := Except.ok.inj made
    rfl
  · cases made

theorem catches_iff (made : between since till = .ok w) (t : Timestamp) :
    w.contains t.storagePrecision = true ↔ t.KeptBetween since till := by
  rw [contains_of_between made, Bool.and_eq_true, Timestamp.KeptBetween]

theorem contains_storagePrecision (w : Window) {t : Timestamp} (inside : w.contains t = true) :
    w.contains t.storagePrecision = true := by
  -- The bounds are at storage precision themselves, and cutting keeps the order.
  obtain ⟨low, high⟩ := Bool.and_eq_true_iff.mp inside
  have low := Timestamp.storagePrecision_mono low
  have high := Timestamp.storagePrecision_mono high
  rw [w.opens_stored] at low
  rw [w.closes_stored] at high
  exact contains_iff.mpr ⟨low, high⟩

end Window

end FleetResponse
