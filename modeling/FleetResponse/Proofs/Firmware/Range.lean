import FleetResponse.Device.Filter
import FleetResponse.Proofs.Firmware.Order

namespace FleetResponse

theorem exists_of_isOk {ε α : Type} {result : Except ε α} (h : result.isOk = true) :
    ∃ a, result = .ok a := by
  cases result with
  | error e => cases h
  | ok a => exact ⟨a, rfl⟩

theorem exists_error_iff {ε α : Type} {result : Except ε α} :
    (∃ e, result = .error e) ↔ ¬ result.isOk = true := by
  cases result with
  | error e => exact iff_of_true ⟨e, rfl⟩ Bool.false_ne_true
  | ok a => exact iff_of_false (fun ⟨e, refused⟩ => by cases refused) (not_not_intro rfl)

namespace Firmware

namespace Version

def between (min max : String) (v : Version) : Bool :=
  (Text.allBlank min.toList || le ⟨min⟩ v) && (Text.allBlank max.toList || v.le ⟨max⟩)

theorem le_refl (v : Version) : le v v = true := by
  have equal : compare v v = .eq := Std.ReflCmp.compare_self
  rw [le, equal]
  rfl

theorem le_trans {a b c : Version} (ab : le a b = true) (bc : le b c = true) : le a c = true :=
  compare_trans.isLE_trans ab bc

theorem compare_congr {a b : Version} (alike : same a b = true) (other : Version) :
    compare a other = compare b other ∧ compare other a = compare other b := by
  have equal : compare a b = .eq := beq_iff_eq.mp alike
  exact ⟨Std.TransCmp.congr_left equal, Std.TransCmp.congr_right equal⟩

theorem le_congr {a b : Version} (alike : same a b = true) (other : Version) :
    le a other = le b other ∧ le other a = le other b := by
  obtain ⟨left, right⟩ := compare_congr alike other
  exact ⟨congrArg Ordering.isLE left, congrArg Ordering.isLE right⟩

theorem between_iff {min max : String} {v : Version} : v.between min max = true ↔
    (Text.allBlank min.toList = true ∨ le ⟨min⟩ v = true) ∧
      (Text.allBlank max.toList = true ∨ v.le ⟨max⟩ = true) := by
  rw [between, Bool.and_eq_true, Bool.or_eq_true, Bool.or_eq_true]

theorem between_convex {min max : String} {a b c : Version} (low : a.between min max = true)
    (high : c.between min max = true) (ab : a.le b = true) (bc : b.le c = true) :
    b.between min max = true := by
  obtain ⟨above, -⟩ := between_iff.mp low
  obtain ⟨-, below⟩ := between_iff.mp high
  exact between_iff.mpr ⟨above.imp_right fun floor => le_trans floor ab,
    below.imp_right fun ceiling => le_trans bc ceiling⟩

end Version

namespace Range

variable {min max : String}

theorem contains_eq_between {range : Range} (made : between min max = .ok range) (v : Version) :
    range.contains v = v.between min max := by
  unfold between at made
  split at made
  · obtain rfl := Except.ok.inj made
    simp only [contains, Version.between, bound]
    split <;> split <;> simp_all
  · cases made

theorem contains_congr (range : Range) {a b : Version} (alike : Version.same a b = true) :
    range.contains a = range.contains b := by
  have left (bound : Version) : bound.le a = bound.le b := (Version.le_congr alike bound).2
  have right (bound : Version) : a.le bound = b.le bound := (Version.le_congr alike bound).1
  simp only [contains, left, right]

theorem eq_of_between_error {e : RangeError} (refused : between min max = .error e) :
    e = ⟨min, max⟩ := by
  unfold between at refused
  split at refused
  · cases refused
  · exact (Except.error.inj refused).symm

theorem isOk_between_iff : (between min max).isOk = true ↔ Text.allBlank min.toList = true ∨
    Text.allBlank max.toList = true ∨ Version.le ⟨min⟩ ⟨max⟩ = true := by
  have ordered : (between min max).isOk = true ↔
      ∀ lo ∈ bound min, ∀ hi ∈ bound max, lo.le hi = true := by
    unfold between
    split
    · rename_i inOrder
      exact iff_of_true rfl inOrder
    · rename_i upsideDown
      exact iff_of_false Bool.false_ne_true upsideDown
  rw [ordered]
  unfold bound
  split
  · rename_i blank
    simp [blank]
  · rename_i low
    split
    · rename_i blank
      simp [blank]
    · rename_i high
      simp [low, high]

theorem exists_between_iff :
    (∃ v : Version, v.between min max = true) ↔ (between min max).isOk = true := by
  -- Bounds that can be met at all are met by one of them.
  rw [isOk_between_iff]
  constructor
  · rintro ⟨v, met⟩
    obtain ⟨above, below⟩ := Version.between_iff.mp met
    rcases above with blank | above
    · exact .inl blank
    · exact .inr (below.imp_right fun below => Version.le_trans above below)
  · rintro (blank | blank | ordered)
    · exact ⟨⟨max⟩, Version.between_iff.mpr ⟨.inl blank, .inr (Version.le_refl _)⟩⟩
    · exact ⟨⟨min⟩, Version.between_iff.mpr ⟨.inr (Version.le_refl _), .inl blank⟩⟩
    · exact ⟨⟨min⟩, Version.between_iff.mpr ⟨.inr (Version.le_refl _), .inr ordered⟩⟩

theorem members_eq (min max : String) : (between min max).toOption.map contains =
    if (between min max).isOk then some (fun v => v.between min max) else none := by
  cases made : between min max with
  | error e => rfl
  | ok range => exact congrArg some (funext (contains_eq_between made))

theorem members_congr {text other : String} (alike : Version.same ⟨text⟩ ⟨other⟩ = true)
    (filled : Text.allBlank text.toList = false) (filled' : Text.allBlank other.toList = false)
    (bound : String) :
    (between text bound).toOption.map contains = (between other bound).toOption.map contains ∧
      (between bound text).toOption.map contains =
        (between bound other).toOption.map contains := by
  have congr := Version.le_congr alike
  have low : (between text bound).isOk = (between other bound).isOk := by
    rw [Bool.eq_iff_iff, isOk_between_iff, isOk_between_iff, filled, filled', (congr ⟨bound⟩).1]
  have high : (between bound text).isOk = (between bound other).isOk := by
    rw [Bool.eq_iff_iff, isOk_between_iff, isOk_between_iff, filled, filled', (congr ⟨bound⟩).2]
  simp only [members_eq, low, high, Version.between, filled, filled', congr]
  exact ⟨trivial, trivial⟩

theorem contains_bound {range : Range} (made : between min max = .ok range) {text : String}
    (given : text = min ∨ text = max) (filled : Text.allBlank text.toList = false) :
    range.contains ⟨text⟩ = true := by
  have ordered := isOk_between_iff.mp (show (between min max).isOk = true by rw [made]; rfl)
  rw [contains_eq_between made, Version.between_iff]
  rcases given with rfl | rfl
  · refine ⟨.inr (Version.le_refl _), ?_⟩
    rwa [filled, Bool.false_eq_true, false_or] at ordered
  · refine ⟨?_, .inr (Version.le_refl _)⟩
    rwa [filled, Bool.false_eq_true, false_or] at ordered

end Range

end Firmware

namespace DeviceFilter

open Firmware

variable {className min max : String}

theorem between_named (named : Text.allBlank className.toList = false) :
    between className min max = match Range.between min max with
      | .error e => .error (.emptyRange e)
      | .ok firmware => .ok ⟨className, firmware⟩ := by
  rw [between, named]
  rfl

theorem exists_of_between {filter : DeviceFilter}
    (made : between className min max = .ok filter) :
    ∃ firmware, Range.between min max = .ok firmware ∧ filter = ⟨className, firmware⟩ := by
  unfold between at made
  split at made
  · cases made
  · split at made
    · cases made
    · rename_i firmware ranged
      exact ⟨firmware, ranged, (Except.ok.inj made).symm⟩

theorem picks_iff {filter : DeviceFilter} {device : Device} : filter.picks device = true ↔
    device.className = filter.className ∧ filter.firmware.contains device.firmware = true := by
  rw [picks, Bool.and_eq_true, decide_eq_true_eq]

end DeviceFilter

namespace Firmware

/-- Two texts are refused as bounds just when no version meets both. The range of others holds all
versions between them, and a filter makes the same of them. -/
theorem Range.members_of_between (min max : String) :
    ((∃ e, between min max = .error e) ↔ ¬ ∃ v : Version, v.between min max = true) ∧
    (∀ e, between min max = .error e → e = ⟨min, max⟩) ∧
    (∀ range, between min max = .ok range →
      (∀ v, range.contains v = v.between min max) ∧
      (∀ a b c, range.contains a = true → range.contains c = true → a.le b = true →
        b.le c = true → range.contains b = true) ∧
      (∀ a b, Version.same a b = true → range.contains a = range.contains b) ∧
      ∀ text, text = min ∨ text = max → Text.allBlank text.toList = false →
        range.contains ⟨text⟩ = true) ∧
    ∀ className, Text.allBlank className.toList = false →
      ((∃ filter, DeviceFilter.between className min max = .ok filter) ↔
        ∃ range, between min max = .ok range) ∧
      ∀ filter, DeviceFilter.between className min max = .ok filter →
        ∃ range, between min max = .ok range ∧ ∀ device, filter.picks device = true ↔
          device.className = className ∧ range.contains device.firmware = true := by
  refine ⟨?_, fun e => eq_of_between_error, fun range made => ⟨contains_eq_between made, ?_, ?_,
    fun text => contains_bound made⟩, fun className named => ⟨?_, fun filter made => ?_⟩⟩
  · rw [exists_between_iff, exists_error_iff]
  · intro a b c
    simp only [contains_eq_between made]
    exact Version.between_convex
  · exact fun a b => range.contains_congr
  · constructor
    · rintro ⟨filter, made⟩
      obtain ⟨range, ranged, -⟩ := DeviceFilter.exists_of_between made
      exact ⟨range, ranged⟩
    · rintro ⟨range, ranged⟩
      exact ⟨⟨className, range⟩, by rw [DeviceFilter.between_named named, ranged]⟩
  · obtain ⟨range, ranged, rfl⟩ := DeviceFilter.exists_of_between made
    exact ⟨range, ranged, fun device => DeviceFilter.picks_iff⟩

end Firmware

end FleetResponse
