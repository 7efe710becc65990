import FleetResponse.Proofs.Reading.History
import FleetResponse.Proofs.Reading.Sweeps

namespace FleetResponse.ReadingStore

def changedOf (before after : ReadingStore) (devices : List DeviceId) : Nat :=
  (before.changed after).countP fun id =>
    (before.readings.lookup id).any fun r => devices.contains r.device

theorem countP_apart {α : Type} {l : List α} {p q r : α → Bool}
    (parts : ∀ a ∈ l, p a = (q a || r a)) (apart : ∀ a ∈ l, q a = true → r a = false) :
    l.countP p = l.countP q + l.countP r := by
  have rest : ∀ a ∈ l, (!q a && r a) = true ↔ r a = true := by
    intro a member
    cases found : q a with
    | true => simp [apart a member found]
    | false => simp
  have joined : ∀ a ∈ l, p a = true ↔ (q a || r a) = true := by
    intro a member
    rw [parts a member]
  rw [List.countP_congr joined, countP_or, List.countP_congr rest]

section
variable (devices : List DeviceId) (window : Window) (reason : String)

theorem swept_device (r : Reading) : (swept devices window reason r).device = r.device := by
  unfold swept
  split <;> rfl

theorem swept_cases (r : Reading) :
    affects devices window r = true ∧ r.status = .accepted ∧
        (swept devices window reason r).status = .quarantined ∨
      affects devices window r = false ∧
        (swept devices window reason r).status = r.status := by
  -- A window moves a reading that is accepted to those that are quarantined, or lets it stand.
  unfold swept
  cases affected : affects devices window r with
  | true => exact .inl ⟨rfl, (affects_iff.mp affected).1, rfl⟩
  | false => exact .inr ⟨rfl, rfl⟩

theorem count_swept (store : ReadingStore) (listed : List DeviceId) (status : ReadingStatus) :
    (store.quarantineWindow devices window reason).2.count listed status =
      store.readings.countP fun entry => listed.contains entry.2.device &&
        (swept devices window reason entry.2).status = status := by
  rw [count, quarantineWindow_readings, List.countP_map]
  refine List.countP_congr fun entry _ => ?_
  rw [Function.comp_apply, swept_device]

def reached (store : ReadingStore) (listed : List DeviceId) : Nat :=
  store.readings.countP fun entry =>
    affects devices window entry.2 && listed.contains entry.2.device

variable (store : ReadingStore) (listed : List DeviceId)

theorem count_accepted_swept : store.count listed .accepted =
    (store.quarantineWindow devices window reason).2.count listed .accepted +
      reached devices window store listed := by
  rw [count_swept]
  refine countP_apart (fun entry _ => ?_) (fun entry _ spared => ?_)
  · rcases swept_cases devices window reason entry.2 with ⟨affected, was, is⟩ | ⟨idle, same⟩
    · simp [affected, was, is]
    · simp [idle, same]
  · rcases swept_cases devices window reason entry.2 with ⟨-, -, is⟩ | ⟨idle, -⟩
    · simp [is] at spared
    · rw [idle, Bool.false_and]

theorem count_quarantined_swept :
    (store.quarantineWindow devices window reason).2.count listed .quarantined =
      store.count listed .quarantined + reached devices window store listed := by
  rw [count_swept]
  refine countP_apart (fun entry _ => ?_) (fun entry _ aside => ?_)
  · rcases swept_cases devices window reason entry.2 with ⟨affected, was, is⟩ | ⟨idle, same⟩
    · simp [affected, was, is]
    · simp [idle, same]
  · rcases swept_cases devices window reason entry.2 with ⟨-, was, -⟩ | ⟨idle, -⟩
    · simp [was] at aside
    · rw [idle, Bool.false_and]

theorem reached_le :
    reached devices window store listed ≤ (store.quarantineWindow devices window reason).1 :=
  List.countP_mono_left fun _ _ both => (Bool.and_eq_true_iff.mp both).1

theorem reached_all (all : ∀ d ∈ devices, d ∈ listed) :
    reached devices window store listed = (store.quarantineWindow devices window reason).1 := by
  refine List.countP_congr fun entry _ => ?_
  rw [Bool.and_eq_true]
  refine and_iff_left_of_imp fun affected => ?_
  exact List.contains_iff_mem.mpr (all _ (affects_iff.mp affected).2.1)

theorem reached_none (none : ∀ d ∈ devices, d ∉ listed) :
    reached devices window store listed = 0 := by
  refine List.countP_eq_zero.mpr fun entry _ both => ?_
  obtain ⟨affected, isListed⟩ := Bool.and_eq_true_iff.mp both
  exact none _ (affects_iff.mp affected).2.1 (List.contains_iff_mem.mp isListed)

theorem changedOf_quarantineWindow {store : ReadingStore} (h : store.WellKept) :
    store.changedOf (store.quarantineWindow devices window reason).2 listed =
      reached devices window store listed := by
  rw [changedOf, changed_quarantineWindow h, List.countP_map, List.countP_filter]
  refine List.countP_congr fun entry member => ?_
  rw [Function.comp_apply, h.lookup_eq member, Option.any_some, Bool.and_comm]

end

/-! ## Devices as a set -/

theorem count_congr {store : ReadingStore} {listed others : List DeviceId}
    (same : ∀ d, d ∈ listed ↔ d ∈ others) (status : ReadingStatus) :
    store.count listed status = store.count others status := by
  refine List.countP_congr fun entry _ => ?_
  rw [Bool.and_eq_true, Bool.and_eq_true, List.contains_iff_mem, List.contains_iff_mem, same]

theorem count_append {store : ReadingStore} {listed others : List DeviceId}
    (apart : ∀ d ∈ listed, d ∉ others) (status : ReadingStatus) :
    store.count (listed ++ others) status =
      store.count listed status + store.count others status := by
  refine countP_apart (fun entry _ => ?_) (fun entry _ here => ?_)
  · rw [List.contains_append, Bool.and_or_distrib_right]
  · have isListed := (Bool.and_eq_true_iff.mp here).1
    have absent := apart _ (List.contains_iff_mem.mp isListed)
    simp [absent]

/-- In every state of a store, setting readings of some devices aside takes as many from those that
are accepted of any devices as it adds to those that are quarantined, namely those that it changed
of these devices: none but those that it counts, all of them when it reaches no other devices, and
none when it reaches only others. A quality depends on the set of the devices alone, and is the sum
of those of two parts of it. -/
theorem quality_after_quarantine (history : List Request) :
    let store := after history
    (∀ devices window reason listed,
      let count := (store.quarantineWindow devices window reason).1
      let later := (store.quarantineWindow devices window reason).2
      let moved := store.changedOf later listed
      (store.quality listed).accepted = (later.quality listed).accepted + moved ∧
      (later.quality listed).quarantined = (store.quality listed).quarantined + moved ∧
      moved ≤ count ∧
      ((∀ d ∈ devices, d ∈ listed) → moved = count) ∧
      ((∀ d ∈ devices, d ∉ listed) → moved = 0)) ∧
    (∀ listed others, (∀ d, d ∈ listed ↔ d ∈ others) →
      store.quality listed = store.quality others) ∧
    ∀ listed others, (∀ d ∈ listed, d ∉ others) →
      store.quality (listed ++ others) =
        ⟨(store.quality listed).accepted + (store.quality others).accepted,
          (store.quality listed).quarantined + (store.quality others).quarantined⟩ := by
  intro store
  have kept : store.WellKept := after_wellKept history
  refine ⟨fun devices window reason listed => ?_, fun listed others same => ?_,
    fun listed others apart => ?_⟩
  · intro count later moved
    have same : moved = reached devices window store listed :=
      changedOf_quarantineWindow devices window reason listed kept
    rw [same]
    exact ⟨count_accepted_swept devices window reason store listed,
      count_quarantined_swept devices window reason store listed,
      reached_le devices window reason store listed,
      reached_all devices window reason store listed,
      reached_none devices window store listed⟩
  · rw [quality, quality, count_congr same, count_congr same]
  · rw [quality, count_append apart, count_append apart]
    rfl

end FleetResponse.ReadingStore
