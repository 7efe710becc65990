import Mathlib.Data.List.Forall2
import FleetResponse.Proofs.Fleet.Effect
import FleetResponse.Proofs.Reading.Sweeps

namespace FleetResponse

namespace Sweep

def catches (sweep : Sweep) (r : Reading) : Bool :=
  sweep.devices.contains r.device && sweep.window.contains r.timestamp

theorem affects_eq (sweep : Sweep) (r : Reading) :
    sweep.affects r = (decide (r.status = .accepted) && sweep.catches r) :=
  Bool.and_assoc ..

structure Alike (a b : Sweep) : Prop where
  devices : ∀ device, device ∈ a.devices ↔ device ∈ b.devices
  window : a.window = b.window

theorem Alike.affects {a b : Sweep} (h : a.Alike b) (r : Reading) : a.affects r = b.affects r := by
  have listed : a.devices.contains r.device = b.devices.contains r.device := by
    rw [Bool.eq_iff_iff, List.contains_iff_mem, List.contains_iff_mem]
    exact h.devices r.device
  rw [affects_eq, affects_eq, catches, catches, listed, h.window]

end Sweep

def Rearranged (sweeps others : List Sweep) : Prop :=
  ∃ reordered, sweeps.Perm reordered ∧ List.Forall₂ Sweep.Alike reordered others

theorem Rearranged.any_affects {sweeps others : List Sweep} (h : Rearranged sweeps others)
    (r : Reading) : sweeps.any (·.affects r) = others.any (·.affects r) := by
  obtain ⟨reordered, order, alike⟩ := h
  rw [order.any_eq]
  clear order
  induction alike with
  | nil => rfl
  | cons first _ ih => rw [List.any_cons, List.any_cons, first.affects r, ih]

namespace ReadingStore

/-- Sweeps over a store, each of which goes through the readings in an order of its own. -/
inductive Rounds : ReadingStore → List Sweep → List Nat → ReadingStore → Prop
  | nil {store after : ReadingStore} (order : after.readings.Perm store.readings) :
      Rounds store [] [] after
  | cons {store found after : ReadingStore} {first : Sweep} {sweeps : List Sweep}
      {counts : List Nat} (order : found.readings.Perm store.readings)
      (rest : Rounds (found.sweep first).2 sweeps counts after) :
      Rounds store (first :: sweeps) ((found.sweep first).1 :: counts) after

def withStatus (store : ReadingStore) (status : ReadingStatus) : List ReadingId :=
  (store.readings.filter fun entry => entry.2.status = status).map (·.1)

theorem settled_status (sweeps : List Sweep) (r : Reading) :
    (settled sweeps r).status =
      if sweeps.any (·.affects r) then .quarantined else r.status := by
  unfold settled
  cases met : sweeps.find? (·.affects r) with
  | none =>
      have spared : ¬ sweeps.any (·.affects r) = true := by simpa using met
      rw [if_neg spared]
  | some sweep =>
      have affects : sweep.affects r = true := by simpa using List.find?_some met
      rw [if_pos (List.any_eq_true.mpr ⟨sweep, List.mem_of_find?_eq_some met, affects⟩)]
      rfl

theorem any_affects_eq (sweeps : List Sweep) (r : Reading) :
    sweeps.any (·.affects r) = (decide (r.status = .accepted) && sweeps.any (·.catches r)) := by
  simp only [Sweep.affects_eq]
  cases decide (r.status = .accepted) <;> simp

theorem find_affects_eq (sweeps : List Sweep) (r : Reading) :
    sweeps.find? (·.affects r) =
      if r.status = .accepted then sweeps.find? (·.catches r) else none := by
  simp only [Sweep.affects_eq]
  split <;> rename_i status <;> simp [status]

theorem status_settled_ne_iff (sweeps : List Sweep) (r : Reading) :
    r.status ≠ (settled sweeps r).status ↔ sweeps.any (·.affects r) = true := by
  rw [settled_status]
  cases affected : sweeps.any (·.affects r) with
  | false => simp
  | true =>
      rw [any_affects_eq, Bool.and_eq_true, decide_eq_true_eq] at affected
      simp [affected.1]

theorem sum_sweepAll (store : ReadingStore) (sweeps : List Sweep) :
    (store.sweepAll sweeps).1.sum =
      store.readings.countP fun entry => sweeps.any (·.affects entry.2) := by
  -- Each reading that some sweep affects is counted by one sweep, the first that affects it.
  induction sweeps generalizing store with
  | nil => simp [sweepAll]
  | cons first sweeps ih =>
      have rest : ((store.sweep first).2.sweepAll sweeps).1.sum = store.readings.countP
          fun entry => !first.affects entry.2 && sweeps.any (·.affects entry.2) := by
        rw [ih, sweep, quarantineWindow_readings, List.countP_map]
        exact List.countP_congr fun entry _ => by
          rw [Function.comp_apply, any_affects_swept]
      simp only [sweepAll, List.sum_cons, List.any_cons]
      rw [rest, countP_or]
      rfl

theorem sweepAll_perm {store other : ReadingStore} (order : store.readings.Perm other.readings)
    (sweeps : List Sweep) :
    (store.sweepAll sweeps).1 = (other.sweepAll sweeps).1 ∧
      (store.sweepAll sweeps).2.readings.Perm (other.sweepAll sweeps).2.readings := by
  constructor
  · induction sweeps generalizing store other with
    | nil => rfl
    | cons first sweeps ih =>
        have after : (store.sweep first).2.readings.Perm (other.sweep first).2.readings := by
          rw [sweep, sweep, quarantineWindow_readings, quarantineWindow_readings]
          exact order.map _
        exact congrArg₂ List.cons (order.countP_eq _) (ih after)
  · rw [sweepAll_readings, sweepAll_readings]
    exact order.map _

theorem rounds_sweepAll (store : ReadingStore) (sweeps : List Sweep) :
    store.Rounds sweeps (store.sweepAll sweeps).1 (store.sweepAll sweeps).2 := by
  induction sweeps generalizing store with
  | nil => exact .nil (.refl _)
  | cons first sweeps ih => exact .cons (.refl _) (ih _)

namespace Rounds

variable {store after : ReadingStore} {sweeps others : List Sweep} {counts : List Nat}

theorem eq_sweepAll (h : Rounds store sweeps counts after) :
    counts = (store.sweepAll sweeps).1 ∧
      after.readings.Perm (store.sweepAll sweeps).2.readings := by
  -- The order in which a store goes through its readings changes no count.
  induction h with
  | nil order => exact ⟨rfl, order⟩
  | @cons store found after first sweeps counts order rest ih =>
      obtain ⟨same, kept⟩ := ih
      obtain ⟨counted, left⟩ := sweepAll_perm order (first :: sweeps)
      exact ⟨(congrArg _ same).trans counted, kept.trans left⟩

theorem sum (h : Rounds store others counts after) (rearranged : Rearranged sweeps others) :
    counts.sum = (store.sweepAll sweeps).1.sum := by
  rw [h.eq_sweepAll.1, sum_sweepAll, sum_sweepAll]
  simp only [rearranged.any_affects]

theorem withStatus (h : Rounds store others counts after) (rearranged : Rearranged sweeps others)
    (status : ReadingStatus) :
    (after.withStatus status).Perm ((store.sweepAll sweeps).2.withStatus status) := by
  have same : (store.sweepAll others).2.withStatus status =
      (store.sweepAll sweeps).2.withStatus status := by
    simp only [ReadingStore.withStatus, sweepAll_readings, List.filter_map, List.map_map,
      Function.comp_def, settled_status, rearranged.any_affects]
  exact same ▸ (h.eq_sweepAll.2.filter _).map _

end Rounds

end ReadingStore

/-! ## Fleets -/

namespace Fleet

def sweepAll (fleet : Fleet) : List Sweep → List (Except QuarantineError Nat) × Fleet
  | [] => ([], fleet)
  | first :: sweeps =>
      let (count, fleet) := fleet.quarantineWindow first.devices first.window first.reason
      let (counts, fleet) := fleet.sweepAll sweeps
      (count :: counts, fleet)

variable {fleet : Fleet}

theorem quarantineWindow_running (running : fleet.readings.running = true)
    (devices : List DeviceId) (window : Window) (reason : String) :
    let swept := fleet.readings.content.quarantineWindow devices window reason
    (fleet.quarantineWindow devices window reason).1 = .ok swept.1 ∧
      (fleet.quarantineWindow devices window reason).2.readings.content = swept.2 ∧
      (fleet.quarantineWindow devices window reason).2.readings.running = true := by
  intro swept
  cases devices with
  | nil =>
      have same : swept = (0, fleet.readings.content) :=
        ReadingStore.quarantineWindow_nil ..
      rw [same]
      exact ⟨rfl, rfl, running⟩
  | cons device devices =>
      simp only [quarantineWindow, List.isEmpty_cons, Bool.false_eq_true, if_false, askReadings,
        Service.ask, if_pos running]
      exact ⟨rfl, rfl, trivial⟩

theorem sweepAll_running (running : fleet.readings.running = true) (sweeps : List Sweep) :
    (fleet.sweepAll sweeps).1 = (fleet.readings.content.sweepAll sweeps).1.map .ok ∧
      (fleet.sweepAll sweeps).2.readings.content =
        (fleet.readings.content.sweepAll sweeps).2 := by
  induction sweeps generalizing fleet with
  | nil => exact ⟨rfl, rfl⟩
  | cons first sweeps ih =>
      obtain ⟨count, content, going⟩ :=
        quarantineWindow_running running first.devices first.window first.reason
      obtain ⟨counts, after⟩ := ih going
      simp only [sweepAll, ReadingStore.sweepAll, ReadingStore.sweep, List.map_cons]
      rw [content] at counts after
      exact ⟨congrArg₂ List.cons count counts, after⟩

/-- Sweeps over a running fleet set aside the accepted readings that some of them catches, each for
the reason of the first that does, and count each of them once. Sweeps rearranged, over the same
readings in any order, come to the same sum and leave the same readings quarantined. -/
theorem sweepAll_first_affecting (running : fleet.readings.running = true) (sweeps : List Sweep) :
    let store := fleet.readings.content
    let after := (fleet.sweepAll sweeps).2.readings.content
    ∃ counts : List Nat, (fleet.sweepAll sweeps).1 = counts.map .ok ∧
      counts.sum = (store.readings.zip after.readings).countP
        (fun (before, after) => before.2.status ≠ after.2.status) ∧
      counts.sum = store.readings.countP
        (fun (_, r) => r.status = .accepted && sweeps.any (·.catches r)) ∧
      after.readings = store.readings.map (fun (id, r) =>
        (id, match if r.status = .accepted then sweeps.find? (·.catches r) else none with
          | some first => { r with status := .quarantined, reason := some first.reason }
          | none => r)) ∧
      ∀ others others_counts others_after, Rearranged sweeps others →
        store.Rounds others others_counts others_after →
          others_counts.sum = counts.sum ∧
            (others_after.withStatus .quarantined).Perm (after.withStatus .quarantined) := by
  intro store after
  obtain ⟨counts, content⟩ := sweepAll_running running sweeps
  have readings : after.readings = store.readings.map fun entry =>
      (entry.1, ReadingStore.settled sweeps entry.2) := by
    rw [← ReadingStore.sweepAll_readings, ← content]
  refine ⟨_, counts, ?_, ?_, ?_, fun others others_counts others_after rearranged rounds => ?_⟩
  · rw [readings, ReadingStore.sum_sweepAll, ← List.map_prod_left_eq_zip, List.countP_map]
    refine List.countP_congr fun entry _ => ?_
    rw [Function.comp_apply, decide_eq_true_eq]
    exact (ReadingStore.status_settled_ne_iff sweeps entry.2).symm
  · rw [ReadingStore.sum_sweepAll]
    simp only [ReadingStore.any_affects_eq]
    rfl
  · rw [readings]
    simp only [ReadingStore.settled, ReadingStore.find_affects_eq]
    rfl
  · have left := rounds.withStatus rearranged .quarantined
    rw [← content] at left
    exact ⟨rounds.sum rearranged, left⟩

def moment : Window :=
  .mk flaw.windowStart flaw.windowEnd

def recalls : List Sweep :=
  [⟨[.ofNat _ 3, .ofNat _ 1, .ofNat _ 1], moment, "first"⟩, ⟨[], moment, "empty"⟩,
   ⟨[.ofNat _ 1, .ofNat _ 2], moment, "second"⟩]

theorem sweepAll_first_affecting_trio :
    let store := trio.readings.content
    let after := (trio.sweepAll recalls).2.readings.content
    trio.readings.running = true ∧ Rearranged recalls recalls.reverse ∧
      (∃ counts : List Nat, (trio.sweepAll recalls).1 = counts.map .ok ∧ counts.sum = 2) ∧
      after.readings.map (fun (_, r) => (r.status, r.reason)) =
        [(.quarantined, some "first"), (.quarantined, some "second"), (.rejected, none)] ∧
      (store.sweepAll recalls.reverse).1.sum = 2 := by
  intro store after
  have running : trio.readings.running = true := rfl
  obtain ⟨counts, answers, -, sum, readings, rounds⟩ := sweepAll_first_affecting running recalls
  have matched : trio.readings.content.readings.countP
      (fun (_, r) => r.status = .accepted && recalls.any (·.catches r)) = 2 := rfl
  have reversed : Rearranged recalls recalls.reverse :=
    ⟨recalls.reverse, recalls.reverse_perm.symm,
      List.forall₂_same.mpr fun _ _ => ⟨fun _ => Iff.rfl, rfl⟩⟩
  refine ⟨running, reversed, ⟨counts, answers, sum.trans matched⟩, ?_, ?_⟩
  · rw [readings]
    rfl
  · have turned := rounds _ _ _ reversed (store.rounds_sweepAll _)
    exact turned.1.trans (sum.trans matched)

end Fleet

end FleetResponse
