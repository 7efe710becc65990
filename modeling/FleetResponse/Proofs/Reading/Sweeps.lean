import Mathlib.Algebra.GroupWithZero.Nat
import FleetResponse.Proofs.Reading.Store

namespace FleetResponse

structure Sweep where
  devices : List DeviceId
  window : Window
  reason : String

def Sweep.affects (sweep : Sweep) : Reading → Bool :=
  ReadingStore.affects sweep.devices sweep.window

namespace ReadingStore

def sweep (store : ReadingStore) (sweep : Sweep) : Nat × ReadingStore :=
  store.quarantineWindow sweep.devices sweep.window sweep.reason

def sweepAll (store : ReadingStore) : List Sweep → List Nat × ReadingStore
  | [] => ([], store)
  | first :: sweeps =>
      let (count, store) := store.sweep first
      let (counts, store) := store.sweepAll sweeps
      (count :: counts, store)

def settled (sweeps : List Sweep) (r : Reading) : Reading :=
  match sweeps.find? (·.affects r) with
  | some sweep => r.quarantined sweep.reason
  | none => r

theorem affects_quarantined (sweep : Sweep) (reason : String) (r : Reading) :
    sweep.affects (r.quarantined reason) = false := by
  simp [Sweep.affects, affects, Reading.quarantined]

theorem find_quarantined (sweeps : List Sweep) (reason : String) (r : Reading) :
    sweeps.find? (·.affects (r.quarantined reason)) = none :=
  List.find?_eq_none.mpr fun sweep _ => by simp [affects_quarantined sweep reason r]

theorem settled_cons (first : Sweep) (sweeps : List Sweep) (r : Reading) :
    settled (first :: sweeps) r =
      settled sweeps (swept first.devices first.window first.reason r) := by
  unfold settled swept
  rw [List.find?_cons]
  cases affected : first.affects r with
  | true =>
      rw [if_pos (show affects first.devices first.window r = true from affected),
        find_quarantined]
  | false =>
      have spared : ¬ affects first.devices first.window r = true := by
        rw [Sweep.affects] at affected
        simp [affected]
      rw [if_neg spared]

theorem settled_eq_self_iff (sweeps : List Sweep) (r : Reading) :
    settled sweeps r = r ↔ sweeps.any (·.affects r) = false := by
  unfold settled
  cases met : sweeps.find? (·.affects r) with
  | none => simpa using met
  | some sweep =>
      have affected : sweep.affects r = true := by simpa using List.find?_some met
      refine iff_of_false (quarantined_ne (affects_iff.mp affected).1 sweep.reason) ?_
      rw [Bool.not_eq_false, List.any_eq_true]
      exact ⟨sweep, List.mem_of_find?_eq_some met, affected⟩

theorem any_affects_swept (first : Sweep) (sweeps : List Sweep) (r : Reading) :
    sweeps.any (·.affects (swept first.devices first.window first.reason r)) =
      (!first.affects r && sweeps.any (·.affects r)) := by
  unfold swept
  rw [← Sweep.affects]
  cases affected : first.affects r with
  | true => simp [affects_quarantined]
  | false => simp

theorem sweepAll_readings (store : ReadingStore) (sweeps : List Sweep) :
    (store.sweepAll sweeps).2.readings =
      store.readings.map fun entry => (entry.1, settled sweeps entry.2) := by
  induction sweeps generalizing store with
  | nil => exact (List.map_id _).symm
  | cons first sweeps ih =>
      rw [sweepAll, ih, sweep, quarantineWindow_readings, List.map_map]
      exact List.map_congr_left fun entry _ =>
        congrArg (Prod.mk entry.1) (settled_cons first sweeps entry.2).symm

theorem sweepAll_append (store : ReadingStore) (first second : List Sweep) :
    store.sweepAll (first ++ second) =
      ((store.sweepAll first).1 ++ ((store.sweepAll first).2.sweepAll second).1,
        ((store.sweepAll first).2.sweepAll second).2) := by
  induction first generalizing store with
  | nil => rfl
  | cons sweep first ih => simp only [List.cons_append, sweepAll, ih]

theorem sweep_eq_self {store : ReadingStore} {sweep : Sweep}
    (spared : ∀ entry ∈ store.readings, sweep.affects entry.2 = false) :
    store.sweep sweep = (0, store) := by
  have none_counted :
      (store.readings.countP fun entry => affects sweep.devices sweep.window entry.2) = 0 :=
    List.countP_eq_zero.mpr fun entry member => by
      simpa [Sweep.affects] using spared entry member
  have none_changed : (store.sweep sweep).2.readings = store.readings := by
    rw [ReadingStore.sweep, quarantineWindow_readings]
    refine (List.map_congr_left fun entry member => ?_).trans (List.map_id _)
    rw [swept, if_neg (by simpa [Sweep.affects] using spared entry member)]
    rfl
  exact Prod.ext none_counted (congrArg ReadingStore.mk none_changed)

theorem sweep_sweep (store : ReadingStore) (sweep : Sweep) :
    (store.sweep sweep).2.sweep sweep = (0, (store.sweep sweep).2) := by
  apply sweep_eq_self
  intro entry member
  rw [ReadingStore.sweep, quarantineWindow_readings] at member
  obtain ⟨earlier, -, rfl⟩ := List.mem_map.mp member
  simpa using any_affects_swept sweep [sweep] earlier.2

theorem sweepAll_same (store : ReadingStore) {sweep : Sweep} {sweeps : List Sweep}
    (same : ∀ other ∈ sweeps, other = sweep) :
    (store.sweepAll sweeps).2 = if sweeps = [] then store else (store.sweep sweep).2 := by
  have rest (sweeps : List Sweep) (same : ∀ other ∈ sweeps, other = sweep) :
      ((store.sweep sweep).2.sweepAll sweeps).2 = (store.sweep sweep).2 := by
    induction sweeps with
    | nil => rfl
    | cons first sweeps ih =>
        obtain ⟨rfl, later⟩ := List.forall_mem_cons.mp same
        simp only [sweepAll, sweep_sweep]
        exact ih later
  cases sweeps with
  | nil => rfl
  | cons first sweeps =>
      obtain ⟨rfl, later⟩ := List.forall_mem_cons.mp same
      rw [if_neg (List.cons_ne_nil _ _)]
      exact rest sweeps later

theorem countP_or {α : Type} (p q : α → Bool) (l : List α) :
    l.countP (fun a => p a || q a) = l.countP p + l.countP fun a => !p a && q a := by
  induction l with
  | nil => rfl
  | cons a l ih =>
      simp only [List.countP_cons, ih]
      cases p a <;> cases q a <;> simp <;> omega

theorem find_swept {α : Type} (f : α → Sweep) (first : Sweep) (items : List α) (r : Reading) :
    (items.find? fun a => (f a).affects (swept first.devices first.window first.reason r)) =
      if first.affects r then none else items.find? fun a => (f a).affects r := by
  unfold swept
  rw [← Sweep.affects]
  cases affected : first.affects r with
  | true =>
      rw [if_pos rfl, if_pos rfl]
      exact List.find?_eq_none.mpr fun a _ => by simp [affects_quarantined]
  | false => rfl

theorem sum_counts {α : Type} {items : List α} {f : α → Sweep} {count : α → Nat}
    {store : ReadingStore} (counted : (store.sweepAll (items.map f)).1 = items.map count)
    (picked : α → Bool) : ((items.filter picked).map count).sum =
      store.readings.countP fun entry =>
        (items.find? fun a => (f a).affects entry.2).any picked := by
  induction items generalizing store with
  | nil => simp
  | cons first items ih =>
      simp only [List.map_cons, sweepAll, List.cons.injEq] at counted
      obtain ⟨here, later⟩ := counted
      have rest := ih later
      rw [ReadingStore.sweep, quarantineWindow_readings, List.countP_map] at rest
      have missed : ((items.filter picked).map count).sum = store.readings.countP fun entry =>
          !(f first).affects entry.2 &&
            (items.find? fun a => (f a).affects entry.2).any picked := by
        refine rest.trans (List.countP_congr fun entry _ => ?_)
        rw [Function.comp_apply, find_swept]
        cases (f first).affects entry.2 <;> simp
      have caught : count first = store.readings.countP fun entry => (f first).affects entry.2 :=
        here.symm
      have met : ∀ entry : ReadingId × Reading,
          (((first :: items).find? fun a => (f a).affects entry.2).any picked) =
            (((f first).affects entry.2 && picked first) ||
              (!(f first).affects entry.2 &&
                (items.find? fun a => (f a).affects entry.2).any picked)) := by
        intro entry
        rw [List.find?_cons]
        cases (f first).affects entry.2 <;> simp
      simp only [met]
      cases first_picked : picked first with
      | false => simpa [first_picked] using missed
      | true =>
          rw [List.filter_cons_of_pos first_picked, List.map_cons, List.sum_cons, caught, missed]
          simp only [Bool.and_true]
          rw [countP_or]
          simp

end ReadingStore

end FleetResponse
