import FleetResponse.Proofs.Firmware.Range
import FleetResponse.Proofs.Fleet.Reachable
import FleetResponse.Proofs.Response.Plan
import FleetResponse.Proofs.Time.Precision

namespace FleetResponse

namespace Incident

structure Valid (incident : Incident) : Prop where
  filter : incident.filter.isOk = true
  window : incident.window.isOk = true

def concerns (incident : Incident) (device : Device) : Bool :=
  device.className = incident.className &&
    device.firmware.between incident.firmwareMin incident.firmwareMax

def reaches (incident : Incident) (devices : List DeviceId) (r : Reading) : Bool :=
  r.status = .accepted && devices.contains r.device &&
    (incident.windowStart.storagePrecision.le r.timestamp &&
      r.timestamp.le incident.windowEnd.storagePrecision)

theorem picks_of_filter {incident : Incident} {filter : DeviceFilter}
    (h : incident.filter = .ok filter) : filter.picks = incident.concerns := by
  obtain ⟨firmware, ranged, rfl⟩ := DeviceFilter.exists_of_between h
  funext device
  rw [DeviceFilter.picks, Firmware.Range.contains_eq_between ranged]
  rfl

theorem affects_of_window {incident : Incident} {window : Window}
    (h : incident.window = .ok window) (devices : List DeviceId) :
    ReadingStore.affects devices window = incident.reaches devices := by
  funext r
  rw [ReadingStore.affects, reaches, Window.contains_of_between h]

end Incident

namespace Fleet

/-! ## The directory -/

def suspendedIn (ids : List DeviceId) (device : Device) : Device :=
  if device.id ∈ ids then { device with status := .suspended } else device

theorem suspendedIn_nil : suspendedIn [] = id :=
  funext fun _ => if_neg List.not_mem_nil

theorem suspendedIn_marked (id : DeviceId) (ids : List DeviceId) (device : Device) :
    suspendedIn ids (Directory.marked id .suspended device) =
      suspendedIn (id :: ids) device := by
  unfold suspendedIn Directory.marked
  by_cases first : device.id = id <;> simp [first]

theorem suspendedIn_picked {dir : Directory} (indexed : dir.WellIndexed) (p : Device → Bool)
    {device : Device} (member : device ∈ dir.devices) :
    suspendedIn ((dir.devices.filter p).map (·.id)) device =
      if p device then { device with status := .suspended } else device := by
  have named : device.id ∈ (dir.devices.filter p).map (·.id) ↔ p device = true := by
    constructor
    · intro among
      obtain ⟨other, picked, same⟩ := List.mem_map.mp among
      obtain ⟨other_member, passes⟩ := List.mem_filter.mp picked
      exact indexed.eq_of_id_eq other_member member same ▸ passes
    · intro passes
      exact List.mem_map.mpr ⟨device, List.mem_filter.mpr ⟨member, passes⟩, rfl⟩
  unfold suspendedIn
  by_cases passes : p device = true
  · rw [if_pos (named.mpr passes), if_pos passes]
  · rw [if_neg (passes ∘ named.mp), if_neg passes]

variable {fleet : Fleet} {dir : Directory} {store : ReadingStore} {outbox : Outbox}

theorem suspendAll_run (h : fleet.Holds dir store outbox) (indexed : dir.WellIndexed)
    (devices : List Device) (known : ∀ device ∈ devices, device.id ∈ dir.devices.map (·.id))
    (earlier : List DeviceId) :
    ((suspendAll devices earlier).run capabilities fleet).1 =
        .ok (earlier ++ devices.map (·.id)) ∧
      ((suspendAll devices earlier).run capabilities fleet).2.Holds
        { dir with devices := dir.devices.map (suspendedIn (devices.map (·.id))) }
        store outbox := by
  induction devices generalizing fleet dir earlier with
  | nil =>
      rw [suspendAll, Program.run_note, Program.run_done, List.map_nil, List.append_nil,
        suspendedIn_nil, List.map_id]
      exact ⟨rfl, h.log _⟩
  | cons device devices ih =>
      have here : device.id ∈ dir.devices.map (·.id) := known device (List.mem_cons_self ..)
      obtain ⟨answer, holds⟩ := h.setStatus (indexed.setStatus_eq here .suspended)
      have ids : (dir.devices.map (Directory.marked device.id .suspended)).map (·.id) =
          dir.devices.map (·.id) := by
        rw [List.map_map]
        exact List.map_congr_left fun d _ => Directory.marked_id device.id .suspended d
      have rest : ∀ d ∈ devices, d.id ∈
          (dir.devices.map (Directory.marked device.id .suspended)).map (·.id) := by
        intro d member
        rw [ids]
        exact known d (List.mem_cons_of_mem _ member)
      obtain ⟨result, after⟩ := ih holds (indexed.of_ids_eq ids) rest (earlier ++ [device.id])
      rw [suspendAll, Program.run_call, answer]
      constructor
      · refine result.trans ?_
        rw [List.append_assoc, List.map_cons, List.singleton_append]
      · rw [List.map_map] at after
        rw [List.map_cons]
        have folded : suspendedIn (devices.map (·.id)) ∘ Directory.marked device.id .suspended =
            suspendedIn (device.id :: devices.map (·.id)) :=
          funext fun d => suspendedIn_marked device.id _ d
        exact folded ▸ after

/-! ## The whole response -/

theorem treat_run (h : fleet.Holds dir store outbox) (indexed : dir.WellIndexed)
    (incident : Incident) (window : Window) {devices : List Device} (some_found : devices ≠ [])
    (known : ∀ device ∈ devices, device.id ∈ dir.devices.map (·.id)) :
    ((incident.treat window devices).run capabilities fleet).1 =
        .ok ⟨devices.length,
          (store.quarantineWindow (devices.map (·.id)) window incident.reason).1,
          (devices.map (·.owner)).eraseDups.length⟩ ∧
      ((incident.treat window devices).run capabilities fleet).2.Holds
        { dir with devices := dir.devices.map (suspendedIn (devices.map (·.id))) }
        (store.quarantineWindow (devices.map (·.id)) window incident.reason).2
        (outbox.send ((devices.map (·.owner)).eraseDups.map incident.notice)) := by
  obtain ⟨suspended, holds⟩ := suspendAll_run h indexed devices known []
  have some_ids : devices.map (·.id) ≠ [] := by simpa using some_found
  have not_empty : ¬ (devices.map (·.id)).isEmpty = true := by simpa using some_found
  rw [Incident.treat, Program.run_bind, suspended, List.nil_append]
  dsimp only
  rw [if_neg not_empty, Program.run_call]
  obtain ⟨counted, holds⟩ := holds.quarantineWindow some_ids window incident.reason
  rw [counted]
  dsimp only
  rw [Incident.tellOwners_eq incident some_found]
  obtain ⟨told, holds⟩ := holds.notify ((devices.map (·.owner)).eraseDups.map incident.notice)
  rw [Program.run_call, told]
  exact ⟨rfl, holds⟩

theorem respond_run (h : fleet.Holds dir store outbox) (indexed : dir.WellIndexed)
    {incident : Incident} {filter : DeviceFilter} {window : Window}
    (filtered : incident.filter = .ok filter) (timed : incident.window = .ok window) :
    let concerned := dir.devices.filter incident.concerns
    (incident.respond.run capabilities fleet).1 =
        .ok ⟨concerned.length,
          (store.quarantineWindow (concerned.map (·.id)) window incident.reason).1,
          (concerned.map (·.owner)).eraseDups.length⟩ ∧
      (incident.respond.run capabilities fleet).2.Holds
        { dir with devices := dir.devices.map (suspendedIn (concerned.map (·.id))) }
        (store.quarantineWindow (concerned.map (·.id)) window incident.reason).2
        (outbox.send ((concerned.map (·.owner)).eraseDups.map incident.notice)) := by
  intro concerned
  obtain ⟨answer, holds⟩ := (h.log (ResponseLog.start incident)).query filter
  have queried : dir.query filter = concerned :=
    congrArg (dir.devices.filter ·) (Incident.picks_of_filter filtered)
  rw [queried] at answer
  rw [Incident.respond, Program.run_note, Program.run_bind, Program.run_note, Program.run_done,
    Incident.steps, filtered, timed]
  dsimp only
  rw [Program.run_call, answer]
  dsimp only
  rw [Program.run_note]
  replace holds := holds.log (ResponseLog.matched concerned.length)
  cases found : concerned with
  | nil =>
      rw [found] at holds
      rw [List.isEmpty_nil, if_pos rfl, Program.run_done, List.map_nil, suspendedIn_nil,
        ReadingStore.quarantineWindow_nil, List.map_id, List.map_nil, List.eraseDups_nil,
        List.map_nil, Outbox.send, List.append_nil]
      exact ⟨rfl, holds.log _⟩
  | cons device devices =>
      rw [← found]
      have some_found : concerned ≠ [] := found ▸ List.cons_ne_nil _ _
      have known : ∀ d ∈ concerned, d.id ∈ dir.devices.map (·.id) := fun d member =>
        List.mem_map_of_mem (List.mem_filter.mp member).1
      obtain ⟨result, after⟩ := treat_run holds indexed incident window some_found known
      have not_empty : ¬ concerned.isEmpty = true := by simpa using some_found
      rw [if_neg not_empty]
      exact ⟨result, after.log _⟩

/-- The effect of a response with a valid incident. Of the directory only the status of the devices
concerned changes, of the readings only the status and the reason of those reached, and each owner
concerned is sent one notice. -/
theorem respond_effect {fleet : Fleet} (reachable : fleet.Reachable) (running : fleet.Running)
    {incident : Incident} (valid : incident.Valid) :
    let before := fleet
    let after := (incident.respond.run capabilities fleet).2
    let concerned := before.directory.content.devices.filter incident.concerns
    let reached := incident.reaches (concerned.map (·.id))
    let owners := (concerned.map (·.owner)).eraseDups
    let changed := before.readings.content.changed after.readings.content
    (incident.respond.run capabilities fleet).1 =
        .ok ⟨concerned.length, changed.length, owners.length⟩ ∧
      after.directory.content.devices = before.directory.content.devices.map (fun device =>
        if incident.concerns device then { device with status := .suspended } else device) ∧
      after.directory.content.index = before.directory.content.index ∧
      after.readings.content.readings = before.readings.content.readings.map (fun (id, r) =>
        (id, if reached r then
          { r with status := .quarantined, reason := some incident.reason } else r)) ∧
      changed = (before.readings.content.readings.filter fun (_, r) => reached r).map (·.1) ∧
      after.outbox.content.notices = before.outbox.content.notices ++
        owners.map (fun owner => ⟨owner, Incident.subject, incident.body⟩) ∧
      after.Running := by
  intro before after concerned reached owners changed
  obtain ⟨filter, filtered⟩ := exists_of_isOk valid.filter
  obtain ⟨window, timed⟩ := exists_of_isOk valid.window
  have sound := reachable.sound
  have held : fleet.Holds fleet.directory.content fleet.readings.content fleet.outbox.content :=
    ⟨running, rfl, rfl, rfl⟩
  obtain ⟨result, holds⟩ := respond_run held sound.directory filtered timed
  have affected : ReadingStore.affects (concerned.map (·.id)) window = reached :=
    Incident.affects_of_window timed _
  have changes : changed = (before.readings.content.readings.filter fun (_, r) => reached r).map
      (·.1) := by
    have kept := ReadingStore.changed_quarantineWindow sound.readings (concerned.map (·.id)) window
      incident.reason
    rw [← affected, ← kept]
    exact congrArg fleet.readings.content.changed holds.readings
  refine ⟨?_, ?_, ?_, ?_, changes, ?_, holds.running⟩
  · have counted : changed.length = (fleet.readings.content.quarantineWindow
        (concerned.map (·.id)) window incident.reason).1 := by
      rw [changes, List.length_map, ← affected]
      exact List.countP_eq_length_filter.symm
    rw [counted]
    exact result
  · rw [holds.directory]
    exact List.map_congr_left fun device member =>
      suspendedIn_picked sound.directory incident.concerns member
  · rw [holds.directory]
  · rw [holds.readings, ReadingStore.quarantineWindow_readings, ← affected]
    rfl
  · rw [holds.outbox]
    rfl

def trio : Fleet :=
  let time : Timestamp := .mk 20000 30600 0
  let device (n : Nat) (owner : Nat) (firmware : String) : Device :=
    ⟨.ofNat _ n, .ofNat _ owner, "probe", ⟨firmware⟩, .pending, 1, time⟩
  let reading (n : Nat) (device : Nat) (status : ReadingStatus) : Reading :=
    ⟨.ofNat _ n, .ofNat _ device, 0, time, status, none⟩
  let fleet := (empty.askDirectory (.register (device 1 8 "v1.0"))).2
  let fleet := (fleet.askDirectory (.register (device 2 9 "1.3"))).2
  let fleet := (fleet.askDirectory (.register (device 3 8 "1.2.0-rc.1"))).2
  let fleet := (fleet.askReadings (.record (reading 4 1 .accepted))).2
  let fleet := (fleet.askReadings (.record (reading 5 2 .accepted))).2
  (fleet.askReadings (.record (reading 6 3 .rejected))).2

def flaw : Incident :=
  let time : Timestamp := .mk 20000 30600 0
  ⟨"probe", "1.0.0", "1.2", time, time, "flaw"⟩

theorem trio_reachable : trio.Reachable :=
  ((((((Reachable.empty.askDirectory _).askDirectory _).askDirectory _).askReadings _).askReadings
    _).askReadings _)

theorem trio_running : trio.Running :=
  ⟨rfl, rfl, rfl⟩

theorem flaw_valid : flaw.Valid :=
  ⟨rfl, rfl⟩

theorem respond_effect_trio :
    trio.Reachable ∧ trio.Running ∧ flaw.Valid ∧
      (flaw.respond.run capabilities trio).1 = .ok ⟨2, 1, 1⟩ := by
  obtain ⟨result, -, -, -, changes, -⟩ := respond_effect trio_reachable trio_running flaw_valid
  rw [changes] at result
  exact ⟨trio_reachable, trio_running, flaw_valid, result.trans rfl⟩

end Fleet

end FleetResponse
