import FleetResponse.Fleet
import FleetResponse.Proofs.Device.Directory
import FleetResponse.Proofs.Reading.Store
import FleetResponse.Proofs.Response.Calls

namespace FleetResponse

theorem Service.ask_content {σ α : Type} (service : Service σ) (handle : σ → α × σ) :
    (service.ask handle).2.content = service.content ∨
      (service.ask handle).2.content = (handle service.content).2 := by
  unfold ask
  split
  · exact Or.inr rfl
  · exact Or.inl rfl

namespace Fleet

inductive Reachable : Fleet → Prop
  | empty : Reachable empty
  | askDirectory {fleet : Fleet} (h : Reachable fleet) (request : Directory.Request) :
      Reachable (fleet.askDirectory request).2
  | askReadings {fleet : Fleet} (h : Reachable fleet) (request : ReadingStore.Request) :
      Reachable (fleet.askReadings request).2
  | askOutbox {fleet : Fleet} (h : Reachable fleet) (request : Outbox.Request) :
      Reachable (fleet.askOutbox request).2
  | stopDirectory {fleet : Fleet} (h : Reachable fleet) :
      Reachable { fleet with directory := fleet.directory.shutdown }
  | stopReadings {fleet : Fleet} (h : Reachable fleet) :
      Reachable { fleet with readings := fleet.readings.shutdown }
  | stopOutbox {fleet : Fleet} (h : Reachable fleet) :
      Reachable { fleet with outbox := fleet.outbox.shutdown }
  | log {fleet : Fleet} (h : Reachable fleet) (event : LogEvent) :
      Reachable (capabilities.log event fleet)

structure Sound (fleet : Fleet) : Prop where
  directory : fleet.directory.content.WellIndexed
  readings : fleet.readings.content.WellKept

theorem Reachable.sound {fleet : Fleet} (h : fleet.Reachable) : fleet.Sound := by
  induction h with
  | empty => exact ⟨Directory.empty_wellIndexed, ReadingStore.empty_wellKept⟩
  | @askDirectory fleet h request ih =>
      refine ⟨?_, ih.readings⟩
      rcases fleet.directory.ask_content fun dir => dir.handle request with same | handled
      · exact same ▸ ih.directory
      · exact handled ▸ Directory.handle_wellIndexed ih.directory request
  | @askReadings fleet h request ih =>
      refine ⟨ih.directory, ?_⟩
      rcases fleet.readings.ask_content fun store => store.handle request with same | handled
      · exact same ▸ ih.readings
      · exact handled ▸ ReadingStore.handle_wellKept ih.readings request
  | askOutbox h request ih => exact ⟨ih.directory, ih.readings⟩
  | stopDirectory h ih => exact ⟨ih.directory, ih.readings⟩
  | stopReadings h ih => exact ⟨ih.directory, ih.readings⟩
  | stopOutbox h ih => exact ⟨ih.directory, ih.readings⟩
  | log h event ih => exact ⟨ih.directory, ih.readings⟩

/-! ## Running fleets -/

structure Running (fleet : Fleet) : Prop where
  directory : fleet.directory.running = true
  readings : fleet.readings.running = true
  outbox : fleet.outbox.running = true

structure Holds (fleet : Fleet) (dir : Directory) (store : ReadingStore) (outbox : Outbox) :
    Prop where
  running : fleet.Running
  directory : fleet.directory.content = dir
  readings : fleet.readings.content = store
  outbox : fleet.outbox.content = outbox

namespace Holds

variable {fleet : Fleet} {dir : Directory} {store : ReadingStore} {outbox : Outbox}

theorem log (h : fleet.Holds dir store outbox) (event : LogEvent) :
    (capabilities.log event fleet).Holds dir store outbox :=
  ⟨⟨h.running.directory, h.running.readings, h.running.outbox⟩, h.directory, h.readings, h.outbox⟩

theorem askDirectory (h : fleet.Holds dir store outbox) (request : Directory.Request) :
    (fleet.askDirectory request).1 = .ok (dir.handle request).1 ∧
      (fleet.askDirectory request).2.Holds (dir.handle request).2 store outbox := by
  obtain ⟨running, rfl, readings, outbox⟩ := h
  simp only [Fleet.askDirectory, Service.ask, if_pos running.directory]
  exact ⟨trivial, ⟨rfl, running.readings, running.outbox⟩, rfl, readings, outbox⟩

theorem askReadings (h : fleet.Holds dir store outbox) (request : ReadingStore.Request) :
    (fleet.askReadings request).1 = .ok (store.handle request).1 ∧
      (fleet.askReadings request).2.Holds dir (store.handle request).2 outbox := by
  obtain ⟨running, directory, rfl, outbox⟩ := h
  simp only [Fleet.askReadings, Service.ask, if_pos running.readings]
  exact ⟨trivial, ⟨running.directory, rfl, running.outbox⟩, directory, rfl, outbox⟩

theorem askOutbox (h : fleet.Holds dir store outbox) (request : Outbox.Request) :
    (fleet.askOutbox request).1 = .ok (outbox.handle request).1 ∧
      (fleet.askOutbox request).2.Holds dir store (outbox.handle request).2 := by
  obtain ⟨running, directory, readings, rfl⟩ := h
  simp only [Fleet.askOutbox, Service.ask, if_pos running.outbox]
  exact ⟨trivial, ⟨running.directory, running.readings, rfl⟩, directory, readings, rfl⟩

/-! ## The calls of a response -/

theorem query (h : fleet.Holds dir store outbox) (filter : DeviceFilter) :
    (capabilities.answer (.query filter) fleet).1 = .ok (dir.query filter) ∧
      (capabilities.answer (.query filter) fleet).2.Holds dir store outbox := by
  obtain ⟨answer, holds⟩ := h.askDirectory (.query filter)
  exact ⟨congrArg (Except.mapError DirectoryError.worker) answer, holds⟩

theorem setStatus (h : fleet.Holds dir store outbox) {id : DeviceId} {status : DeviceStatus}
    {after : Directory} (changed : dir.setStatus id status = .ok after) :
    (capabilities.answer (.setStatus id status) fleet).1 = .ok () ∧
      (capabilities.answer (.setStatus id status) fleet).2.Holds after store outbox := by
  obtain ⟨answer, holds⟩ := h.askDirectory (.setStatus id status)
  simp only [Directory.handle, changed, Directory.change] at answer holds
  exact ⟨congrArg (flatten DirectoryError.worker) answer, holds⟩

theorem quarantineWindow (h : fleet.Holds dir store outbox) {devices : List DeviceId}
    (some_given : devices ≠ []) (window : Window) (reason : String) :
    (capabilities.answer (.quarantine devices window reason) fleet).1 =
        .ok (store.quarantineWindow devices window reason).1 ∧
      (capabilities.answer (.quarantine devices window reason) fleet).2.Holds dir
        (store.quarantineWindow devices window reason).2 outbox := by
  obtain ⟨answer, holds⟩ := h.askReadings (.quarantineWindow devices window reason)
  have given : ¬ devices.isEmpty = true := by simpa using some_given
  simp only [capabilities, Fleet.answer, Fleet.quarantineWindow, if_neg given]
  exact ⟨congrArg (Except.mapError QuarantineError.worker) answer, holds⟩

theorem notify (h : fleet.Holds dir store outbox) (batch : List Notice) :
    (capabilities.answer (.notify batch) fleet).1 = .ok () ∧
      (capabilities.answer (.notify batch) fleet).2.Holds dir store (outbox.send batch) := by
  obtain ⟨answer, holds⟩ := h.askOutbox (.send batch)
  exact ⟨congrArg (flatten NotifyError.worker) answer, holds⟩

end Holds

end Fleet

end FleetResponse
