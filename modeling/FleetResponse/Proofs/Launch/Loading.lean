import FleetResponse.Launch.Stores
import FleetResponse.Proofs.Device.History
import FleetResponse.Proofs.Fleet.Reachable
import FleetResponse.Proofs.Reading.History

namespace FleetResponse

theorem exists_pair {α β : Type} {p : α × β} {a : α} (first : p.1 = a) : ∃ b, p = (a, b) :=
  ⟨p.2, Prod.ext first rfl⟩

namespace ReadingStore

def recordAll (readings : List Reading) : ReadingStore :=
  readings.foldl record empty

theorem recordAll_concat (readings : List Reading) (r : Reading) :
    recordAll (readings ++ [r]) = (recordAll readings).record r := by
  simp [recordAll]

theorem recordAll_wellKept (readings : List Reading) : (recordAll readings).WellKept := by
  induction readings using List.reverseRecOn with
  | nil => exact empty_wellKept
  | append_singleton readings r ih =>
      rw [recordAll_concat]
      exact record_wellKept ih r

theorem lookup_recordAll (readings : List Reading) (id : ReadingId) :
    (recordAll readings).readings.lookup id = (lastOf? readings id).map Reading.stored := by
  induction readings using List.reverseRecOn with
  | nil => rfl
  | append_singleton readings r ih =>
      rw [recordAll_concat, lookup_record, lastOf?_concat, ih]
      split <;> rfl

theorem keys_recordAll (readings : List Reading) :
    (recordAll readings).readings.map (·.1) = (readings.map (·.id)).eraseDups := by
  induction readings using List.reverseRecOn with
  | nil => rfl
  | append_singleton readings r ih =>
      have known : r.id ∈ readings.map (·.id) ↔ r.id ∈ (recordAll readings).readings.map (·.1) := by
        rw [ih, List.mem_eraseDups]
      rw [recordAll_concat, List.map_append, List.map_singleton, Distinct.eraseDups_concat, ← ih,
        keys_record]
      exact if_congr known.symm rfl rfl

theorem countP_recordAll (p : Reading → Bool) (readings : List Reading) :
    (recordAll readings).readings.countP (fun entry => p entry.2) =
      (readings.map (·.id)).eraseDups.countP fun id =>
        (lastOf? readings id).any fun r => p r.stored := by
  rw [← keys_recordAll, List.countP_map]
  refine List.countP_congr fun entry member => ?_
  have kept := (recordAll_wellKept readings).lookup_eq member
  rw [lookup_recordAll] at kept
  obtain ⟨r, last, stored⟩ := Option.map_eq_some_iff.mp kept
  rw [Function.comp_apply, last, ← stored]
  rfl

theorem lastOf?_of_nodup {readings : List Reading} (distinct : (readings.map (·.id)).Nodup)
    {r : Reading} (listed : r ∈ readings) : lastOf? readings r.id = some r := by
  obtain ⟨before, after, rfl⟩ := List.append_of_mem listed
  rw [List.map_append, List.map_cons, List.nodup_append, List.nodup_cons] at distinct
  obtain ⟨-, ⟨notAfter, -⟩, apart⟩ := distinct
  have front : before.filter (fun other => other.id = r.id) = [] := by
    refine List.filter_eq_nil_iff.mpr fun other member same => ?_
    exact apart _ (List.mem_map_of_mem member) _ List.mem_cons_self (of_decide_eq_true same)
  have back : after.filter (fun other => other.id = r.id) = [] := by
    refine List.filter_eq_nil_iff.mpr fun other member same => notAfter ?_
    exact of_decide_eq_true same ▸ List.mem_map_of_mem member
  rw [lastOf?, List.filter_append, List.filter_cons, front, back]
  simp

theorem countP_last_of_nodup {readings : List Reading} (distinct : (readings.map (·.id)).Nodup)
    (p : Reading → Bool) :
    (readings.map (·.id)).eraseDups.countP (fun id => (lastOf? readings id).any p) =
      readings.countP p := by
  rw [Distinct.eraseDups_of_nodup distinct, List.countP_map]
  refine List.countP_congr fun r member => ?_
  rw [Function.comp_apply, lastOf?_of_nodup distinct member]
  rfl

end ReadingStore

namespace Stores

variable {τ : Type} {stores : Stores τ} {s : τ}

theorem registerAll_ok {device : Device} (done : (stores.register device s).1 = .ok ())
    (devices : List Device) :
    stores.registerAll (device :: devices) s =
      stores.registerAll devices (stores.register device s).2 := by
  obtain ⟨after, same⟩ := exists_pair done
  rw [registerAll, same]

theorem registerAll_error {device : Device} {e : DirectoryError}
    (failed : (stores.register device s).1 = .error e) (devices : List Device) :
    (stores.registerAll (device :: devices) s).1 = .error (.directory e) := by
  obtain ⟨after, same⟩ := exists_pair failed
  rw [registerAll, same]

theorem recordAll_ok {r : Reading} (done : (stores.record r s).1 = .ok ())
    (readings : List Reading) :
    stores.recordAll (r :: readings) s = stores.recordAll readings (stores.record r s).2 := by
  obtain ⟨after, same⟩ := exists_pair done
  rw [recordAll, same]

theorem load_ok {fixtures : Fixtures} (done : (stores.registerAll fixtures.devices s).1 = .ok ()) :
    stores.load fixtures s =
      stores.recordAll fixtures.readings (stores.registerAll fixtures.devices s).2 := by
  obtain ⟨after, same⟩ := exists_pair done
  rw [load, same]

theorem load_error {fixtures : Fixtures} {e : LaunchError}
    (failed : (stores.registerAll fixtures.devices s).1 = .error e) :
    (stores.load fixtures s).1 = .error e := by
  obtain ⟨after, same⟩ := exists_pair failed
  rw [load, same]

end Stores

namespace Fleet

variable {fleet : Fleet} {dir : Directory} {store : ReadingStore} {outbox : Outbox}

theorem Holds.register (h : fleet.Holds dir store outbox) (device : Device) :
    (stores.register device fleet).1 = (dir.handle (.register device)).1 ∧
      (stores.register device fleet).2.Holds (dir.handle (.register device)).2 store outbox := by
  obtain ⟨answer, holds⟩ := h.askDirectory (.register device)
  exact ⟨congrArg (flatten DirectoryError.worker) answer, holds⟩

theorem Holds.record (h : fleet.Holds dir store outbox) (r : Reading) :
    (stores.record r fleet).1 = .ok () ∧
      (stores.record r fleet).2.Holds dir (store.record r) outbox := by
  obtain ⟨answer, holds⟩ := h.askReadings (.record r)
  exact ⟨congrArg (Except.mapError QuarantineError.worker) answer, holds⟩

theorem Holds.register_unknown (h : fleet.Holds dir store outbox) (indexed : dir.WellIndexed)
    {device : Device} (unknown : device.id ∉ dir.devices.map (·.id)) :
    (stores.register device fleet).1 = .ok () ∧
      ∃ after : Directory, after.WellIndexed ∧ after.devices = dir.devices ++ [device] ∧
        (stores.register device fleet).2.Holds after store outbox := by
  obtain ⟨answer, holds⟩ := h.register device
  have kept := Directory.handle_wellIndexed indexed (.register device)
  rw [indexed.handle_register_unknown unknown] at answer holds kept
  exact ⟨answer, _, kept, rfl, holds⟩

theorem not_mem_of_nodup {before after : List Device} {device : Device}
    (distinct : ((before ++ device :: after).map (·.id)).Nodup) :
    device.id ∉ before.map (·.id) := by
  rw [List.map_append, List.nodup_append] at distinct
  exact fun listed => distinct.2.2 _ listed _ List.mem_cons_self rfl

theorem registerAll_run (h : fleet.Holds dir store outbox) (indexed : dir.WellIndexed)
    {devices : List Device} (distinct : ((dir.devices ++ devices).map (·.id)).Nodup) :
    (stores.registerAll devices fleet).1 = .ok () ∧
      ∃ after : Directory, after.WellIndexed ∧ after.devices = dir.devices ++ devices ∧
        (stores.registerAll devices fleet).2.Holds after store outbox := by
  induction devices generalizing fleet dir with
  | nil => exact ⟨rfl, dir, indexed, (List.append_nil _).symm, h⟩
  | cons device devices ih =>
      obtain ⟨answer, next, kept, grown, holds⟩ :=
        h.register_unknown indexed (not_mem_of_nodup distinct)
      rw [List.append_cons, ← grown] at distinct
      rw [Stores.registerAll_ok answer, List.append_cons, ← grown]
      exact ih holds kept distinct

theorem registerAll_repeated (h : fleet.Holds dir store outbox) (indexed : dir.WellIndexed)
    {before after : List Device} {device : Device}
    (distinct : ((dir.devices ++ before).map (·.id)).Nodup)
    (repeated : device.id ∈ (dir.devices ++ before).map (·.id)) :
    (stores.registerAll (before ++ device :: after) fleet).1 =
      .error (.directory (.duplicate device.id)) := by
  -- Nothing that follows the first repetition is looked at.
  induction before generalizing fleet dir with
  | nil =>
      rw [List.append_nil] at repeated
      obtain ⟨answer, -⟩ := h.register device
      rw [indexed.handle_register_known repeated] at answer
      exact Stores.registerAll_error answer after
  | cons first before ih =>
      obtain ⟨answer, next, kept, grown, holds⟩ :=
        h.register_unknown indexed (not_mem_of_nodup distinct)
      rw [List.append_cons, ← grown] at distinct repeated
      rw [List.cons_append, Stores.registerAll_ok answer]
      exact ih holds kept distinct repeated

theorem recordAll_run (h : fleet.Holds dir store outbox) (readings : List Reading) :
    (stores.recordAll readings fleet).1 = .ok () ∧
      (stores.recordAll readings fleet).2.Holds dir (readings.foldl ReadingStore.record store)
        outbox := by
  induction readings generalizing fleet store with
  | nil => exact ⟨rfl, h⟩
  | cons r readings ih =>
      obtain ⟨answer, holds⟩ := h.record r
      rw [Stores.recordAll_ok answer]
      exact ih holds

theorem empty_holds : empty.Holds .empty .empty .empty :=
  ⟨⟨rfl, rfl, rfl⟩, rfl, rfl, rfl⟩

/-! ## Fixtures -/

theorem load_run {fixtures : Fixtures} (distinct : (fixtures.devices.map (·.id)).Nodup) :
    (stores.load fixtures empty).1 = .ok () ∧
      ∃ dir : Directory, dir.WellIndexed ∧ dir.devices = fixtures.devices ∧
        (stores.load fixtures empty).2.Holds dir (ReadingStore.recordAll fixtures.readings)
          .empty := by
  obtain ⟨registered, dir, indexed, devices, holds⟩ :=
    registerAll_run empty_holds Directory.empty_wellIndexed distinct
  obtain ⟨recorded, loaded⟩ := recordAll_run holds fixtures.readings
  rw [Stores.load_ok registered]
  exact ⟨recorded, dir, indexed, devices, loaded⟩

structure FirstRepeated (devices before after : List Device) (device : Device) : Prop where
  split : devices = before ++ device :: after
  distinct : (before.map (·.id)).Nodup
  known : device.id ∈ before.map (·.id)

theorem exists_firstRepeated {devices : List Device}
    (repeats : ¬ (devices.map (·.id)).Nodup) :
    ∃ before after device, FirstRepeated devices before after device := by
  induction devices using List.reverseRecOn with
  | nil => exact absurd List.nodup_nil repeats
  | append_singleton devices last ih =>
      by_cases distinct : (devices.map (·.id)).Nodup
      · refine ⟨devices, [], last, rfl, distinct, ?_⟩
        by_contra unknown
        rw [List.map_append, List.map_singleton, ← List.concat_eq_append] at repeats
        exact repeats (distinct.concat unknown)
      · obtain ⟨before, after, device, rfl, front, known⟩ := ih distinct
        exact ⟨before, after ++ [last], device, by simp, front, known⟩

theorem load_repeated {fixtures : Fixtures} {before after : List Device} {device : Device}
    (first : FirstRepeated fixtures.devices before after device) :
    (stores.load fixtures empty).1 = .error (.directory (.duplicate device.id)) := by
  obtain ⟨split, distinct, known⟩ := first
  apply Stores.load_error
  rw [split]
  exact registerAll_repeated empty_holds Directory.empty_wellIndexed distinct known

end Fleet

end FleetResponse
