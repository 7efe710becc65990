import FleetResponse.Proofs.Device.History

namespace FleetResponse.Directory

namespace WellIndexed

variable {dir : Directory}

theorem position_iff_getElem (h : dir.WellIndexed) {id : DeviceId} {i : Nat} :
    dir.position? id = some i ↔ ∃ inside : i < dir.devices.length, dir.devices[i].id = id := by
  rw [h.position_iff, Option.map_eq_some_iff]
  constructor
  · rintro ⟨device, located, named⟩
    obtain ⟨inside, rfl⟩ := List.getElem?_eq_some_iff.mp located
    exact ⟨inside, named⟩
  · rintro ⟨inside, named⟩
    exact ⟨dir.devices[i], List.getElem?_eq_getElem inside, named⟩

theorem handle_get_at (h : dir.WellIndexed) {i : Nat} (inside : i < dir.devices.length) :
    dir.handle (.get dir.devices[i].id) = (.ok dir.devices[i], dir) :=
  congrArg (·, dir) (h.get_of_mem (List.getElem_mem inside))

theorem handle_setStatus_at (h : dir.WellIndexed) {i : Nat} (inside : i < dir.devices.length)
    (status : DeviceStatus) :
    dir.handle (.setStatus dir.devices[i].id status) =
      (.ok (), { dir with devices := dir.devices.set i { dir.devices[i] with status } }) := by
  have position := h.position_iff_getElem.mpr ⟨inside, rfl⟩
  simp only [handle, Directory.setStatus, position, Directory.change]
  rw [List.modify_eq_set_getElem?]
  simp [List.getElem?_eq_getElem inside]

end WellIndexed

/-! ## What a request adds -/

def ids (dir : Directory) : List DeviceId :=
  dir.devices.map (·.id)

theorem handle_cases (dir : Directory) (request : Request) :
    let after := (dir.handle request).2
    (after.ids = dir.ids ∧ after.index = dir.index) ∨
    ∃ id, dir.position? id = none ∧ after.ids = dir.ids ++ [id] ∧
      after.index = (id, dir.ids.length) :: dir.index := by
  cases request with
  | register device =>
      cases position : dir.position? device.id with
      | none =>
          refine .inr ⟨device.id, position, ?_⟩
          simp [handle, register, position, change, ids]
      | some i => simp [handle, register, position, change]
  | get id => exact .inl ⟨rfl, rfl⟩
  | query filter => exact .inl ⟨rfl, rfl⟩
  | setStatus id status =>
      refine .inl ?_
      cases position : dir.position? id with
      | none => simp [handle, setStatus, position, change]
      | some i =>
          simp only [handle, setStatus, position, change, and_true]
          exact ids_modify dir.devices i status

/-! ## Histories -/

theorem after_index (history : List Request) :
    (after history).index = (after history).ids.zipIdx.reverse := by
  induction history using List.reverseRecOn with
  | nil => rfl
  | append_singleton history request ih =>
      rw [after_snoc]
      rcases handle_cases (after history) request with ⟨ids, index⟩ | ⟨id, -, ids, index⟩
      · rw [ids, index, ih]
      · rw [ids, index, ih, List.zipIdx_append]
        simp

theorem position?_handle {dir : Directory} {id : DeviceId} {i : Nat}
    (position : dir.position? id = some i) (request : Request) :
    (dir.handle request).2.position? id = some i := by
  rcases handle_cases dir request with ⟨-, index⟩ | ⟨fresh, unknown, -, index⟩
  · rwa [position?, index]
  · have other : (id == fresh) = false := by
      refine beq_false_of_ne fun same => ?_
      rw [← same, position] at unknown
      cases unknown
    rw [position?, index, List.lookup_cons, other]
    exact position

theorem position?_after_append {history : List Request} {id : DeviceId} {i : Nat}
    (position : (after history).position? id = some i) (later : List Request) :
    (after (history ++ later)).position? id = some i := by
  induction later using List.reverseRecOn with
  | nil => rwa [List.append_nil]
  | append_singleton later request ih =>
      rw [← List.append_assoc, after_snoc]
      exact position?_handle ih request

/-- After every history the index gives each identifier the place of its device and gives nothing
else, and both hold every identifier once. A place that was given is never given anew, and an
access to it, for reading or for writing, finds the device there. -/
theorem after_index_inverse (history : List Request) :
    let dir := after history
    (∀ id i, dir.position? id = some i ↔
      ∃ inside : i < dir.devices.length, dir.devices[i].id = id) ∧
    (dir.devices.map (·.id)).Nodup ∧ (dir.index.map Prod.fst).Nodup ∧
    dir.index.length = dir.devices.length ∧
    (∀ id i, dir.position? id = some i → ∀ later,
      (after (history ++ later)).position? id = some i) ∧
    (∀ id i, dir.position? id = some i → ∃ inside : i < dir.devices.length,
      dir.handle (.get id) = (.ok dir.devices[i], dir) ∧
      ∀ status, dir.handle (.setStatus id status) =
        (.ok (), { dir with devices := dir.devices.set i { dir.devices[i] with status } })) := by
  intro dir
  have indexed : dir.WellIndexed := after_wellIndexed history
  have distinct : dir.ids.Nodup := by
    rw [ids, after_ids]
    exact enrolled_nodup history
  have keys : dir.index.map Prod.fst = dir.ids.reverse := by
    rw [after_index, List.map_reverse, List.zipIdx_map_fst]
  refine ⟨fun id i => indexed.position_iff_getElem, distinct, ?_, indexed.size,
    fun id i position later => position?_after_append position later, fun id i position => ?_⟩
  · rw [keys]
    exact List.nodup_reverse.mpr distinct
  · obtain ⟨inside, rfl⟩ := indexed.position_iff_getElem.mp position
    exact ⟨inside, indexed.handle_get_at inside, indexed.handle_setStatus_at inside⟩

def probe (id : DeviceId) : Device where
  id
  owner := ⟨9⟩
  className := "probe"
  firmware := ⟨"1.2"⟩
  status := .active
  tier := 1
  createdAt := (Timestamp.of? 20000 0 0).get (by decide)

def probing : List Request :=
  [.register (probe ⟨5⟩), .register (probe ⟨3⟩), .register (probe ⟨5⟩), .setStatus ⟨3⟩ .suspended,
    .setStatus ⟨8⟩ .revoked]

theorem after_index_inverse_probing :
    (after probing).position? ⟨3⟩ = some 1 ∧
    (∀ later, (after (probing ++ later)).position? ⟨3⟩ = some 1) ∧
    ((after probing).handle (.get ⟨3⟩)).1 = .ok { probe ⟨3⟩ with status := .suspended } := by
  have position : (after probing).position? ⟨3⟩ = some 1 := by decide
  obtain ⟨-, -, -, -, stays, reaches⟩ := after_index_inverse probing
  obtain ⟨inside, found, -⟩ := reaches _ _ position
  refine ⟨position, stays _ _ position, ?_⟩
  rw [found]
  rfl

end FleetResponse.Directory
