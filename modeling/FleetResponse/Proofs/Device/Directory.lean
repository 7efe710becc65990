import FleetResponse.Device.Directory

namespace FleetResponse.Directory

structure WellIndexed (dir : Directory) : Prop where
  position_iff : ∀ id i, dir.position? id = some i ↔ (dir.devices[i]?).map (·.id) = some id
  size : dir.index.length = dir.devices.length

def marked (id : DeviceId) (status : DeviceStatus) (device : Device) : Device :=
  if device.id = id then { device with status } else device

@[simp]
theorem marked_id (id : DeviceId) (status : DeviceStatus) (device : Device) :
    (marked id status device).id = device.id := by
  unfold marked
  split <;> rfl

theorem ids_modify (devices : List Device) (i : Nat) (status : DeviceStatus) :
    (devices.modify i ({ · with status })).map (·.id) = devices.map (·.id) := by
  apply List.ext_getElem?
  intro j
  rw [List.getElem?_map, List.getElem?_map, List.getElem?_modify]
  split <;> cases devices[j]? <;> rfl

theorem empty_wellIndexed : empty.WellIndexed where
  position_iff id i := by simp [empty, position?]
  size := rfl

namespace WellIndexed

variable {dir : Directory}

theorem position_of_mem (h : dir.WellIndexed) {device : Device} (member : device ∈ dir.devices) :
    ∃ i, dir.position? device.id = some i ∧ dir.devices[i]? = some device := by
  obtain ⟨i, located⟩ := List.getElem?_of_mem member
  exact ⟨i, (h.position_iff device.id i).mpr (by simp [located]), located⟩

theorem position_eq_none_iff (h : dir.WellIndexed) {id : DeviceId} :
    dir.position? id = none ↔ id ∉ dir.devices.map (·.id) := by
  constructor
  · intro unknown member
    obtain ⟨device, kept, rfl⟩ := List.mem_map.mp member
    obtain ⟨i, position, -⟩ := h.position_of_mem kept
    rw [unknown] at position
    cases position
  · intro absent
    refine Option.eq_none_iff_forall_ne_some.mpr fun i position => absent ?_
    obtain ⟨device, located, named⟩ := Option.map_eq_some_iff.mp ((h.position_iff id i).mp position)
    exact List.mem_map.mpr ⟨device, List.mem_of_getElem? located, named⟩

theorem get_of_mem (h : dir.WellIndexed) {device : Device} (member : device ∈ dir.devices) :
    dir.get device.id = .ok device := by
  obtain ⟨i, position, located⟩ := h.position_of_mem member
  simp only [get, position, located]

theorem eq_of_id_eq (h : dir.WellIndexed) {a b : Device} (a_mem : a ∈ dir.devices)
    (b_mem : b ∈ dir.devices) (same : a.id = b.id) : a = b := by
  obtain ⟨i, i_position, i_located⟩ := h.position_of_mem a_mem
  obtain ⟨j, j_position, j_located⟩ := h.position_of_mem b_mem
  rw [same, j_position] at i_position
  obtain rfl := Option.some.inj i_position
  rw [i_located] at j_located
  exact Option.some.inj j_located

theorem of_ids_eq (h : dir.WellIndexed) {devices : List Device}
    (ids : devices.map (·.id) = dir.devices.map (·.id)) :
    WellIndexed { dir with devices } where
  position_iff id i := by
    rw [← List.getElem?_map, ids, List.getElem?_map]
    exact h.position_iff id i
  size := by
    have lengths := congrArg List.length ids
    rw [List.length_map, List.length_map] at lengths
    exact h.size.trans lengths.symm

theorem register (h : dir.WellIndexed) {device : Device} {after : Directory}
    (registered : dir.register device = .ok after) : after.WellIndexed := by
  unfold Directory.register at registered
  split at registered
  · cases registered
  · rename_i fresh
    obtain rfl := Except.ok.inj registered
    have absent (j : Nat) : (dir.devices[j]?).map Device.id ≠ some device.id := by
      intro located
      have position : dir.position? device.id = some j := (h.position_iff _ j).mpr located
      rw [position] at fresh
      cases fresh
    have last (id : DeviceId) (i : Nat) :
        ((dir.devices ++ [device])[i]?).map Device.id = some id ↔
          (dir.devices[i]?).map Device.id = some id ∨
            i = dir.devices.length ∧ device.id = id := by
      rcases Nat.lt_trichotomy i dir.devices.length with early | rfl | late
      · simp [List.getElem?_append_left early, Nat.ne_of_lt early]
      · simp
      · have beyond : (dir.devices ++ [device]).length ≤ i := by
          rw [List.length_append, List.length_singleton]
          exact late
        simp [List.getElem?_eq_none beyond, List.getElem?_eq_none (Nat.le_of_lt late),
          Nat.ne_of_gt late]
    constructor
    · intro id i
      rw [last, ← h.position_iff]
      by_cases same : id = device.id
      · subst same
        simp only [position?, List.lookup_cons_self, Option.some.injEq, and_true]
        have other : dir.position? device.id ≠ some i := fun position =>
          absent i ((h.position_iff _ i).mp position)
        simp only [position?] at other
        simp [other, eq_comm]
      · have differ : ¬ device.id = id := fun equal => same equal.symm
        have unequal : (id == device.id) = false := beq_false_of_ne same
        simp [position?, List.lookup_cons, unequal, differ]
    · simp [h.size]

theorem setStatus_eq (h : dir.WellIndexed) {id : DeviceId}
    (known : id ∈ dir.devices.map (·.id)) (status : DeviceStatus) :
    dir.setStatus id status =
      .ok { dir with devices := dir.devices.map (marked id status) } := by
  obtain ⟨device, member, rfl⟩ := List.mem_map.mp known
  obtain ⟨i, position, located⟩ := h.position_of_mem member
  simp only [setStatus, position, Except.ok.injEq, mk.injEq, and_true]
  apply List.ext_getElem?
  intro j
  rw [List.getElem?_modify, List.getElem?_map]
  by_cases same : i = j
  · subst same
    simp [located, marked]
  · cases other : dir.devices[j]? with
    | none => simp
    | some d =>
        have differ : d.id ≠ device.id := by
          intro equal
          have named : (dir.devices[j]?).map (·.id) = some device.id := by simp [other, equal]
          have there := (h.position_iff device.id j).mpr named
          rw [position] at there
          exact same (Option.some.inj there)
        simp [same, marked, differ]

theorem setStatus (h : dir.WellIndexed) {id : DeviceId} {status : DeviceStatus}
    {after : Directory} (changed : dir.setStatus id status = .ok after) : after.WellIndexed := by
  unfold Directory.setStatus at changed
  split at changed
  · cases changed
  · obtain rfl := Except.ok.inj changed
    exact h.of_ids_eq (ids_modify dir.devices _ status)

theorem change (h : dir.WellIndexed) {result : Except DirectoryError Directory}
    (kept : ∀ after, result = .ok after → after.WellIndexed) :
    (dir.change result).2.WellIndexed := by
  cases result with
  | error e => exact h
  | ok after => exact kept after rfl

/-! The answers to requests, as far as the identifier is known or not. -/

theorem handle_register_known (h : dir.WellIndexed) {device : Device}
    (known : device.id ∈ dir.devices.map (·.id)) :
    dir.handle (.register device) = (.error (.duplicate device.id), dir) := by
  obtain ⟨i, position⟩ : ∃ i, dir.position? device.id = some i :=
    Option.ne_none_iff_exists'.mp fun unknown => h.position_eq_none_iff.mp unknown known
  simp only [handle, Directory.register, position, Directory.change]

theorem handle_register_unknown (h : dir.WellIndexed) {device : Device}
    (unknown : device.id ∉ dir.devices.map (·.id)) :
    dir.handle (.register device) =
      (.ok (), ⟨dir.devices ++ [device], (device.id, dir.devices.length) :: dir.index⟩) := by
  simp only [handle, Directory.register, h.position_eq_none_iff.mpr unknown, Directory.change]

theorem get_unknown (h : dir.WellIndexed) {id : DeviceId}
    (unknown : id ∉ dir.devices.map (·.id)) : dir.get id = .error (.notFound id) := by
  simp only [get, h.position_eq_none_iff.mpr unknown]

theorem handle_setStatus_known (h : dir.WellIndexed) {id : DeviceId}
    (known : id ∈ dir.devices.map (·.id)) (status : DeviceStatus) :
    dir.handle (.setStatus id status) =
      (.ok (), { dir with devices := dir.devices.map (marked id status) }) := by
  simp only [handle, h.setStatus_eq known, Directory.change]

theorem handle_setStatus_unknown (h : dir.WellIndexed) {id : DeviceId}
    (unknown : id ∉ dir.devices.map (·.id)) (status : DeviceStatus) :
    dir.handle (.setStatus id status) = (.error (.notFound id), dir) := by
  simp only [handle, Directory.setStatus, h.position_eq_none_iff.mpr unknown, Directory.change]

end WellIndexed

theorem handle_wellIndexed {dir : Directory} (h : dir.WellIndexed) (request : Request) :
    (dir.handle request).2.WellIndexed := by
  cases request with
  | register device => exact h.change fun _ registered => h.register registered
  | get id => exact h
  | query filter => exact h
  | setStatus id status => exact h.change fun _ changed => h.setStatus changed

end FleetResponse.Directory
