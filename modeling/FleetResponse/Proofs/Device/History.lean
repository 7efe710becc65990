import FleetResponse.Proofs.Device.Directory
import FleetResponse.Proofs.Distinct

namespace FleetResponse.Directory

namespace Request

def registered? : Request → Option Device
  | register device => some device
  | _ => none

def given? (id : DeviceId) : Request → Option DeviceStatus
  | setStatus named status => if named = id then some status else none
  | _ => none

end Request

def after (history : List Request) : Directory :=
  history.foldl (fun dir request => (dir.handle request).2) empty

/-- The device first registered under an identifier, with the last status given to it since. -/
def kept? (id : DeviceId) : List Request → Option Device
  | [] => none
  | .register device :: later =>
      if device.id = id then
        some { device with
          status := (later.filterMap (·.given? id)).getLast?.getD device.status }
      else kept? id later
  | _ :: later => kept? id later

def enrolled (history : List Request) : List DeviceId :=
  ((history.filterMap Request.registered?).map (·.id)).eraseDups

def Enlisted (history : List Request) (id : DeviceId) : Prop :=
  ∃ before device later, history = before ++ .register device :: later ∧ device.id = id ∧
    ((after before).handle (.register device)).1 = .ok ()

theorem after_snoc (history : List Request) (request : Request) :
    after (history ++ [request]) = ((after history).handle request).2 := by
  rw [after, List.foldl_append]
  rfl

theorem after_wellIndexed (history : List Request) : (after history).WellIndexed := by
  induction history using List.reverseRecOn with
  | nil => exact empty_wellIndexed
  | append_singleton history request ih =>
      rw [after_snoc]
      exact handle_wellIndexed ih request

/-! ## Entries -/

theorem kept?_id {id : DeviceId} {history : List Request} {device : Device}
    (found : kept? id history = some device) : device.id = id := by
  induction history with
  | nil => cases found
  | cons request later ih =>
      cases request with
      | register first =>
          rw [kept?] at found
          split at found
          · rename_i named
            cases found
            exact named
          · exact ih found
      | _ => exact ih found

theorem kept?_eq_none_iff {id : DeviceId} {history : List Request} :
    kept? id history = none ↔ ∀ device, .register device ∈ history → device.id ≠ id := by
  induction history with
  | nil => simp [kept?]
  | cons request later ih =>
      cases request with
      | register first =>
          rw [kept?]
          by_cases named : first.id = id <;> simp [named, ih]
      | _ => simp [kept?, ih]

theorem kept?_snoc (id : DeviceId) (history : List Request) (request : Request) :
    kept? id (history ++ [request]) = match request with
      | .register device => (kept? id history).or (if device.id = id then some device else none)
      | .setStatus named status => (kept? id history).map (marked named status)
      | _ => kept? id history := by
  induction history with
  | nil => cases request <;> simp [kept?]
  | cons first later ih =>
      cases first with
      | register device =>
          rw [List.cons_append, kept?, kept?, ih]
          by_cases named : device.id = id
          · cases request with
            | setStatus other status =>
                by_cases same : other = id
                · simp [named, same, marked, Request.given?]
                · have differ : ¬ device.id = other := fun equal => same (equal.symm.trans named)
                  simp [named, same, marked, Request.given?, Ne.symm same]
            | _ => simp [named, Request.given?]
          · cases request <;> simp [named]
      | _ => exact ih

theorem enrolled_snoc (history : List Request) (request : Request) :
    enrolled (history ++ [request]) = match request with
      | .register device =>
          if device.id ∈ enrolled history then enrolled history
          else enrolled history ++ [device.id]
      | _ => enrolled history := by
  rw [enrolled, List.filterMap_append, List.map_append]
  cases request with
  | register device =>
      simp only [enrolled, List.mem_eraseDups]
      exact Distinct.eraseDups_concat _ device.id
  | _ => exact congrArg List.eraseDups (List.append_nil _)

theorem enrolled_nodup (history : List Request) : (enrolled history).Nodup :=
  Distinct.nodup_eraseDups _

theorem mem_enrolled_iff {id : DeviceId} {history : List Request} :
    id ∈ enrolled history ↔ ∃ device, .register device ∈ history ∧ device.id = id := by
  rw [enrolled, List.mem_eraseDups, List.mem_map]
  constructor
  · rintro ⟨device, listed, named⟩
    obtain ⟨request, member, registers⟩ := List.mem_filterMap.mp listed
    cases request with
    | register first =>
        cases registers
        exact ⟨device, member, named⟩
    | _ => cases registers
  · rintro ⟨device, member, named⟩
    exact ⟨device, List.mem_filterMap.mpr ⟨_, member, rfl⟩, named⟩

theorem kept?_isSome_iff {id : DeviceId} {history : List Request} :
    (kept? id history).isSome = true ↔ id ∈ enrolled history := by
  rw [← not_iff_not, Option.not_isSome_iff_eq_none, kept?_eq_none_iff, mem_enrolled_iff]
  simp

def entries (history : List Request) : List Device :=
  (enrolled history).filterMap (kept? · history)

theorem entries_ids (history : List Request) : (entries history).map (·.id) = enrolled history := by
  have known : ∀ id ∈ enrolled history, (kept? id history).map (·.id) = some id := by
    intro id member
    obtain ⟨device, found⟩ := Option.isSome_iff_exists.mp (kept?_isSome_iff.mpr member)
    rw [found, Option.map_some, kept?_id found]
  rw [entries, List.map_filterMap, List.filterMap_congr known, List.filterMap_some]

theorem entries_snoc (history : List Request) (request : Request) :
    entries (history ++ [request]) = match request with
      | .register device =>
          if device.id ∈ enrolled history then entries history else entries history ++ [device]
      | .setStatus id status => (entries history).map (marked id status)
      | _ => entries history := by
  rw [entries, enrolled_snoc]
  simp only [kept?_snoc]
  cases request with
  | register device =>
      have kept : ∀ id ∈ enrolled history,
          ((kept? id history).or (if device.id = id then some device else none)) =
            kept? id history := by
        intro id member
        obtain ⟨first, found⟩ := Option.isSome_iff_exists.mp (kept?_isSome_iff.mpr member)
        rw [found, Option.some_or]
      dsimp only
      split
      · exact List.filterMap_congr kept
      · rename_i fresh
        have unknown : kept? device.id history = none :=
          Option.not_isSome_iff_eq_none.mp fun known => fresh (kept?_isSome_iff.mp known)
        rw [List.filterMap_append, List.filterMap_congr kept]
        simp [unknown, entries]
  | setStatus id status => exact List.map_filterMap.symm
  | _ => rfl

/-! ## Directories -/

theorem after_devices (history : List Request) : (after history).devices = entries history := by
  induction history using List.reverseRecOn with
  | nil => rfl
  | append_singleton history request ih =>
      have indexed := after_wellIndexed history
      have ids : (after history).devices.map (·.id) = enrolled history := by rw [ih, entries_ids]
      rw [after_snoc, entries_snoc]
      cases request with
      | register device =>
          by_cases known : device.id ∈ enrolled history
          · rw [indexed.handle_register_known (ids ▸ known)]
            exact ih.trans (if_pos known).symm
          · rw [indexed.handle_register_unknown (ids ▸ known)]
            exact (congrArg (· ++ [device]) ih).trans (if_neg known).symm
      | setStatus id status =>
          by_cases known : id ∈ enrolled history
          · rw [indexed.handle_setStatus_known (ids ▸ known)]
            exact congrArg (List.map (marked id status)) ih
          · rw [indexed.handle_setStatus_unknown (ids ▸ known)]
            have same : (entries history).map (marked id status) = entries history := by
              refine (List.map_congr_left fun device member => if_neg fun named => known ?_).trans
                (List.map_id _)
              rw [← named, ← entries_ids]
              exact List.mem_map_of_mem member
            exact ih.trans same.symm
      | _ => exact ih

theorem after_ids (history : List Request) :
    (after history).devices.map (·.id) = enrolled history := by
  rw [after_devices, entries_ids]

theorem after_registrations {devices : List Device} (distinct : (devices.map (·.id)).Nodup) :
    (after (devices.map .register)).devices = devices := by
  induction devices using List.reverseRecOn with
  | nil => rfl
  | append_singleton devices device ih =>
      rw [List.map_append, List.map_singleton, List.nodup_append] at distinct
      obtain ⟨earlier, -, differ⟩ := distinct
      have registered := ih earlier
      have fresh : device.id ∉ (after (devices.map .register)).devices.map (·.id) := by
        rw [registered]
        exact fun known => differ _ known _ List.mem_cons_self rfl
      rw [List.map_append, List.map_singleton, after_snoc,
        (after_wellIndexed _).handle_register_unknown fresh]
      exact congrArg (· ++ [device]) registered

theorem after_get (history : List Request) (id : DeviceId) :
    (after history).get id = match kept? id history with
      | some device => .ok device
      | none => .error (.notFound id) := by
  have indexed := after_wellIndexed history
  cases found : kept? id history with
  | some device =>
      have listed : id ∈ enrolled history := kept?_isSome_iff.mp (by rw [found]; rfl)
      have member : device ∈ (after history).devices := by
        rw [after_devices]
        exact List.mem_filterMap.mpr ⟨id, listed, found⟩
      rw [← kept?_id found]
      exact indexed.get_of_mem member
  | none =>
      refine indexed.get_unknown fun listed => ?_
      rw [after_ids, ← kept?_isSome_iff, found] at listed
      exact absurd listed Bool.false_ne_true

theorem Enlisted.append {history : List Request} {id : DeviceId} (h : Enlisted history id)
    (more : List Request) : Enlisted (history ++ more) id := by
  obtain ⟨before, device, later, rfl, named, succeeded⟩ := h
  exact ⟨before, device, later ++ more, List.append_assoc .., named, succeeded⟩

theorem enlisted_iff {history : List Request} {id : DeviceId} :
    Enlisted history id ↔ id ∈ enrolled history := by
  constructor
  · rintro ⟨before, device, later, rfl, named, -⟩
    exact mem_enrolled_iff.mpr ⟨device, by simp, named⟩
  · intro listed
    induction history using List.reverseRecOn with
    | nil => cases listed
    | append_singleton history request ih =>
        by_cases earlier : id ∈ enrolled history
        · exact (ih earlier).append [request]
        · obtain ⟨device, member, rfl⟩ := mem_enrolled_iff.mp listed
          have last : request = .register device := by
            rcases List.mem_append.mp member with before | here
            · exact absurd (mem_enrolled_iff.mpr ⟨device, before, rfl⟩) earlier
            · exact (List.mem_singleton.mp here).symm
          subst last
          refine ⟨history, device, [], rfl, rfl, ?_⟩
          rw [(after_wellIndexed history).handle_register_unknown (after_ids history ▸ earlier)]

/-- The answer to every request after every history, and the directory after those that change
nothing. -/
theorem after_answers (history : List Request) :
    let dir := after history
    (∀ device,
      ((dir.handle (.register device)).1 = .error (.duplicate device.id) ↔
        Enlisted history device.id) ∧
      (Enlisted history device.id → (dir.handle (.register device)).2 = dir) ∧
      (¬ Enlisted history device.id → (dir.handle (.register device)).1 = .ok ())) ∧
    (∀ id, dir.handle (.get id) = (match kept? id history with
      | some device => .ok device
      | none => .error (.notFound id), dir)) ∧
    (∀ id, kept? id history = none ↔ ∀ device, .register device ∈ history → device.id ≠ id) ∧
    (∀ id status, kept? id history = none →
      dir.handle (.setStatus id status) = (.error (.notFound id), dir)) ∧
    (∀ id status, kept? id history ≠ none → (dir.handle (.setStatus id status)).1 = .ok ()) ∧
    (∀ filter, dir.handle (.query filter) = ((entries history).filter filter.picks, dir)) ∧
    (entries history).map (·.id) = enrolled history ∧ (enrolled history).Nodup ∧
    (∀ device ∈ entries history, dir.handle (.get device.id) = (.ok device, dir)) := by
  intro dir
  have indexed := after_wellIndexed history
  have unknown_iff (id : DeviceId) :
      kept? id history = none ↔ id ∉ (after history).devices.map (·.id) := by
    rw [after_ids, ← kept?_isSome_iff, Option.not_isSome_iff_eq_none]
  refine ⟨fun device => ?_, fun id => congrArg (·, dir) (after_get history id),
    fun id => kept?_eq_none_iff, fun id status unknown => ?_, fun id status known => ?_,
    fun filter => ?_, entries_ids history, enrolled_nodup history, fun device member => ?_⟩
  · rw [enlisted_iff, ← after_ids]
    by_cases known : device.id ∈ (after history).devices.map (·.id)
    · rw [indexed.handle_register_known known]
      simp [known, dir]
    · rw [indexed.handle_register_unknown known]
      simp [known]
  · exact indexed.handle_setStatus_unknown ((unknown_iff id).mp unknown) status
  · have listed := not_not.mp (mt (unknown_iff id).mpr known)
    exact congrArg Prod.fst (indexed.handle_setStatus_known listed status)
  · rw [← after_devices]
    rfl
  · exact congrArg (·, dir) (indexed.get_of_mem (after_devices history ▸ member))

end FleetResponse.Directory
