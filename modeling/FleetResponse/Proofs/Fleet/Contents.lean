import FleetResponse.Proofs.Fleet.Effect
import FleetResponse.Proofs.Response.CallEffects

namespace FleetResponse

namespace Directory

def suspend (dir : Directory) (ids : List DeviceId) : Directory :=
  { dir with devices := dir.devices.map (Fleet.suspendedIn ids) }

@[simp]
theorem suspendedIn_id (ids : List DeviceId) (device : Device) :
    (Fleet.suspendedIn ids device).id = device.id := by
  unfold Fleet.suspendedIn
  split <;> rfl

@[simp]
theorem suspendedIn_owner (ids : List DeviceId) (device : Device) :
    (Fleet.suspendedIn ids device).owner = device.owner := by
  unfold Fleet.suspendedIn
  split <;> rfl

theorem picks_suspendedIn (filter : DeviceFilter) (ids : List DeviceId) (device : Device) :
    filter.picks (Fleet.suspendedIn ids device) = filter.picks device := by
  unfold Fleet.suspendedIn
  split <;> rfl

@[simp]
theorem suspend_nil (dir : Directory) : dir.suspend [] = dir := by
  rw [suspend, Fleet.suspendedIn_nil, List.map_id]

theorem suspendedIn_suspendedIn (first second : List DeviceId) :
    Fleet.suspendedIn second ∘ Fleet.suspendedIn first = Fleet.suspendedIn (first ++ second) := by
  funext device
  rw [Function.comp_apply]
  unfold Fleet.suspendedIn
  by_cases early : device.id ∈ first <;> by_cases late : device.id ∈ second <;>
    simp [early, late]

theorem suspend_suspend (dir : Directory) (first second : List DeviceId) :
    (dir.suspend first).suspend second = dir.suspend (first ++ second) := by
  rw [suspend, suspend, List.map_map, suspendedIn_suspendedIn, suspend]

theorem suspend_congr (dir : Directory) {ids others : List DeviceId}
    (same : ∀ id, id ∈ ids ↔ id ∈ others) : dir.suspend ids = dir.suspend others := by
  have marks : Fleet.suspendedIn ids = Fleet.suspendedIn others := by
    funext device
    unfold Fleet.suspendedIn
    simp only [same]
  rw [suspend, marks, suspend]

theorem suspend_ids (dir : Directory) (ids : List DeviceId) :
    (dir.suspend ids).devices.map (·.id) = dir.devices.map (·.id) := by
  rw [suspend, List.map_map]
  exact List.map_congr_left fun device _ => suspendedIn_id ids device

theorem WellIndexed.suspend {dir : Directory} (h : dir.WellIndexed) (ids : List DeviceId) :
    (dir.suspend ids).WellIndexed :=
  h.of_ids_eq (dir.suspend_ids ids)

theorem query_suspend (dir : Directory) (ids : List DeviceId) (filter : DeviceFilter) :
    (dir.suspend ids).query filter = (dir.query filter).map (Fleet.suspendedIn ids) := by
  rw [query, suspend, List.filter_map]
  have picks : filter.picks ∘ Fleet.suspendedIn ids = filter.picks :=
    funext fun device => picks_suspendedIn filter ids device
  rw [picks, query]

theorem setStatus_suspended {dir : Directory} (h : dir.WellIndexed) (id : DeviceId) :
    dir.setStatus id .suspended = .ok (dir.suspend [id]) ∨
      dir.setStatus id .suspended = .error (.notFound id) := by
  cases position : dir.position? id with
  | none => exact Or.inr (by rw [setStatus, position])
  | some i =>
      have known : id ∈ dir.devices.map (·.id) := by
        obtain ⟨device, located, same⟩ := Option.map_eq_some_iff.mp
          ((h.position_iff id i).mp position)
        exact List.mem_map.mpr ⟨device, List.mem_of_getElem? located, same⟩
      have marks : marked id .suspended = Fleet.suspendedIn [id] := by
        funext device
        simp only [marked, Fleet.suspendedIn, List.mem_singleton]
      exact Or.inl (by rw [h.setStatus_eq known, marks, suspend])

end Directory

/-! ## Contents -/

structure Contents where
  directory : Directory
  readings : ReadingStore
  outbox : Outbox

namespace Contents

def answer (contents : Contents) : (request : Call) → request.Answer × Contents
  | .query filter => (.ok (contents.directory.query filter), contents)
  | .setStatus id status =>
      let (answer, directory) := contents.directory.handle (.setStatus id status)
      (answer, { contents with directory })
  | .quarantine devices window reason =>
      let (affected, readings) := contents.readings.quarantineWindow devices window reason
      (.ok affected, { contents with readings })
  | .notify batch => (.ok (), { contents with outbox := contents.outbox.send batch })

section

variable (offered : Call → Prop) (faulty : Prop)

/-- A call that is offered is answered by the stores. A call may fail, and leave no trace, if it is
not offered or if there are faults. -/
def Takes (before : Contents) (call : AnsweredCall) (after : Contents) : Prop :=
  (offered call.request ∧ (call.answer, after) = before.answer call.request) ∨
    ((faulty ∨ ¬ offered call.request) ∧ call.failed = true ∧ after = before)

inductive Replays : Contents → List AnsweredCall → Contents → Prop
  | nil (contents : Contents) : Replays contents [] contents
  | cons {before middle after : Contents} {call : AnsweredCall} {made : List AnsweredCall}
      (first : Takes offered faulty before call middle) (rest : Replays middle made after) :
      Replays before (call :: made) after

end

structure Effect (before : Contents) (made : List AnsweredCall) (after : Contents) : Prop where
  directory : after.directory = before.directory.suspend (made.flatMap (·.suspends))
  readings : before.readings.sweepAll ((made.flatMap (·.sweeps)).map (·.1)) =
    ((made.flatMap (·.sweeps)).map (·.2), after.readings)
  outbox : after.outbox = before.outbox.send (made.flatMap (·.sends)).flatten
  found : ∀ filter devices, ⟨.query filter, .ok devices⟩ ∈ made →
    ∃ ids, devices = (before.directory.query filter).map (Fleet.suspendedIn ids)

variable {before middle after : Contents} {offered : Call → Prop} {faulty : Prop}
  {call : AnsweredCall} {made more : List AnsweredCall}

theorem Replays.append (h : Replays offered faulty before made middle)
    (rest : Replays offered faulty middle more after) :
    Replays offered faulty before (made ++ more) after := by
  induction h with
  | nil contents => exact rest
  | cons first _ ih => exact .cons first (ih rest)

theorem Replays.of_append (h : Replays offered faulty before (made ++ more) after) :
    ∃ middle, Replays offered faulty before made middle ∧
      Replays offered faulty middle more after := by
  induction made generalizing before with
  | nil => exact ⟨before, .nil before, h⟩
  | cons call made ih =>
      cases h with
      | cons first rest =>
          obtain ⟨middle, early, late⟩ := ih rest
          exact ⟨middle, .cons first early, late⟩

theorem Effect.refl (contents : Contents) : Effect contents [] contents :=
  ⟨by simp, rfl, by simp [Outbox.send], nofun⟩

theorem Effect.trans (h : Effect before made middle) (rest : Effect middle more after) :
    Effect before (made ++ more) after where
  directory := by
    rw [rest.directory, h.directory, Directory.suspend_suspend, List.flatMap_append]
  readings := by
    rw [List.flatMap_append, List.map_append, List.map_append, ReadingStore.sweepAll_append,
      h.readings, rest.readings]
  outbox := by
    rw [rest.outbox, h.outbox, List.flatMap_append, List.flatten_append, Outbox.send, Outbox.send,
      Outbox.send, List.append_assoc]
  found filter devices member := by
    rcases List.mem_append.mp member with early | late
    · exact h.found filter devices early
    · obtain ⟨ids, rfl⟩ := rest.found filter devices late
      rw [h.directory, Directory.query_suspend, List.map_map, Directory.suspendedIn_suspendedIn]
      exact ⟨_, rfl⟩

theorem Effect.of_failed (h : call.failed = true) : Effect before [call] before := by
  obtain ⟨suspends, sweeps, sends⟩ := AnsweredCall.nothing_of_failed h
  constructor
  · simp [suspends]
  · simp [sweeps, ReadingStore.sweepAll]
  · simp [sends, Outbox.send]
  · intro filter devices member
    obtain rfl := List.mem_singleton.mp member
    cases h

theorem Takes.effect (indexed : before.directory.WellIndexed)
    (known : call.request.ofResponse = true) (h : Takes offered faulty before call after) :
    Effect before [call] after := by
  rcases h with ⟨-, answered⟩ | ⟨-, failed, rfl⟩
  · obtain ⟨request, answer⟩ := call
    cases request with
    | query filter =>
        obtain ⟨rfl, rfl⟩ := Prod.mk.inj answered
        refine ⟨by simp [AnsweredCall.suspends], rfl, by simp [AnsweredCall.sends, Outbox.send],
          ?_⟩
        intro other devices member
        cases List.mem_singleton.mp member
        exact ⟨[], by rw [Fleet.suspendedIn_nil, List.map_id]⟩
    | setStatus id status =>
        obtain rfl : status = .suspended := of_decide_eq_true known
        dsimp only at answered
        rw [Contents.answer, Directory.handle] at answered
        rcases Directory.setStatus_suspended indexed id with done | unknown
        · rw [done] at answered
          obtain ⟨rfl, rfl⟩ := Prod.mk.inj answered
          exact ⟨rfl, rfl, by simp [AnsweredCall.sends, Outbox.send], by simp⟩
        · rw [unknown] at answered
          obtain ⟨rfl, rfl⟩ := Prod.mk.inj answered
          exact Effect.of_failed rfl
    | quarantine devices window reason =>
        obtain ⟨rfl, rfl⟩ := Prod.mk.inj answered
        exact ⟨by simp [AnsweredCall.suspends], rfl, by simp [AnsweredCall.sends, Outbox.send],
          by simp⟩
    | notify batch =>
        obtain ⟨rfl, rfl⟩ := Prod.mk.inj answered
        exact ⟨by simp [AnsweredCall.suspends], rfl, by simp [AnsweredCall.sends], by simp⟩
  · exact Effect.of_failed failed

theorem Replays.effect (indexed : before.directory.WellIndexed)
    (known : ∀ call ∈ made, call.request.ofResponse = true)
    (h : Replays offered faulty before made after) : Effect before made after := by
  induction h with
  | nil contents => exact Effect.refl contents
  | @cons before middle after call made first rest ih =>
      obtain ⟨here, later⟩ := List.forall_mem_cons.mp known
      have step := first.effect indexed here
      have indexed' : middle.directory.WellIndexed := step.directory ▸ indexed.suspend _
      exact step.trans (ih indexed' later)

theorem Replays.offers (h : Replays offered faulty before made after) (member : call ∈ made)
    (succeeded : call.failed = false) : offered call.request := by
  induction h with
  | nil contents => cases member
  | cons first rest ih =>
      rcases List.mem_cons.mp member with rfl | later
      · rcases first with ⟨given, -⟩ | ⟨-, failed, -⟩
        · exact given
        · rw [succeeded] at failed
          cases failed
      · exact ih later

def Knows (contents : Contents) : Call → Prop
  | .setStatus id _ => id ∈ contents.directory.devices.map (·.id)
  | _ => True

theorem Takes.succeeds (indexed : before.directory.WellIndexed) (known : before.Knows call.request)
    (given : offered call.request) (h : Takes offered False before call after) :
    call.failed = false := by
  rcases h with ⟨-, answered⟩ | ⟨refused, -⟩
  · obtain ⟨request, answer⟩ := call
    cases request with
    | query filter =>
        obtain ⟨rfl, -⟩ := Prod.mk.inj answered
        rfl
    | setStatus id status =>
        dsimp only at answered
        rw [Contents.answer, Directory.handle, indexed.setStatus_eq known status] at answered
        obtain ⟨rfl, -⟩ := Prod.mk.inj answered
        rfl
    | quarantine devices window reason =>
        obtain ⟨rfl, -⟩ := Prod.mk.inj answered
        rfl
    | notify batch =>
        obtain ⟨rfl, -⟩ := Prod.mk.inj answered
        rfl
  · rcases refused with faulty | kept
    · exact faulty.elim
    · exact absurd given kept

theorem Replays.succeeds (indexed : before.directory.WellIndexed)
    (h : Replays offered False before made after)
    (calls : ∀ call ∈ made, call.request.ofResponse = true ∧ before.Knows call.request ∧
      offered call.request) : ∀ call ∈ made, call.failed = false := by
  induction h with
  | nil contents => simp
  | @cons before middle after call made first rest ih =>
      obtain ⟨⟨responds, known, given⟩, later⟩ := List.forall_mem_cons.mp calls
      have step := first.effect indexed responds
      have indexed' : middle.directory.WellIndexed := step.directory ▸ indexed.suspend _
      refine List.forall_mem_cons.mpr ⟨first.succeeds indexed known given, ih indexed' ?_⟩
      intro call member
      obtain ⟨responds, known, given⟩ := later call member
      refine ⟨responds, ?_, given⟩
      cases request : call.request with
      | setStatus id status =>
          rw [request] at known
          rw [Knows, step.directory, Directory.suspend_ids]
          exact known
      | _ => trivial

variable {incident : Incident} {filter : DeviceFilter} {window : Window}

theorem Effect.agree (h : Effect before made after) {found : List Device}
    (member : ⟨.query filter, .ok found⟩ ∈ made) :
    found.map (·.id) = (before.directory.query filter).map (·.id) ∧
      found.map (·.owner) = (before.directory.query filter).map (·.owner) := by
  obtain ⟨ids, rfl⟩ := h.found filter found member
  rw [List.map_map, List.map_map]
  exact ⟨List.map_congr_left fun device _ => Directory.suspendedIn_id ids device,
    List.map_congr_left fun device _ => Directory.suspendedIn_owner ids device⟩

theorem knows_plan {contents : Contents} {devices : List Device}
    (known : ∀ device ∈ devices, device.id ∈ contents.directory.devices.map (·.id)) :
    ∀ request ∈ Call.query filter :: incident.plan window devices, contents.Knows request := by
  intro request member
  rcases List.mem_cons.mp member with rfl | planned
  · trivial
  · unfold Incident.plan at planned
    split at planned
    · cases planned
    · rcases List.mem_append.mp planned with suspension | last
      · obtain ⟨device, found, rfl⟩ := List.mem_map.mp suspension
        exact known device found
      · simp only [List.mem_cons, List.not_mem_nil, or_false] at last
        rcases last with rfl | rfl <;> trivial

theorem Replays.response_succeeds (filtered : incident.filter = .ok filter)
    (timed : incident.window = .ok window) (indexed : before.directory.WellIndexed)
    (h : Replays offered False before made after) {result : Except ResponseError Summary}
    (ends : incident.respond.Ends made result)
    (given : ∀ request ∈ Call.query filter :: incident.plan window
      (before.directory.query filter), offered request) : ∃ summary, result = .ok summary := by
  have session := Incident.session_of_ends filtered timed ends
  have effect := h.effect indexed session.ofResponse
  have known : ∀ request ∈ Call.query filter :: incident.plan window
      (before.directory.query filter), before.Knows request :=
    knows_plan fun device found => List.mem_map_of_mem (List.mem_filter.mp found).1
  refine session.succeeds_iff.mpr (h.succeeds indexed fun call member => ?_)
  have planned := session.requests (fun _ made => effect.agree made) call member
  exact ⟨session.ofResponse call member, known _ planned, given _ planned⟩

theorem idle_sweep (incident : Incident) (window : Window) (store : ReadingStore) :
    store.sweep (incident.sweep window []) = (0, store) :=
  store.quarantineWindow_nil window incident.reason

theorem Effect.success (h : Effect before made after) {devices : List Device} {summary : Summary}
    (effects : incident.CallEffects window devices made (.ok summary)) :
    summary = ⟨devices.length, (before.readings.sweep (incident.sweep window devices)).1,
        (devices.map (·.owner)).eraseDups.length⟩ ∧
      after = ⟨before.directory.suspend (devices.map (·.id)),
        (before.readings.sweep (incident.sweep window devices)).2,
        before.outbox.send (incident.batch devices)⟩ := by
  obtain ⟨suspended, swept, total⟩ := effects.summary summary rfl
  have directory := suspended ▸ h.directory
  have readings := h.readings
  have outbox := h.outbox
  rw [swept] at readings
  rw [effects.sent] at outbox
  obtain ⟨after_directory, after_readings, after_outbox⟩ := after
  obtain rfl : after_directory = _ := directory
  by_cases none_found : devices = []
  · subst none_found
    rw [if_pos rfl] at readings
    obtain ⟨counts, rfl⟩ := Prod.mk.inj readings
    obtain rfl : after_outbox = before.outbox := by simpa [Outbox.send] using outbox
    rw [total, ← counts, idle_sweep]
    exact ⟨rfl, by simp [Incident.batch, Outbox.send]⟩
  · have once : before.readings.sweepAll [incident.sweep window devices] =
        ([(before.readings.sweep (incident.sweep window devices)).1],
          (before.readings.sweep (incident.sweep window devices)).2) := rfl
    rw [if_neg none_found, once] at readings
    obtain ⟨counts, rfl⟩ := Prod.mk.inj readings
    rw [if_pos ⟨rfl, none_found⟩] at outbox
    obtain rfl : after_outbox = _ := outbox
    rw [total, ← counts]
    exact ⟨by simp, by simp⟩

end Contents

end FleetResponse
