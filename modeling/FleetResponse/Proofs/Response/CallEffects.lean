import FleetResponse.Proofs.Reading.Sweeps
import FleetResponse.Proofs.Response.Session

namespace FleetResponse

namespace AnsweredCall

def suspends : AnsweredCall → List DeviceId
  | ⟨.setStatus id _, .ok ()⟩ => [id]
  | _ => []

def sweeps : AnsweredCall → List (Sweep × Nat)
  | ⟨.quarantine devices window reason, .ok affected⟩ => [(⟨devices, window, reason⟩, affected)]
  | _ => []

def sends : AnsweredCall → List (List Notice)
  | ⟨.notify batch, .ok ()⟩ => [batch]
  | _ => []

theorem nothing_of_failed {call : AnsweredCall} (h : call.failed = true) :
    call.suspends = [] ∧ call.sweeps = [] ∧ call.sends = [] := by
  obtain ⟨request, answer⟩ := call
  cases request <;> cases answer <;> first | exact ⟨rfl, rfl, rfl⟩ | cases h

end AnsweredCall

namespace Incident

def sweep (incident : Incident) (window : Window) (devices : List Device) : Sweep :=
  ⟨devices.map (·.id), window, incident.reason⟩

def batch (incident : Incident) (devices : List Device) : List Notice :=
  (devices.map (·.owner)).eraseDups.map incident.notice

structure CallEffects (incident : Incident) (window : Window) (devices : List Device)
    (made : List AnsweredCall) (result : Except ResponseError Summary) : Prop where
  suspended : ∀ id ∈ made.flatMap (·.suspends), id ∈ devices.map (·.id)
  swept : ∀ entry ∈ made.flatMap (·.sweeps), entry.1 = incident.sweep window devices
  sent : made.flatMap (·.sends) =
    if result.isOk ∧ devices ≠ [] then [incident.batch devices] else []
  summary : ∀ summary, result = .ok summary →
    made.flatMap (·.suspends) = devices.map (·.id) ∧
      (made.flatMap (·.sweeps)).map (·.1) =
        (if devices = [] then [] else [incident.sweep window devices]) ∧
      summary = ⟨devices.length, ((made.flatMap (·.sweeps)).map (·.2)).sum,
        (devices.map (·.owner)).eraseDups.length⟩

theorem suspends_suspensions (devices : List Device) (more : List AnsweredCall) :
    (suspensions devices ++ more).flatMap (·.suspends) =
      devices.map (·.id) ++ more.flatMap (·.suspends) := by
  induction devices with
  | nil => rfl
  | cons device devices ih => exact congrArg (device.id :: ·) ih

theorem sweeps_suspensions (devices : List Device) (more : List AnsweredCall) :
    (suspensions devices ++ more).flatMap (·.sweeps) = more.flatMap (·.sweeps) := by
  induction devices with
  | nil => rfl
  | cons device devices ih => exact ih

theorem sends_suspensions (devices : List Device) (more : List AnsweredCall) :
    (suspensions devices ++ more).flatMap (·.sends) = more.flatMap (·.sends) := by
  induction devices with
  | nil => rfl
  | cons device devices ih => exact ih

theorem TreatOutcome.effects {incident : Incident} {window : Window} {devices : List Device}
    {made : List AnsweredCall} {result : Except ResponseError Summary}
    (h : incident.TreatOutcome window devices made result) (some_found : devices ≠ []) :
    incident.CallEffects window devices made result := by
  cases h with
  | notSuspended before device after source =>
      refine ⟨?_, ?_, ?_, nofun⟩
      · rw [suspends_suspensions, List.map_append]
        intro id member
        simp only [AnsweredCall.suspends, List.flatMap_cons, List.flatMap_nil,
          List.append_nil] at member
        exact List.mem_append_left _ member
      · rw [sweeps_suspensions]
        simp [AnsweredCall.sweeps]
      · exact sends_suspensions before _
  | notSetAside devices source =>
      refine ⟨?_, ?_, ?_, nofun⟩
      · rw [suspends_suspensions]
        simp [AnsweredCall.suspends]
      · rw [sweeps_suspensions]
        simp [AnsweredCall.sweeps]
      · exact sends_suspensions devices _
  | notTold devices affected source =>
      refine ⟨?_, ?_, ?_, nofun⟩
      · rw [suspends_suspensions]
        simp [AnsweredCall.suspends]
      · rw [sweeps_suspensions]
        simp [AnsweredCall.sweeps, sweep]
      · exact sends_suspensions devices _
  | treated devices affected =>
      refine ⟨?_, ?_, ?_, ?_⟩
      · rw [suspends_suspensions]
        simp [AnsweredCall.suspends]
      · rw [sweeps_suspensions]
        simp [AnsweredCall.sweeps, sweep]
      · rw [if_pos ⟨rfl, some_found⟩]
        exact sends_suspensions devices _
      · intro summary succeeded
        obtain rfl := Except.ok.inj succeeded
        rw [suspends_suspensions, sweeps_suspensions, if_neg some_found]
        simp [AnsweredCall.suspends, AnsweredCall.sweeps, sweep]

theorem CallEffects.of_agree {incident : Incident} {window : Window} {devices others : List Device}
    {made : List AnsweredCall} {result : Except ResponseError Summary}
    (h : incident.CallEffects window devices made result)
    (ids : devices.map (·.id) = others.map (·.id))
    (owners : devices.map (·.owner) = others.map (·.owner)) :
    incident.CallEffects window others made result := by
  have length : devices.length = others.length := by
    simpa using congrArg List.length ids
  have empty_iff : devices = [] ↔ others = [] := by
    rw [← List.length_eq_zero_iff, length, List.length_eq_zero_iff]
  have swept : incident.sweep window devices = incident.sweep window others := by
    rw [sweep, ids, sweep]
  have sent : incident.batch devices = incident.batch others := by
    rw [batch, owners, batch]
  obtain ⟨suspended, sweeps, sends, summary⟩ := h
  simp only [ids, owners, length, swept, sent, empty_iff, ne_eq] at suspended sweeps sends summary
  exact ⟨suspended, sweeps, sends, summary⟩

theorem Session.effects {incident : Incident} {filter : DeviceFilter} {window : Window}
    {devices : List Device} {made : List AnsweredCall} {result : Except ResponseError Summary}
    (h : incident.Session filter window made result)
    (agree : ∀ found, ⟨.query filter, .ok found⟩ ∈ made →
      found.map (·.id) = devices.map (·.id) ∧ found.map (·.owner) = devices.map (·.owner)) :
    incident.CallEffects window devices made result := by
  cases h with
  | notFound source =>
      exact ⟨by simp [AnsweredCall.suspends], by simp [AnsweredCall.sweeps], rfl, nofun⟩
  | idle =>
      obtain rfl : devices = [] := by
        simpa using (agree [] (List.mem_singleton.mpr rfl)).1.symm
      refine ⟨by simp [AnsweredCall.suspends], by simp [AnsweredCall.sweeps],
        by simp [AnsweredCall.sends], ?_⟩
      intro summary succeeded
      obtain rfl := Except.ok.inj succeeded
      exact ⟨rfl, rfl, rfl⟩
  | @treated found made result some_found outcome =>
      obtain ⟨ids, owners⟩ := agree found (List.mem_cons_self ..)
      obtain ⟨suspended, swept, sent, summary⟩ := outcome.effects some_found
      exact CallEffects.of_agree ⟨suspended, swept, sent, summary⟩ ids owners

end Incident

end FleetResponse
