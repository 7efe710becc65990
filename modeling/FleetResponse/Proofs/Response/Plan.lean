import FleetResponse.Proofs.Response.Calls
import FleetResponse.Proofs.Response.Owners
import FleetResponse.Response

/-!
# What a response does

The calls of a response, and its result, over capabilities that answer as they please: they may find
any devices, known or not and as often as they like, and fail at any call.
-/

namespace FleetResponse.Incident

def found : List AnsweredCall → List Device
  | ⟨.query _, .ok devices⟩ :: _ => devices
  | _ => []

def setAside : List AnsweredCall → Nat
  | [] => 0
  | ⟨.quarantine _ _ _, .ok affected⟩ :: made => affected + setAside made
  | _ :: made => setAside made

def suspensions (devices : List Device) : List AnsweredCall :=
  devices.map fun device => ⟨.setStatus device.id .suspended, .ok ()⟩

def plan (incident : Incident) (window : Window) (devices : List Device) : List Call :=
  if devices = [] then []
  else devices.map (fun device => .setStatus device.id .suspended) ++
    [.quarantine (devices.map (·.id)) window incident.reason,
      .notify ((devices.map (·.owner)).eraseDups.map incident.notice)]

structure MatchesPlan (incident : Incident) (filter : DeviceFilter) (window : Window)
    (made : List AnsweredCall) (result : Except ResponseError Summary) : Prop where
  calls : Follows (.query filter :: incident.plan window (found made)) made
  succeeds_iff : (∃ summary, result = .ok summary) ↔ ∀ call ∈ made, call.failed = false
  summary : ∀ summary, result = .ok summary →
    summary = ⟨(found made).length, setAside made,
      ((found made).map (·.owner)).eraseDups.length⟩
  fault : ∀ (i : Nat) (call : AnsweredCall) (e : ResponseError), made[i]? = some call →
    call.fault? (((found made).take (i - 1)).map (·.id)) = some e → result = .error e

inductive TreatOutcome (incident : Incident) (window : Window) :
    List Device → List AnsweredCall → Except ResponseError Summary → Prop
  | notSuspended (before : List Device) (device : Device) (after : List Device)
      (source : DirectoryError) :
      TreatOutcome incident window (before ++ device :: after)
        (suspensions before ++ [⟨.setStatus device.id .suspended, .error source⟩])
        (.error (.suspendDevice device.id (before.map (·.id)) source))
  | notSetAside (devices : List Device) (source : QuarantineError) :
      TreatOutcome incident window devices
        (suspensions devices ++
          [⟨.quarantine (devices.map (·.id)) window incident.reason, .error source⟩])
        (.error (.quarantineReadings source))
  | notTold (devices : List Device) (affected : Nat) (source : NotifyError) :
      TreatOutcome incident window devices
        (suspensions devices ++
          [⟨.quarantine (devices.map (·.id)) window incident.reason, .ok affected⟩,
            ⟨.notify ((devices.map (·.owner)).eraseDups.map incident.notice), .error source⟩])
        (.error (.notifyOwners source))
  | treated (devices : List Device) (affected : Nat) :
      TreatOutcome incident window devices
        (suspensions devices ++
          [⟨.quarantine (devices.map (·.id)) window incident.reason, .ok affected⟩,
            ⟨.notify ((devices.map (·.owner)).eraseDups.map incident.notice), .ok ()⟩])
        (.ok ⟨devices.length, affected, (devices.map (·.owner)).eraseDups.length⟩)

/-! ## Suspensions -/

theorem suspension_faultless {devices : List Device} {call : AnsweredCall}
    (member : call ∈ suspensions devices) (suspended : List DeviceId) :
    call.fault? suspended = none := by
  obtain ⟨device, -, rfl⟩ := List.mem_map.mp member
  rfl

theorem suspension_succeeded {devices : List Device} {call : AnsweredCall}
    (member : call ∈ suspensions devices) : call.failed = false := by
  rw [AnsweredCall.failed, suspension_faultless member, Option.isSome_none]

theorem suspensions_follow (devices : List Device) :
    Follows (devices.map fun device => .setStatus device.id .suspended) (suspensions devices) := by
  induction devices with
  | nil => rfl
  | cons device devices ih => exact ⟨rfl, ih⟩

theorem setAside_suspensions (devices : List Device) (more : List AnsweredCall) :
    setAside (suspensions devices ++ more) = setAside more := by
  induction devices with
  | nil => rfl
  | cons device devices ih => exact ih

theorem fault_late {devices : List Device} {more : List AnsweredCall} {i : Nat}
    {call : AnsweredCall} {suspended : List DeviceId} {e : ResponseError}
    (located : (suspensions devices ++ more)[i]? = some call)
    (failure : call.fault? suspended = some e) :
    devices.length ≤ i ∧ more[i - devices.length]? = some call := by
  have size : (suspensions devices).length = devices.length := List.length_map _
  by_cases early : i < (suspensions devices).length
  · rw [List.getElem?_append_left early] at located
    rw [suspension_faultless (List.mem_of_getElem? located)] at failure
    cases failure
  · have late : (suspensions devices).length ≤ i := Nat.le_of_not_lt early
    rw [List.getElem?_append_right late, size] at located
    exact ⟨size ▸ late, located⟩

theorem suspendAll_cases {devices : List Device} {earlier : List DeviceId}
    {made : List AnsweredCall} {result : Except ResponseError (List DeviceId)}
    (h : (suspendAll devices earlier).Ends made result) :
    (made = suspensions devices ∧ result = .ok (earlier ++ devices.map (·.id))) ∨
    ∃ before device after source, devices = before ++ device :: after ∧
      made = suspensions before ++ [⟨.setStatus device.id .suspended, .error source⟩] ∧
      result = .error (.suspendDevice device.id (earlier ++ before.map (·.id)) source) := by
  induction devices generalizing earlier made with
  | nil =>
      obtain ⟨rfl, rfl⟩ := (Program.Ends.of_note h).of_done
      exact Or.inl ⟨rfl, by simp⟩
  | cons device devices ih =>
      obtain ⟨reply, made, rfl, rest⟩ := Program.Ends.of_call h
      cases reply with
      | error source =>
          obtain ⟨rfl, rfl⟩ := rest.of_done
          exact Or.inr ⟨[], device, devices, source, rfl, rfl, by simp⟩
      | ok done =>
          rcases ih rest with ⟨rfl, rfl⟩ | ⟨before, refused, after, source, rfl, rfl, rfl⟩
          · exact Or.inl ⟨rfl, by simp⟩
          · exact Or.inr ⟨device :: before, refused, after, source, rfl, rfl, by simp⟩

theorem tellOwners_eq (incident : Incident) {devices : List Device} (some_found : devices ≠ [])
    (affected : Nat) :
    incident.tellOwners devices affected =
      .call (.notify ((devices.map (·.owner)).eraseDups.map incident.notice)) fun
        | .error source => .done (.error (.notifyOwners source))
        | .ok () =>
            .done (.ok ⟨devices.length, affected, (devices.map (·.owner)).eraseDups.length⟩) := by
  have some_owners : (devices.map (·.owner)).eraseDups ≠ [] := by
    cases devices with
    | nil => exact absurd rfl some_found
    | cons device devices => simp [List.eraseDups_cons]
  -- The answer's type depends on the batch, so the batch is replaced as a whole.
  have order := OwnerSet.ofDevices_order devices
  unfold tellOwners
  generalize OwnerSet.ofDevices devices = owners at order
  obtain ⟨names, seen⟩ := owners
  obtain rfl : names = (devices.map (·.owner)).eraseDups := order
  have not_empty : ¬ ((devices.map (·.owner)).eraseDups.map incident.notice).isEmpty = true := by
    simpa using some_owners
  simp only [if_neg not_empty, List.length_map]
  refine congrArg (Program.call _) (funext fun answer => ?_)
  cases answer <;> rfl

theorem treatOutcome_of_ends {incident : Incident} {window : Window} {devices : List Device}
    (some_found : devices ≠ []) {made : List AnsweredCall} {result : Except ResponseError Summary}
    (h : (incident.treat window devices).Ends made result) :
    incident.TreatOutcome window devices made result := by
  have some_ids : ¬ (devices.map (·.id)).isEmpty = true := by simpa using some_found
  obtain ⟨first, last, middle, rfl, early, late⟩ := h.of_bind
  rcases suspendAll_cases early with
    ⟨rfl, rfl⟩ | ⟨before, device, after, source, rfl, rfl, rfl⟩
  · rw [List.nil_append] at late
    dsimp only at late
    rw [if_neg some_ids] at late
    obtain ⟨reply, made, rfl, rest⟩ := late.of_call
    cases reply with
    | error source =>
        obtain ⟨rfl, rfl⟩ := rest.of_done
        exact TreatOutcome.notSetAside devices source
    | ok affected =>
        dsimp only at rest
        rw [tellOwners_eq incident some_found] at rest
        obtain ⟨reply, made, rfl, last⟩ := rest.of_call
        cases reply with
        | error source =>
            obtain ⟨rfl, rfl⟩ := last.of_done
            exact TreatOutcome.notTold devices affected source
        | ok told =>
            obtain ⟨rfl, rfl⟩ := last.of_done
            exact TreatOutcome.treated devices affected
  · obtain ⟨rfl, rfl⟩ := late.of_done
    simpa using TreatOutcome.notSuspended before device after source

variable {σ : Type}

theorem treat_outcome (caps : Capabilities σ) (incident : Incident) (window : Window)
    {devices : List Device} (some_found : devices ≠ []) (s : σ) :
    incident.TreatOutcome window devices ((incident.treat window devices).calls caps s)
      ((incident.treat window devices).run caps s).1 :=
  treatOutcome_of_ends some_found (Program.ends_run caps _ s)

namespace TreatOutcome

variable {incident : Incident} {window : Window} {devices : List Device}
  {made : List AnsweredCall} {result : Except ResponseError Summary}

theorem follows (h : incident.TreatOutcome window devices made result) (some_found : devices ≠ []) :
    Follows (incident.plan window devices) made := by
  rw [plan, if_neg some_found]
  cases h with
  | notSuspended before device after source =>
      rw [List.map_append, List.append_assoc]
      exact (suspensions_follow before).append (fun _ => suspension_succeeded) ⟨rfl, rfl⟩
  | notSetAside devices source =>
      exact (suspensions_follow devices).append (fun _ => suspension_succeeded) ⟨rfl, rfl⟩
  | notTold devices affected source =>
      exact (suspensions_follow devices).append (fun _ => suspension_succeeded)
        ⟨rfl, rfl, rfl⟩
  | treated devices affected =>
      exact (suspensions_follow devices).append (fun _ => suspension_succeeded)
        ⟨rfl, rfl, rfl⟩

theorem succeeds_iff (h : incident.TreatOutcome window devices made result) :
    (∃ summary, result = .ok summary) ↔ ∀ call ∈ made, call.failed = false := by
  cases h with
  | notSuspended before device after source => simp [AnsweredCall.failed, AnsweredCall.fault?]
  | notSetAside devices source => simp [AnsweredCall.failed, AnsweredCall.fault?]
  | notTold devices affected source =>
      refine iff_of_false (by simp) fun succeeded => ?_
      have last := succeeded
        ⟨.notify ((devices.map (·.owner)).eraseDups.map incident.notice), .error source⟩ (by simp)
      cases last
  | treated devices affected =>
      constructor
      · rintro - call member
        rcases List.mem_append.mp member with early | late
        · exact suspension_succeeded early
        · simp only [List.mem_cons, List.not_mem_nil, or_false] at late
          rcases late with rfl | rfl <;> rfl
      · intro _
        exact ⟨_, rfl⟩

theorem summary (h : incident.TreatOutcome window devices made result) {total : Summary}
    (succeeded : result = .ok total) :
    total = ⟨devices.length, setAside made, (devices.map (·.owner)).eraseDups.length⟩ := by
  cases h with
  | notSuspended before device after source => cases succeeded
  | notSetAside devices source => cases succeeded
  | notTold devices affected source => cases succeeded
  | treated devices affected =>
      rw [setAside_suspensions]
      exact (Except.ok.inj succeeded).symm

theorem fault (h : incident.TreatOutcome window devices made result) {i : Nat} {call : AnsweredCall}
    {e : ResponseError} (located : made[i]? = some call)
    (failure : call.fault? ((devices.take i).map (·.id)) = some e) : result = .error e := by
  cases h with
  | notSuspended before device after source =>
      obtain ⟨late, last⟩ := fault_late located failure
      obtain rfl : i = before.length := by
        have := (List.getElem?_eq_some_iff.mp last).1
        simp only [List.length_singleton] at this
        omega
      rw [List.take_left' rfl] at failure
      obtain rfl := List.mem_singleton.mp (List.mem_of_getElem? last)
      exact congrArg Except.error (Option.some.inj failure)
  | notSetAside devices source =>
      obtain ⟨-, last⟩ := fault_late located failure
      obtain rfl := List.mem_singleton.mp (List.mem_of_getElem? last)
      exact congrArg Except.error (Option.some.inj failure)
  | notTold devices affected source =>
      obtain ⟨-, late⟩ := fault_late located failure
      have member := List.mem_of_getElem? late
      simp only [List.mem_cons, List.not_mem_nil, or_false] at member
      rcases member with rfl | rfl
      · cases failure
      · exact congrArg Except.error (Option.some.inj failure)
  | treated devices affected =>
      obtain ⟨-, late⟩ := fault_late located failure
      have member := List.mem_of_getElem? late
      simp only [List.mem_cons, List.not_mem_nil, or_false] at member
      rcases member with rfl | rfl <;> cases failure

theorem matchesPlan (h : incident.TreatOutcome window devices made result)
    (some_found : devices ≠ []) (filter : DeviceFilter) :
    incident.MatchesPlan filter window (⟨.query filter, .ok devices⟩ :: made) result where
  calls := ⟨rfl, h.follows some_found⟩
  succeeds_iff := by
    rw [h.succeeds_iff, List.forall_mem_cons]
    exact (and_iff_right rfl).symm
  summary total succeeded := h.summary succeeded
  fault i call e located failure := by
    cases i with
    | zero =>
        obtain rfl := Option.some.inj located
        cases failure
    | succ i => exact h.fault located failure

end TreatOutcome

theorem matchesPlan_of_query_failed (incident : Incident) (filter : DeviceFilter) (window : Window)
    (source : DirectoryError) :
    incident.MatchesPlan filter window [⟨.query filter, .error source⟩]
      (.error (.queryDevices source)) where
  calls := ⟨rfl, rfl⟩
  succeeds_iff := by simp [AnsweredCall.failed, AnsweredCall.fault?]
  summary total succeeded := by cases succeeded
  fault i call e located failure := by
    obtain rfl := List.mem_singleton.mp (List.mem_of_getElem? located)
    exact congrArg Except.error (Option.some.inj failure)

theorem matchesPlan_of_nothing_found (incident : Incident) (filter : DeviceFilter)
    (window : Window) :
    incident.MatchesPlan filter window [⟨.query filter, .ok []⟩] (.ok .nothing) where
  calls := ⟨rfl, rfl⟩
  succeeds_iff := by simp [AnsweredCall.failed, AnsweredCall.fault?]
  summary total succeeded := (Except.ok.inj succeeded).symm
  fault i call e located failure := by
    obtain rfl := List.mem_singleton.mp (List.mem_of_getElem? located)
    cases failure

/-- The calls of a response are those of its plan, cut off after the first that fails, and its
result is that failure, or else the sum of what was done. Nothing is called for an incident that has
no filter or no window. -/
theorem respond_matchesPlan (caps : Capabilities σ) (s : σ) (incident : Incident) :
    match incident.filter, incident.window with
    | .error fault, _ =>
        incident.respond.calls caps s = [] ∧
          (incident.respond.run caps s).1 = .error (.queryDevices (.invalidFilter fault.message))
    | .ok _, .error e =>
        incident.respond.calls caps s = [] ∧
          (incident.respond.run caps s).1 = .error (.quarantineReadings (.invalidWindow e))
    | .ok filter, .ok window =>
        incident.MatchesPlan filter window (incident.respond.calls caps s)
          (incident.respond.run caps s).1 := by
  rw [respond, Program.calls_note, Program.run_note, Program.calls_bind, Program.run_bind]
  simp only [Program.calls_note, Program.run_note, Program.calls_done, Program.run_done,
    List.append_nil]
  generalize caps.log (ResponseLog.start incident) s = s
  rw [steps]
  cases incident.filter with
  | error fault => exact ⟨rfl, rfl⟩
  | ok filter =>
      cases incident.window with
      | error e => exact ⟨rfl, rfl⟩
      | ok window =>
          dsimp only
          rw [Program.calls_call, Program.run_call]
          generalize caps.answer (.query filter) s = reply
          rcases reply with ⟨source | devices, next⟩
          · exact matchesPlan_of_query_failed incident filter window source
          · dsimp only
            rw [Program.calls_note, Program.run_note]
            cases devices with
            | nil => exact matchesPlan_of_nothing_found incident filter window
            | cons device devices =>
                have some_found := List.cons_ne_nil device devices
                refine TreatOutcome.matchesPlan ?_ some_found filter
                exact treat_outcome caps incident window some_found _

end FleetResponse.Incident
