import FleetResponse.Proofs.Response.Plan

namespace FleetResponse

def Call.ofResponse : Call → Bool
  | .setStatus _ status => status = .suspended
  | _ => true

namespace Incident

inductive Session (incident : Incident) (filter : DeviceFilter) (window : Window) :
    List AnsweredCall → Except ResponseError Summary → Prop
  | notFound (source : DirectoryError) :
      Session incident filter window [⟨.query filter, .error source⟩]
        (.error (.queryDevices source))
  | idle : Session incident filter window [⟨.query filter, .ok []⟩] (.ok .nothing)
  | treated {devices : List Device} {made : List AnsweredCall}
      {result : Except ResponseError Summary} (some_found : devices ≠ [])
      (outcome : incident.TreatOutcome window devices made result) :
      Session incident filter window (⟨.query filter, .ok devices⟩ :: made) result

theorem session_of_ends {incident : Incident} {filter : DeviceFilter} {window : Window}
    (filtered : incident.filter = .ok filter) (timed : incident.window = .ok window)
    {made : List AnsweredCall} {result : Except ResponseError Summary}
    (h : incident.respond.Ends made result) : incident.Session filter window made result := by
  obtain ⟨first, last, middle, rfl, early, late⟩ := (Program.Ends.of_note h).of_bind
  obtain ⟨rfl, rfl⟩ := late.of_note.of_done
  rw [steps, filtered, timed] at early
  dsimp only at early
  rw [List.append_nil]
  obtain ⟨reply, made, rfl, rest⟩ := early.of_call
  cases reply with
  | error source =>
      obtain ⟨rfl, rfl⟩ := rest.of_done
      exact .notFound source
  | ok devices =>
      replace rest := Program.Ends.of_note rest
      cases devices with
      | nil =>
          obtain ⟨rfl, rfl⟩ := Program.Ends.of_done rest
          exact .idle
      | cons device devices =>
          have some_found := List.cons_ne_nil device devices
          exact .treated some_found (treatOutcome_of_ends some_found rest)

theorem plan_congr (incident : Incident) (window : Window) {devices others : List Device}
    (ids : devices.map (·.id) = others.map (·.id))
    (owners : devices.map (·.owner) = others.map (·.owner)) :
    incident.plan window devices = incident.plan window others := by
  have suspensions : devices.map (fun device => Call.setStatus device.id .suspended) =
      others.map fun device => Call.setStatus device.id .suspended := by
    simpa [Function.comp_def] using
      congrArg (List.map fun id => Call.setStatus id .suspended) ids
  have empty_iff : devices = [] ↔ others = [] := by
    rw [← List.map_eq_nil_iff, ids, List.map_eq_nil_iff]
  simp only [plan, suspensions, ids, owners, empty_iff]

namespace Session

variable {incident : Incident} {filter : DeviceFilter} {window : Window} {devices : List Device}
  {made : List AnsweredCall} {result : Except ResponseError Summary}

theorem succeeds_iff (h : incident.Session filter window made result) :
    (∃ summary, result = .ok summary) ↔ ∀ call ∈ made, call.failed = false := by
  cases h with
  | notFound source =>
      exact (matchesPlan_of_query_failed incident filter window source).succeeds_iff
  | idle => exact (matchesPlan_of_nothing_found incident filter window).succeeds_iff
  | treated some_found outcome => exact (outcome.matchesPlan some_found filter).succeeds_iff

theorem requests (h : incident.Session filter window made result)
    (agree : ∀ found, ⟨.query filter, .ok found⟩ ∈ made →
      found.map (·.id) = devices.map (·.id) ∧ found.map (·.owner) = devices.map (·.owner)) :
    ∀ call ∈ made, call.request ∈ .query filter :: incident.plan window devices := by
  cases h with
  | notFound source => simp
  | idle => simp
  | @treated found made result some_found outcome =>
      obtain ⟨ids, owners⟩ := agree found (List.mem_cons_self ..)
      intro call member
      rcases List.mem_cons.mp member with rfl | later
      · exact List.mem_cons_self ..
      · have part := (outcome.follows some_found).cut.subset (List.mem_map_of_mem later)
        rw [plan_congr incident window ids owners] at part
        exact List.mem_cons_of_mem _ part

theorem all_requests (h : incident.Session filter window made result)
    (agree : ∀ found, ⟨.query filter, .ok found⟩ ∈ made →
      found.map (·.id) = devices.map (·.id) ∧ found.map (·.owner) = devices.map (·.owner))
    (succeeded : ∀ call ∈ made, call.failed = false) :
    made.map (·.request) = .query filter :: incident.plan window devices := by
  cases h with
  | notFound source => cases succeeded _ (List.mem_singleton.mpr rfl)
  | idle =>
      obtain rfl : devices = [] := by
        simpa using (agree [] (List.mem_singleton.mpr rfl)).1.symm
      rfl
  | @treated found made result some_found outcome =>
      obtain ⟨ids, owners⟩ := agree found (List.mem_cons_self ..)
      have rest := (outcome.follows some_found).complete fun call member =>
        succeeded call (List.mem_cons_of_mem _ member)
      rw [List.map_cons, rest, plan_congr incident window ids owners]

theorem found_mem (h : incident.Session filter window made result) :
    found made = [] ∨ ∃ devices rest, found made = devices ∧
      made = ⟨.query filter, .ok devices⟩ :: rest := by
  cases h with
  | notFound source => exact Or.inl rfl
  | idle => exact Or.inl rfl
  | treated some_found outcome => exact Or.inr ⟨_, _, rfl, rfl⟩

theorem length_le (h : incident.Session filter window made result) :
    made.length ≤ (found made).length + 3 := by
  cases h with
  | notFound source => simp
  | idle => simp
  | @treated devices made result some_found outcome =>
      have bound := (outcome.follows some_found).cut.length_le
      rw [List.length_map, plan, if_neg some_found, List.length_append, List.length_map] at bound
      exact Nat.succ_le_succ bound

theorem ofResponse (h : incident.Session filter window made result) :
    ∀ call ∈ made, call.request.ofResponse = true := by
  cases h with
  | notFound source => simp [Call.ofResponse]
  | idle => simp [Call.ofResponse]
  | @treated found made result some_found outcome =>
      intro call member
      rcases List.mem_cons.mp member with rfl | later
      · rfl
      · have part := (outcome.follows some_found).cut.subset (List.mem_map_of_mem later)
        rw [plan, if_neg some_found, List.mem_append] at part
        rcases part with suspension | last
        · obtain ⟨device, -, same⟩ := List.mem_map.mp suspension
          rw [← same]
          rfl
        · simp only [List.mem_cons, List.not_mem_nil, or_false] at last
          rcases last with same | same <;> rw [same] <;> rfl

end Session

end Incident

end FleetResponse
