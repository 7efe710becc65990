import FleetResponse.Proofs.Reading.History
import FleetResponse.Proofs.Reading.Sweeps

namespace FleetResponse.ReadingStore

namespace Request

def given? (id : ReadingId) : Request → Option String
  | quarantine named reason => if named = id then some reason else none
  | _ => none

def sweep? : Request → Option Sweep
  | quarantineWindow devices window reason => some ⟨devices, window, reason⟩
  | _ => none

def effect (id : ReadingId) : Request → Reading → Reading
  | quarantine named reason, r => if named = id then r.quarantined reason else r
  | quarantineWindow devices window reason, r => swept devices window reason r
  | _, r => r

end Request

def reasons (id : ReadingId) (later : List Request) : List String :=
  later.filterMap (·.given? id)

/-- What becomes of a reading. The last reason given to it alone stands; if there is none, that of
the first sweep that affects it. -/
def course (id : ReadingId) (later : List Request) (r : Reading) : Reading :=
  match (reasons id later).getLast? with
  | some reason => r.quarantined reason
  | none => settled (later.filterMap Request.sweep?) r

def ids (store : ReadingStore) : List ReadingId :=
  store.readings.map (·.1)

/-! ## One reading -/

theorem settled_quarantined (sweeps : List Sweep) (reason : String) (r : Reading) :
    settled sweeps (r.quarantined reason) = r.quarantined reason := by
  rw [settled, find_quarantined]

theorem swept_quarantined (devices : List DeviceId) (window : Window) (reason : String)
    (r : Reading) (last : String) :
    (swept devices window reason r).quarantined last = r.quarantined last := by
  unfold swept
  split <;> rfl

theorem course_cons (id : ReadingId) (request : Request) (later : List Request) (r : Reading) :
    course id (request :: later) r = course id later (request.effect id r) := by
  cases request with
  | quarantine named reason =>
      by_cases own : named = id
      · have first : reasons id (.quarantine named reason :: later) =
            reason :: reasons id later := by
          simp [reasons, Request.given?, own]
        rw [course, course, first, List.getLast?_cons, Request.effect, if_pos own]
        cases (reasons id later).getLast? with
        | none => exact (settled_quarantined _ reason r).symm
        | some last => rfl
      · have none : reasons id (.quarantine named reason :: later) = reasons id later := by
          simp [reasons, Request.given?, own]
        rw [course, course, none, Request.effect, if_neg own]
        rfl
  | quarantineWindow devices window reason =>
      have none : reasons id (.quarantineWindow devices window reason :: later) =
          reasons id later := rfl
      rw [course, course, none, Request.effect]
      cases (reasons id later).getLast? with
      | none => exact settled_cons ⟨devices, window, reason⟩ _ r
      | some last => exact (swept_quarantined devices window reason r last).symm
  | _ => rfl

theorem course_eq (id : ReadingId) (later : List Request) (r : Reading) :
    course id later r = r ∨ ∃ reason, course id later r = r.quarantined reason := by
  unfold course settled
  split
  · exact .inr ⟨_, rfl⟩
  · split
    · exact .inr ⟨_, rfl⟩
    · exact .inl rfl

theorem reasons_eq_nil {id : ReadingId} {later : List Request}
    (spared : ∀ reason, .quarantine id reason ∉ later) : reasons id later = [] := by
  rw [reasons, List.filterMap_eq_nil_iff]
  intro request member
  cases request with
  | quarantine named reason =>
      refine if_neg fun own => spared reason ?_
      exact own ▸ member
  | _ => rfl

theorem settled_of_unaccepted {r : Reading} (unaccepted : r.status ≠ .accepted)
    (sweeps : List Sweep) : settled sweeps r = r := by
  rw [settled_eq_self_iff, List.any_eq_false]
  exact fun sweep _ affected => unaccepted (affects_iff.mp affected).1

theorem course_of_unaccepted {r : Reading} (unaccepted : r.status ≠ .accepted) {id : ReadingId}
    {later : List Request} (spared : ∀ reason, .quarantine id reason ∉ later) :
    course id later r = r := by
  rw [course, reasons_eq_nil spared]
  exact settled_of_unaccepted unaccepted _

theorem course_measurement (id : ReadingId) (later : List Request) (r : Reading) :
    (course id later r).measurement = r.measurement := by
  rcases course_eq id later r with same | ⟨reason, same⟩ <;> rw [same]
  rfl

theorem course_status (id : ReadingId) (later : List Request) (r : Reading) :
    (course id later r).status = r.status ∨ (course id later r).status = .quarantined := by
  rcases course_eq id later r with same | ⟨reason, same⟩ <;> rw [same]
  · exact .inl rfl
  · exact .inr rfl

theorem named_of_rejected {r : Reading} (rejected : r.status = .rejected) {id : ReadingId}
    {later : List Request} (aside : (course id later r).status = .quarantined) :
    ∃ reason, .quarantine id reason ∈ later := by
  by_contra spared
  have unaccepted : r.status ≠ .accepted := by rw [rejected]; decide
  rw [course_of_unaccepted unaccepted (not_exists.mp spared), rejected] at aside
  cases aside

theorem course_of_quarantined {r : Reading} (aside : r.status = .quarantined) (id : ReadingId)
    (later : List Request) : (course id later r).status = .quarantined ∧
      (course id later r).reason = (reasons id later).getLast?.or r.reason := by
  have unaccepted : r.status ≠ .accepted := by rw [aside]; decide
  rw [course]
  cases (reasons id later).getLast? with
  | none =>
      dsimp only
      rw [settled_of_unaccepted unaccepted]
      exact ⟨aside, rfl⟩
  | some reason => exact ⟨rfl, rfl⟩

/-! ## The store -/

theorem quarantine_unknown {store : ReadingStore} {id : ReadingId}
    (unknown : store.readings.lookup id = none) (reason : String) :
    store.handle (.quarantine id reason) = (.error (.notFound id), store) := by
  simp only [handle, quarantine, unknown]

theorem quarantine_known {store : ReadingStore} {id : ReadingId} {held : Reading}
    (known : store.readings.lookup id = some held) (reason : String) :
    store.handle (.quarantine id reason) = (.ok (), ⟨store.readings.map fun entry =>
      (entry.1, if entry.1 = id then entry.2.quarantined reason else entry.2)⟩) := by
  simp only [handle, quarantine, known]
  refine congrArg (fun readings => (Except.ok (), ReadingStore.mk readings)) ?_
  refine List.map_congr_left fun entry _ => ?_
  split <;> rfl

theorem lookup_handle (store : ReadingStore) {request : Request} {id : ReadingId}
    (unrecorded : ∀ r ∈ request.recorded?, r.id ≠ id) :
    (store.handle request).2.readings.lookup id =
      (store.readings.lookup id).map (request.effect id) := by
  cases request with
  | record r =>
      refine (lookup_record store r id).trans ?_
      rw [if_neg (unrecorded r rfl).symm]
      exact Option.map_id'.symm
  | get key => exact Option.map_id'.symm
  | quarantine named reason =>
      cases known : store.readings.lookup named with
      | none =>
          rw [quarantine_unknown known]
          by_cases own : named = id
          · rw [← own, known]
            rfl
          · have idle : Request.effect id (.quarantine named reason) = fun r => r :=
              funext fun r => if_neg own
            rw [idle]
            exact Option.map_id'.symm
      | some held =>
          rw [quarantine_known known]
          refine (lookup_map_entry _ (fun key r =>
            if key = named then r.quarantined reason else r) id).trans ?_
          exact congrArg (Option.map · _) (funext fun r => if_congr eq_comm rfl rfl)
  | quarantineWindow devices window reason =>
      rw [handle, quarantineWindow_readings]
      exact lookup_map_reading _ _ id
  | quality devices => exact Option.map_id'.symm

theorem lookup_after (before : List Request) {later : List Request} {id : ReadingId}
    (unrecorded : ∀ r ∈ recorded later, r.id ≠ id) :
    (after (before ++ later)).readings.lookup id =
      ((after before).readings.lookup id).map (course id later) := by
  -- Until another reading is recorded there, each request takes the course one step further.
  induction later generalizing before with
  | nil =>
      rw [List.append_nil]
      exact Option.map_id'.symm
  | cons request later ih =>
      have here : ∀ r ∈ request.recorded?, r.id ≠ id := fun r isRecorded =>
        unrecorded r (List.mem_filterMap.mpr ⟨request, List.mem_cons_self, isRecorded⟩)
      have rest : ∀ r ∈ recorded later, r.id ≠ id := by
        intro r isRecorded
        obtain ⟨other, member, records⟩ := List.mem_filterMap.mp isRecorded
        exact unrecorded r (List.mem_filterMap.mpr
          ⟨other, List.mem_cons_of_mem request member, records⟩)
      rw [List.append_cons, ih (before ++ [request]) rest, after_snoc, lookup_handle _ here,
        Option.map_map]
      exact congrArg (Option.map · _) (funext fun r => (course_cons id request later r).symm)

theorem record_ids (store : ReadingStore) (r : Reading) :
    (store.record r).ids = if r.id ∈ store.ids then store.ids else store.ids ++ [r.id] :=
  store.keys_record r

theorem handle_ids (store : ReadingStore) {request : Request} (other : request.recorded? = none) :
    (store.handle request).2.ids = store.ids := by
  cases request with
  | record r => cases other
  | get id => rfl
  | quarantine named reason =>
      cases known : store.readings.lookup named with
      | none => rw [quarantine_unknown known]
      | some held =>
          rw [quarantine_known known, ids, List.map_map]
          rfl
  | quarantineWindow devices window reason =>
      rw [handle, ids, quarantineWindow_readings, List.map_map]
      rfl
  | quality devices => rfl

theorem get_eq_notFound_iff {store : ReadingStore} {id : ReadingId} :
    store.get id = .error (.notFound id) ↔ store.readings.lookup id = none := by
  unfold get
  cases store.readings.lookup id <;> simp

theorem get_after_eq_notFound_iff {history : List Request} {id : ReadingId} :
    (after history).get id = .error (.notFound id) ↔ ∀ r ∈ recorded history, r.id ≠ id := by
  have measured := measured?_after history id
  rw [get_eq_notFound_iff, ← Option.map_eq_none_iff (f := Reading.measurement)]
  rw [measured?] at measured
  rw [measured, Option.map_eq_none_iff, lastOf?, List.getLast?_eq_none_iff, List.filter_eq_nil_iff]
  simp

theorem swept_of_unaccepted {r : Reading} (unaccepted : r.status ≠ .accepted)
    (devices : List DeviceId) (window : Window) (reason : String) :
    swept devices window reason r = r :=
  if_neg fun affected => unaccepted (affects_iff.mp affected).1

theorem not_mem_changed {before after : ReadingStore} {id : ReadingId}
    (same : after.readings.lookup id = before.readings.lookup id) :
    id ∉ before.changed after := by
  intro member
  have differ := of_decide_eq_true (List.mem_filter.mp member).2
  exact differ same.symm

/-- Until the next reading is recorded under an identifier, the one that stands there keeps what was
measured. Its status changes to quarantined or not at all, if it is rejected only by a request that
names it. Once it is quarantined, sweeps neither change nor count it, and its reason is the last one
given to it by name. To quarantine under an unknown identifier does nothing but fail. Identifiers
stay, and come only with the readings recorded under them, which stand there then. -/
theorem after_unrecorded_lookup (history : List Request) :
    let store := after history
    (∀ later id held, (∀ r ∈ recorded later, r.id ≠ id) → store.get id = .ok held →
      let now := course id later held
      (after (history ++ later)).get id = .ok now ∧
      now.measurement = held.measurement ∧
      (now.status = held.status ∨ now.status = .quarantined) ∧
      (held.status = .rejected → now.status = .quarantined →
        ∃ reason, .quarantine id reason ∈ later) ∧
      (held.status = .quarantined →
        now.status = .quarantined ∧ now.reason = (reasons id later).getLast?.or held.reason)) ∧
    (∀ id held, store.get id = .ok held → held.status = .quarantined →
      ∀ devices window reason,
        let count := (store.handle (.quarantineWindow devices window reason)).1
        let later := (store.handle (.quarantineWindow devices window reason)).2
        later.get id = .ok held ∧
        count = (store.changed later).length ∧ id ∉ store.changed later) ∧
    (∀ id, (store.get id = .error (.notFound id) ↔ ∀ r ∈ recorded history, r.id ≠ id) ∧
      (store.get id = .error (.notFound id) → ∀ reason,
        store.handle (.quarantine id reason) = (.error (.notFound id), store))) ∧
    (∀ request, request.recorded? = none → (store.handle request).2.ids = store.ids) ∧
    ∀ r,
      let later := (store.handle (.record r)).2
      later.get r.id = .ok r.stored ∧
      (∀ id, id ≠ r.id → later.get id = store.get id) ∧
      later.ids = if r.id ∈ store.ids then store.ids else store.ids ++ [r.id] := by
  intro store
  have kept : store.WellKept := after_wellKept history
  refine ⟨fun later id held unrecorded found => ?_,
    fun id held found aside devices window reason => ?_,
    fun id => ⟨get_after_eq_notFound_iff, fun unknown reason =>
      quarantine_unknown (get_eq_notFound_iff.mp unknown) reason⟩,
    fun request other => handle_ids store other,
    fun r => ⟨?_, fun id other => ?_, record_ids store r⟩⟩
  · refine ⟨?_, course_measurement id later held, course_status id later held,
      fun rejected aside => named_of_rejected rejected aside,
      fun aside => course_of_quarantined aside id later⟩
    rw [get_eq_ok_iff] at found ⊢
    rw [lookup_after history unrecorded, found]
    rfl
  · have unaccepted : held.status ≠ .accepted := by rw [aside]; decide
    have same : (store.handle (.quarantineWindow devices window reason)).2.get id = .ok held := by
      rw [← swept_of_unaccepted unaccepted devices window reason]
      exact get_quarantineWindow found devices window reason
    refine ⟨same, quarantineWindow_count kept devices window reason, not_mem_changed ?_⟩
    rw [get_eq_ok_iff.mp same, get_eq_ok_iff.mp found]
  · rw [get_eq_ok_iff]
    exact (lookup_record store r r.id).trans (if_pos rfl)
  · have same : (store.record r).readings.lookup id = store.readings.lookup id :=
      (lookup_record store r id).trans (if_neg other)
    rw [handle, get, get, same]

end FleetResponse.ReadingStore
