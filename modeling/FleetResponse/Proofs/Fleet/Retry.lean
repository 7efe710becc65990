import FleetResponse.Proofs.Fleet.Capabilities

/-!
# Responses that are tried again

A response that failed leaves what it did before the failure. It is run again, with other failures
or none, until it succeeds, or once more.
-/

namespace FleetResponse

/-! ## Attempts -/

structure Attempt where
  calls : List AnsweredCall
  result : Except ResponseError Summary

namespace Attempt

def succeeded (attempt : Attempt) : Bool :=
  attempt.result.isOk

def swept (attempt : Attempt) : Bool :=
  attempt.calls.any fun call => !call.sweeps.isEmpty

theorem sweeps_eq_nil_iff (attempts : List Attempt) :
    (attempts.flatMap (·.calls)).flatMap (·.sweeps) = [] ↔
      attempts.any (·.swept) = false := by
  simp [swept, List.flatMap_assoc, List.flatMap_eq_nil_iff]

end Attempt

namespace Fleet

def attempt (fleet : Fleet) (incident : Incident) (faults : Faults) : Attempt × Fleet :=
  let (result, trial) := incident.respond.run (Trial.capabilities faults) (.start fleet)
  (⟨incident.respond.calls (Trial.capabilities faults) (.start fleet), result⟩, trial.fleet)

def retry (fleet : Fleet) (incident : Incident) : List Faults → List Attempt × Fleet
  | [] => ([], fleet)
  | faults :: more =>
      let (first, fleet) := fleet.attempt incident faults
      let (attempts, fleet) := fleet.retry incident more
      (first :: attempts, fleet)

end Fleet

structure AttemptsEffect (incident : Incident) (offered : Call → Prop) (before : Contents)
    (attempts : List Attempt) (after : Contents) : Prop where
  ends : ∀ attempt ∈ attempts, incident.respond.Ends attempt.calls attempt.result
  replays : before.Replays offered True (attempts.flatMap (·.calls)) after

theorem Fleet.retry_tried (incident : Incident) {faults : List Faults}
    (plain : ∀ f ∈ faults, f.Plain) (fleet : Fleet) :
    AttemptsEffect incident fleet.Offers fleet.contents (fleet.retry incident faults).1
      (fleet.retry incident faults).2.contents := by
  induction faults generalizing fleet with
  | nil => exact ⟨by simp [Fleet.retry], .nil _⟩
  | cons first more ih =>
      obtain ⟨first_plain, more_plain⟩ := List.forall_mem_cons.mp plain
      obtain ⟨replays, offers⟩ :=
        (Trial.serves first_plain).run incident.respond (.start fleet)
      have rest := ih more_plain (fleet.attempt incident first).2
      refine ⟨List.forall_mem_cons.mpr ⟨Program.ends_run _ _ _, rest.ends⟩, ?_⟩
      have later := rest.replays
      rw [show (fleet.attempt incident first).2.Offers = fleet.Offers from offers] at later
      exact replays.append later

/-! ## Where attempts lead -/

namespace AttemptsEffect

variable {incident : Incident} {filter : DeviceFilter} {window : Window} {offered : Call → Prop}
  {before after : Contents} {attempts : List Attempt}

theorem cons_inv {attempt : Attempt} {more : List Attempt}
    (h : AttemptsEffect incident offered before (attempts ++ attempt :: more) after) :
    ∃ middle last, AttemptsEffect incident offered before attempts middle ∧
      middle.Replays offered True attempt.calls last := by
  have replays := h.replays
  rw [List.flatMap_append, List.flatMap_cons] at replays
  obtain ⟨middle, early, late⟩ := replays.of_append
  obtain ⟨last, here, -⟩ := late.of_append
  exact ⟨middle, last, ⟨fun earlier member => h.ends earlier (List.mem_append_left _ member),
    early⟩, here⟩

section

variable (filtered : incident.filter = .ok filter) (timed : incident.window = .ok window)

include filtered timed

theorem session (h : AttemptsEffect incident offered before attempts after) {attempt : Attempt}
    (member : attempt ∈ attempts) :
    incident.Session filter window attempt.calls attempt.result :=
  Incident.session_of_ends filtered timed (h.ends attempt member)

variable (indexed : before.directory.WellIndexed)

include indexed

theorem effect (h : AttemptsEffect incident offered before attempts after) :
    before.Effect (attempts.flatMap (·.calls)) after := by
  apply h.replays.effect indexed
  intro call member
  obtain ⟨attempt, tried, made⟩ := List.mem_flatMap.mp member
  exact (h.session filtered timed tried).ofResponse call made

theorem agree (h : AttemptsEffect incident offered before attempts after) {attempt : Attempt}
    (member : attempt ∈ attempts) {found : List Device}
    (made : ⟨.query filter, .ok found⟩ ∈ attempt.calls) :
    found.map (·.id) = (before.directory.query filter).map (·.id) ∧
      found.map (·.owner) = (before.directory.query filter).map (·.owner) :=
  (h.effect filtered timed indexed).agree (List.mem_flatMap.mpr ⟨attempt, member, made⟩)

theorem effects (h : AttemptsEffect incident offered before attempts after) {attempt : Attempt}
    (member : attempt ∈ attempts) :
    incident.CallEffects window (before.directory.query filter) attempt.calls attempt.result :=
  (h.session filtered timed member).effects fun _ made =>
    h.agree filtered timed indexed member made

theorem directory (h : AttemptsEffect incident offered before attempts after)
    (succeeded : attempts.any (·.succeeded) = true) :
    after.directory =
      before.directory.suspend ((before.directory.query filter).map (·.id)) := by
  rw [(h.effect filtered timed indexed).directory]
  apply Directory.suspend_congr
  intro id
  constructor
  · intro suspended
    obtain ⟨call, member, among⟩ := List.mem_flatMap.mp suspended
    obtain ⟨attempt, tried, made⟩ := List.mem_flatMap.mp member
    exact (h.effects filtered timed indexed tried).suspended id
      (List.mem_flatMap.mpr ⟨call, made, among⟩)
  · intro concerned
    obtain ⟨attempt, tried, success⟩ := List.any_eq_true.mp succeeded
    obtain ⟨summary, done⟩ := exists_of_isOk success
    have all := ((h.effects filtered timed indexed tried).summary summary done).1
    rw [List.flatMap_assoc]
    exact List.mem_flatMap.mpr ⟨attempt, tried, all ▸ concerned⟩

theorem readings (h : AttemptsEffect incident offered before attempts after) :
    after.readings = if attempts.any (·.swept) then
      (before.readings.sweep (incident.sweep window (before.directory.query filter))).2
    else before.readings := by
  have effect := (h.effect filtered timed indexed).readings
  have same : ∀ sweep ∈ ((attempts.flatMap (·.calls)).flatMap (·.sweeps)).map (·.1),
      sweep = incident.sweep window (before.directory.query filter) := by
    intro sweep member
    obtain ⟨entry, listed, rfl⟩ := List.mem_map.mp member
    rw [List.flatMap_assoc] at listed
    obtain ⟨attempt, tried, made⟩ := List.mem_flatMap.mp listed
    exact (h.effects filtered timed indexed tried).swept entry made
  have result : after.readings = _ :=
    (congrArg Prod.snd effect).symm.trans (before.readings.sweepAll_same same)
  rw [result]
  simp only [List.map_eq_nil_iff, Attempt.sweeps_eq_nil_iff]
  cases attempts.any (·.swept) <;> rfl

theorem readings_of_succeeded (h : AttemptsEffect incident offered before attempts after)
    (succeeded : attempts.any (·.succeeded) = true) :
    after.readings =
      (before.readings.sweep (incident.sweep window (before.directory.query filter))).2 := by
  rw [h.readings filtered timed indexed]
  cases swept : attempts.any (·.swept) with
  | true => rfl
  | false =>
      obtain ⟨attempt, tried, success⟩ := List.any_eq_true.mp succeeded
      obtain ⟨total, done⟩ := exists_of_isOk success
      have nothing := (Attempt.sweeps_eq_nil_iff attempts).mpr swept
      rw [List.flatMap_assoc, List.flatMap_eq_nil_iff] at nothing
      have plan := ((h.effects filtered timed indexed tried).summary total done).2.1
      rw [nothing attempt tried] at plan
      have none_found : before.directory.query filter = [] := by
        by_contra some_found
        rw [if_neg some_found] at plan
        cases plan
      rw [none_found, Contents.idle_sweep]
      rfl

theorem outbox (h : AttemptsEffect incident offered before attempts after) :
    after.outbox = before.outbox.send (List.replicate (attempts.countP (·.succeeded))
      (incident.batch (before.directory.query filter))).flatten := by
  rw [(h.effect filtered timed indexed).outbox]
  congr 1
  have each : ∀ attempt ∈ attempts, (attempt.calls.flatMap (·.sends)).flatten =
      if attempt.succeeded then incident.batch (before.directory.query filter) else [] := by
    intro attempt member
    rw [(h.effects filtered timed indexed member).sent, Attempt.succeeded]
    by_cases none_found : before.directory.query filter = []
    · simp [none_found, Incident.batch]
    · cases attempt.result.isOk <;> simp [none_found]
  have total : ∀ tried : List Attempt, (∀ attempt ∈ tried, attempt ∈ attempts) →
      ((tried.flatMap (·.calls)).flatMap (·.sends)).flatten =
        (List.replicate (tried.countP (·.succeeded))
          (incident.batch (before.directory.query filter))).flatten := by
    intro tried part
    induction tried with
    | nil => rfl
    | cons attempt tried ih =>
        obtain ⟨first, rest⟩ := List.forall_mem_cons.mp part
        rw [List.flatMap_cons, List.flatMap_append, List.flatten_append, each attempt first,
          ih rest, List.countP_cons]
        cases attempt.succeeded <;> simp [List.replicate_succ]
  exact total attempts fun _ member => member

theorem report (h : AttemptsEffect incident offered before attempts after) {i : Nat}
    {attempt : Attempt}
    {total : Summary} (located : attempts[i]? = some attempt)
    (succeeded : attempt.result = .ok total) :
    total = ⟨(before.directory.query filter).length,
      if (attempts.take i).any (·.swept) then 0 else
        (before.readings.sweep (incident.sweep window (before.directory.query filter))).1,
      ((before.directory.query filter).map (·.owner)).eraseDups.length⟩ := by
  obtain ⟨inside, here⟩ := List.getElem?_eq_some_iff.mp located
  have split : attempts = attempts.take i ++ attempt :: attempts.drop (i + 1) := by
    rw [← here, List.getElem_cons_drop, List.take_append_drop]
  have member : attempt ∈ attempts := List.mem_of_getElem? located
  have effects := h.effects filtered timed indexed member
  rw [succeeded] at effects
  rw [split] at h
  obtain ⟨middle, last, earlier, calls⟩ := h.cons_inv
  have indexed' : middle.directory.WellIndexed :=
    (earlier.effect filtered timed indexed).directory ▸ indexed.suspend _
  have session := (h.session filtered timed (List.mem_append_right _ (List.mem_cons_self ..)))
  have effect := calls.effect indexed' session.ofResponse
  rw [(effect.success effects).1, earlier.readings filtered timed indexed]
  cases (attempts.take i).any (·.swept) with
  | false => rfl
  | true => simp [ReadingStore.sweep_sweep]

theorem once_succeeds (h : AttemptsEffect incident offered before attempts after)
    (succeeded : attempts.any (·.succeeded) = true) {made : List AnsweredCall} {once : Contents}
    {result : Except ResponseError Summary} (ends : incident.respond.Ends made result)
    (replays : before.Replays offered False made once) : ∃ summary, result = .ok summary := by
  obtain ⟨attempt, tried, success⟩ := List.any_eq_true.mp succeeded
  obtain ⟨total, done⟩ := exists_of_isOk success
  have attempted := h.session filtered timed tried
  have faultless : ∀ call ∈ attempt.calls, call.failed = false :=
    attempted.succeeds_iff.mp ⟨total, done⟩
  have requests := attempted.all_requests
    (fun _ made => h.agree filtered timed indexed tried made) faultless
  have given : ∀ request ∈ Call.query filter :: incident.plan window
      (before.directory.query filter), offered request := by
    intro request planned
    rw [← requests] at planned
    obtain ⟨call, made, rfl⟩ := List.mem_map.mp planned
    exact h.replays.offers (List.mem_flatMap.mpr ⟨attempt, tried, made⟩) (faultless call made)
  exact replays.response_succeeds filtered timed indexed ends given

end

end AttemptsEffect

theorem Fleet.retry_succeeds {incident : Incident} (valid : incident.Valid) {faults : List Faults}
    (plain : ∀ f ∈ faults, f.Plain) (member : .none ∈ faults) {fleet : Fleet}
    (indexed : fleet.contents.directory.WellIndexed) (offers : ∀ request, fleet.Offers request) :
    (fleet.retry incident faults).1.any (·.succeeded) = true := by
  obtain ⟨filter, filtered⟩ := exists_of_isOk valid.filter
  obtain ⟨window, timed⟩ := exists_of_isOk valid.window
  induction faults generalizing fleet with
  | nil => cases member
  | cons first more ih =>
      obtain ⟨first_plain, more_plain⟩ := List.forall_mem_cons.mp plain
      rw [retry, List.any_cons, Bool.or_eq_true]
      rcases List.mem_cons.mp member with rfl | later
      · obtain ⟨replays, -⟩ := Trial.serves_none.run incident.respond (.start fleet)
        obtain ⟨summary, done⟩ := replays.response_succeeds filtered timed indexed
          (Program.ends_run _ _ _) fun request _ => offers request
        left
        exact congrArg Except.isOk done
      · right
        have once := retry_tried incident (List.forall_mem_singleton.mpr first_plain) fleet
        obtain ⟨-, same⟩ := (Trial.serves first_plain).run incident.respond (.start fleet)
        refine ih more_plain later ?_ fun request => ?_
        · exact (once.effect filtered timed indexed).directory ▸ indexed.suspend _
        · exact (congrFun same request).mpr (offers request)

/-- Retrying converges. Once an attempt has succeeded, the directory and the readings are what a
single run leaves. The successful attempts report what that run reports, apart from the readings:
these are counted once. Each of them sends the whole batch. -/
theorem Fleet.retry_converges {fleet : Fleet} (reachable : fleet.Reachable) {incident : Incident}
    (valid : incident.Valid) {faults : List Faults} (plain : ∀ f ∈ faults, f.Plain)
    (succeeded : (fleet.retry incident faults).1.any (·.succeeded) = true) :
    let attempts := (fleet.retry incident faults).1
    let after := (fleet.retry incident faults).2
    let once := (incident.respond.run capabilities fleet).2
    let batch := incident.batch (fleet.directory.content.devices.filter incident.concerns)
    ∃ summary, (incident.respond.run capabilities fleet).1 = .ok summary ∧
      after.directory.content = once.directory.content ∧
      after.readings.content = once.readings.content ∧
      (∀ (i : Nat) (attempt : Attempt) (total : Summary), attempts[i]? = some attempt →
        attempt.result = .ok total → total = ⟨summary.suspended,
          if (attempts.take i).any (·.swept) then 0 else summary.quarantined,
          summary.notified⟩) ∧
      once.outbox.content.notices = fleet.outbox.content.notices ++ batch ∧
      after.outbox.content.notices = fleet.outbox.content.notices ++
        (List.replicate (attempts.countP (·.succeeded)) batch).flatten := by
  intro attempts after once batch
  obtain ⟨filter, filtered⟩ := exists_of_isOk valid.filter
  obtain ⟨window, timed⟩ := exists_of_isOk valid.window
  have indexed : fleet.contents.directory.WellIndexed := reachable.sound.directory
  have tried := retry_tried incident plain fleet
  obtain ⟨replays, -⟩ := serves.run incident.respond fleet
  have ends := Program.ends_run capabilities incident.respond fleet
  obtain ⟨summary, done⟩ :=
    tried.once_succeeds filtered timed indexed succeeded ends replays
  have session := Incident.session_of_ends filtered timed ends
  have effect := replays.effect indexed session.ofResponse
  have effects := session.effects fun _ made => effect.agree made
  rw [done] at effects
  obtain ⟨total, contents⟩ := effect.success effects
  have concerned : fleet.contents.directory.query filter =
      fleet.directory.content.devices.filter incident.concerns :=
    congrArg (fleet.directory.content.devices.filter ·) (Incident.picks_of_filter filtered)
  refine ⟨summary, done, ?_, ?_, ?_, ?_, ?_⟩
  · exact (tried.directory filtered timed indexed succeeded).trans
      (congrArg Contents.directory contents).symm
  · exact (tried.readings_of_succeeded filtered timed indexed succeeded).trans
      (congrArg Contents.readings contents).symm
  · intro i attempt reported located success
    rw [tried.report filtered timed indexed located success, total]
  · have sent := congrArg (fun contents => contents.outbox.notices) contents
    rw [concerned] at sent
    exact sent
  · have sent := congrArg Outbox.notices (tried.outbox filtered timed indexed)
    rw [concerned] at sent
    exact sent

def Fleet.mishaps : List Faults :=
  [{ Faults.none with setStatus := some (1, .worker .stopped) },
    { Faults.none with notify := some (.worker .stopped) }, .none, .none]

theorem Fleet.retry_converges_trio :
    trio.Reachable ∧ flaw.Valid ∧ (∀ f ∈ mishaps, f.Plain) ∧
      (trio.retry flaw mishaps).1.any (·.succeeded) = true ∧
      (trio.directory.content.devices.filter flaw.concerns).length = 2 ∧
      (trio.retry flaw mishaps).2.directory.content =
        (flaw.respond.run capabilities trio).2.directory.content ∧
      (trio.retry flaw mishaps).2.readings.content =
        (flaw.respond.run capabilities trio).2.readings.content := by
  have indexed : trio.contents.directory.WellIndexed := trio_reachable.sound.directory
  have plain : ∀ f ∈ mishaps, f.Plain := by
    intro f member
    simp only [mishaps, List.mem_cons, List.not_mem_nil, or_false] at member
    rcases member with rfl | rfl | rfl | rfl <;> exact ⟨rfl, rfl⟩
  have succeeded := retry_succeeds flaw_valid plain (by simp [mishaps]) indexed
    trio_running.offers
  obtain ⟨-, -, directory, readings, -⟩ :=
    retry_converges trio_reachable flaw_valid plain succeeded
  exact ⟨trio_reachable, flaw_valid, plain, succeeded, rfl, directory, readings⟩

end FleetResponse
