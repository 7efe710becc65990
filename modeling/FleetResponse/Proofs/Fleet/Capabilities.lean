import FleetResponse.Proofs.Fleet.Contents
import FleetResponse.Response.Trial

namespace FleetResponse

theorem Service.ask_cases {σ α : Type} (service : Service σ) (handle : σ → α × σ) :
    (service.running = true ∧ (service.ask handle).1 = .ok (handle service.content).1 ∧
      (service.ask handle).2.content = (handle service.content).2) ∨
    (service.running = false ∧ (service.ask handle).1 = .error .stopped ∧
      (service.ask handle).2.content = service.content) := by
  cases running : service.running <;> simp [ask, running]

theorem Service.ask_running {σ α : Type} (service : Service σ) (handle : σ → α × σ) :
    (service.ask handle).2.running = service.running := by
  cases running : service.running <;> simp [ask, running]

namespace Fleet

def contents (fleet : Fleet) : Contents :=
  ⟨fleet.directory.content, fleet.readings.content, fleet.outbox.content⟩

def Offers (fleet : Fleet) : Call → Prop
  | .query _ => fleet.directory.running = true
  | .setStatus _ _ => fleet.directory.running = true
  | .quarantine devices _ _ => devices = [] ∨ fleet.readings.running = true
  | .notify _ => fleet.outbox.running = true

theorem Running.offers {fleet : Fleet} (h : fleet.Running) (request : Call) :
    fleet.Offers request := by
  cases request with
  | query filter => exact h.directory
  | setStatus id status => exact h.directory
  | quarantine devices window reason => exact Or.inr h.readings
  | notify batch => exact h.outbox

theorem answer_takes (fleet : Fleet) (request : Call) :
    Contents.Takes fleet.Offers False fleet.contents ⟨request, (fleet.answer request).1⟩
      (fleet.answer request).2.contents := by
  cases request with
  | query filter =>
      rcases fleet.directory.ask_cases fun dir => dir.handle (.query filter) with
        ⟨running, answer, after⟩ | ⟨stopped, answer, after⟩
      · refine Or.inl ⟨running, Prod.ext ?_ ?_⟩
        · exact congrArg (Except.mapError DirectoryError.worker) answer
        · exact congrArg (fun directory => { fleet.contents with directory }) after
      · have failed : (fleet.answer (.query filter)).1 = .error (.worker .stopped) :=
          congrArg (Except.mapError DirectoryError.worker) answer
        refine Or.inr ⟨Or.inr (by simp [Offers, stopped]), ?_, ?_⟩
        · rw [failed]
          rfl
        · exact congrArg (fun directory => { fleet.contents with directory }) after
  | setStatus id status =>
      rcases fleet.directory.ask_cases fun dir => dir.handle (.setStatus id status) with
        ⟨running, answer, after⟩ | ⟨stopped, answer, after⟩
      · refine Or.inl ⟨running, Prod.ext ?_ ?_⟩
        · exact congrArg (flatten DirectoryError.worker) answer
        · exact congrArg (fun directory => { fleet.contents with directory }) after
      · have failed : (fleet.answer (.setStatus id status)).1 = .error (.worker .stopped) :=
          congrArg (flatten DirectoryError.worker) answer
        refine Or.inr ⟨Or.inr (by simp [Offers, stopped]), ?_, ?_⟩
        · rw [failed]
          rfl
        · exact congrArg (fun directory => { fleet.contents with directory }) after
  | quarantine devices window reason =>
      by_cases given : devices = []
      · subst given
        refine Or.inl ⟨Or.inl rfl, Prod.ext ?_ ?_⟩
        · simp [answer, quarantineWindow, Contents.answer, ReadingStore.quarantineWindow_nil]
        · simp [answer, quarantineWindow, Contents.answer, ReadingStore.quarantineWindow_nil,
            contents]
      · have asked : fleet.answer (.quarantine devices window reason) =
            ((fleet.askReadings (.quarantineWindow devices window reason)).1.mapError .worker,
              (fleet.askReadings (.quarantineWindow devices window reason)).2) := by
          simp [answer, quarantineWindow, given]
        rw [asked]
        rcases fleet.readings.ask_cases fun store =>
            store.handle (.quarantineWindow devices window reason) with
          ⟨running, answer, after⟩ | ⟨stopped, answer, after⟩
        · refine Or.inl ⟨Or.inr running, Prod.ext ?_ ?_⟩
          · exact congrArg (Except.mapError QuarantineError.worker) answer
          · exact congrArg (fun readings => { fleet.contents with readings }) after
        · have failed :
              (fleet.askReadings (.quarantineWindow devices window reason)).1 = .error .stopped :=
            answer
          refine Or.inr ⟨Or.inr (by simp [Offers, stopped, given]), ?_, ?_⟩
          · rw [failed]
            rfl
          · exact congrArg (fun readings => { fleet.contents with readings }) after
  | notify batch =>
      rcases fleet.outbox.ask_cases fun outbox => outbox.handle (.send batch) with
        ⟨running, answer, after⟩ | ⟨stopped, answer, after⟩
      · refine Or.inl ⟨running, Prod.ext ?_ ?_⟩
        · exact congrArg (flatten NotifyError.worker) answer
        · exact congrArg (fun outbox => { fleet.contents with outbox }) after
      · have failed : (fleet.answer (.notify batch)).1 = .error (.worker .stopped) :=
          congrArg (flatten NotifyError.worker) answer
        refine Or.inr ⟨Or.inr (by simp [Offers, stopped]), ?_, ?_⟩
        · rw [failed]
          rfl
        · exact congrArg (fun outbox => { fleet.contents with outbox }) after

theorem answer_offers (fleet : Fleet) (request : Call) :
    (fleet.answer request).2.Offers = fleet.Offers := by
  have same {after : Fleet} (directory : after.directory.running = fleet.directory.running)
      (readings : after.readings.running = fleet.readings.running)
      (outbox : after.outbox.running = fleet.outbox.running) : after.Offers = fleet.Offers := by
    funext request
    cases request <;> simp [Offers, directory, readings, outbox]
  cases request with
  | query filter =>
      exact same (fleet.directory.ask_running fun dir => dir.handle (.query filter)) rfl rfl
  | setStatus id status =>
      exact same (fleet.directory.ask_running fun dir => dir.handle (.setStatus id status)) rfl rfl
  | quarantine devices window reason =>
      rw [answer, quarantineWindow]
      split
      · rfl
      · exact same rfl (fleet.readings.ask_running fun store =>
          store.handle (.quarantineWindow devices window reason)) rfl
  | notify batch =>
      exact same rfl rfl (fleet.outbox.ask_running fun outbox => outbox.handle (.send batch))

end Fleet

/-! ## Runs -/

structure Serves {σ : Type} (caps : Capabilities σ) (view : σ → Fleet) (faulty : Prop) : Prop where
  takes : ∀ request s, Contents.Takes (view s).Offers faulty (view s).contents
    ⟨request, (caps.answer request s).1⟩ (view (caps.answer request s).2).contents
  offers : ∀ request s, (view (caps.answer request s).2).Offers = (view s).Offers
  log : ∀ event s, view (caps.log event s) = Fleet.capabilities.log event (view s)

namespace Serves

variable {α σ : Type} {caps : Capabilities σ} {view : σ → Fleet} {faulty : Prop}

theorem log_offers (h : Serves caps view faulty) (event : LogEvent) (s : σ) :
    (view (caps.log event s)).Offers = (view s).Offers := by
  rw [h.log]
  rfl

theorem log_contents (h : Serves caps view faulty) (event : LogEvent) (s : σ) :
    (view (caps.log event s)).contents = (view s).contents := by
  rw [h.log]
  rfl

theorem run (h : Serves caps view faulty) (p : Program α) (s : σ) :
    Contents.Replays (view s).Offers faulty (view s).contents (p.calls caps s)
        (view (p.run caps s).2).contents ∧
      (view (p.run caps s).2).Offers = (view s).Offers := by
  induction p generalizing s with
  | done result => exact ⟨.nil _, rfl⟩
  | call request next ih =>
      obtain ⟨rest, offers⟩ := ih (caps.answer request s).1 (caps.answer request s).2
      rw [h.offers request s] at rest offers
      exact ⟨.cons (h.takes request s) rest, offers⟩
  | note event next ih =>
      obtain ⟨rest, offers⟩ := ih (caps.log event s)
      rw [h.log_offers, h.log_contents] at rest
      exact ⟨rest, offers.trans (h.log_offers event s)⟩

theorem step (h : Serves caps view faulty) (p : Program α) (s : σ) :
    ∃ made, Contents.Replays (view s).Offers faulty (view s).contents made
        (view (p.step caps s).2).contents ∧
      (view (p.step caps s).2).Offers = (view s).Offers ∧
      (∀ {more : List AnsweredCall} {result : α},
        (p.step caps s).1.Ends more result → p.Ends (made ++ more) result) ∧
      ((p.step caps s).1.result? = none → p.result? = none ∧ made.length = 1) := by
  induction p generalizing s with
  | done result => exact ⟨[], .nil _, rfl, id, nofun⟩
  | call request next ih =>
      exact ⟨_, .cons (h.takes request s) (.nil _), h.offers request s, .call, fun _ => ⟨rfl, rfl⟩⟩
  | note event next ih =>
      obtain ⟨made, replays, offers, ends, unfinished⟩ := ih (caps.log event s)
      rw [h.log_offers, h.log_contents] at replays
      exact ⟨made, replays, offers.trans (h.log_offers event s), fun rest => .note (ends rest),
        unfinished⟩

end Serves

theorem Fleet.serves : Serves Fleet.capabilities id False where
  takes request fleet := fleet.answer_takes request
  offers request fleet := fleet.answer_offers request
  log _ _ := rfl

/-! ## Trials -/

namespace Faults

def none : Faults :=
  ⟨.none, .none, .none, .none, .none, []⟩

structure Plain (faults : Faults) : Prop where
  running : faults.stopDirectoryAt = .none
  ghostless : faults.ghosts = []

end Faults

namespace Trial

variable {faults : Faults}

theorem answer_cases (plain : faults.Plain) (trial : Trial) (request : Call) :
    (AnsweredCall.failed ⟨request, (trial.answer faults request).1⟩ = true ∧
      (trial.answer faults request).2.fleet = trial.fleet) ∨
    ((trial.answer faults request).1 = (trial.fleet.answer request).1 ∧
      (trial.answer faults request).2.fleet = (trial.fleet.answer request).2) := by
  cases request with
  | query filter =>
      cases fault : faults.query with
      | none =>
          right
          cases found : (trial.fleet.answer (.query filter)).1 <;>
            simp [answer, orFleet, noted, fault, plain.ghostless, found, Except.map]
      | some e =>
          simp [answer, orFleet, noted, fault, Except.map, AnsweredCall.failed,
            AnsweredCall.fault?]
  | setStatus id status =>
      cases fault : faults.changeFailure? trial.changes with
      | none => simp [answer, orFleet, noted, fault, beforeChange, plain.running]
      | some e => simp [answer, noted, fault, AnsweredCall.failed, AnsweredCall.fault?]
  | quarantine devices window reason =>
      cases fault : faults.quarantine with
      | none => simp [answer, orFleet, noted, fault]
      | some e => simp [answer, orFleet, noted, fault, AnsweredCall.failed, AnsweredCall.fault?]
  | notify batch =>
      cases fault : faults.notify with
      | none => simp [answer, orFleet, noted, fault]
      | some e => simp [answer, orFleet, noted, fault, AnsweredCall.failed, AnsweredCall.fault?]

theorem serves (plain : faults.Plain) : Serves (capabilities faults) (·.fleet) True where
  takes request trial := by
    rcases answer_cases plain trial request with ⟨failed, same⟩ | ⟨reply, after⟩
    · exact Or.inr ⟨Or.inl trivial, failed, congrArg Fleet.contents same⟩
    · have taken := trial.fleet.answer_takes request
      rw [← reply, ← after] at taken
      rcases taken with answered | ⟨-, failed⟩
      · exact Or.inl answered
      · exact Or.inr ⟨Or.inl trivial, failed⟩
  offers request trial := by
    rcases answer_cases plain trial request with ⟨-, same⟩ | ⟨-, after⟩
    · exact congrArg Fleet.Offers same
    · exact (congrArg Fleet.Offers after).trans (trial.fleet.answer_offers request)
  log _ _ := rfl

theorem serves_none : Serves (capabilities .none) (·.fleet) False := by
  have same (request : Call) (trial : Trial) :
      (trial.answer .none request).1 = (trial.fleet.answer request).1 ∧
        (trial.answer .none request).2.fleet = (trial.fleet.answer request).2 := by
    cases request with
    | query filter =>
        cases found : (trial.fleet.answer (.query filter)).1 <;>
          simp [answer, orFleet, noted, Faults.none, found, Except.map]
    | setStatus id status =>
        simp [answer, orFleet, noted, Faults.none, Faults.changeFailure?, beforeChange]
    | quarantine devices window reason => simp [answer, orFleet, noted, Faults.none]
    | notify batch => simp [answer, orFleet, noted, Faults.none]
  constructor
  · intro request trial
    obtain ⟨reply, after⟩ := same request trial
    have taken := trial.fleet.answer_takes request
    rw [← reply, ← after] at taken
    exact taken
  · intro request trial
    exact (congrArg Fleet.Offers (same request trial).2).trans
      (trial.fleet.answer_offers request)
  · intro event trial
    rfl

end Trial

end FleetResponse
