import FleetResponse.Proofs.Worker.Handling

namespace FleetResponse.Worker

variable {σ μ ρ : Type} {b : Behaviour σ μ ρ} {s t : System σ μ ρ}

/-! ## Callbacks -/

inductive Callback (μ : Type)
  | start
  | startEnded (failure : Option WorkerError)
  | handle (client : Nat) (message : μ)
  | handleEnded (failure : Option WorkerError)
  | stop (lifecycle : Lifecycle) (processed : Nat)
  | stopEnded
deriving DecidableEq, Repr

namespace Callback

def begins : Callback μ → Bool
  | start => true
  | handle _ _ => true
  | stop _ _ => true
  | _ => false

def ofStep (b : Behaviour σ μ ρ) (s t : System σ μ ρ) : Move μ → List (Callback μ)
  | .start => [.start]
  | .ready => [.startEnded b.startFailure]
  | .take =>
      match t.activity with
      | .handling i message => [.handle i message]
      | _ => []
  | .finish => (History.returned b s .finish).map .handleEnded
  | .stop => [.stop s.context.lifecycle s.context.processed]
  | .part => [.stopEnded]
  | _ => []

theorem ofStep_of_client {m : Move μ} {i : Nat} (moves : System.mover? m = some i) :
    ofStep b s t m = [] := by
  cases m <;> first | rfl | cases moves

end Callback

def callbacks (b : Behaviour σ μ ρ) (s : System σ μ ρ) : List (Move μ) → List (Callback μ)
  | [] => []
  | m :: moves =>
      match s.step b m with
      | none => []
      | some t => Callback.ofStep b s t m ++ callbacks b t moves

def TraceEvent.callback? : TraceEvent σ μ → Option (Callback μ)
  | .started _ => some .start
  | .handling i message _ => some (.handle i message)
  | .noted _ => none
  | .stopping lifecycle processed _ => some (.stop lifecycle processed)

structure Handling (μ : Type) where
  client : Nat
  message : μ
  failure : Option WorkerError
deriving DecidableEq, Repr

namespace Handling

def isFatal (h : Handling μ) : Bool :=
  h.failure.any (·.isPermanent)

def callbacks (h : Handling μ) : List (Callback μ) :=
  [.handle h.client h.message, .handleEnded h.failure]

end Handling

def begun (handlings : List (Handling μ)) : List (Callback μ) :=
  [.start, .startEnded none] ++ handlings.flatMap Handling.callbacks

def lastIsFatal (handlings : List (Handling μ)) : Bool :=
  handlings.getLast?.any Handling.isFatal

def Behaviour.LeavesContext (b : Behaviour σ μ ρ) : Prop :=
  ∀ context message content turn, b.handle context message content = some turn →
    turn.lifecycle = context.lifecycle

/-! ## Lives -/

/-- The handlings and the callbacks of a worker so far, given its context and what it does. -/
inductive CallbackLog (b : Behaviour σ μ ρ) (context : Context) :
    Activity μ → List (Handling μ) → List (Callback μ) → Prop
  | unborn (counted : context.processed = 0) : CallbackLog b context .starting [] []
  | preparing (counted : context.processed = 0) : CallbackLog b context .preparing [] [.start]
  | broken {failure : WorkerError} (ill : b.startFailure = some failure) :
      CallbackLog b context .broken [] [.start, .startEnded (some failure)]
  | brokenEnded {failure : WorkerError} (ill : b.startFailure = some failure) :
      CallbackLog b context .ended [] [.start, .startEnded (some failure)]
  | brokenStopped {failure : WorkerError} (ill : b.startFailure = some failure) :
      CallbackLog b context .stopped [] [.start, .startEnded (some failure)]
  | idle {handlings : List (Handling μ)} (well : b.startFailure = none)
      (unharmed : lastIsFatal handlings = false) (counted : context.processed = handlings.length)
      (lifecycle : b.LeavesContext → context.lifecycle = .running) :
      CallbackLog b context .idle handlings (begun handlings)
  | handling {handlings : List (Handling μ)} {i : Nat} {message : μ}
      (well : b.startFailure = none) (counted : context.processed = handlings.length + 1)
      (lifecycle : b.LeavesContext → context.lifecycle = .running) :
      CallbackLog b context (.handling i message) handlings (begun handlings ++ [.handle i message])
  | leaving {handlings : List (Handling μ)} (well : b.startFailure = none)
      (counted : context.processed = handlings.length)
      (lifecycle : b.LeavesContext →
        context.lifecycle = if lastIsFatal handlings then .failed else .running) :
      CallbackLog b context .leaving handlings (begun handlings)
  | stopping {handlings : List (Handling μ)} (well : b.startFailure = none)
      (counted : context.processed = handlings.length)
      (lifecycle : b.LeavesContext →
        context.lifecycle = if lastIsFatal handlings then .failed else .stopping) :
      CallbackLog b context .stopping handlings (begun handlings)
  | parting {handlings : List (Handling μ)} {lifecycle : Lifecycle} {processed : Nat}
      (well : b.startFailure = none) (counted : processed = handlings.length)
      (led : b.LeavesContext → lifecycle = if lastIsFatal handlings then .failed else .stopping) :
      CallbackLog b context .parting handlings (begun handlings ++ [.stop lifecycle processed])
  | ended {handlings : List (Handling μ)} {lifecycle : Lifecycle} {processed : Nat}
      (well : b.startFailure = none) (counted : processed = handlings.length)
      (led : b.LeavesContext → lifecycle = if lastIsFatal handlings then .failed else .stopping) :
      CallbackLog b context .ended handlings
        (begun handlings ++ [.stop lifecycle processed, .stopEnded])
  | stopped {handlings : List (Handling μ)} {lifecycle : Lifecycle} {processed : Nat}
      (well : b.startFailure = none) (counted : processed = handlings.length)
      (led : b.LeavesContext → lifecycle = if lastIsFatal handlings then .failed else .stopping) :
      CallbackLog b context .stopped handlings
        (begun handlings ++ [.stop lifecycle processed, .stopEnded])

theorem begun_concat (handlings : List (Handling μ)) (h : Handling μ) :
    begun (handlings ++ [h]) = begun handlings ++ h.callbacks := by
  simp [begun]

theorem lastIsFatal_concat (handlings : List (Handling μ)) (h : Handling μ) :
    lastIsFatal (handlings ++ [h]) = h.isFatal := by
  simp [lastIsFatal]

namespace System

theorem finishStep_context (s : System σ μ ρ) (i : Nat) (turn : Turn σ ρ) :
    (s.finishStep i turn).context =
      { s.context with
        lifecycle := if turn.failure.any (·.isPermanent) then .failed else turn.lifecycle } := by
  unfold finishStep
  split <;> simp_all [setLifecycle, traced]

theorem closeStep_context (s : System σ μ ρ) :
    s.closeStep.context =
      { s.context with lifecycle := s.context.lifecycle.advance .stopping } := by
  simp [closeStep, closeMailbox, setLifecycle]

end System

theorem CallbackLog.finish {handlings : List (Handling μ)} {log : List (Callback μ)} {i : Nat}
    {message : μ} {turn : Turn σ ρ}
    (life : CallbackLog b s.context (.handling i message) handlings log)
    (ends : b.handle s.context message s.content = some turn) :
    CallbackLog b (s.finishStep i turn).context (s.finishStep i turn).activity
      (handlings ++ [⟨i, message, turn.failure⟩]) (log ++ [.handleEnded turn.failure]) := by
  cases life with
  | handling well counted lifecycle =>
      have log : begun handlings ++ [.handle i message] ++ [.handleEnded turn.failure] =
          begun (handlings ++ [⟨i, message, turn.failure⟩]) := by
        rw [begun_concat, List.append_assoc]
        rfl
      have struck := lastIsFatal_concat handlings ⟨i, message, turn.failure⟩
      have counted : s.context.processed =
          (handlings ++ [(⟨i, message, turn.failure⟩ : Handling μ)]).length := by
        rw [List.length_append, List.length_singleton, counted]
      rw [log, s.finishStep_context, (s.finishStep_frame i turn).1]
      cases fatal : turn.failure.any (·.isPermanent) with
      | true =>
          refine .leaving well counted fun _ => ?_
          rw [struck, Handling.isFatal, fatal]
          rfl
      | false =>
          refine .idle well (struck.trans fatal) counted fun leaves => ?_
          exact (leaves _ _ _ _ ends).trans (lifecycle leaves)

theorem CallbackLog.step {handlings : List (Handling μ)} {log : List (Callback μ)} {m : Move μ}
    (life : CallbackLog b s.context s.activity handlings log) (change : s.Change b m t) :
    ∃ handlings, CallbackLog b t.context t.activity handlings (log ++ Callback.ofStep b s t m) := by
  cases change with
  | client moves found change =>
      -- A client can neither call the worker back nor move it on.
      obtain ⟨-, context, activity, -⟩ := change.frame
      refine ⟨handlings, ?_⟩
      rw [Callback.ofStep_of_client moves, List.append_nil, context, activity]
      exact life
  | begun held | cloned held | dropped held => exact ⟨handlings, (List.append_nil log).symm ▸ life⟩
  | started at_ =>
      rw [at_] at life
      cases life with
      | unborn counted => exact ⟨[], .preparing counted⟩
  | readied at_ well =>
      rw [at_] at life
      cases life with
      | preparing counted =>
          refine ⟨[], ?_⟩
          rw [Callback.ofStep, well]
          exact .idle well rfl counted fun _ => rfl
  | broke at_ ill =>
      rw [at_] at life
      cases life with
      | preparing counted =>
          refine ⟨[], ?_⟩
          rw [Callback.ofStep, ill]
          exact .broken ill
  | @took i message rest at_ next =>
      rw [at_] at life
      cases life with
      | idle well unharmed counted lifecycle =>
          exact ⟨handlings, .handling well (congrArg (· + 1) counted) lifecycle⟩
  | @told rest at_ next =>
      rw [at_] at life
      cases life with
      | idle well unharmed counted lifecycle =>
          have context : (s.told rest).context = s.context := by simp [System.told]
          refine ⟨handlings, ?_⟩
          rw [Callback.ofStep, (s.told_frame rest).1, List.append_nil, context]
          exact .leaving well counted fun leaves => by rw [unharmed]; exact lifecycle leaves
  | deserted at_ next alone =>
      rw [at_] at life
      cases life with
      | idle well unharmed counted lifecycle =>
          refine ⟨handlings, ?_⟩
          rw [Callback.ofStep, List.append_nil]
          exact .leaving well counted fun leaves => by rw [unharmed]; exact lifecycle leaves
  | @finished i message turn at_ ends =>
      rw [at_] at life
      have returned : History.returned b s .finish = [turn.failure] := by
        simp [History.returned, at_, ends]
      rw [Callback.ofStep, returned]
      exact ⟨_, life.finish ends⟩
  | closed at_ =>
      rw [at_] at life
      cases life with
      | leaving well counted lifecycle =>
          have quiet : Callback.ofStep b s s.closeStep .close = [] := rfl
          refine ⟨handlings, ?_⟩
          rw [quiet, List.append_nil, s.closeStep_frame.1, s.closeStep_context]
          refine .stopping well counted fun leaves => ?_
          rw [lifecycle leaves]
          cases lastIsFatal handlings <;> rfl
  | shut at_ =>
      rw [at_] at life
      cases life with
      | broken ill => exact ⟨[], .brokenEnded ill⟩
  | stopping at_ =>
      rw [at_] at life
      cases life with
      | stopping well counted lifecycle => exact ⟨handlings, .parting well counted lifecycle⟩
  | parted at_ =>
      rw [at_] at life
      cases life with
      | parting well counted led =>
          refine ⟨handlings, ?_⟩
          rw [Callback.ofStep, List.append_assoc]
          exact .ended well counted led
  | stopped at_ =>
      rw [at_] at life
      have quiet : log ++ Callback.ofStep b s { s with activity := .stopped } .signal = log :=
        List.append_nil log
      rw [quiet]
      cases life with
      | ended well counted led => exact ⟨handlings, .stopped well counted led⟩
      | brokenEnded ill => exact ⟨[], .brokenStopped ill⟩

theorem CallbackLog.getLast?_of_stopped {context : Context} {handlings : List (Handling μ)}
    {log : List (Callback μ)} (life : CallbackLog b context .stopped handlings log) :
    log.getLast? = some .stopEnded ∨
      ∃ failure, log.getLast? = some (.startEnded (some failure)) := by
  cases life with
  | brokenStopped ill => exact .inr ⟨_, rfl⟩
  | stopped well counted led => exact .inl (by simp)

theorem Callback.ofStep_begins {m : Move μ} (change : s.Change b m t) :
    t.trace.filterMap TraceEvent.callback? =
      s.trace.filterMap TraceEvent.callback? ++ (Callback.ofStep b s t m).filter begins := by
  have kept {r : System σ μ ρ} {m : Move μ} (trace : r.trace = s.trace)
      (quiet : Callback.ofStep b s r m = []) :
      r.trace.filterMap TraceEvent.callback? =
        s.trace.filterMap TraceEvent.callback? ++ (Callback.ofStep b s r m).filter begins := by
    rw [trace, quiet, List.filter_nil, List.append_nil]
  cases change with
  | client moves found change => exact kept change.frame.2.2.2.2.1 (ofStep_of_client moves)
  | begun held | cloned held | dropped held => exact kept rfl rfl
  | started at_ | stopping at_ => exact List.filterMap_append
  | readied at_ | broke at_ | parted at_ => exact (List.append_nil _).symm
  | took at_ next =>
      rw [ofStep, (s.took_frame _ _ _).1, (s.took_frame _ _ _).2.2.2.2.2.2.1]
      exact List.filterMap_append
  | told at_ next => exact kept (by simp) (by simp [ofStep])
  | deserted at_ | stopped at_ => exact kept rfl rfl
  | @finished i message turn at_ ends =>
      rw [(s.finishStep_frame i turn).2.2.2.2.2.2.1, List.filterMap_append]
      simp [ofStep, History.returned, at_, ends, begins, TraceEvent.callback?, Function.comp_def]
  | closed at_ | shut at_ => exact kept (by simp) rfl

/-! ## The end -/

def Stage.noEarlyStop (ended : Bool) : Stage ρ → Bool
  | awaitingReply => false
  | answered _ => false
  | finished _ => ended
  | _ => true

def Stage.isRefused : Stage ρ → Bool
  | fresh => true
  | admitted => true
  | finished (.failed .stopped) => true
  | abandoned => true
  | _ => false

theorem Stage.noEarlyStop_mono {stage : Stage ρ} {ended : Bool}
    (noEarlyStop : stage.noEarlyStop ended = true) :
    stage.noEarlyStop true = true := by
  cases stage <;> first | rfl | exact noEarlyStop

theorem Operation.handedIn_noEarlyStop {o : Operation μ} (request : o.message? = none)
    (ended : Bool) : (o.handedIn : Stage ρ).noEarlyStop ended = true := by
  cases o <;> first | rfl | cases request

namespace System

theorem isStopped_of_stopped (at_ : s.activity = .stopped) : s.isStopped = true := by
  rw [isStopped, at_]

theorem Change.isStopped {m : Move μ} (change : s.Change b m t) (ended : s.isStopped = true) :
    t.isStopped = true := by
  have past := stopped_of_isStopped ended
  cases change with
  | client moves found change => exact isStopped_of_stopped (change.frame.2.2.1.trans past)
  | begun held | cloned held | dropped held => exact ended
  | stopped at_ => rfl
  | started at_ | readied at_ | broke at_ | took at_ | told at_ | deserted at_ | finished at_
  | closed at_ | shut at_ | stopping at_ | parted at_ =>
      rw [past] at at_
      cases at_

def NoEarlyStop (s : System σ μ ρ) : Prop :=
  ∀ (i : Nat) (c : Client μ ρ), s.clients[i]? = some c → c.operation.message? = none →
    c.stage.noEarlyStop s.isStopped = true

theorem spawn_noEarlyStop (identity : String) (size : Nat) (content : σ) :
    (spawn identity size content : System σ μ ρ).NoEarlyStop := by
  intro i c found
  simp [spawn] at found

theorem NoEarlyStop.setStage {i : Nat} {c : Client μ ρ} {stage : Stage ρ} (noEarly : s.NoEarlyStop)
    (found : s.clients[i]? = some c)
    (noEarlyStop : c.operation.message? = none → stage.noEarlyStop s.isStopped = true) :
    (s.setStage i stage).NoEarlyStop := by
  intro j d there request
  obtain ⟨-, was⟩ | ⟨before, rfl, was, rfl⟩ := setStage_client there
  · exact noEarly j d was request
  · rw [found] at was
    cases was
    exact noEarlyStop request

theorem NoEarlyStop.freeSlot (noEarly : s.NoEarlyStop) : s.freeSlot.NoEarlyStop := by
  intro j d there request
  have same : s.freeSlot.isStopped = s.isStopped := by simp [System.isStopped]
  rw [same]
  obtain ⟨was, -⟩ | ⟨before, -, -, rfl⟩ := freeSlot_client there
  · exact noEarly j d was request
  · rfl

theorem NoEarlyStop.later (noEarly : s.NoEarlyStop) (clients : t.clients = s.clients)
    (later : s.isStopped = true → t.isStopped = true) : t.NoEarlyStop := by
  intro j d there request
  have noEarlyStop := noEarly j d (clients ▸ there) request
  cases stopped : t.isStopped with
  | true => exact Stage.noEarlyStop_mono noEarlyStop
  | false =>
      have running : s.isStopped = false := by
        cases ended : s.isStopped with
        | true => exact (later ended).symm.trans stopped
        | false => rfl
      rwa [running] at noEarlyStop

theorem NoEarlyStop.answer (noEarly : s.NoEarlyStop) (i : Nat) (reply : Option ρ) :
    (s.answer i reply).NoEarlyStop := by
  intro j d there request
  have same : (s.answer i reply).isStopped = s.isStopped := by simp [System.isStopped]
  rw [same]
  obtain ⟨was, -⟩ | ⟨before, -, was, waits, rfl⟩ := answer_client there
  · exact noEarly j d was request
  · have noEarlyStop := noEarly j before was request
    rw [waits] at noEarlyStop
    cases noEarlyStop

theorem NoEarlyStop.discard (noEarly : s.NoEarlyStop) (envelopes : List (Envelope μ)) :
    (s.discard envelopes).NoEarlyStop := by
  induction envelopes generalizing s with
  | nil => exact noEarly
  | cons e envelopes ih =>
      cases e with
      | request i m => exact ih (noEarly.answer i none)
      | shutdown => exact ih noEarly

theorem NoEarlyStop.closeMailbox (noEarly : s.NoEarlyStop) : s.closeMailbox.NoEarlyStop :=
  NoEarlyStop.discard (s := { s with closed := true, mailbox := [], line := [] }) noEarly s.mailbox

theorem Shift.noEarlyStop {o : Operation μ} {before after : Stage ρ}
    (moves : s.Shift o before after)
    (request : o.message? = none) (noEarlyStop : before.noEarlyStop s.isStopped = true) :
    after.noEarlyStop s.isStopped = true := by
  cases moves with
  | refused asks away | admitted asks opening =>
      rw [request] at asks
      cases asks
  | replied | unanswered => cases noEarlyStop
  | shutDown ended | sawStop other ended => exact ended
  | resigned none away | watching | abandoned under waits holds => rfl

theorem NoEarlyStop.client {i : Nat} {c : Client μ ρ} (noEarly : s.NoEarlyStop)
    (found : s.clients[i]? = some c) (change : s.ClientChange i c t) : t.NoEarlyStop := by
  cases change with
  | shift moves =>
      exact noEarly.setStage found fun request =>
        moves.noEarlyStop request (noEarly i c found request)
  | asked asks new opening =>
      exact NoEarlyStop.setStage (s := { s with closing := true }) noEarly found fun _ => rfl
  | queued new opened full =>
      exact NoEarlyStop.setStage (s := { s with line := s.line ++ [i] }) noEarly found fun _ => rfl
  | @posted free e enters opened brings =>
      exact NoEarlyStop.setStage (s := { s with free, mailbox := s.mailbox ++ [e] }) noEarly found
        fun request => Operation.handedIn_noEarlyStop request _
  | wasted enters watches => exact noEarly
  | left waits =>
      exact NoEarlyStop.setStage (s := { s with line := s.line.erase i }) noEarly found
        fun _ => rfl
  | yielded holds => exact (noEarly.setStage found fun _ => rfl).freeSlot

theorem NoEarlyStop.step {m : Move μ} (noEarly : s.NoEarlyStop) (change : s.Change b m t) :
    t.NoEarlyStop := by
  have later := change.isStopped
  cases change with
  | client moves found change => exact noEarly.client found change
  | begun held =>
      intro j d there request
      rw [List.getElem?_append] at there
      split at there
      · exact noEarly j d there request
      · rw [List.getElem?_singleton] at there
        split at there <;> cases there
        rfl
  | cloned held | dropped held | deserted at_ | started at_ | readied at_ | broke at_
  | stopping at_ | parted at_ | stopped at_ => exact noEarly.later rfl later
  | @took i message rest at_ next =>
      exact (NoEarlyStop.freeSlot (s := { s with mailbox := rest }) noEarly).later rfl
        (by simp [System.isStopped, at_])
  | @told rest at_ next =>
      exact (NoEarlyStop.freeSlot (s := { s with mailbox := rest }) noEarly).later rfl
        (by simp [System.isStopped, at_])
  | @finished i message turn at_ ends =>
      exact (noEarly.answer i turn.reply).later (s.finishStep_clients i turn)
        (by simp [System.isStopped, at_])
  | closed at_ | shut at_ =>
      exact noEarly.closeMailbox.later rfl (by simp [System.isStopped, at_])

/-! ## After the end -/

def RefusesFrom (s : System σ μ ρ) (n : Nat) : Prop :=
  ∀ (i : Nat) (c : Client μ ρ), n ≤ i → s.clients[i]? = some c →
    c.operation.message?.isSome = true → c.stage.isRefused = true

theorem refusesFrom_length (s : System σ μ ρ) : s.RefusesFrom s.clients.length := by
  intro i c new found
  rw [List.getElem?_eq_none new] at found
  cases found

theorem RefusesFrom.setStage {n i : Nat} {c : Client μ ρ} {stage : Stage ρ}
    (refuses : s.RefusesFrom n)
    (found : s.clients[i]? = some c)
    (away : c.operation.message?.isSome = true → c.stage.isRefused = true →
      stage.isRefused = true) : (s.setStage i stage).RefusesFrom n := by
  intro j d new there request
  obtain ⟨-, was⟩ | ⟨before, rfl, was, rfl⟩ := setStage_client there
  · exact refuses j d new was request
  · rw [found] at was
    cases was
    exact away request (refuses i c new found request)

theorem Shift.isRefused {o : Operation μ} {before after : Stage ρ}
    (moves : s.Shift o before after) (request : o.message?.isSome = true)
    (away : before.isRefused = true) : after.isRefused = true := by
  cases moves with
  | admitted asks opening | refused asks closed | unanswered | abandoned under waits holds => rfl
  | resigned none closed =>
      rw [none] at request
      cases request
  | watching | shutDown ended => cases request
  | replied | sawStop other ended => cases away

theorem RefusesFrom.client {n i : Nat} {c : Client μ ρ} (refuses : s.RefusesFrom n)
    (closed : s.closed = true) (empty : s.line = []) (found : s.clients[i]? = some c)
    (change : s.ClientChange i c t) : t.RefusesFrom n := by
  cases change with
  | shift moves => exact refuses.setStage found fun request away => moves.isRefused request away
  | asked asks new opening =>
      exact RefusesFrom.setStage (s := { s with closing := true }) refuses found fun _ _ => rfl
  | queued new opened full =>
      rw [closed] at opened
      cases opened
  | posted enters opened brings =>
      rw [closed] at opened
      cases opened
  | wasted enters watches => exact refuses
  | left waits =>
      exact RefusesFrom.setStage (s := { s with line := s.line.erase i }) refuses found
        fun _ _ => rfl
  | yielded holds =>
      -- Nobody stands in line any more, so the slot that is given back goes to nobody.
      have gone : (s.setStage i .abandoned).RefusesFrom n := refuses.setStage found fun _ _ => rfl
      have same : (s.setStage i .abandoned).freeSlot.clients = (s.setStage i .abandoned).clients :=
        by rw [System.freeSlot, (s.setStage_frame i .abandoned).2.2.2.2.2.1, empty]
      exact fun j d new there => gone j d new (same ▸ there)

theorem RefusesFrom.step {n : Nat} {m : Move μ} (refuses : s.RefusesFrom n) (tidy : s.Tidy)
    (ended : s.isStopped = true) (change : s.Change b m t) : t.RefusesFrom n := by
  have past := stopped_of_isStopped ended
  have closed : s.closed = true := tidy.closed_eq.trans (past ▸ rfl)
  cases change with
  | client moves found change => exact refuses.client closed (tidy.cleared closed).2 found change
  | begun held =>
      intro j d new there request
      rw [List.getElem?_append] at there
      split at there
      · exact refuses j d new there request
      · rw [List.getElem?_singleton] at there
        split at there <;> cases there
        rfl
  | cloned held | dropped held => exact refuses
  | started at_ | readied at_ | broke at_ | took at_ | told at_ | deserted at_ | finished at_
  | closed at_ | shut at_ | stopping at_ | parted at_ | stopped at_ =>
      rw [past] at at_
      cases at_

theorem step_submit_refused {i : Nat} {o : Operation μ} (closed : s.closed = true)
    (found : s.clients[i]? = some ⟨o, .admitted⟩) (request : o.message?.isSome = true) :
    s.step b (.submit i) = some (s.setStage i (.finished (.failed .stopped))) := by
  cases o with
  | call m | send m => simp [step, found, submitStep, closed, refuse]
  | shutdown | awaitStop => cases request

theorem step_check_request {i : Nat} {o : Operation μ}
    (found : s.clients[i]? = some ⟨o, .fresh⟩) (request : o.message?.isSome = true) :
    s.step b (.check i) = some (s.setStage i
      (if s.closing then .finished (.failed .stopped) else .admitted)) := by
  cases o with
  | call m | send m => cases closing : s.closing <;> simp [step, found, checkStep, closing, refuse]
  | shutdown | awaitStop => cases request

/-- Whether a request gets the answer of a worker that stopped, by no more than its own next
steps. -/
def AnswersStopped (b : Behaviour σ μ ρ) (s : System σ μ ρ) (i : Nat) (o : Operation μ) : Prop :=
  ∃ own t, own ∈ [[], [.check i], [.submit i], [.check i, .submit i]] ∧
    s.steps b own = some t ∧ t.clients[i]? = some ⟨o, .finished (.failed .stopped)⟩

theorem answersStopped_of_isRefused {i : Nat} {c : Client μ ρ} (closed : s.closed = true)
    (found : s.clients[i]? = some c) (request : c.operation.message?.isSome = true)
    (refuses : c.stage.isRefused = true) (stays : c.stage ≠ .abandoned) :
    s.AnswersStopped b i c.operation := by
  obtain ⟨o, stage⟩ := c
  have own {r : System σ μ ρ} {before after : Stage ρ}
      (there : r.clients[i]? = some ⟨o, before⟩) :
      (r.setStage i after).clients[i]? = some ⟨o, after⟩ := by
    simp [setStage, there]
  cases stage with
  | fresh =>
      have checked := step_check_request (b := b) found request
      cases closing : s.closing with
      | true =>
          rw [closing, if_pos rfl] at checked
          exact ⟨[.check i], _, by simp, by rw [steps, checked]; rfl, own found⟩
      | false =>
          -- Nobody asked the worker to shut down, so it is the mailbox that refuses.
          rw [closing, if_neg Bool.false_ne_true] at checked
          have submitted := step_submit_refused (b := b) (s := s.setStage i .admitted) closed
            (own found) request
          have both : s.steps b [.check i, .submit i] =
              some ((s.setStage i .admitted).setStage i (.finished (.failed .stopped))) := by
            rw [steps, checked, Option.bind_some, steps, submitted]
            rfl
          exact ⟨[.check i, .submit i], _, by simp, both, own (own found)⟩
  | admitted =>
      have submitted := step_submit_refused (b := b) closed found request
      exact ⟨[.submit i], _, by simp, by rw [steps, submitted]; rfl, own found⟩
  | finished result =>
      refine ⟨[], s, by simp, rfl, ?_⟩
      rw [found]
      unfold Stage.isRefused at refuses
      split at refuses <;> simp_all
  | abandoned => exact absurd rfl stays
  | waiting | granted | awaitingReply | answered reply | awaitingStop => cases refuses

theorem ofStep_of_stopped {m : Move μ} (ended : s.isStopped = true) (change : s.Change b m t) :
    Callback.ofStep b s t m = [] := by
  have past := stopped_of_isStopped ended
  cases change with
  | client moves found change => exact Callback.ofStep_of_client moves
  | begun held | cloned held | dropped held => rfl
  | started at_ | readied at_ | broke at_ | took at_ | told at_ | deserted at_ | finished at_
  | closed at_ | shut at_ | stopping at_ | parted at_ | stopped at_ =>
      rw [past] at at_
      cases at_

theorem refusesFrom_run {n : Nat} {moves : List (Move μ)} (refuses : s.RefusesFrom n)
    (tidy : s.Tidy) (ended : s.isStopped = true) (run : s.steps b moves = some t) :
    t.RefusesFrom n ∧ t.isStopped = true ∧ callbacks b s moves = [] := by
  induction moves generalizing s with
  | nil =>
      cases run
      exact ⟨refuses, ended, rfl⟩
  | cons m moves ih =>
      obtain ⟨next, stepped, run⟩ := Option.bind_eq_some_iff.mp run
      have change := change_of_step stepped
      obtain ⟨refuses, stopped, quiet⟩ :=
        ih (refuses.step tidy ended change) (tidy.step change) (change.isStopped ended) run
      refine ⟨refuses, stopped, ?_⟩
      simp only [callbacks, stepped, quiet, List.append_nil]
      exact ofStep_of_stopped ended change

end System

/-! ## Runs -/

/-- What the callbacks of a worker were so far, and what its clients can rely on at its end. -/
structure CallbackOrder (b : Behaviour σ μ ρ) (s : System σ μ ρ) (log : List (Callback μ)) :
    Prop where
  life : ∃ handlings, CallbackLog b s.context s.activity handlings log
  traced : s.trace.filterMap TraceEvent.callback? = log.filter Callback.begins
  signalled : s.isStopped = true → log.getLast? = some .stopEnded ∨
    ∃ failure, log.getLast? = some (.startEnded (some failure))
  awaited : ∀ (i : Nat) (c : Client μ ρ) (result : Result ρ), s.clients[i]? = some c →
    c.operation.message? = none → c.stage = .finished result → s.isStopped = true
  past : s.isStopped = true → ∀ later t, s.steps b later = some t →
    t.isStopped = true ∧ callbacks b s later = [] ∧
      ∀ (i : Nat) (c : Client μ ρ), s.clients.length ≤ i → t.clients[i]? = some c →
        c.operation.message?.isSome = true → c.stage ≠ .abandoned →
        t.AnswersStopped b i c.operation

structure CallbackInvariant (b : Behaviour σ μ ρ) (s : System σ μ ρ) (log : List (Callback μ)) :
    Prop where
  life : ∃ handlings, CallbackLog b s.context s.activity handlings log
  traced : s.trace.filterMap TraceEvent.callback? = log.filter Callback.begins
  noEarly : s.NoEarlyStop
  tidy : s.Tidy

theorem CallbackInvariant.run {log : List (Callback μ)} {moves : List (Move μ)}
    (alive : CallbackInvariant b s log)
    (run : s.steps b moves = some t) : CallbackInvariant b t (log ++ callbacks b s moves) := by
  induction moves generalizing s log with
  | nil =>
      cases run
      rw [callbacks, List.append_nil]
      exact alive
  | cons m moves ih =>
      obtain ⟨next, stepped, run⟩ := Option.bind_eq_some_iff.mp run
      have change := System.change_of_step stepped
      obtain ⟨handlings, life⟩ := alive.life
      have more : CallbackInvariant b next (log ++ Callback.ofStep b s next m) := by
        refine ⟨life.step change, ?_, alive.noEarly.step change, alive.tidy.step change⟩
        rw [Callback.ofStep_begins change, alive.traced, List.filter_append]
      simp only [callbacks, stepped, ← List.append_assoc]
      exact ih more run

/-- The callbacks of every run of a worker make one life, and nobody waits for its end in vain or
too briefly. -/
theorem run_callbackOrder (b : Behaviour σ μ ρ) (identity : String) (size : Nat) (content : σ)
    (moves : List (Move μ)) (run : (System.spawn identity size content).steps b moves = some s) :
    CallbackOrder b s (callbacks b (.spawn identity size content) moves) := by
  have spawned : CallbackInvariant b (System.spawn identity size content : System σ μ ρ) [] :=
    ⟨⟨[], .unborn rfl⟩, rfl, System.spawn_noEarlyStop identity size content,
      System.spawn_tidy identity size content⟩
  have alive := spawned.run run
  refine ⟨alive.life, alive.traced, fun ended => ?_, fun i c result found request finished => ?_,
    fun ended later t further => ?_⟩
  · obtain ⟨handlings, life⟩ := alive.life
    rw [System.stopped_of_isStopped ended] at life
    exact life.getLast?_of_stopped
  · have noEarlyStop := alive.noEarly i c found request
    rw [finished] at noEarlyStop
    exact noEarlyStop
  · obtain ⟨refuses, stopped, quiet⟩ :=
      System.refusesFrom_run s.refusesFrom_length alive.tidy ended further
    refine ⟨stopped, quiet, fun i c new found request stays => ?_⟩
    have at_ := System.stopped_of_isStopped stopped
    have closed : t.closed = true := (alive.tidy.run further).closed_eq.trans (at_ ▸ rfl)
    have away := refuses i c new found request
    exact System.answersStopped_of_isRefused closed found request away stays

def permanentFailure : List (Move Counter.Message) :=
  [.start, .ready, .begin_ (.call (.add 2)), .check 0, .submit 0, .begin_ (.call (.crash "fuse")),
    .check 1, .submit 1, .begin_ (.send (.add 3)), .check 2, .submit 2, .begin_ .shutdown,
    .check 3, .take, .finish, .take, .finish, .begin_ .awaitStop, .check 4, .close, .submit 3,
    .stop, .part, .signal, .collect 3, .collect 4, .begin_ (.call (.add 1)), .check 5]

theorem run_callbackOrder_permanentFailure :
    ∃ s, (System.spawn "counter" 4 ⟨0, 0⟩).steps (Counter.behaviour none) permanentFailure =
        some s ∧
      s.clients.map (·.stage) = [.answered (some (.value 2)), .answered none, .finished .sent,
        .finished .shutDown, .finished .stopped, .finished (.failed .stopped)] ∧
      callbacks (Counter.behaviour none) (.spawn "counter" 4 ⟨0, 0⟩) permanentFailure =
        [.start, .startEnded none, .handle 0 (.add 2), .handleEnded none,
          .handle 1 (.crash "fuse"), .handleEnded (some (.permanent "fuse")), .stop .failed 2,
          .stopEnded] ∧
      CallbackOrder (Counter.behaviour none) s
        (callbacks (Counter.behaviour none) (.spawn "counter" 4 ⟨0, 0⟩) permanentFailure) :=
  ⟨_, rfl, rfl, rfl,
    run_callbackOrder (Counter.behaviour none) "counter" 4 ⟨0, 0⟩ permanentFailure rfl⟩

end FleetResponse.Worker
