import FleetResponse.Fleet.Service
import FleetResponse.Proofs.Fleet.Execution

/-!
# A client that is alone

With a single client, which waits for every answer before it asks for more, the worker of a store is
a service, whatever the size of its mailbox is.
-/

namespace FleetResponse

open Worker

variable {σ μ : Type} {Answer : μ → Type} {store : Store σ μ Answer}

def Worker.Move.goesOn : Move μ → Bool
  | .begin_ _ => false
  | .abandon _ => false
  | .cloneHandle => false
  | .dropHandle => false
  | _ => true

namespace Worker.System

variable {ρ : Type} {b : Behaviour σ μ ρ} {s : System σ μ ρ} {request : μ}

structure Quiet (s : System σ μ ρ) : Prop where
  activity : s.activity = .idle
  mailbox : s.mailbox = []
  line : s.line = []
  closing : s.closing = false
  closed : s.closed = false
  free : 0 < s.free
  handles : 0 < s.handles
  rests : ∀ c ∈ s.clients, c.stage.isOpen = false

def joined (s : System σ μ ρ) (request : μ) (stage : Stage ρ) : System σ μ ρ :=
  { s with clients := s.clients ++ [⟨.call request, stage⟩] }

theorem setStage_joined (s : System σ μ ρ) (request : μ) (stage next : Stage ρ) :
    (s.joined request stage).setStage s.clients.length next = s.joined request next := by
  simp [joined, setStage, List.modify_eq_take_drop]

theorem answer_joined (s : System σ μ ρ) (request : μ) (reply : Option ρ) :
    (s.joined request .awaitingReply).answer s.clients.length reply =
      s.joined request (.answered reply) := by
  have found : (s.joined request (.awaitingReply : Stage ρ)).clients[s.clients.length]? =
      some ⟨.call request, .awaitingReply⟩ := by simp [joined]
  rw [answer, found]
  exact setStage_joined s request .awaitingReply (.answered reply)

end Worker.System

/-! ## A call -/

section

variable (store) (s : System σ μ (Reply Answer)) (request : μ)

def replyTo (content : σ) : Reply Answer :=
  ⟨request, (store.handle content request).1⟩

def posted : System σ μ (Reply Answer) :=
  { s with free := s.free - 1, mailbox := s.mailbox ++ [.request s.clients.length request] }

def taken : System σ μ (Reply Answer) :=
  { s with
    context := { s.context with processed := s.context.processed + 1 }
    activity := .handling s.clients.length request
    mailbox := []
    free := s.free - 1 + 1
    trace := s.trace ++ [.handling s.clients.length request (s.context.processed + 1)] }

def served : System σ μ (Reply Answer) :=
  { taken s request with content := (store.handle s.content request).2, activity := .idle }

def callStage : Nat → Stage (Reply Answer)
  | 0 => .fresh
  | 1 => .admitted
  | 2 => .awaitingReply
  | 3 => .awaitingReply
  | 4 => .answered (some (replyTo store request s.content))
  | _ => .finished (.replied (replyTo store request s.content))

/-- The system during a call, by the number of steps that have been made for it. -/
def calling (k : Nat) : System σ μ (Reply Answer) :=
  let now :=
    match k with
    | 0 => s
    | 1 => s
    | 2 => posted s request
    | 3 => taken s request
    | _ => served store s request
  now.joined request (callStage store s request k)

def callMove : Nat → Move μ
  | 0 => .check s.clients.length
  | 1 => .submit s.clients.length
  | 2 => .take
  | 3 => .finish
  | _ => .collect s.clients.length

theorem calling_clients (k : Nat) : (calling store s request k).clients =
    s.clients ++ [⟨.call request, callStage store s request k⟩] :=
  match k with
  | 0 | 1 | 2 | 3 | _ + 4 => rfl

theorem calling_handles (k : Nat) : (calling store s request k).handles = s.handles :=
  match k with
  | 0 | 1 | 2 | 3 | _ + 4 => rfl

theorem calling_found (k : Nat) : (calling store s request k).clients[s.clients.length]? =
    some ⟨.call request, callStage store s request k⟩ := by
  rw [calling_clients, List.getElem?_concat_length]

end

variable {s t : System σ μ (Reply Answer)} {request : μ} {k : Nat} {m : Move μ}

theorem finishStep_turn (s : System σ μ (Reply Answer)) (i : Nat) (request : μ) :
    s.finishStep i (store.turn s.context request s.content) =
      { ({ s with content := (store.handle s.content request).2 }).answer i
          (some (replyTo store request s.content)) with activity := .idle } := by
  have handled : ({ s with content := (store.handle s.content request).2 }.traced []).setLifecycle
      s.context.lifecycle = { s with content := (store.handle s.content request).2 } := by
    simp only [System.traced, System.setLifecycle, List.append_nil]
  rw [← handled]
  rfl

theorem step_calling (quiet : s.Quiet) (under : k < 5) :
    (calling store s request k).step store.behaviour (callMove s k) =
      some (calling store s request (k + 1)) := by
  have found := calling_found store s request k
  match k, under with
  | 0, _ =>
      have opening : (calling store s request 0).closing = false := quiet.closing
      simp only [callMove, System.step, found, Option.bind_eq_bind, Option.bind_some, callStage,
        System.checkStep, opening]
      exact congrArg some (System.setStage_joined s request .fresh .admitted)
  | 1, _ =>
      have opened : ¬ (calling store s request 1).closed = true := by
        exact Bool.not_eq_true _ ▸ quiet.closed
      have slot : 0 < (calling store s request 1).free := quiet.free
      simp only [callMove, System.step, found, Option.bind_eq_bind, Option.bind_some, callStage,
        System.submitStep]
      rw [if_neg opened, if_pos slot]
      exact congrArg some
        (System.setStage_joined (posted s request) request .admitted .awaitingReply)
  | 2, _ =>
      have idle : (calling store s request 2).activity = .idle := quiet.activity
      have next : (calling store s request 2).mailbox = [.request s.clients.length request] :=
        congrArg (· ++ _) quiet.mailbox
      simp only [callMove, System.step, idle, System.takeStep?, next]
      simp only [System.freeSlot, calling, posted, taken, System.joined, quiet.line]
      rfl
  | 3, _ =>
      have busy : (calling store s request 3).activity = .handling s.clients.length request := rfl
      simp only [callMove, System.step, busy, Store.behaviour, Option.map_some]
      rw [finishStep_turn]
      exact congrArg (fun s => some { s with activity := .idle })
        (System.answer_joined { taken s request with content := (store.handle s.content request).2 }
          request (some (replyTo store request s.content)))
  | 4, _ =>
      simp only [callMove, System.step, found, Option.bind_eq_bind, Option.bind_some, callStage,
        System.collectStep?]
      exact congrArg some (System.setStage_joined (served store s request) request _ _)

theorem calling_mover (quiet : s.Quiet) {i : Nat} (moves : System.mover? m = some i)
    (stepped : (calling store s request k).step store.behaviour m = some t) :
    i = s.clients.length := by
  -- Of the clients, only the one that calls can move.
  cases System.change_of_step stepped with
  | @client _ j c _ moved found change =>
      obtain rfl : i = j := by simpa [moves] using moved
      rw [calling_clients, List.getElem?_append] at found
      split at found
      · have rests := quiet.rests c (List.mem_of_getElem? found)
        rw [change.isOpen] at rests
        cases rests
      · have inside := (List.getElem?_eq_some_iff.mp found).1
        simp only [List.length_cons, List.length_nil] at inside
        omega
  | _ => cases moves

theorem calling_activity (quiet : s.Quiet) (store : Store σ μ Answer) (request : μ) (k : Nat) :
    (calling store s request k).activity = .idle ∨ k = 3 :=
  match k with
  | 0 | 1 | 2 => .inl quiet.activity
  | 3 => .inr rfl
  | _ + 4 => .inl rfl

theorem calling_mailbox (quiet : s.Quiet) (store : Store σ μ Answer) (request : μ) (k : Nat) :
    (calling store s request k).mailbox = [] ∨ k = 2 :=
  match k with
  | 0 | 1 => .inl quiet.mailbox
  | 2 => .inr rfl
  | 3 | _ + 4 => .inl rfl

theorem calling_only (quiet : s.Quiet) (goesOn : m.goesOn = true)
    (stepped : (calling store s request k).step store.behaviour m = some t) :
    m = callMove s k ∧ k < 5 := by
  have found := calling_found store s request k
  -- A move of the client is told by its stage, one of the worker by what it does and has in its
  -- mailbox.
  cases m with
  | check i =>
      obtain rfl := calling_mover quiet rfl stepped
      simp only [System.step, found, Option.bind_eq_bind, Option.bind_some] at stepped
      obtain _ | _ | _ | _ | _ | k := k
      · exact ⟨rfl, by decide⟩
      all_goals cases stepped
  | submit i =>
      obtain rfl := calling_mover quiet rfl stepped
      simp only [System.step, found, Option.bind_eq_bind, Option.bind_some] at stepped
      obtain _ | _ | _ | _ | _ | k := k
      case succ.zero => exact ⟨rfl, by decide⟩
      all_goals cases stepped
  | push i =>
      obtain rfl := calling_mover quiet rfl stepped
      simp only [System.step, found, Option.bind_eq_bind, Option.bind_some] at stepped
      obtain _ | _ | _ | _ | _ | k := k
      all_goals cases stepped
  | collect i =>
      obtain rfl := calling_mover quiet rfl stepped
      simp only [System.step, found, Option.bind_eq_bind, Option.bind_some] at stepped
      obtain _ | _ | _ | _ | _ | k := k
      case succ.succ.succ.succ.zero => exact ⟨rfl, by decide⟩
      all_goals cases stepped
  | take =>
      obtain empty | rfl := calling_mailbox quiet store request k
      · cases System.change_of_step stepped with
        | client moves => cases moves
        | deserted at_ next alone =>
            have kept := calling_handles store s request k
            have held := quiet.handles
            rw [System.handleCount] at alone
            omega
        | took at_ next | told at_ next =>
            rw [empty] at next
            cases next
      · exact ⟨rfl, by decide⟩
  | finish =>
      obtain idle | rfl := calling_activity quiet store request k
      · simp only [System.step, idle] at stepped
        cases stepped
      · exact ⟨rfl, by decide⟩
  | start | ready | close | stop | part | signal =>
      obtain idle | rfl := calling_activity quiet store request k
      · simp only [System.step, idle] at stepped
        cases stepped
      · cases stepped
  | begin_ _ | abandon _ | cloneHandle | dropHandle => cases goesOn

theorem callStage_finished (short : k ≤ 5) {result : Result (Reply Answer)}
    (finished : callStage store s request k = .finished result) :
    k = 5 ∧ result = .replied (replyTo store request s.content) := by
  match k, short with
  | 0, _ | 1, _ | 2, _ | 3, _ | 4, _ => cases finished
  | 5, _ =>
      cases finished
      exact ⟨rfl, rfl⟩

theorem calling_run (quiet : s.Quiet) {moves : List (Move μ)} (goOn : ∀ m ∈ moves, m.goesOn = true)
    (within : k ≤ 5) (run : (calling store s request k).steps store.behaviour moves = some t) :
    k + moves.length ≤ 5 ∧ t = calling store s request (k + moves.length) := by
  induction moves generalizing k with
  | nil =>
      cases run
      exact ⟨within, rfl⟩
  | cons m moves ih =>
      obtain ⟨next, stepped, run⟩ := Option.bind_eq_some_iff.mp run
      obtain ⟨rfl, under⟩ := calling_only quiet (goOn m List.mem_cons_self) stepped
      rw [step_calling quiet under] at stepped
      cases stepped
      obtain ⟨short, last⟩ := ih (fun m listed => goOn m (List.mem_cons_of_mem _ listed)) under run
      rw [List.length_cons, ← Nat.add_assoc, Nat.add_right_comm]
      exact ⟨short, last⟩

theorem run_calling (quiet : s.Quiet) (store : Store σ μ Answer) (request : μ) {k n : Nat}
    (rest : k + n = 5) : ∃ moves, (∀ m ∈ moves, m.goesOn = true) ∧
      (calling store s request k).steps store.behaviour moves =
        some (calling store s request 5) := by
  induction n generalizing k with
  | zero =>
      obtain rfl : k = 5 := rest
      exact ⟨[], fun _ listed => (List.not_mem_nil listed).elim, rfl⟩
  | succ n ih =>
      have next : k + 1 + n = 5 := by omega
      obtain ⟨moves, goOn, run⟩ := ih next
      have onward : (callMove s k).goesOn = true := by
        match k with
        | 0 | 1 | 2 | 3 | _ + 4 => rfl
      refine ⟨callMove s k :: moves, List.forall_mem_cons.mpr ⟨onward, goOn⟩, ?_⟩
      rw [System.steps, step_calling quiet (by omega), Option.bind_some, run]

/-! ## Services -/

structure Matches (s : System σ μ (Reply Answer)) (service : Service σ) : Prop where
  quiet : s.Quiet
  content : s.content = service.content
  handled : s.context.processed = service.handled
  running : service.running = true

variable {service last : Service σ}

theorem matches_start (store : Store σ μ Answer) (identity : String) (size : Nat) :
    ∃ started,
      (System.spawn identity size store.empty).steps store.behaviour [.start, .ready] =
        some started ∧
      Matches started (.start store.empty) := by
  refine ⟨_, rfl, ⟨rfl, rfl, rfl, rfl, rfl, ?_, Nat.one_pos, fun _ listed => ?_⟩,
    rfl, rfl, rfl⟩
  · exact Nat.lt_of_lt_of_le Nat.one_pos (Nat.le_max_right size 1)
  · cases listed

theorem Matches.begin (alike : Matches s service) (request : μ) :
    s.step store.behaviour (.begin_ (.call request)) = some (calling store s request 0) := by
  have held : s.handleCount ≠ 0 := by
    have kept := alike.quiet.handles
    rw [System.handleCount]
    omega
  rw [System.step, if_neg held]
  rfl

theorem Matches.ask (alike : Matches s service) (request : μ) :
    (service.ask fun content => store.handle content request).1 =
        .ok (replyTo store request s.content).answer ∧
      Matches (calling store s request 5)
        (service.ask fun content => store.handle content request).2 := by
  obtain ⟨quiet, content, handled, running⟩ := alike
  rw [Service.ask, if_pos running, ← content, ← handled]
  refine ⟨rfl, ⟨rfl, rfl, quiet.line, quiet.closing, quiet.closed, Nat.succ_pos _, quiet.handles,
    ?_⟩, rfl, rfl, rfl⟩
  rw [calling_clients]
  intro c listed
  obtain listed | listed := List.mem_append.mp listed
  · exact quiet.rests c listed
  · cases List.mem_singleton.mp listed
    rfl

/-- What a client that is alone asks a worker, one call after the other, and what it gets for it. -/
inductive Asks (store : Store σ μ Answer) : System σ μ (Reply Answer) →
    List (μ × Result (Reply Answer)) → System σ μ (Reply Answer) → Prop
  | nothing (s : System σ μ (Reply Answer)) : Asks store s [] s
  | call {s asked t last : System σ μ (Reply Answer)} {request : μ}
      {result : Result (Reply Answer)} {moves : List (Move μ)}
      {rest : List (μ × Result (Reply Answer))}
      (begins : s.step store.behaviour (.begin_ (.call request)) = some asked)
      (run : asked.steps store.behaviour moves = some t) (goOn : ∀ m ∈ moves, m.goesOn = true)
      (ends : t.clients[s.clients.length]? = some ⟨.call request, .finished result⟩)
      (more : Asks store t rest last) : Asks store s ((request, result) :: rest) last

inductive Answers (store : Store σ μ Answer) : Service σ →
    List (μ × Result (Reply Answer)) → Service σ → Prop
  | nothing (service : Service σ) : Answers store service [] service
  | ask {service next last : Service σ} {request : μ} {answer : Answer request}
      {rest : List (μ × Result (Reply Answer))}
      (asks : service.ask (fun content => store.handle content request) = (.ok answer, next))
      (more : Answers store next rest last) :
      Answers store service ((request, .replied ⟨request, answer⟩) :: rest) last

theorem Matches.answers {dialogue : List (μ × Result (Reply Answer))} (alike : Matches s service)
    (asks : Asks store s dialogue t) :
    ∃ last, Answers store service dialogue last ∧ Matches t last := by
  induction asks generalizing service with
  | nothing s => exact ⟨service, .nothing service, alike⟩
  | @call s asked t last request result moves rest begins run goOn ends more ih =>
      rw [alike.begin] at begins
      cases begins
      obtain ⟨short, rfl⟩ := calling_run alike.quiet goOn (Nat.zero_le 5) run
      rw [calling_found] at ends
      have finished := congrArg Client.stage (Option.some.inj ends)
      obtain ⟨length, rfl⟩ := callStage_finished short finished
      rw [length] at ih
      obtain ⟨answered, served⟩ := alike.ask request
      obtain ⟨last, answers, stands⟩ := ih served
      exact ⟨last, .ask (Prod.ext answered rfl) answers, stands⟩

theorem Matches.asks {dialogue : List (μ × Result (Reply Answer))} (alike : Matches s service)
    (answers : Answers store service dialogue last) :
    ∃ t, Asks store s dialogue t ∧ Matches t last := by
  induction answers generalizing s with
  | nothing service => exact ⟨s, .nothing s, alike⟩
  | @ask service next last request answer rest asked more ih =>
      obtain ⟨answered, served⟩ := alike.ask request
      rw [asked] at answered served
      cases answered
      obtain ⟨moves, goOn, run⟩ := run_calling alike.quiet store request (Nat.zero_add 5)
      obtain ⟨t, asks, stands⟩ := ih served
      have answered := calling_found store s request 5
      exact ⟨t, .call (alike.begin request) run goOn answered asks, stands⟩

def Store.ServesAlone (store : Store σ μ Answer) (identity : String) (mailboxSize : Nat) : Prop :=
  ∃ started,
    (System.spawn identity mailboxSize store.empty).steps store.behaviour [.start, .ready] =
      some started ∧
    ∀ dialogue, (∃ t, Asks store started dialogue t) ↔
      ∃ last, Answers store (.start store.empty) dialogue last

theorem Store.servesAlone (store : Store σ μ Answer) (identity : String) (mailboxSize : Nat) :
    store.ServesAlone identity mailboxSize := by
  obtain ⟨started, starts, alike⟩ := matches_start store identity mailboxSize
  refine ⟨started, starts, fun dialogue => ⟨fun ⟨t, asks⟩ => ?_, fun ⟨last, answers⟩ => ?_⟩⟩
  · obtain ⟨last, answers, -⟩ := alike.answers asks
    exact ⟨last, answers⟩
  · obtain ⟨t, asks, -⟩ := alike.asks answers
    exact ⟨t, asks⟩

end FleetResponse
