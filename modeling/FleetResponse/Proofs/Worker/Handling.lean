import FleetResponse.Proofs.Worker.Clients
import FleetResponse.Worker.Counter

/-!
# What a worker handles

Whatever its clients do, and in whatever order everybody moves: a worker handles the requests in its
mailbox in order, up to the one that fails for good or to the request to shut down, and nobody whose
request it did not handle hears anything but that it stopped.
-/

namespace FleetResponse.Worker

variable {σ μ ρ : Type} {b : Behaviour σ μ ρ} {s t : System σ μ ρ}

structure Sound (s : System σ μ ρ) (h : History μ) : Prop where
  tidy : s.Tidy
  balanced : Balanced s h
  served : Served s h

theorem spawn_sound (identity : String) (size : Nat) (content : σ) :
    Sound (System.spawn identity size content : System σ μ ρ) .empty :=
  ⟨System.spawn_tidy identity size content, spawn_balanced identity size content,
    spawn_served identity size content⟩

theorem Sound.step {h : History μ} {m : Move μ} (sound : Sound s h) (well : b.startFailure = none)
    (stepped : s.step b m = some t) : Sound t (h.next b s m t) := by
  have change := System.change_of_step stepped
  exact ⟨sound.tidy.step change, sound.balanced.step well change,
    sound.served.step sound.tidy sound.balanced well change⟩

theorem Sound.run {h : History μ} {moves : List (Move μ)} (sound : Sound s h)
    (well : b.startFailure = none) (run : s.steps b moves = some t) :
    Sound t (h.along b s moves) := by
  induction moves generalizing s h with
  | nil =>
      cases run
      exact sound
  | cons m moves ih =>
      obtain ⟨next, stepped, run⟩ := Option.bind_eq_some_iff.mp run
      simp only [History.along, stepped]
      exact ih (sound.step well stepped) run

def Activity.inLoop : Activity μ → Bool
  | starting => true
  | preparing => true
  | idle => true
  | handling _ _ => true
  | _ => false

theorem Activity.hasLeft_of_inLoop {activity : Activity μ} (inside : activity.inLoop = true) :
    activity.hasLeft = false := by
  cases activity <;> first | rfl | cases inside

theorem Activity.hasClosed_of_inLoop {activity : Activity μ} (inside : activity.inLoop = true) :
    activity.hasClosed = false := by
  cases activity <;> first | rfl | cases inside

structure HandledInOrder (b : Behaviour σ μ ρ) (s : System σ μ ρ) (h : History μ) : Prop where
  order : s.handled <+: ahead h.posts
  once : (s.handled.map Prod.fst).Nodup
  genuine : ((requests h.posts).map Prod.fst).Nodup ∧ ∀ i m, (i, m) ∈ requests h.posts →
    ∃ o, s.operations[i]? = some o ∧ o.message? = some m
  returned : h.returns.length ≤ s.handled.length ∧ s.handled.length ≤ h.returns.length + 1
  fatal : ∀ n e, h.returns[n]? = some (some e) → e.isPermanent = true → s.handled.length = n + 1
  complete : s.isStopped = true → h.returns.length = s.handled.length ∧
    (s.handled = ahead h.posts ∨ ∃ e, h.returns.getLast? = some (some e) ∧ e.isPermanent = true)
  behind : ∀ front back, h.posts = front ++ .shutdown :: back →
    ∀ request ∈ requests back, request ∉ s.handled
  unhandled : ∀ i c m, s.clients[i]? = some c → c.operation = .call m → (i, m) ∉ s.handled →
    (∀ result, c.stage = .finished result → result = .failed .stopped) ∧
      (∀ reply, c.stage ≠ .answered (some reply)) ∧
      (s.isStopped = true → c.stage ≠ .awaitingReply)
  late : ∀ i ∈ h.late, ∀ m, (i, m) ∉ requests h.posts
  /-- Nothing leaves the mailbox of a worker in its loop but to be handled. -/
  kept : s.activity.inLoop = true → h.posts = s.handled.map .ofRequest ++ s.mailbox
  unmoved : ∀ i t, s.step b (.abandon i) = some t → t.mailbox = s.mailbox ∧
    t.activity = s.activity ∧ t.context = s.context ∧ t.content = s.content ∧
    t.handled = s.handled
  /-- The requests of those who gave up are handled like all others. -/
  orphaned : ∀ i c m, s.clients[i]? = some c → c.stage = .abandoned → (i, m) ∈ ahead h.posts →
    s.isStopped = true → NoneFatal h.returns → (i, m) ∈ s.handled

namespace System

theorem stopped_of_isStopped (ended : s.isStopped = true) : s.activity = .stopped := by
  unfold isStopped at ended
  split at ended
  · assumption
  · cases ended

theorem abandon_frame {i : Nat} (going : s.step b (.abandon i) = some t) :
    t.mailbox = s.mailbox ∧ t.activity = s.activity ∧ t.context = s.context ∧
      t.content = s.content ∧ t.handled = s.handled := by
  obtain ⟨c, found, gaveUp⟩ := Option.bind_eq_some_iff.mp going
  unfold abandonStep? at gaveUp
  split at gaveUp <;> cases gaveUp <;> simp [handled]

end System

namespace Sound

variable {h : History μ}

theorem posts_split (sound : Sound s h) :
    ∃ rest, h.posts = s.handled.map .ofRequest ++ rest := by
  cases sound.balanced with
  | starting at_ posts handled returns => exact ⟨s.mailbox, by simp [posts, handled]⟩
  | idle at_ posts => exact ⟨_, posts⟩
  | handling at_ posts => exact ⟨_, posts⟩
  | ended at_ ended =>
      cases ended with
      | told posts => exact ⟨_, posts⟩
      | failed posts => exact ⟨_, posts⟩
      | deserted posts => exact ⟨[], by simpa using posts⟩

theorem order (sound : Sound s h) : s.handled <+: ahead h.posts := by
  obtain ⟨rest, posts⟩ := sound.posts_split
  rw [posts, ahead_map_append]
  exact List.prefix_append _ _

theorem returned (sound : Sound s h) :
    h.returns.length ≤ s.handled.length ∧ s.handled.length ≤ h.returns.length + 1 := by
  cases sound.balanced with
  | starting at_ posts handled returns => simp [handled, returns]
  | idle at_ posts lengths => omega
  | handling at_ posts handled lengths => simp [handled, lengths]
  | ended at_ ended =>
      cases ended with
      | told posts lengths | failed posts lengths | deserted posts lengths => omega

theorem fatal (sound : Sound s h) {n : Nat} {e : WorkerError}
    (failed : h.returns[n]? = some (some e)) (permanent : e.isPermanent = true) :
    s.handled.length = n + 1 := by
  have someFatal : ¬ NoneFatal h.returns := fun noneFatal => by
    have survived := noneFatal (some e) (List.mem_of_getElem? failed)
    simp [permanent] at survived
  cases sound.balanced with
  | starting at_ posts handled returns => simp [returns] at failed
  | idle at_ posts lengths noneFatal => exact absurd noneFatal someFatal
  | handling at_ posts handled lengths noneFatal => exact absurd noneFatal someFatal
  | ended at_ ended =>
      cases ended with
      | told posts lengths noneFatal => exact absurd noneFatal someFatal
      | deserted posts lengths noneFatal => exact absurd noneFatal someFatal
      | @failed rest returns last posts lengths ends fatal noneFatal =>
          -- The only failure for good is the last one.
          rw [ends] at failed
          obtain ⟨inside, -⟩ := List.getElem?_eq_some_iff.mp failed
          have notBefore : ¬ n < returns.length := fun before => by
            rw [List.getElem?_append_left before] at failed
            have survived := noneFatal (some e) (List.mem_of_getElem? failed)
            simp [permanent] at survived
          rw [← lengths, ends, List.length_append, List.length_singleton]
          simp only [List.length_append, List.length_singleton] at inside
          omega

theorem complete (sound : Sound s h) (ended : s.isStopped = true) :
    h.returns.length = s.handled.length ∧
      (s.handled = ahead h.posts ∨
        ∃ e, h.returns.getLast? = some (some e) ∧ e.isPermanent = true) := by
  have at_ := System.stopped_of_isStopped ended
  cases sound.balanced.of_over (at_ ▸ rfl) with
  | told posts lengths noneFatal => exact ⟨lengths, .inl (by simp [posts, ahead])⟩
  | failed posts lengths ends permanent noneFatal =>
      exact ⟨lengths, .inr ⟨_, by simp [ends], permanent⟩⟩
  | deserted posts lengths noneFatal alone =>
      have all := ahead_map_append s.handled []
      rw [List.append_nil] at all
      exact ⟨lengths, .inl (by simp [posts, all, ahead])⟩

theorem behind (sound : Sound s h) {front back : List (Envelope μ)}
    (posts : h.posts = front ++ .shutdown :: back) {request : Nat × μ}
    (late : request ∈ requests back) : request ∉ s.handled := by
  intro handled
  have early : request ∈ requests front :=
    (ahead_append_shutdown front back).subset (posts ▸ sound.order.subset handled)
  have distinct := sound.served.distinct
  rw [posts, requests_append, List.map_append] at distinct
  exact (List.nodup_append.mp distinct).2.2 _ (List.mem_map_of_mem early) _
    (List.mem_map_of_mem late) rfl

theorem unhandled (sound : Sound s h) {i : Nat} {c : Client μ ρ} {m : μ}
    (found : s.clients[i]? = some c) (calls : c.operation = .call m) (out : (i, m) ∉ s.handled) :
    (∀ result, c.stage = .finished result → result = .failed .stopped) ∧
      (∀ reply, c.stage ≠ .answered (some reply)) ∧
      (s.isStopped = true → c.stage ≠ .awaitingReply) := by
  have standing := calls ▸ sound.served.stand i c found
  refine ⟨fun result finished => ?_, fun reply answered => ?_, fun ended waits => ?_⟩
  · rw [finished] at standing
    cases standing with
    | entering at_ => simp at at_
    | replied done => exact absurd done out
    | refused request => rfl
    | sawStop request => cases request
  · rw [answered] at standing
    cases standing with
    | entering at_ => simp at at_
    | answered done => exact out done
  · have at_ := System.stopped_of_isStopped ended
    have closed : s.closed = true := sound.tidy.closed_eq.trans (at_ ▸ rfl)
    obtain ⟨n, -, pends⟩ := (waits ▸ standing).of_awaitingReply
    simp [System.ledger, System.pending, at_, (sound.tidy.cleared closed).1, requests] at pends

theorem kept (sound : Sound s h) (at_ : s.activity.inLoop = true) :
    h.posts = s.handled.map .ofRequest ++ s.mailbox := by
  cases sound.balanced with
  | starting _ posts handled returns => rw [posts, handled]; rfl
  | idle _ posts => exact posts
  | handling _ posts => exact posts
  | ended other ended =>
      rw [Activity.hasLeft_of_inLoop at_] at other
      cases other

theorem orphaned (sound : Sound s h) {request : Nat × μ} (early : request ∈ ahead h.posts)
    (ended : s.isStopped = true) (noneFatal : NoneFatal h.returns) : request ∈ s.handled := by
  obtain ⟨-, all | ⟨e, last, permanent⟩⟩ := sound.complete ended
  · exact all ▸ early
  · have survived := noneFatal (some e) (List.mem_of_getLast? last)
    simp [permanent] at survived

theorem handledInOrder (sound : Sound s h) (b : Behaviour σ μ ρ) : HandledInOrder b s h where
  order := sound.order
  once := by
    have served := (sound.order.trans (ahead_prefix_requests h.posts)).map Prod.fst
    exact sound.served.distinct.sublist served.sublist
  genuine := ⟨sound.served.distinct, sound.served.genuine⟩
  returned := sound.returned
  fatal _ _ := sound.fatal
  complete := sound.complete
  behind _ _ posts _ := sound.behind posts
  unhandled _ _ _ := sound.unhandled
  late i later m posted := sound.served.timely i later (List.mem_map_of_mem posted)
  kept := sound.kept
  unmoved i t going := System.abandon_frame going
  orphaned _ _ _ _ _ := sound.orphaned

end Sound

/-- Over every run of a worker that starts well, with any number of clients and handles, requests
are handled in order. -/
theorem run_handledInOrder (b : Behaviour σ μ ρ) (well : b.startFailure = none) (identity : String)
    (size : Nat) (content : σ) (moves : List (Move μ))
    (run : (System.spawn identity size content).steps b moves = some s) :
    HandledInOrder b s (History.empty.along b (.spawn identity size content) moves) :=
  ((spawn_sound identity size content).run well run).handledInOrder b

def fullMailbox : List (Move Counter.Message) :=
  [.start, .ready, .cloneHandle, .begin_ (.call (.add 2)), .check 0, .submit 0,
    .begin_ (.send (.add 3)), .check 1, .begin_ .shutdown, .check 2, .submit 2, .submit 1,
    .abandon 0, .begin_ (.call (.add 5)), .check 3, .take, .push 1, .finish, .take, .close, .stop,
    .part, .signal, .collect 2]

theorem run_handledInOrder_fullMailbox :
    ∃ s, (System.spawn "counter" 2 ⟨0, 0⟩).steps (Counter.behaviour none) fullMailbox = some s ∧
      s.handled = [(0, .add 2)] ∧ s.content = ⟨2, 0⟩ ∧
      s.clients.map (·.stage) = [.abandoned, .finished .sent, .finished .shutDown,
        .finished (.failed .stopped)] ∧
      HandledInOrder (Counter.behaviour none) s
        (History.empty.along (Counter.behaviour none) (.spawn "counter" 2 ⟨0, 0⟩) fullMailbox) :=
  ⟨_, rfl, rfl, rfl, rfl,
    run_handledInOrder (Counter.behaviour none) rfl "counter" 2 ⟨0, 0⟩ fullMailbox rfl⟩

end FleetResponse.Worker
