import FleetResponse.Proofs.Worker.Change

namespace FleetResponse.Worker

variable {σ μ ρ : Type} {b : Behaviour σ μ ρ} {s t : System σ μ ρ}

/-! ## Requests -/

def requests : List (Envelope μ) → List (Nat × μ)
  | [] => []
  | .request i m :: envelopes => (i, m) :: requests envelopes
  | .shutdown :: envelopes => requests envelopes

def ahead : List (Envelope μ) → List (Nat × μ)
  | [] => []
  | .request i m :: envelopes => (i, m) :: ahead envelopes
  | .shutdown :: _ => []

def Envelope.ofRequest (request : Nat × μ) : Envelope μ :=
  .request request.1 request.2

@[simp]
theorem requests_append (front back : List (Envelope μ)) :
    requests (front ++ back) = requests front ++ requests back := by
  induction front with
  | nil => rfl
  | cons e front ih => cases e <;> simp [requests, ih]

@[simp]
theorem requests_map_ofRequest (rs : List (Nat × μ)) :
    requests (rs.map Envelope.ofRequest) = rs := by
  induction rs with
  | nil => rfl
  | cons r rs ih => simp [requests, Envelope.ofRequest, ih]

@[simp]
theorem ahead_map_append (rs : List (Nat × μ)) (back : List (Envelope μ)) :
    ahead (rs.map Envelope.ofRequest ++ back) = rs ++ ahead back := by
  induction rs with
  | nil => rfl
  | cons r rs ih => simp [ahead, Envelope.ofRequest, ih]

theorem mem_requests {i : Nat} {m : μ} {envelopes : List (Envelope μ)} :
    (i, m) ∈ requests envelopes ↔ .request i m ∈ envelopes := by
  induction envelopes with
  | nil => simp [requests]
  | cons e envelopes ih => cases e <;> simp [requests, ih]

theorem ahead_prefix_requests (envelopes : List (Envelope μ)) :
    ahead envelopes <+: requests envelopes := by
  induction envelopes with
  | nil => exact List.prefix_rfl
  | cons e envelopes ih =>
      cases e with
      | request i m => exact List.cons_prefix_cons.mpr ⟨rfl, ih⟩
      | shutdown => exact List.nil_prefix

theorem ahead_append_shutdown (front back : List (Envelope μ)) :
    ahead (front ++ .shutdown :: back) <+: requests front := by
  induction front with
  | nil => exact List.nil_prefix
  | cons e front ih =>
      cases e with
      | request i m => exact List.cons_prefix_cons.mpr ⟨rfl, ih⟩
      | shutdown => exact List.nil_prefix

def TraceEvent.handled? : TraceEvent σ μ → Option (Nat × μ)
  | .handling i m _ => some (i, m)
  | _ => none

def System.handled (s : System σ μ ρ) : List (Nat × μ) :=
  s.trace.filterMap TraceEvent.handled?

theorem System.handled_congr (trace : t.trace = s.trace) : t.handled = s.handled :=
  congrArg (List.filterMap _) trace

theorem System.handled_of_trace {events : List (TraceEvent σ μ)}
    (trace : t.trace = s.trace ++ events) (other : events.filterMap TraceEvent.handled? = []) :
    t.handled = s.handled := by
  rw [System.handled, trace, List.filterMap_append, other, List.append_nil, System.handled]

@[simp]
theorem System.handled_startStep (s : System σ μ ρ) : s.startStep.handled = s.handled :=
  handled_of_trace rfl rfl

@[simp]
theorem System.handled_took (s : System σ μ ρ) (i : Nat) (m : μ) (rest : List (Envelope μ)) :
    (s.took i m rest).handled = s.handled ++ [(i, m)] := by
  simp [System.handled, TraceEvent.handled?]

@[simp]
theorem System.handled_told (s : System σ μ ρ) (rest : List (Envelope μ)) :
    (s.told rest).handled = s.handled :=
  handled_congr (s.told_frame rest).2.2.2.2.2.2.1

@[simp]
theorem System.handled_finishStep (s : System σ μ ρ) (i : Nat) (turn : Turn σ ρ) :
    (s.finishStep i turn).handled = s.handled :=
  handled_of_trace (s.finishStep_frame i turn).2.2.2.2.2.2.1 (by
    simp [Function.comp_def, TraceEvent.handled?])

@[simp]
theorem System.handled_closeStep (s : System σ μ ρ) : s.closeStep.handled = s.handled :=
  handled_congr s.closeStep_frame.2.2.2.2.2.2.1

@[simp]
theorem System.handled_shutStep (s : System σ μ ρ) : s.shutStep.handled = s.handled :=
  handled_congr s.shutStep_frame.2.2.2.2.2.2.1

@[simp]
theorem System.handled_stopStep (s : System σ μ ρ) : s.stopStep.handled = s.handled :=
  handled_of_trace rfl rfl

/-! ## Histories -/

structure History (μ : Type) where
  posts : List (Envelope μ)
  returns : List (Option WorkerError)
  late : List Nat

namespace History

def empty : History μ :=
  ⟨[], [], []⟩

def posted (s t : System σ μ ρ) : List (Envelope μ) :=
  t.mailbox.drop s.mailbox.length

def returned (b : Behaviour σ μ ρ) (s : System σ μ ρ) : Move μ → List (Option WorkerError)
  | .finish =>
      match s.activity with
      | .handling _ message => ((b.handle s.context message s.content).map (·.failure)).toList
      | _ => []
  | _ => []

def begunLate (s : System σ μ ρ) : Move μ → List Nat
  | .begin_ _ => if s.closing then [s.clients.length] else []
  | _ => []

def next (b : Behaviour σ μ ρ) (h : History μ) (s : System σ μ ρ) (m : Move μ)
    (t : System σ μ ρ) : History μ where
  posts := h.posts ++ posted s t
  returns := h.returns ++ returned b s m
  late := h.late ++ begunLate s m

def along (b : Behaviour σ μ ρ) (h : History μ) (s : System σ μ ρ) : List (Move μ) → History μ
  | [] => h
  | m :: moves =>
      match s.step b m with
      | none => h
      | some t => (h.next b s m t).along b t moves

theorem posted_same (same : t.mailbox = s.mailbox) : posted s t = [] := by
  simp [posted, same]

theorem posted_append {new : List (Envelope μ)} (more : t.mailbox = s.mailbox ++ new) :
    posted s t = new := by
  simp [posted, more]

theorem next_client {h : History μ} {m : Move μ} {i : Nat} (moves : System.mover? m = some i) :
    h.next b s m t = { h with posts := h.posts ++ posted s t } := by
  cases m <;> simp [System.mover?] at moves <;> simp [next, returned, begunLate]

theorem next_quiet {h : History μ} {m : Move μ} (returns : returned b s m = [])
    (late : begunLate s m = []) (shrinks : t.mailbox.length ≤ s.mailbox.length) :
    h.next b s m t = h := by
  simp [next, posted, List.drop_eq_nil_of_le shrinks, returns, late]

end History

/-! ## Books -/

def NoneFatal (returns : List (Option WorkerError)) : Prop :=
  ∀ failure ∈ returns, failure.any (·.isPermanent) = false

inductive Over (s : System σ μ ρ) (h : History μ) : Prop
  | told {rest : List (Envelope μ)}
      (posts : h.posts = s.handled.map .ofRequest ++ .shutdown :: rest)
      (lengths : h.returns.length = s.handled.length) (noneFatal : NoneFatal h.returns)
  | failed {rest : List (Envelope μ)} {returns : List (Option WorkerError)} {e : WorkerError}
      (posts : h.posts = s.handled.map .ofRequest ++ rest)
      (lengths : h.returns.length = s.handled.length) (ends : h.returns = returns ++ [some e])
      (permanent : e.isPermanent = true) (noneFatal : NoneFatal returns)
  | deserted (posts : h.posts = s.handled.map .ofRequest)
      (lengths : h.returns.length = s.handled.length) (noneFatal : NoneFatal h.returns)
      (alone : s.handleCount = 0)

inductive Balanced (s : System σ μ ρ) (h : History μ) : Prop
  | starting (at_ : s.activity = .starting ∨ s.activity = .preparing) (posts : h.posts = s.mailbox)
      (handled : s.handled = []) (returns : h.returns = [])
  | idle (at_ : s.activity = .idle) (posts : h.posts = s.handled.map .ofRequest ++ s.mailbox)
      (lengths : h.returns.length = s.handled.length) (noneFatal : NoneFatal h.returns)
  | handling {i : Nat} {m : μ} {done : List (Nat × μ)} (at_ : s.activity = .handling i m)
      (posts : h.posts = s.handled.map .ofRequest ++ s.mailbox)
      (handled : s.handled = done ++ [(i, m)]) (lengths : h.returns.length = done.length)
      (noneFatal : NoneFatal h.returns)
  | ended (at_ : s.activity.hasLeft = true) (ended : Over s h)

theorem spawn_balanced (identity : String) (size : Nat) (content : σ) :
    Balanced (System.spawn identity size content : System σ μ ρ) .empty :=
  .starting (.inl rfl) rfl rfl rfl

theorem Balanced.held {h h' : History μ} {new : List (Envelope μ)} (balanced : Balanced s h)
    (held : s.handleCount ≠ 0) (activity : t.activity = s.activity)
    (handled : t.handled = s.handled) (mailbox : t.mailbox = s.mailbox ++ new)
    (posts : h'.posts = h.posts ++ new) (returns : h'.returns = h.returns) : Balanced t h' := by
  cases balanced with
  | starting at_ sent none fresh =>
      exact .starting (by rwa [activity]) (by rw [posts, sent, mailbox]) (handled.trans none)
        (returns.trans fresh)
  | idle at_ sent lengths noneFatal =>
      refine .idle (activity.trans at_) ?_ (by rw [returns, handled, lengths]) (returns ▸ noneFatal)
      rw [posts, sent, handled, mailbox, List.append_assoc]
  | handling at_ sent hand lengths noneFatal =>
      refine .handling (activity.trans at_) ?_ (handled.trans hand) (by rw [returns, lengths])
        (returns ▸ noneFatal)
      rw [posts, sent, handled, mailbox, List.append_assoc]
  | ended at_ ended =>
      refine .ended (by rwa [activity]) ?_
      cases ended with
      | @told rest sent lengths noneFatal =>
          have more : h'.posts = t.handled.map .ofRequest ++ .shutdown :: (rest ++ new) := by
            rw [posts, sent, handled, List.append_assoc, List.cons_append]
          exact .told more (by rw [returns, handled, lengths]) (returns ▸ noneFatal)
      | @failed rest before e sent lengths ends permanent noneFatal =>
          have more : h'.posts = t.handled.map .ofRequest ++ (rest ++ new) := by
            rw [posts, sent, handled, List.append_assoc]
          exact .failed more (by rw [returns, handled, lengths]) (returns.trans ends) permanent
            noneFatal
      | deserted sent lengths noneFatal alone => exact absurd alone held

theorem Over.frame {h : History μ} (ended : Over s h) (handled : t.handled = s.handled)
    (handles : t.handleCount = s.handleCount) : Over t h := by
  cases ended with
  | told sent lengths noneFatal => exact .told (by rwa [handled]) (by rwa [handled]) noneFatal
  | failed sent lengths ends permanent noneFatal =>
      exact .failed (by rwa [handled]) (by rwa [handled]) ends permanent noneFatal
  | deserted sent lengths noneFatal alone =>
      exact .deserted (by rwa [handled]) (by rwa [handled]) noneFatal (handles.trans alone)

theorem Balanced.of_starting {h : History μ} (balanced : Balanced s h)
    (at_ : s.activity = .starting ∨ s.activity = .preparing) :
    h.posts = s.mailbox ∧ s.handled = [] ∧ h.returns = [] := by
  cases balanced with
  | starting _ posts handled returns => exact ⟨posts, handled, returns⟩
  | idle other | handling other => simp [other] at at_
  | ended other => rcases at_ with at_ | at_ <;> rw [at_] at other <;> cases other

theorem Balanced.of_idle {h : History μ} (balanced : Balanced s h) (at_ : s.activity = .idle) :
    h.posts = s.handled.map .ofRequest ++ s.mailbox ∧ h.returns.length = s.handled.length ∧
      NoneFatal h.returns := by
  cases balanced with
  | idle _ posts lengths noneFatal => exact ⟨posts, lengths, noneFatal⟩
  | starting other => simp [at_] at other
  | handling other => rw [at_] at other; cases other
  | ended other => rw [at_] at other; cases other

theorem Balanced.unbroken {h : History μ} (balanced : Balanced s h) : s.activity ≠ .broken := by
  cases balanced with
  | starting at_ => rcases at_ with at_ | at_ <;> rw [at_] <;> exact nofun
  | idle at_ | handling at_ => rw [at_]; exact nofun
  | ended at_ =>
      intro broken
      rw [broken] at at_
      cases at_

theorem Balanced.of_over {h : History μ} (balanced : Balanced s h)
    (at_ : s.activity.hasLeft = true) : Over s h := by
  cases balanced with
  | starting other => rcases other with other | other <;> rw [other] at at_ <;> cases at_
  | idle other | handling other => rw [other] at at_; cases at_
  | ended _ ended => exact ended

theorem Balanced.finish {h : History μ} {i : Nat} {m : μ} {turn : Turn σ ρ}
    (balanced : Balanced s h) (at_ : s.activity = .handling i m)
    (ends : b.handle s.context m s.content = some turn) :
    Balanced (s.finishStep i turn) (h.next b s .finish (s.finishStep i turn)) := by
  have next : h.next b s .finish (s.finishStep i turn) =
      { h with returns := h.returns ++ [turn.failure] } := by
    simp [History.next, History.posted_same, History.returned, History.begunLate, at_, ends]
  rw [next]
  cases balanced with
  | starting at_' => simp [at_] at at_'
  | idle at_' | ended at_' => rw [at_] at at_'; cases at_'
  | handling at_' sent hand lengths noneFatal =>
      have posts : h.posts = (s.finishStep i turn).handled.map .ofRequest ++
          (s.finishStep i turn).mailbox := by simpa using sent
      have same : (h.returns ++ [turn.failure]).length = (s.finishStep i turn).handled.length := by
        simp [hand, lengths]
      have activity := (s.finishStep_frame i turn).1
      cases permanent : turn.failure.any (·.isPermanent) with
      | true =>
          obtain ⟨e, failed, permanent'⟩ := (Option.any_eq_true _ _).mp permanent
          refine .ended ?_ (.failed posts same (by rw [failed]) permanent' noneFatal)
          rw [activity, if_pos permanent]
          rfl
      | false =>
          refine .idle (by simp [permanent]) posts same ?_
          intro failure returned
          obtain returned | last := List.mem_append.mp returned
          · exact noneFatal failure returned
          · cases List.mem_singleton.mp last
            exact permanent

theorem Balanced.step {h : History μ} {m : Move μ} (balanced : Balanced s h)
    (well : b.startFailure = none) (change : s.Change b m t) : Balanced t (h.next b s m t) := by
  cases change with
  | client moves found change =>
      obtain ⟨-, -, activity, -, trace, new, more⟩ := change.frame
      have held := System.handleCount_pos found change.isOpen
      rw [History.next_client moves]
      refine balanced.held held activity (System.handled_congr trace) more.symm ?_ rfl
      rw [History.posted_append more.symm]
  | begun held | cloned held =>
      refine balanced.held held rfl rfl (List.append_nil s.mailbox).symm ?_ ?_
      · simp [History.next, History.posted_same]
      · simp [History.next, History.returned]
  | dropped handles =>
      have held : s.handleCount ≠ 0 := by
        unfold System.handleCount
        omega
      refine balanced.held held rfl rfl (List.append_nil s.mailbox).symm ?_ ?_
      · simp [History.next, History.posted_same]
      · simp [History.next, History.returned]
  | started at_ =>
      obtain ⟨posts, handled, returns⟩ := balanced.of_starting (.inl at_)
      rw [History.next_quiet rfl rfl (by exact Nat.le_refl s.mailbox.length)]
      exact .starting (.inr rfl) posts (s.handled_startStep.trans handled) returns
  | readied at_ _ =>
      obtain ⟨posts, handled, returns⟩ := balanced.of_starting (.inr at_)
      rw [History.next_quiet rfl rfl (by exact Nat.le_refl s.mailbox.length)]
      have handled : s.readied.handled = [] := handled
      have noneFatal : NoneFatal h.returns := by simp [NoneFatal, returns]
      exact .idle rfl (by rwa [handled]) (by rw [handled, returns]; rfl) noneFatal
  | broke at_ ill => rw [well] at ill; cases ill
  | @took i message rest at_ front =>
      obtain ⟨posts, lengths, noneFatal⟩ := balanced.of_idle at_
      rw [History.next_quiet rfl rfl (by simp [front])]
      have begun := s.handled_took i message rest
      refine .handling (s.took_frame i message rest).1 ?_ begun lengths noneFatal
      simp [posts, front, Envelope.ofRequest]
  | @told rest at_ front =>
      obtain ⟨posts, lengths, noneFatal⟩ := balanced.of_idle at_
      rw [History.next_quiet rfl rfl (by simp [front])]
      refine .ended (by simp; rfl) ?_
      exact .told (by simpa [front] using posts) (by simpa using lengths) noneFatal
  | deserted at_ empty alone =>
      obtain ⟨posts, lengths, noneFatal⟩ := balanced.of_idle at_
      rw [History.next_quiet rfl rfl (by exact Nat.le_refl s.mailbox.length)]
      rw [empty, List.append_nil] at posts
      exact .ended rfl (.deserted posts lengths noneFatal alone)
  | finished at_ ends => exact balanced.finish at_ ends
  | closed at_ =>
      rw [History.next_quiet rfl rfl (by simp)]
      exact .ended rfl ((balanced.of_over (at_ ▸ rfl)).frame (by simp) (by simp))
  | shut at_ => exact absurd at_ balanced.unbroken
  | stopping at_ =>
      rw [History.next_quiet rfl rfl (by exact Nat.le_refl s.mailbox.length)]
      exact .ended rfl ((balanced.of_over (at_ ▸ rfl)).frame s.handled_stopStep rfl)
  | parted at_ | stopped at_ =>
      rw [History.next_quiet rfl rfl (by exact Nat.le_refl s.mailbox.length)]
      exact .ended rfl ((balanced.of_over (at_ ▸ rfl)).frame rfl rfl)

end FleetResponse.Worker
