import FleetResponse.Fleet.Desk
import FleetResponse.Proofs.Reading.Store
import FleetResponse.Proofs.Worker.Outcomes

namespace FleetResponse

open Worker

variable {σ μ : Type} {Answer : μ → Type} {store : Store σ μ Answer}

/-! ## One after the other -/

namespace Store

def execute (store : Store σ μ Answer) (content : σ) :
    List (Nat × μ) → List (Nat × Reply Answer) × σ
  | [] => ([], content)
  | (i, request) :: order =>
      let (answer, content) := store.handle content request
      let (replies, content) := store.execute content order
      ((i, ⟨request, answer⟩) :: replies, content)

theorem execute_append (store : Store σ μ Answer) (content : σ) (first second : List (Nat × μ)) :
    store.execute content (first ++ second) =
      ((store.execute content first).1 ++
          (store.execute (store.execute content first).2 second).1,
        (store.execute (store.execute content first).2 second).2) := by
  induction first generalizing content with
  | nil => rfl
  | cons entry first ih => simp only [List.cons_append, execute, ih]

theorem execute_requests (store : Store σ μ Answer) (content : σ) (order : List (Nat × μ)) :
    (store.execute content order).1.map (fun entry => (entry.1, entry.2.request)) = order := by
  induction order generalizing content with
  | nil => rfl
  | cons entry order ih => simp only [execute, List.map_cons, ih]

theorem mem_of_mem_execute {content : σ} {order : List (Nat × μ)} {i : Nat} {reply : Reply Answer}
    (answered : (i, reply) ∈ (store.execute content order).1) : (i, reply.request) ∈ order := by
  rw [← store.execute_requests content order]
  exact List.mem_map_of_mem answered

end Store

/-! ## The worker of a store -/

structure Faithful (store : Store σ μ Answer) (s : System σ μ (Reply Answer)) (h : History μ)
    (ended : List (Nat × μ)) : Prop where
  sound : Sound s h
  due : s.due.Sublist (requests h.posts)
  taken : s.handled = ended ++ s.inHand
  content : s.content = (store.execute store.empty ended).2
  replies : ∀ i c reply, s.clients[i]? = some c →
    c.stage = .answered (some reply) ∨ c.stage = .finished (.replied reply) →
      (i, reply) ∈ (store.execute store.empty ended).1
  refused : ∀ i c, s.clients[i]? = some c →
    c.stage = .answered none ∨ c.stage = .finished (.failed .stopped) →
      i ∉ s.due.map Prod.fst

variable {s t : System σ μ (Reply Answer)} {h : History μ} {ended : List (Nat × μ)} {m : Move μ}

theorem spawn_faithful (store : Store σ μ Answer) (identity : String) (size : Nat) :
    Faithful store (.spawn identity size store.empty) .empty [] where
  sound := spawn_sound identity size store.empty
  due := .refl []
  taken := rfl
  content := rfl
  replies i c reply found := by simp [System.spawn] at found
  refused i c found := by simp [System.spawn] at found

namespace Faithful

theorem due_step (faithful : Faithful store s h ended) (change : s.Change store.behaviour m t) :
    t.due.Sublist (requests (h.next store.behaviour s m t).posts) := by
  rw [History.next, requests_append]
  exact change.due_prefix.sublist.trans (faithful.due.append (.refl _))

theorem distinct (faithful : Faithful store s h ended) : (s.due.map Prod.fst).Nodup :=
  faithful.sound.served.distinct.sublist (faithful.due.map Prod.fst)

theorem not_due_of_away (faithful : Faithful store s h ended) {i : Nat}
    {c : Client μ (Reply Answer)} (found : s.clients[i]? = some c)
    (away : s.turnsAway c.stage = true) : i ∉ s.due.map Prod.fst := by
  have standing := faithful.sound.served.stand i c found
  have out : i ∉ (requests h.posts).map Prod.fst := by
    cases at_ : c.stage with
    | fresh => exact (at_ ▸ standing).of_fresh
    | admitted | waiting | granted => exact (standing.of_entering (by simp [at_])).1
    | _ => rw [at_] at away; cases away
  exact fun due => out ((faithful.due.map Prod.fst).subset due)

theorem not_handled_of_dropped (faithful : Faithful store s h ended)
    (at_ : s.activity = .leaving ∨ s.activity = .broken) {i : Nat} {c : Client μ (Reply Answer)}
    (found : s.clients[i]? = some c) (waits : c.stage = .awaitingReply) :
    i ∉ s.handled.map Prod.fst := by
  obtain ⟨message, -, pends⟩ :=
    (waits ▸ faithful.sound.served.stand i c found).of_awaitingReply
  have posted : i ∈ (requests s.mailbox).map Prod.fst := by
    rcases at_ with at_ | at_
    all_goals
      simp only [System.ledger, System.pending, at_] at pends
      exact List.mem_map_of_mem pends
  have distinct := faithful.distinct
  rw [System.due, List.map_append] at distinct
  exact fun handled => (List.nodup_append.mp distinct).2.2 i handled i posted rfl

theorem refused_step (faithful : Faithful store s h ended)
    (change : s.Change store.behaviour m t) {i : Nat} {d : Client μ (Reply Answer)}
    (found : t.clients[i]? = some d)
    (left : d.stage = .answered none ∨ d.stage = .finished (.failed .stopped)) :
    i ∉ t.due.map Prod.fst := by
  have outcome : d.stage.isOutcome = true := by rcases left with at_ | at_ <;> rw [at_] <;> rfl
  intro listed
  obtain ⟨request, due, rfl⟩ := List.mem_map.mp listed
  have was_due := List.mem_map_of_mem (f := Prod.fst) (change.due_of_outcome found outcome due)
  obtain was | ⟨c, was, came⟩ := change.outcome found outcome
  · exact faithful.refused _ d was left was_due
  · generalize d.stage = stage at left came
    cases came with
    | replied there => simp at left
    | unanswered nothing => exact faithful.refused _ c was (.inl nothing) was_due
    | refused away => exact faithful.not_due_of_away was away was_due
    | handled at_ ends waits =>
        cases ends
        simp [Store.turn] at left
    | dropped at_ waits =>
        have handled : t.due = s.handled := by
          cases change with
          | client moves => cases moves
          | closed _ | shut _ => simp [System.due, requests]
        exact faithful.not_handled_of_dropped at_ was waits
          (List.mem_map_of_mem (handled ▸ due))

theorem replies_step (faithful : Faithful store s h ended)
    (change : s.Change store.behaviour m t) {i : Nat} {d : Client μ (Reply Answer)}
    {reply : Reply Answer} (found : t.clients[i]? = some d)
    (left : d.stage = .answered (some reply) ∨ d.stage = .finished (.replied reply)) :
    (i, reply) ∈ (store.execute store.empty ended).1 ∨
      (m = .finish ∧ ∃ message, s.activity = .handling i message ∧
        reply = ⟨message, (store.handle s.content message).1⟩) := by
  have outcome : d.stage.isOutcome = true := by rcases left with at_ | at_ <;> rw [at_] <;> rfl
  obtain was | ⟨c, was, came⟩ := change.outcome found outcome
  · exact .inl (faithful.replies i d reply was left)
  · generalize d.stage = stage at left came
    cases came with
    | @replied _ other there =>
        obtain rfl : other = reply := by simpa using left
        exact .inl (faithful.replies i c _ was (.inl there))
    | unanswered nothing => simp at left
    | refused away => simp at left
    | @handled message turn at_ ends waits =>
        cases ends
        refine .inr ⟨rfl, message, at_, ?_⟩
        simpa [Store.turn, eq_comm] using left
    | dropped at_ waits => simp at left

theorem step (faithful : Faithful store s h ended) (stepped : s.step store.behaviour m = some t) :
    ∃ more, Faithful store t (h.next store.behaviour s m t) (ended ++ more) := by
  have change := System.change_of_step stepped
  have sound := faithful.sound.step rfl stepped
  have due := faithful.due_step change
  have refused := fun i d found => faithful.refused_step change (i := i) (d := d) found
  obtain ⟨i, message, turn, rfl, at_, ends, handled, inHand, content⟩ |
    ⟨other, new, handled, inHand, content⟩ := change.taken
  · -- The handling in hand ends as it does without anybody else around.
    have last : store.execute s.content [(i, message)] =
        ([(i, ⟨message, (store.handle s.content message).1⟩)],
          (store.handle s.content message).2) := rfl
    have along : store.execute store.empty (ended ++ [(i, message)]) =
        ((store.execute store.empty ended).1 ++
            [(i, ⟨message, (store.handle s.content message).1⟩)],
          (store.handle s.content message).2) := by
      rw [store.execute_append, ← faithful.content, last]
    refine ⟨[(i, message)], sound, due, ?_, ?_, fun j d reply found left => ?_, refused⟩
    · rw [handled, inHand, List.append_nil, faithful.taken, System.inHand, at_]
    · cases ends
      rw [content, along]
      rfl
    · rw [along]
      obtain there | ⟨-, message, here, rfl⟩ := faithful.replies_step change found left
      · exact List.mem_append_left _ there
      · rw [at_] at here
        cases here
        exact List.mem_append_right _ (List.mem_singleton_self _)
  · refine ⟨[], ?_⟩
    rw [List.append_nil]
    refine ⟨sound, due, ?_, content.trans faithful.content, fun j d reply found left => ?_, refused⟩
    · rw [handled, inHand, faithful.taken, List.append_assoc]
    · obtain there | ⟨ends, -⟩ := faithful.replies_step change found left
      · exact there
      · exact absurd ends other

theorem run {moves : List (Move μ)} (faithful : Faithful store s h ended)
    (run : s.steps store.behaviour moves = some t) :
    ∃ more, Faithful store t (h.along store.behaviour s moves) (ended ++ more) := by
  induction moves generalizing s h ended with
  | nil =>
      cases run
      exact ⟨[], by rwa [List.append_nil]⟩
  | cons m moves ih =>
      obtain ⟨next, stepped, run⟩ := Option.bind_eq_some_iff.mp run
      obtain ⟨first, faithful⟩ := faithful.step stepped
      obtain ⟨more, faithful⟩ := ih faithful run
      refine ⟨first ++ more, ?_⟩
      simpa only [History.along, stepped, List.append_assoc] using faithful

end Faithful

end FleetResponse
