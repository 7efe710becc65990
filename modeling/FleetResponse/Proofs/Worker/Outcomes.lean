import FleetResponse.Proofs.Worker.Handling

namespace FleetResponse.Worker

variable {σ μ ρ : Type} {b : Behaviour σ μ ρ} {s t : System σ μ ρ}

namespace Stage

def isOutcome : Stage ρ → Bool
  | answered _ => true
  | finished (.replied _) => true
  | finished (.failed _) => true
  | _ => false

end Stage

namespace System

def due (s : System σ μ ρ) : List (Nat × μ) :=
  s.handled ++ requests s.mailbox

def inHand (s : System σ μ ρ) : List (Nat × μ) :=
  match s.activity with
  | .handling i message => [(i, message)]
  | _ => []

theorem Change.due_prefix {m : Move μ} (change : s.Change b m t) :
    t.due <+: s.due ++ requests (History.posted s t) := by
  have kept (same : t.due = s.due) : t.due <+: s.due ++ requests (History.posted s t) :=
    same ▸ List.prefix_append _ _
  have cleared (handled : t.handled = s.handled) (mailbox : t.mailbox = []) :
      t.due <+: s.due ++ requests (History.posted s t) := by
    have same : t.due = s.handled := by simp [due, handled, mailbox, requests]
    rw [same, due, List.append_assoc]
    exact List.prefix_append _ _
  cases change with
  | client moves found change =>
      obtain ⟨-, -, -, -, trace, new, more⟩ := change.frame
      have same : t.due = s.due ++ requests new := by
        rw [due, due, handled_congr trace, ← more, requests_append, List.append_assoc]
      rw [History.posted_append more.symm]
      exact same ▸ List.prefix_rfl
  | begun held | cloned held | dropped held | deserted at_ | readied at_ | broke at_ | parted at_
  | stopped at_ => exact kept rfl
  | started at_ | stopping at_ => exact kept (by simp [due]; rfl)
  | took at_ front => exact kept (by simp [due, front, requests])
  | told at_ front => exact kept (by simp [due, front, requests])
  | finished at_ ends => exact kept (by simp [due])
  | closed at_ | shut at_ => exact cleared (by simp) (by simp)

theorem Change.posted_own {m : Move μ} {request : Nat × μ} (change : s.Change b m t)
    (posted : request ∈ requests (History.posted s t)) :
    ∃ c, s.clients[request.1]? = some c ∧ c.stage.isOpen = true ∧
      t.clients[request.1]? = some ⟨c.operation, c.operation.handedIn⟩ := by
  have nothing (shrinks : t.mailbox.length ≤ s.mailbox.length) : False := by
    rw [History.posted, List.drop_eq_nil_of_le shrinks] at posted
    cases posted
  cases change with
  | client moves found change =>
      have under := change.isOpen
      cases change with
      | posted enters opened brings =>
          rw [History.posted_append rfl, requests_of_brings brings] at posted
          obtain ⟨message, -, rfl⟩ := List.mem_map.mp posted
          exact ⟨_, found, under, by simp [setStage, found]⟩
      | _ => exact (nothing (by simp)).elim
  | took at_ front => exact (nothing (by simp [front])).elim
  | told at_ front => exact (nothing (by simp [front])).elim
  | finished at_ ends => exact (nothing (by simp)).elim
  | closed at_ | shut at_ => exact (nothing (by simp)).elim
  | _ => exact (nothing (by exact Nat.le_refl s.mailbox.length)).elim

theorem Change.taken {m : Move μ} (change : s.Change b m t) :
    (∃ i message turn, m = .finish ∧ s.activity = .handling i message ∧
        b.handle s.context message s.content = some turn ∧ t.handled = s.handled ∧
        t.inHand = [] ∧ t.content = turn.content) ∨
      (m ≠ .finish ∧ ∃ new, t.handled = s.handled ++ new ∧ t.inHand = s.inHand ++ new ∧
        t.content = s.content) := by
  have kept (activity : t.inHand = s.inHand) (handled : t.handled = s.handled)
      (content : t.content = s.content) : ∃ new, t.handled = s.handled ++ new ∧
        t.inHand = s.inHand ++ new ∧ t.content = s.content :=
    ⟨[], by rw [handled, List.append_nil], by rw [activity, List.append_nil], content⟩
  cases change with
  | client moves found change =>
      obtain ⟨content, -, activity, -, trace, -⟩ := change.frame
      have other : m ≠ .finish := by
        rintro rfl
        cases moves
      exact .inr ⟨other, kept (by rw [inHand, activity, inHand]) (handled_congr trace) content⟩
  | begun held | cloned held | dropped held => exact .inr ⟨by simp, kept rfl rfl rfl⟩
  | started at_ | stopping at_ =>
      exact .inr ⟨by simp, kept (by rw [inHand, inHand, at_]; rfl) (by simp) rfl⟩
  | readied at_ | parted at_ =>
      exact .inr ⟨by simp, kept (by rw [inHand, inHand, at_]; rfl) rfl rfl⟩
  | broke at_ | deserted at_ | stopped at_ =>
      exact .inr ⟨by simp, kept (by rw [inHand, inHand, at_]) rfl rfl⟩
  | @took i message rest at_ front =>
      refine .inr ⟨by simp, [(i, message)], by simp, by simp [inHand, at_], ?_⟩
      simp [System.took, traced]
  | told at_ front =>
      exact .inr ⟨by simp, kept (by simp [inHand, at_]) (by simp) (by simp [System.told])⟩
  | @finished i message turn at_ ends =>
      refine .inl ⟨i, message, turn, rfl, at_, ends, by simp, ?_, ?_⟩
      · rw [inHand, (s.finishStep_frame i turn).1]
        cases turn.failure.any (·.isPermanent) <;> rfl
      · unfold finishStep
        split <;> simp [traced, setLifecycle]
  | closed at_ =>
      refine .inr ⟨by simp, kept (by simp [inHand, at_]) (by simp) ?_⟩
      simp [closeStep, closeMailbox, setLifecycle]
  | shut at_ =>
      refine .inr ⟨by simp, kept (by simp [inHand, at_]) (by simp) ?_⟩
      simp [shutStep, closeMailbox]

/-! ## Outcomes -/

inductive Outcome (b : Behaviour σ μ ρ) (s : System σ μ ρ) (i : Nat) (before : Stage ρ) :
    Move μ → Stage ρ → Prop
  | replied {m : Move μ} {reply : ρ} (there : before = .answered (some reply)) :
      Outcome b s i before m (.finished (.replied reply))
  | unanswered {m : Move μ} (none : before = .answered none) :
      Outcome b s i before m (.finished (.failed .stopped))
  | refused {m : Move μ} (away : s.turnsAway before = true) :
      Outcome b s i before m (.finished (.failed .stopped))
  | handled {message : μ} {turn : Turn σ ρ} (at_ : s.activity = .handling i message)
      (ends : b.handle s.context message s.content = some turn) (waits : before = .awaitingReply) :
      Outcome b s i before .finish (.answered turn.reply)
  | dropped (at_ : s.activity = .leaving ∨ s.activity = .broken) (waits : before = .awaitingReply) :
      Outcome b s i before .close (.answered none)

theorem handedIn_isOutcome (o : Operation μ) :
    (o.handedIn : Stage ρ).isOutcome = false := by
  cases o <;> rfl

theorem Shift.outcome {m : Move μ} {i : Nat} {o : Operation μ} {before after : Stage ρ}
    (moves : s.Shift o before after) (outcome : after.isOutcome = true) :
    s.Outcome b i before m after := by
  cases moves with
  | refused request away => exact .refused away
  | replied => exact .replied rfl
  | unanswered => exact .unanswered rfl
  | _ => cases outcome

theorem ClientChange.outcome {m : Move μ} {i j : Nat} {c d : Client μ ρ}
    (change : s.ClientChange i c t) (here : s.clients[i]? = some c)
    (found : t.clients[j]? = some d) (outcome : d.stage.isOutcome = true) :
    s.clients[j]? = some d ∨ ∃ c, s.clients[j]? = some c ∧ s.Outcome b j c.stage m d.stage := by
  -- Who is not through yet is not left with an outcome.
  have own {stage : Stage ρ} {u : System σ μ ρ} (same : u.clients = s.clients)
      (early : stage.isOutcome = false) (found : (u.setStage i stage).clients[j]? = some d) :
      s.clients[j]? = some d := by
    obtain ⟨-, was⟩ | ⟨before, rfl, was, rfl⟩ := setStage_client found
    · exact same ▸ was
    · rw [early] at outcome
      cases outcome
  cases change with
  | shift moves =>
      obtain ⟨-, was⟩ | ⟨before, rfl, was, rfl⟩ := setStage_client found
      · exact .inl was
      · rw [here] at was
        cases was
        exact .inr ⟨c, here, moves.outcome outcome⟩
  | asked asks new opening => exact .inl (own rfl rfl found)
  | queued new opened full => exact .inl (own rfl rfl found)
  | posted enters opened brings => exact .inl (own rfl (handedIn_isOutcome c.operation) found)
  | wasted enters watches => exact .inl found
  | left waits => exact .inl (own rfl rfl found)
  | yielded holds =>
      obtain ⟨was, -⟩ | ⟨before, -, -, rfl⟩ := freeSlot_client found
      · exact .inl (own rfl rfl was)
      · cases outcome

theorem Change.outcome {m : Move μ} {i : Nat} {d : Client μ ρ} (change : s.Change b m t)
    (found : t.clients[i]? = some d) (outcome : d.stage.isOutcome = true) :
    s.clients[i]? = some d ∨ ∃ c, s.clients[i]? = some c ∧ s.Outcome b i c.stage m d.stage := by
  cases change with
  | client moves here change => exact change.outcome here found outcome
  | begun held =>
      by_cases old : i < s.clients.length
      · rw [List.getElem?_append_left old] at found
        exact .inl found
      · rw [List.getElem?_append_right (by omega)] at found
        obtain ⟨_, new⟩ := List.getElem?_eq_some_iff.mp found
        rw [← new, List.getElem_singleton] at outcome
        cases outcome
  | @took j message rest at_ front =>
      obtain ⟨was, -⟩ | ⟨before, -, -, rfl⟩ :=
        freeSlot_client (s := { s with mailbox := rest }) found
      · exact .inl was
      · cases outcome
  | @told rest at_ front =>
      obtain ⟨was, -⟩ | ⟨before, -, -, rfl⟩ :=
        freeSlot_client (s := { s with mailbox := rest }) found
      · exact .inl was
      · cases outcome
  | @finished j message turn at_ ends =>
      rw [finishStep_clients] at found
      obtain ⟨was, -⟩ | ⟨before, rfl, was, waits, rfl⟩ := answer_client found
      · exact .inl was
      · exact .inr ⟨before, was, .handled at_ ends waits⟩
  | closed at_ =>
      obtain ⟨was, -⟩ | ⟨before, was, waits, rfl⟩ := discard_client found
      · exact .inl was
      · exact .inr ⟨before, was, .dropped (.inl at_) waits⟩
  | shut at_ =>
      obtain ⟨was, -⟩ | ⟨before, was, waits, rfl⟩ := discard_client found
      · exact .inl was
      · exact .inr ⟨before, was, .dropped (.inr at_) waits⟩
  | _ => exact .inl found

theorem Change.due_of_outcome {m : Move μ} {request : Nat × μ} {d : Client μ ρ}
    (change : s.Change b m t) (found : t.clients[request.1]? = some d)
    (outcome : d.stage.isOutcome = true) (due : request ∈ t.due) : request ∈ s.due := by
  obtain old | new := List.mem_append.mp (change.due_prefix.subset due)
  · exact old
  · obtain ⟨c, -, -, there⟩ := change.posted_own new
    rw [found] at there
    cases there
    rw [handedIn_isOutcome] at outcome
    cases outcome

/-! ## Operations that rest -/

theorem ClientChange.rests {i j : Nat} {c d : Client μ ρ} (change : s.ClientChange i c t)
    (tidy : s.Tidy) (here : s.clients[i]? = some c) (found : s.clients[j]? = some d)
    (rests : d.stage.isOpen = false) : t.clients[j]? = some d := by
  have other : i ≠ j := by
    rintro rfl
    rw [here] at found
    cases found
    rw [change.isOpen] at rests
    cases rests
  cases change with
  | wasted enters watches => exact found
  | yielded holds =>
      have out : j ∉ s.line := tidy.out found (by rintro waits; rw [waits] at rests; cases rests)
      rw [getElem?_freeSlot_of_out (s.setStage i .abandoned) out, getElem?_setStage_ne other, found]
  | _ => exact (getElem?_setStage_ne other _).trans found

theorem Change.rests {m : Move μ} {i : Nat} {c : Client μ ρ} (change : s.Change b m t)
    (tidy : s.Tidy) (found : s.clients[i]? = some c) (rests : c.stage.isOpen = false) :
    t.clients[i]? = some c := by
  have waits_not : c.stage ≠ .waiting := by
    rintro waits
    rw [waits] at rests
    cases rests
  have awaits_not : c.stage ≠ .awaitingReply := by
    rintro awaits
    rw [awaits] at rests
    cases rests
  have out : i ∉ s.line := tidy.out found waits_not
  cases change with
  | client moves here change => exact change.rests tidy here found rests
  | begun held =>
      obtain ⟨inside, -⟩ := List.getElem?_eq_some_iff.mp found
      exact (List.getElem?_append_left inside).trans found
  | @took j message rest at_ front =>
      exact (getElem?_freeSlot_of_out { s with mailbox := rest } out).trans found
  | @told rest at_ front =>
      exact (getElem?_freeSlot_of_out { s with mailbox := rest } out).trans found
  | finished at_ ends =>
      rw [finishStep_clients]
      exact getElem?_answer_of_ne found awaits_not
  | closed at_ | shut at_ =>
      exact getElem?_discard_of_ne (s := { s with closed := true, mailbox := [], line := [] })
        found awaits_not
  | _ => exact found

def Gone (s : System σ μ ρ) (i : Nat) : Prop :=
  (∃ c, s.clients[i]? = some c ∧ c.stage.isOpen = false) ∧ i ∉ s.due.map Prod.fst

theorem Gone.step {m : Move μ} {i : Nat} (gone : s.Gone i) (tidy : s.Tidy)
    (change : s.Change b m t) : t.Gone i := by
  obtain ⟨⟨c, found, rests⟩, out⟩ := gone
  refine ⟨⟨c, change.rests tidy found rests, rests⟩, fun listed => ?_⟩
  obtain ⟨request, due, rfl⟩ := List.mem_map.mp listed
  obtain old | new := List.mem_append.mp (change.due_prefix.subset due)
  · exact out (List.mem_map_of_mem old)
  · obtain ⟨d, there, under, -⟩ := change.posted_own new
    rw [found] at there
    cases there
    rw [rests] at under
    cases under

theorem Gone.run {moves : List (Move μ)} {i : Nat} (gone : s.Gone i) (tidy : s.Tidy)
    (run : s.steps b moves = some t) : t.Gone i := by
  refine (steps_invariant (P := fun s => s.Gone i ∧ s.Tidy) ?_ ⟨gone, tidy⟩ run).1
  rintro s t m ⟨gone, tidy⟩ stepped
  have change := change_of_step stepped
  exact ⟨gone.step tidy change, tidy.step change⟩

end System

theorem History.posts_along (h : History μ) (moves : List (Move μ)) :
    h.posts <+: (h.along b s moves).posts := by
  induction moves generalizing s h with
  | nil => exact List.prefix_rfl
  | cons m moves ih =>
      rw [along]
      cases s.step b m with
      | none => exact List.prefix_rfl
      | some t => exact (List.prefix_append _ _).trans (ih (h.next b s m t))

end FleetResponse.Worker
