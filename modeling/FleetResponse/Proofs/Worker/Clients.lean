import FleetResponse.Proofs.Worker.Books
import FleetResponse.Proofs.Worker.Line

namespace FleetResponse.Worker

variable {σ μ ρ : Type} {b : Behaviour σ μ ρ} {s t : System σ μ ρ}

structure Ledger (μ : Type) where
  entered : List Nat
  late : List Nat
  pending : List (Nat × μ)
  handled : List (Nat × μ)

inductive Standing (l : Ledger μ) (i : Nat) : Operation μ → Stage ρ → Prop
  | fresh {o : Operation μ} (out : i ∉ l.entered) : Standing l i o .fresh
  | entering {o : Operation μ} {stage : Stage ρ}
      (at_ : stage = .admitted ∨ stage = .waiting ∨ stage = .granted) (out : i ∉ l.entered)
      (early : i ∉ l.late) (visits : o ≠ .awaitStop) : Standing l i o stage
  | awaitingReply {m : μ} (pends : (i, m) ∈ l.pending) : Standing l i (.call m) .awaitingReply
  | answered {m : μ} {reply : ρ} (done : (i, m) ∈ l.handled) :
      Standing l i (.call m) (.answered (some reply))
  | forgotten {m : μ} : Standing l i (.call m) (.answered none)
  | awaitingStop {o : Operation μ} (request : o.message? = none) : Standing l i o .awaitingStop
  | replied {m : μ} {reply : ρ} (done : (i, m) ∈ l.handled) :
      Standing l i (.call m) (.finished (.replied reply))
  | sent {m : μ} : Standing l i (.send m) (.finished .sent)
  | refused {o : Operation μ} {m : μ} (request : o.message? = some m) :
      Standing l i o (.finished (.failed .stopped))
  | shutDown : Standing l i .shutdown (.finished .shutDown)
  | sawStop {o : Operation μ} (request : o.message? = none) : Standing l i o (.finished .stopped)
  | abandoned {o : Operation μ} : Standing l i o .abandoned

theorem Standing.mono {l l' : Ledger μ} {i : Nat} {o : Operation μ} {stage : Stage ρ}
    (standing : Standing l i o stage) (entered : i ∈ l'.entered → i ∈ l.entered)
    (late : i ∈ l'.late → i ∈ l.late)
    (pending : stage = .awaitingReply → ∀ m, (i, m) ∈ l.pending → (i, m) ∈ l'.pending)
    (handled : ∀ m, (i, m) ∈ l.handled → (i, m) ∈ l'.handled) : Standing l' i o stage := by
  cases standing with
  | fresh out => exact .fresh (out ∘ entered)
  | entering at_ out early visits => exact .entering at_ (out ∘ entered) (early ∘ late) visits
  | awaitingReply pends => exact .awaitingReply (pending rfl _ pends)
  | answered done => exact .answered (handled _ done)
  | forgotten => exact .forgotten
  | awaitingStop request => exact .awaitingStop request
  | replied done => exact .replied (handled _ done)
  | sent => exact .sent
  | refused request => exact .refused request
  | shutDown => exact .shutDown
  | sawStop request => exact .sawStop request
  | abandoned => exact .abandoned

theorem Standing.of_fresh {l : Ledger μ} {i : Nat} {o : Operation μ}
    (standing : Standing l i o (.fresh : Stage ρ)) : i ∉ l.entered := by
  cases standing with
  | fresh out => exact out
  | entering at_ => simp at at_

theorem Standing.of_entering {l : Ledger μ} {i : Nat} {o : Operation μ} {stage : Stage ρ}
    (standing : Standing l i o stage)
    (at_ : stage = .admitted ∨ stage = .waiting ∨ stage = .granted) :
    i ∉ l.entered ∧ i ∉ l.late ∧ o ≠ .awaitStop := by
  cases standing with
  | entering _ out early visits => exact ⟨out, early, visits⟩
  | _ => simp at at_

theorem Standing.of_awaitingReply {l : Ledger μ} {i : Nat} {o : Operation μ}
    (standing : Standing l i o (.awaitingReply : Stage ρ)) :
    ∃ m, o = .call m ∧ (i, m) ∈ l.pending := by
  cases standing with
  | awaitingReply pends => exact ⟨_, rfl, pends⟩
  | entering at_ => simp at at_

theorem Standing.shift {l : Ledger μ} {i : Nat} {o : Operation μ} {before after : Stage ρ}
    (standing : Standing l i o before) (moves : s.Shift o before after)
    (early : s.closing = false → i ∉ l.late) : Standing l i o after := by
  cases moves with
  | admitted request opening =>
      cases standing with
      | fresh out =>
          refine .entering (.inl rfl) out (early opening) ?_
          rintro rfl
          cases request
      | entering at_ => simp at at_
  | refused request away => exact .refused request
  | resigned request away => exact .awaitingStop request
  | watching => exact .awaitingStop rfl
  | replied =>
      cases standing with
      | answered done => exact .replied done
      | entering at_ => simp at at_
  | unanswered =>
      cases standing with
      | forgotten => exact .refused rfl
      | entering at_ => simp at at_
  | shutDown ended => exact .shutDown
  | sawStop other ended =>
      cases standing with
      | awaitingStop request => exact .sawStop request
      | entering at_ => simp at at_
  | abandoned under waits holds => exact .abandoned

namespace System

def pending (s : System σ μ ρ) : List (Nat × μ) :=
  match s.activity with
  | .handling i m => (i, m) :: requests s.mailbox
  | _ => requests s.mailbox

def ledger (s : System σ μ ρ) (h : History μ) : Ledger μ :=
  ⟨(requests h.posts).map Prod.fst, h.late, s.pending, s.handled⟩

theorem found_later {i : Nat} {o : Operation μ} (more : s.operations <+: t.operations)
    (found : s.operations[i]? = some o) : t.operations[i]? = some o := by
  obtain ⟨new, same⟩ := more
  obtain ⟨inside, -⟩ := List.getElem?_eq_some_iff.mp found
  rw [← same, List.getElem?_append_left inside, found]

theorem ledger_congr {h : History μ} (pending : t.pending = s.pending)
    (handled : t.handled = s.handled) : t.ledger h = s.ledger h := by
  rw [ledger, pending, handled, ledger]

@[simp]
theorem ledger_freeSlot (s : System σ μ ρ) (h : History μ) :
    s.freeSlot.ledger h = s.ledger h :=
  ledger_congr (by simp [pending]) (by simp [handled])

def Stand (s : System σ μ ρ) (l : Ledger μ) : Prop :=
  ∀ i c, s.clients[i]? = some c → Standing l i c.operation c.stage

theorem Stand.setStage {l : Ledger μ} {i : Nat} {c : Client μ ρ} {stage : Stage ρ}
    (stand : s.Stand l) (found : s.clients[i]? = some c)
    (standing : Standing l i c.operation stage) : (s.setStage i stage).Stand l := by
  intro j d there
  obtain ⟨-, was⟩ | ⟨before, rfl, was, rfl⟩ := setStage_client there
  · exact stand j d was
  · rw [found] at was
    cases was
    exact standing

theorem Stand.freeSlot {l : Ledger μ} (stand : s.Stand l) (tidy : s.Tidy) : s.freeSlot.Stand l := by
  intro j d there
  obtain ⟨was, -⟩ | ⟨before, front, was, rfl⟩ := freeSlot_client there
  · exact stand j d was
  · have waits := (tidy.waits j (List.mem_of_mem_head? front)).stage was
    obtain ⟨out, early, visits⟩ := (stand j before was).of_entering (.inr (.inl waits))
    exact .entering (.inr (.inr rfl)) out early visits

end System

structure Served (s : System σ μ ρ) (h : History μ) : Prop where
  stand : s.Stand (s.ledger h)
  genuine : ∀ i m, (i, m) ∈ requests h.posts →
    ∃ o, s.operations[i]? = some o ∧ o.message? = some m
  distinct : ((requests h.posts).map Prod.fst).Nodup
  timely : ∀ i ∈ h.late, i ∉ (requests h.posts).map Prod.fst
  closing : h.late ≠ [] → s.closing = true

theorem spawn_served (identity : String) (size : Nat) (content : σ) :
    Served (System.spawn identity size content : System σ μ ρ) .empty where
  stand i c found := by simp [System.spawn] at found
  genuine := by simp [History.empty, requests]
  distinct := by simp [History.empty, requests]
  timely := by simp [History.empty]
  closing := by simp [History.empty]

theorem Served.early {h : History μ} (served : Served s h) (opening : s.closing = false) (i : Nat) :
    i ∉ h.late := by
  intro later
  have closing := served.closing (List.ne_nil_of_mem later)
  rw [opening] at closing
  cases closing

theorem Served.quiet {h h' : History μ} (served : Served s h)
    (operations : s.operations <+: t.operations) (closing : s.closing = true → t.closing = true)
    (posts : requests h'.posts = requests h.posts) (late : h'.late = h.late)
    (stand : t.Stand (t.ledger h')) : Served t h' where
  stand := stand
  genuine i m posted := by
    obtain ⟨o, found, asks⟩ := served.genuine i m (posts ▸ posted)
    exact ⟨o, System.found_later operations found, asks⟩
  distinct := posts ▸ served.distinct
  timely i later := posts ▸ served.timely i (late ▸ later)
  closing some := closing (served.closing (late ▸ some))

theorem requests_of_brings {i : Nat} {o : Operation μ} {e : Envelope μ}
    (brings : o.envelope? i = some e) : requests [e] = o.message?.toList.map (i, ·) := by
  cases o <;> cases brings <;> rfl

theorem Served.posted {h h' : History μ} {i free : Nat} {c : Client μ ρ} {e : Envelope μ}
    (served : Served s h) (found : s.clients[i]? = some c) (enters : s.Enters c.stage free)
    (brings : c.operation.envelope? i = some e) (posts : h'.posts = h.posts ++ [e])
    (late : h'.late = h.late) :
    Served ({ s with free, mailbox := s.mailbox ++ [e] }.setStage i c.operation.handedIn) h' := by
  obtain ⟨out, early, visits⟩ := (served.stand i c found).of_entering enters.entering
  have new := requests_of_brings brings
  have more : requests h'.posts = requests h.posts ++ c.operation.message?.toList.map (i, ·) := by
    rw [posts, requests_append, new]
  have operations : ({ s with free, mailbox := s.mailbox ++ [e] }.setStage i
      (c.operation.handedIn : Stage ρ)).operations = s.operations :=
    System.operations_setStage _ i _
  have pends {j : Nat} {m : μ} (stage : Stage ρ)
      (due : (j, m) ∈ s.pending ++ c.operation.message?.toList.map (i, ·)) :
      (j, m) ∈ ({ s with free, mailbox := s.mailbox ++ [e] }.setStage i stage).pending := by
    unfold System.pending at due ⊢
    cases at_ : s.activity <;> simpa [at_, new] using due
  have entered {j : Nat} (other : i ≠ j) (posted : j ∈ (requests h'.posts).map Prod.fst) :
      j ∈ (requests h.posts).map Prod.fst := by
    rw [more, List.map_append] at posted
    obtain old | new := List.mem_append.mp posted
    · exact old
    · simp only [List.map_map, List.mem_map] at new
      obtain ⟨m, -, same⟩ := new
      exact absurd same other
  constructor
  · intro j d there
    obtain ⟨other, was⟩ | ⟨before, rfl, was, rfl⟩ := System.setStage_client there
    · refine (served.stand j d was).mono (entered other) (by simp [System.ledger, late]) ?_
        fun m done => done
      exact fun _ m due => pends _ (List.mem_append_left _ due)
    · rw [found] at was
      cases was
      cases doing : c.operation with
      | awaitStop => exact absurd doing visits
      | shutdown => exact .awaitingStop rfl
      | send m => exact .sent
      | call m =>
          refine .awaitingReply (pends .awaitingReply (List.mem_append_right _ ?_))
          simp [doing, Operation.message?]
  · intro j m posted
    rw [operations]
    rw [more] at posted
    obtain old | new := List.mem_append.mp posted
    · exact served.genuine j m old
    · simp only [List.mem_map, Option.mem_toList, Prod.mk.injEq] at new
      obtain ⟨m, asks, rfl, rfl⟩ := new
      exact ⟨c.operation, by simp [System.operations, found], asks⟩
  · rw [more, List.map_append]
    refine List.nodup_append.mpr ⟨served.distinct, ?_, ?_⟩
    · cases c.operation.message? <;> simp
    · rintro j old k new rfl
      simp only [List.map_map, List.mem_map] at new
      obtain ⟨m, -, rfl⟩ := new
      exact out old
  · intro j later posted
    by_cases same : i = j
    · cases same
      rw [late] at later
      exact early later
    · exact served.timely j (late ▸ later) (entered same posted)
  · exact fun some => served.closing (late ▸ some)

theorem Served.client {h : History μ} {i : Nat} {c : Client μ ρ} {m : Move μ} (served : Served s h)
    (tidy : s.Tidy) (moves : System.mover? m = some i) (found : s.clients[i]? = some c)
    (change : s.ClientChange i c t) : Served t (h.next b s m t) := by
  have operations : s.operations <+: t.operations := change.operations_eq ▸ List.prefix_rfl
  have standing := served.stand i c found
  rw [History.next_client moves]
  have quiet (mailbox : t.mailbox = s.mailbox) (closing : s.closing = true → t.closing = true)
      (stand : t.Stand (t.ledger h)) :
      Served t { h with posts := h.posts ++ History.posted s t } := by
    rw [History.posted_same mailbox, List.append_nil]
    exact served.quiet operations closing rfl rfl stand
  cases change with
  | shift moves =>
      refine quiet rfl id (served.stand.setStage found ?_)
      exact standing.shift moves fun opening => served.early opening i
  | asked asks new opening =>
      have out := (new ▸ standing).of_fresh
      refine quiet rfl (fun _ => rfl) (served.stand.setStage found ?_)
      exact .entering (.inl rfl) out (served.early opening i) (by simp [asks])
  | queued new opened full =>
      obtain ⟨out, early, visits⟩ := standing.of_entering (.inl new)
      refine quiet rfl id (served.stand.setStage found ?_)
      exact .entering (.inr (.inl rfl)) out early visits
  | posted enters opened brings =>
      exact served.posted found enters brings (by rw [History.posted_append rfl]) rfl
  | wasted enters watches =>
      exact absurd watches (standing.of_entering enters.entering).2.2
  | left waits => exact quiet rfl id (served.stand.setStage found .abandoned)
  | yielded holds =>
      have out := tidy.out found (by simp [holds])
      have stand := (served.stand.setStage found .abandoned).freeSlot (tidy.setStage out .abandoned)
      exact quiet (by simp) (by simp) (by rwa [System.ledger_freeSlot])

theorem Served.begun {h : History μ} {o : Operation μ} (served : Served s h) :
    Served { s with clients := s.clients ++ [⟨o, .fresh⟩] }
      (h.next b s (.begin_ o) { s with clients := s.clients ++ [⟨o, .fresh⟩] }) := by
  have next : h.next b s (.begin_ o) { s with clients := s.clients ++ [⟨o, .fresh⟩] } =
      { h with late := h.late ++ if s.closing then [s.clients.length] else [] } := by
    simp [History.next, History.posted_same, History.returned, History.begunLate]
  -- Only operations that exist got anything into the mailbox.
  have out : s.clients.length ∉ (requests h.posts).map Prod.fst := by
    intro posted
    obtain ⟨⟨j, m⟩, posted, rfl⟩ := List.mem_map.mp posted
    obtain ⟨o, found, -⟩ := served.genuine _ m posted
    simp [System.operations] at found
  have later {j : Nat} (late : j ∈ h.late ++ if s.closing then [s.clients.length] else []) :
      j ∈ h.late ∨ j = s.clients.length := by
    split at late
    · simpa using late
    · exact .inl (by simpa using late)
  rw [next]
  constructor
  · intro j d there
    by_cases old : j < s.clients.length
    · rw [List.getElem?_append_left old] at there
      refine (served.stand j d there).mono id (fun late => ?_) (fun _ _ due => due) fun _ => id
      obtain late | new := later late
      · exact late
      · omega
    · rw [List.getElem?_append_right (by omega)] at there
      obtain ⟨new, rfl⟩ := List.getElem?_eq_some_iff.mp there
      have same : j = s.clients.length := by simp at new; omega
      simp only [List.getElem_singleton]
      exact .fresh (same ▸ out)
  · intro j m posted
    obtain ⟨o, found, asks⟩ := served.genuine j m posted
    exact ⟨o, System.found_later ⟨_, (List.map_append).symm⟩ found, asks⟩
  · exact served.distinct
  · intro j late
    obtain late | rfl := later late
    · exact served.timely j late
    · exact out
  · intro some
    by_cases closing : s.closing = true
    · exact closing
    · simp only [closing, Bool.false_eq_true, if_false, List.append_nil] at some
      exact served.closing some

theorem Served.finish {h : History μ} {i : Nat} {m : μ} {turn : Turn σ ρ} (served : Served s h)
    (balanced : Balanced s h) (at_ : s.activity = .handling i m) :
    Served (s.finishStep i turn) (h.next b s .finish (s.finishStep i turn)) := by
  obtain ⟨posts, done, handled⟩ : h.posts = s.handled.map .ofRequest ++ s.mailbox ∧
      ∃ done, s.handled = done ++ [(i, m)] := by
    cases balanced with
    | starting other => simp [at_] at other
    | idle other | ended other => rw [at_] at other; cases other
    | handling other posts handled => rw [at_] at other; cases other; exact ⟨posts, _, handled⟩
  have inHand : (i, m) ∈ s.handled := by simp [handled]
  have own : (i, m) ∈ requests h.posts := by
    rw [posts, requests_append, requests_map_ofRequest]
    exact List.mem_append_left _ inHand
  have pending : (s.finishStep i turn).pending = requests s.mailbox := by
    unfold System.pending
    rw [(s.finishStep_frame i turn).1, (s.finishStep_frame i turn).2.1]
    cases turn.failure.any (·.isPermanent) <;> rfl
  have same : requests (h.next b s .finish (s.finishStep i turn)).posts = requests h.posts := by
    simp [History.next, History.posted_same]
  refine served.quiet (by simp) (by simp) same (List.append_nil _) fun j d there => ?_
  rw [System.finishStep_clients] at there
  obtain ⟨was, spared⟩ | ⟨before, rfl, was, waits, rfl⟩ := System.answer_client there
  · refine (served.stand j d was).mono (by simp [System.ledger, same])
      (by simp [System.ledger, History.next, History.begunLate]) ?_ (by simp [System.ledger])
    intro waits n due
    have other : i ≠ j := fun same => spared ⟨same, waits⟩
    simp only [System.ledger, System.pending, at_, List.mem_cons, Prod.mk.injEq] at due
    obtain ⟨rfl, rfl⟩ | due := due
    · exact absurd rfl other
    · simpa [System.ledger, pending] using due
  · -- The message in hand is the one that the operation carries.
    obtain ⟨n, calls, -⟩ := (waits ▸ served.stand i before was).of_awaitingReply
    obtain ⟨o, found, asks⟩ := served.genuine i m own
    have same : o = before.operation := by simpa [System.operations, was] using found.symm
    rw [same, calls] at asks
    cases asks
    rw [calls]
    cases turn.reply with
    | none => exact .forgotten
    | some reply => exact .answered (by simpa [System.ledger] using inHand)

theorem Served.close {h : History μ} (served : Served s h) (at_ : s.activity = .leaving) :
    Served s.closeStep h := by
  refine served.quiet (by simp) (by simp) rfl rfl fun j d there => ?_
  obtain ⟨was, spared⟩ | ⟨before, was, waits, rfl⟩ := System.discard_client there
  · refine (served.stand j d was).mono id id (fun waits n due => ?_) (by simp [System.ledger])
    have posted : (j, n) ∈ requests s.mailbox := by
      simpa [System.ledger, System.pending, at_] using due
    exact absurd waits (spared n (mem_requests.mp posted))
  · obtain ⟨n, calls, -⟩ := (waits ▸ served.stand j before was).of_awaitingReply
    rw [calls]
    exact .forgotten

theorem Served.taken {h : History μ} {rest : List (Envelope μ)} (served : Served s h)
    (tidy : s.Tidy) (at_ : s.activity = .idle) :
    { s with mailbox := rest }.freeSlot.Stand (s.ledger h) :=
  System.Stand.freeSlot (s := { s with mailbox := rest }) served.stand
    (tidy.remail (tidy.closed_eq.trans (at_ ▸ rfl)) rest)

theorem Served.aside {h : History μ} {m : Move μ} (served : Served s h)
    (returns : History.returned b s m = []) (late : History.begunLate s m = [])
    (clients : t.clients = s.clients) (mailbox : t.mailbox = s.mailbox)
    (closing : t.closing = s.closing) (pending : t.pending = s.pending)
    (handled : t.handled = s.handled) : Served t (h.next b s m t) := by
  -- Clients, mailbox and the worker's requests are left alone.
  rw [History.next_quiet returns late (Nat.le_of_eq (congrArg _ mailbox))]
  have operations : t.operations = s.operations := by
    rw [System.operations, clients, System.operations]
  refine served.quiet (operations ▸ List.prefix_refl _) (closing ▸ id) rfl rfl fun i c found => ?_
  rw [System.ledger_congr pending handled]
  exact served.stand i c (clients ▸ found)

theorem Served.step {h : History μ} {m : Move μ} (served : Served s h) (tidy : s.Tidy)
    (balanced : Balanced s h) (well : b.startFailure = none) (change : s.Change b m t) :
    Served t (h.next b s m t) := by
  have operations := change.operations
  cases change with
  | client moves found change => exact served.client tidy moves found change
  | begun held => exact served.begun
  | cloned held | dropped held => exact served.aside rfl rfl rfl rfl rfl rfl rfl
  | started at_ =>
      exact served.aside rfl rfl rfl rfl rfl (by simp [System.pending, at_]; rfl) (by simp)
  | readied at_ _ =>
      exact served.aside rfl rfl rfl rfl rfl (by simp [System.pending, at_]; rfl) rfl
  | broke at_ ill => rw [well] at ill; cases ill
  | @took i message rest at_ front =>
      rw [History.next_quiet rfl rfl (by simp [front])]
      refine served.quiet operations (by simp) rfl rfl fun j d there => ?_
      refine (served.taken tidy at_ j d there).mono id id (fun _ n due => ?_) fun n done => ?_
      · simpa [System.ledger, System.pending, at_, front, requests] using due
      · simp only [System.ledger, System.handled_took]
        exact List.mem_append_left _ done
  | @told rest at_ front =>
      rw [History.next_quiet rfl rfl (by simp [front])]
      have same : (s.told rest).ledger h = s.ledger h :=
        System.ledger_congr (by simp [System.pending, at_, front, requests]) (by simp)
      exact served.quiet operations (by simp) rfl rfl (same ▸ served.taken tidy at_)
  | deserted at_ empty alone =>
      exact served.aside rfl rfl rfl rfl rfl (by simp [System.pending, at_]) rfl
  | finished at_ ends => exact served.finish balanced at_
  | closed at_ =>
      rw [History.next_quiet rfl rfl (by simp)]
      exact served.close at_
  | shut at_ => exact absurd at_ balanced.unbroken
  | stopping at_ =>
      exact served.aside rfl rfl rfl rfl rfl (by simp [System.pending, at_]; rfl) (by simp)
  | parted at_ =>
      exact served.aside rfl rfl rfl rfl rfl (by simp [System.pending, at_]; rfl) rfl
  | stopped at_ => exact served.aside rfl rfl rfl rfl rfl (by simp [System.pending, at_]) rfl

end FleetResponse.Worker
