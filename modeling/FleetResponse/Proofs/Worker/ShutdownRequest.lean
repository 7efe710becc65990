import FleetResponse.Proofs.Worker.Handling

/-!
# Who tells a worker to stop

Of all who ask a worker to shut down, the first has to bring the request to the mailbox; the others
only wait for the end. So there is one request, in the mailbox or on its way, unless the one who
should bring it gave up. Then nobody ever brings it.
-/

namespace FleetResponse.Worker

variable {σ μ ρ : Type} {b : Behaviour σ μ ρ} {s t : System σ μ ρ}

namespace Stage

def isEntering : Stage ρ → Bool
  | admitted => true
  | waiting => true
  | granted => true
  | _ => false

end Stage

namespace Client

def isPosting (c : Client μ ρ) : Bool :=
  match c.operation with
  | .shutdown => c.stage.isEntering
  | _ => false

theorem isPosting_of_request {o : Operation μ} {m : μ} (request : o.message? = some m)
    (stage : Stage ρ) : (Client.mk o stage).isPosting = false := by
  cases o with
  | shutdown => cases request
  | _ => rfl

theorem isPosting_of_out {o : Operation μ} {stage : Stage ρ} (out : stage.isEntering = false) :
    (Client.mk o stage).isPosting = false := by
  cases o with
  | shutdown => exact out
  | _ => rfl

end Client

def Envelope.isShutdown : Envelope μ → Bool
  | shutdown => true
  | request _ _ => false

namespace System

def PostsShutdown (s : System σ μ ρ) (i : Nat) : Prop :=
  ∃ c, s.clients[i]? = some c ∧ c.isPosting = true

def shutdownPosters (s : System σ μ ρ) : Nat :=
  s.clients.countP Client.isPosting

def shutdowns (s : System σ μ ρ) : Nat :=
  s.mailbox.countP Envelope.isShutdown + s.shutdownPosters

theorem shutdowns_pos_iff : 0 < s.shutdowns ↔ .shutdown ∈ s.mailbox ∨ ∃ i, s.PostsShutdown i := by
  have posted : 0 < s.mailbox.countP Envelope.isShutdown ↔ .shutdown ∈ s.mailbox := by
    rw [List.countP_pos_iff]
    constructor
    · rintro ⟨e, member, tells⟩
      cases e with
      | request i m => cases tells
      | shutdown => exact member
    · exact fun member => ⟨_, member, rfl⟩
  have brought : 0 < s.shutdownPosters ↔ ∃ i, s.PostsShutdown i := by
    rw [shutdownPosters, List.countP_pos_iff]
    constructor
    · rintro ⟨c, member, isPosting⟩
      obtain ⟨i, found⟩ := List.getElem?_of_mem member
      exact ⟨i, c, found, isPosting⟩
    · rintro ⟨i, c, found, isPosting⟩
      exact ⟨c, List.mem_of_getElem? found, isPosting⟩
  rw [← posted, ← brought]
  unfold shutdowns
  omega

/-! ## Counting the clients -/

theorem countP_modify {α : Type} {p : α → Bool} {f : α → α} {as : List α} {i : Nat} {a : α}
    (found : as[i]? = some a) :
    (as.modify i f).countP p + (p a).toNat = as.countP p + (p (f a)).toNat := by
  induction as generalizing i with
  | nil => cases found
  | cons head as ih =>
      cases i with
      | zero =>
          obtain rfl := Option.some.inj found
          simp only [List.modify_zero_cons, List.countP_cons]
          cases p head <;> cases p (f head) <;> simp
      | succ i =>
          have rest := ih (by simpa using found)
          simp only [List.modify_succ_cons, List.countP_cons]
          omega

theorem shutdowns_setStage {i : Nat} {c : Client μ ρ} (found : s.clients[i]? = some c)
    (stage : Stage ρ) :
    (s.setStage i stage).shutdowns + c.isPosting.toNat =
      s.shutdowns + (Client.mk c.operation stage).isPosting.toNat := by
  have counted : (s.setStage i stage).shutdownPosters + c.isPosting.toNat =
      s.shutdownPosters + (Client.mk c.operation stage).isPosting.toNat := countP_modify found
  unfold shutdowns
  rw [(s.setStage_frame i stage).2.2.2.1]
  omega

theorem shutdowns_setStage_same {i : Nat} {c : Client μ ρ} {stage : Stage ρ}
    (found : s.clients[i]? = some c)
    (same : (Client.mk c.operation stage).isPosting = c.isPosting) :
    (s.setStage i stage).shutdowns = s.shutdowns := by
  have counted := shutdowns_setStage found stage
  rw [same] at counted
  omega

theorem shutdowns_freeSlot (tidy : s.Tidy) : s.freeSlot.shutdowns = s.shutdowns := by
  unfold freeSlot
  cases line : s.line with
  | nil => rfl
  | cons i rest =>
      obtain ⟨c, found, waits⟩ := tidy.waits i (by simp [line])
      refine shutdowns_setStage_same (s := { s with line := rest }) found ?_
      obtain ⟨o, stage⟩ := c
      obtain rfl : stage = .waiting := waits
      cases o <;> rfl

theorem shutdowns_answer (s : System σ μ ρ) (i : Nat) (reply : Option ρ) :
    (s.answer i reply).shutdowns = s.shutdowns := by
  unfold answer
  split
  · rename_i c found
    split
    · rename_i waits
      refine shutdowns_setStage_same found ?_
      obtain ⟨o, stage⟩ := c
      obtain rfl : stage = .awaitingReply := waits
      cases o <;> rfl
    · rfl
  · rfl

/-! ## Giving up -/

theorem setStage_own {i : Nat} {stage : Stage ρ} {d : Client μ ρ}
    (found : (s.setStage i stage).clients[i]? = some d) : d.stage = stage := by
  obtain ⟨other, -⟩ | ⟨before, -, -, rfl⟩ := setStage_client found
  · exact absurd rfl other
  · rfl

theorem refuse_own {i : Nat} {o : Operation μ} {d : Client μ ρ}
    (found : (s.refuse i o).clients[i]? = some d) : d.stage ≠ .abandoned := by
  cases o <;> simp [setStage_own found]

theorem enqueue_own {i : Nat} {o : Operation μ} {c d : Client μ ρ} (was : s.clients[i]? = some c)
    (alive : c.stage ≠ .abandoned) (found : (s.enqueue i o).clients[i]? = some d) :
    d.stage ≠ .abandoned := by
  cases o with
  | awaitStop =>
      obtain rfl := Option.some.inj (was.symm.trans found)
      exact alive
  | _ => simp [setStage_own found]

theorem checkStep_own {i : Nat} {o : Operation μ} {d : Client μ ρ}
    (found : (s.checkStep i o).clients[i]? = some d) : d.stage ≠ .abandoned := by
  cases o with
  | awaitStop => simp [setStage_own found]
  | _ =>
      simp only [checkStep] at found
      split at found
      · exact refuse_own found
      · simp [setStage_own found]

theorem submitStep_own {i : Nat} {o : Operation μ} {c d : Client μ ρ}
    (was : s.clients[i]? = some c) (alive : c.stage ≠ .abandoned)
    (found : (s.submitStep i o).clients[i]? = some d) : d.stage ≠ .abandoned := by
  unfold submitStep at found
  split at found
  · exact refuse_own found
  · split at found
    · exact enqueue_own (s := { s with free := s.free - 1 }) was alive found
    · simp [setStage_own found]

theorem collectStep_own {i : Nat} {c d : Client μ ρ} (going : s.collectStep? i c = some t)
    (found : t.clients[i]? = some d) : d.stage ≠ .abandoned := by
  unfold collectStep? at going
  split at going
  · cases going
    simp [setStage_own found]
  · cases going
    simp [setStage_own found]
  · split at going <;> cases going
    simp [setStage_own found]
  · split at going <;> cases going
    simp [setStage_own found]
  · cases going

theorem abandon_of_abandoned {i : Nat} {m : Move μ} {c d : Client μ ρ} (moves : mover? m = some i)
    (stepped : s.step b m = some t) (was : s.clients[i]? = some c) (alive : c.stage ≠ .abandoned)
    (found : t.clients[i]? = some d) (gone : d.stage = .abandoned) : m = .abandon i := by
  cases m with
  | abandon j => cases moves; rfl
  | check j =>
      cases moves
      simp only [step, was, Option.bind_eq_bind, Option.bind_some] at stepped
      split at stepped <;> cases stepped
      exact absurd gone (checkStep_own found)
  | submit j =>
      cases moves
      simp only [step, was, Option.bind_eq_bind, Option.bind_some] at stepped
      split at stepped <;> cases stepped
      exact absurd gone (submitStep_own was alive found)
  | push j =>
      cases moves
      simp only [step, was, Option.bind_eq_bind, Option.bind_some] at stepped
      split at stepped
      · split at stepped <;> cases stepped
        · exact absurd gone (refuse_own found)
        · exact absurd gone (enqueue_own was alive found)
      · split at stepped <;> cases stepped
        exact absurd gone (refuse_own found)
      · cases stepped
  | collect j =>
      cases moves
      simp only [step, was, Option.bind_eq_bind, Option.bind_some] at stepped
      exact absurd gone (collectStep_own stepped found)
  | _ => cases moves

/-! ## Words given up -/

def abandonsShutdown (s : System σ μ ρ) : Move μ → Nat
  | .abandon i => ((s.clients[i]?).any Client.isPosting).toNat
  | _ => 0

def abandonedAlong (b : Behaviour σ μ ρ) (s : System σ μ ρ) : List (Move μ) → Nat
  | [] => 0
  | m :: moves =>
      s.abandonsShutdown m + match s.step b m with
        | none => 0
        | some t => t.abandonedAlong b moves

theorem abandonsShutdown_eq_zero_iff {m : Move μ} :
    s.abandonsShutdown m = 0 ↔ ∀ i, m = .abandon i → ¬ s.PostsShutdown i := by
  cases m with
  | abandon i =>
      simp only [abandonsShutdown, PostsShutdown, Bool.toNat_eq_zero, Move.abandon.injEq,
        forall_eq']
      cases s.clients[i]? <;> simp
  | _ => simp [abandonsShutdown]

theorem abandonedAlong_eq_zero_iff {moves : List (Move μ)} :
    s.abandonedAlong b moves = 0 ↔ ∀ front i back t, moves = front ++ .abandon i :: back →
      s.steps b front = some t → ¬ t.PostsShutdown i := by
  induction moves generalizing s with
  | nil => simp [abandonedAlong]
  | cons m moves ih =>
      rw [abandonedAlong, Nat.add_eq_zero_iff, abandonsShutdown_eq_zero_iff]
      constructor
      · rintro ⟨first, rest⟩ front i back t split run
        cases front with
        | nil =>
            obtain ⟨rfl, rfl⟩ := List.cons.inj split
            cases run
            exact first i rfl
        | cons n front =>
            obtain ⟨rfl, rfl⟩ := List.cons.inj split
            obtain ⟨next, stepped, run⟩ := Option.bind_eq_some_iff.mp run
            rw [stepped] at rest
            exact ih.mp rest front i back t rfl run
      · intro all
        refine ⟨fun i gives => all [] i moves s (congrArg (· :: moves) gives) rfl, ?_⟩
        cases stepped : s.step b m with
        | none => rfl
        | some next =>
            refine ih.mpr fun front i back t split run => ?_
            refine all (m :: front) i back t (congrArg (m :: ·) split) ?_
            simpa [steps, stepped] using run

theorem shutdowns_abandonStep {i : Nat} {c : Client μ ρ} (tidy : s.Tidy)
    (found : s.clients[i]? = some c) (going : s.abandonStep? i c = some t) :
    t.shutdowns + c.isPosting.toNat = s.shutdowns ∧ t.closing = s.closing := by
  have out : (Client.mk c.operation (.abandoned : Stage ρ)).isPosting = false :=
    Client.isPosting_of_out rfl
  have quit := shutdowns_setStage found .abandoned
  rw [out] at quit
  unfold abandonStep? at going
  split at going
  · cases going
  · cases going
  · cases going
    exact ⟨quit, rfl⟩
  · rename_i holds
    cases going
    rw [shutdowns_freeSlot (tidy.setStage (tidy.out found (by simp [holds])) .abandoned)]
    exact ⟨quit, by simp⟩
  · cases going
    exact ⟨quit, rfl⟩

theorem shutdowns_client {i : Nat} {c : Client μ ρ} (tidy : s.Tidy) (opened : s.closed = false)
    (found : s.clients[i]? = some c) (change : s.ClientChange i c t)
    (stays : ∀ d, t.clients[i]? = some d → d.stage ≠ .abandoned) :
    t.shutdowns + s.closing.toNat = s.shutdowns + t.closing.toNat := by
  have quiet {stage : Stage ρ} (before : c.isPosting = false)
      (after : (Client.mk c.operation stage).isPosting = false) :
      (s.setStage i stage).shutdowns = s.shutdowns :=
    shutdowns_setStage_same found (after.trans before.symm)
  have own {r : System σ μ ρ} {stage : Stage ρ} (same : r.clients = s.clients) :
      (r.setStage i stage).clients[i]? = some ⟨c.operation, stage⟩ := by
    simp [setStage, same, found]
  obtain ⟨o, before⟩ := c
  cases change with
  | shift moves =>
      refine congrArg (· + s.closing.toNat) ?_
      cases moves with
      | admitted request opening =>
          exact quiet (Client.isPosting_of_request request _)
            (Client.isPosting_of_request request _)
      | refused request away =>
          exact quiet (Client.isPosting_of_request request _)
            (Client.isPosting_of_request request _)
      | resigned request away =>
          refine quiet (Client.isPosting_of_out ?_) (Client.isPosting_of_out rfl)
          cases before <;> first | rfl | (rw [turnsAway, opened] at away; cases away)
      | abandoned under waits holds => exact absurd rfl (stays _ (own rfl))
      | _ => exact quiet (Client.isPosting_of_out rfl) (Client.isPosting_of_out rfl)
  | asked asks new opening =>
      obtain rfl : o = .shutdown := asks
      obtain rfl : before = .fresh := new
      have counted := shutdowns_setStage (s := { s with closing := true }) found .admitted
      have same : ({ s with closing := true } : System σ μ ρ).shutdowns = s.shutdowns := rfl
      simpa [Client.isPosting, Stage.isEntering, opening, same] using counted
  | queued new opened full =>
      obtain rfl : before = .admitted := new
      have same := shutdowns_setStage_same (s := { s with line := s.line ++ [i] }) found
        (show (Client.mk o .waiting).isPosting = (Client.mk o .admitted).isPosting by
          cases o <;> rfl)
      exact congrArg (· + s.closing.toNat) same
  | @posted free e enters opened brings =>
      have entering : before.isEntering = true := by
        rcases enters.entering with rfl | rfl | rfl <;> rfl
      -- The request that the client had on its way is the one that it posts.
      have brought : (Client.mk o before).isPosting = e.isShutdown := by
        cases o <;> cases brings
        · rfl
        · rfl
        · exact entering
      have handed : (Client.mk o (o.handedIn : Stage ρ)).isPosting = false := by cases o <;> rfl
      have counted := shutdowns_setStage (s := { s with free, mailbox := s.mailbox ++ [e] }) found
        o.handedIn
      have more : ({ s with free, mailbox := s.mailbox ++ [e] } : System σ μ ρ).shutdowns =
          s.shutdowns + e.isShutdown.toNat := by
        unfold shutdowns
        rw [List.countP_append, List.countP_singleton]
        cases e.isShutdown <;> simp [shutdownPosters, Nat.add_right_comm]
      rw [brought, handed, more] at counted
      simpa [Nat.add_right_comm] using counted
  | wasted enters watches => rfl
  | left waits => exact absurd rfl (stays _ (own rfl))
  | yielded holds =>
      obtain rfl : before = .granted := holds
      have there : (s.setStage i .abandoned).clients[i]? = some ⟨o, .abandoned⟩ := own rfl
      have freed := (s.setStage i .abandoned).getElem?_freeSlot_of_out (tidy.out found (by simp))
      exact absurd rfl (stays _ (freed.trans there))

/-- In the loop there is one request to shut down if somebody asked, still to come or given up. -/
def ShutdownsCounted (s : System σ μ ρ) (lost : Nat) : Prop :=
  s.activity.inLoop = true → s.shutdowns + lost = s.closing.toNat

theorem spawn_shutdownsCounted (identity : String) (size : Nat) (content : σ) :
    (spawn identity size content : System σ μ ρ).ShutdownsCounted 0 :=
  fun _ => rfl

theorem ShutdownsCounted.client {m : Move μ} {i lost : Nat} {c : Client μ ρ}
    (accounted : s.ShutdownsCounted lost)
    (tidy : s.Tidy) (moves : mover? m = some i) (found : s.clients[i]? = some c)
    (stepped : s.step b m = some t) (change : s.ClientChange i c t) :
    t.ShutdownsCounted (lost + s.abandonsShutdown m) := by
  intro inLoop
  rw [change.frame.2.2.1] at inLoop
  have before := accounted inLoop
  have opened : s.closed = false := tidy.closed_eq.trans (Activity.hasClosed_of_inLoop inLoop)
  by_cases quits : m = .abandon i
  · subst quits
    have going : s.abandonStep? i c = some t := by simpa [step, found] using stepped
    obtain ⟨shutdowns, closing⟩ := shutdowns_abandonStep tidy found going
    have lose : s.abandonsShutdown (.abandon i) = c.isPosting.toNat := by
      simp [abandonsShutdown, found]
    rw [closing, lose]
    omega
  · have keeps : s.abandonsShutdown m = 0 := by
      cases m with
      | abandon j =>
          cases moves
          exact absurd rfl quits
      | _ => rfl
    have alive : c.stage ≠ .abandoned := by
      intro gone
      have going := change.isOpen
      rw [gone] at going
      cases going
    have shutdowns := shutdowns_client tidy opened found change fun d there gone =>
      quits (abandon_of_abandoned moves stepped found alive there gone)
    rw [keeps]
    omega

theorem ShutdownsCounted.step {m : Move μ} {lost : Nat} (accounted : s.ShutdownsCounted lost)
    (tidy : s.Tidy) (stepped : s.step b m = some t) :
    t.ShutdownsCounted (lost + s.abandonsShutdown m) := by
  cases change_of_step stepped with
  | client moves found change => exact accounted.client tidy moves found stepped change
  | begun held =>
      intro inLoop
      refine Eq.trans ?_ (accounted inLoop)
      unfold shutdowns shutdownPosters
      rw [List.countP_append, List.countP_singleton, Client.isPosting_of_out rfl]
      rfl
  | cloned held | dropped held => exact accounted
  | started at_ | readied at_ =>
      intro inLoop
      exact accounted (by rw [at_]; rfl)
  | @took i message rest at_ next =>
      intro inLoop
      have opened : s.closed = false := tidy.closed_eq.trans (at_ ▸ rfl)
      have shutdowns : (s.took i message rest).shutdowns = s.shutdowns := calc
        _ = ({ s with mailbox := rest } : System σ μ ρ).shutdowns :=
          shutdowns_freeSlot (tidy.remail opened rest)
        _ = s.shutdowns := by simp [System.shutdowns, next, Envelope.isShutdown, shutdownPosters]
      have before := accounted (by rw [at_]; rfl)
      rw [shutdowns, (s.took_frame i message rest).2.2.2.1]
      exact before
  | @finished i message turn at_ ends =>
      intro inLoop
      have shutdowns : (s.finishStep i turn).shutdowns = s.shutdowns := by
        rw [System.shutdowns, shutdownPosters, finishStep_clients, (s.finishStep_frame i turn).2.1]
        have answered := s.shutdowns_answer i turn.reply
        rwa [System.shutdowns, (s.answer_frame i turn.reply).2.2.2.1] at answered
      have before := accounted (by rw [at_]; rfl)
      rw [shutdowns, (s.finishStep_frame i turn).2.2.2.1]
      exact before
  | told at_ next =>
      intro inLoop
      rw [(s.told_frame _).1] at inLoop
      cases inLoop
  | closed at_ =>
      intro inLoop
      rw [s.closeStep_frame.1] at inLoop
      cases inLoop
  | broke at_ | deserted at_ | shut at_ | stopping at_ | parted at_ | stopped at_ => exact nofun

theorem ShutdownsCounted.run {moves : List (Move μ)} {lost : Nat}
    (accounted : s.ShutdownsCounted lost) (tidy : s.Tidy) (run : s.steps b moves = some t) :
    t.ShutdownsCounted (lost + s.abandonedAlong b moves) := by
  induction moves generalizing s lost with
  | nil =>
      cases run
      exact accounted
  | cons m moves ih =>
      obtain ⟨next, stepped, run⟩ := Option.bind_eq_some_iff.mp run
      simp only [abandonedAlong, stepped, ← Nat.add_assoc]
      exact ih (accounted.step tidy stepped) (tidy.step (change_of_step stepped)) run

theorem ShutdownsCounted.never {moves : List (Move μ)} {lost : Nat}
    (accounted : s.ShutdownsCounted lost) (tidy : s.Tidy) (some_lost : 0 < lost)
    (run : s.steps b moves = some t)
    (inLoop : t.activity.inLoop = true) :
    ¬ (.shutdown ∈ t.mailbox ∨ ∃ i, t.PostsShutdown i) := by
  have counted := accounted.run tidy run inLoop
  have one := Bool.toNat_le t.closing
  rw [← shutdowns_pos_iff]
  omega

end System

/-- Once somebody asked a worker in its loop to shut down, the request is in the mailbox, or
somebody is about to bring it there, if and only if nobody who was about to bring it gave up. If
somebody did, it never comes. -/
theorem run_shutdown_pending_iff (b : Behaviour σ μ ρ) (identity : String) (size : Nat)
    (content : σ) (moves : List (Move μ))
    (run : (System.spawn identity size content).steps b moves = some s)
    (asked : s.closing = true) (inLoop : s.activity.inLoop = true) :
    let kept := ∀ front i back t, moves = front ++ .abandon i :: back →
      (System.spawn identity size content).steps b front = some t → ¬ t.PostsShutdown i
    ((.shutdown ∈ s.mailbox ∨ ∃ i, s.PostsShutdown i) ↔ kept) ∧
      (¬ kept → ∀ later t, s.steps b later = some t → t.activity.inLoop = true →
        ¬ (.shutdown ∈ t.mailbox ∨ ∃ i, t.PostsShutdown i)) := by
  intro kept
  have tidy := (System.spawn_tidy identity size content).run run
  have accounted := (System.spawn_shutdownsCounted identity size content).run
    (System.spawn_tidy identity size content) run
  rw [Nat.zero_add] at accounted
  have kept_iff : (System.spawn identity size content).abandonedAlong b moves = 0 ↔ kept :=
    System.abandonedAlong_eq_zero_iff
  constructor
  · have counted := accounted inLoop
    rw [asked, Bool.toNat_true] at counted
    rw [← System.shutdowns_pos_iff, ← kept_iff]
    omega
  · intro gaveUp later t run inLoop
    have some_lost := Nat.pos_of_ne_zero (gaveUp ∘ kept_iff.mp)
    exact accounted.never tidy some_lost run inLoop

def lateShutdown : List (Move Counter.Message) :=
  [.start, .ready, .begin_ (.call .hold), .check 0, .submit 0, .take, .begin_ (.call (.add 1)),
    .check 1, .submit 1, .begin_ .shutdown, .check 2, .submit 2]

theorem run_shutdown_pending_iff_lateShutdown :
    ∃ s, (System.spawn "counter" 1 ⟨0, 1⟩).steps (Counter.behaviour none)
        (lateShutdown ++ [.begin_ .shutdown, .check 3, .abandon 3]) = some s ∧
      s.closing = true ∧ s.activity = .handling 0 .hold ∧ s.mailbox = [.request 1 (.add 1)] ∧
      s.line = [2] ∧ (.shutdown ∈ s.mailbox ∨ ∃ i, s.PostsShutdown i) := by
  obtain ⟨s, run, asked, busy, posted, line⟩ : ∃ s, (System.spawn "counter" 1 ⟨0, 1⟩).steps
      (Counter.behaviour none) (lateShutdown ++ [.begin_ .shutdown, .check 3, .abandon 3]) =
        some s ∧
        s.closing = true ∧ s.activity = .handling 0 .hold ∧
        s.mailbox = [.request 1 (.add 1)] ∧ s.line = [2] := ⟨_, rfl, rfl, rfl, rfl, rfl⟩
  have inLoop : s.activity.inLoop = true := by rw [busy]; rfl
  refine ⟨s, run, asked, busy, posted, line, ?_⟩
  obtain ⟨pending_iff, -⟩ :=
    run_shutdown_pending_iff (Counter.behaviour none) "counter" 1 ⟨0, 1⟩ _ run asked inLoop
  refine pending_iff.mpr ?_
  exact System.abandonedAlong_eq_zero_iff.mp (by decide)

/-- When the first gives up in front of the full mailbox, the second waits for a worker that nobody
tells to stop. -/
theorem abandoned_shutdown_never_posted :
    ∃ s, (System.spawn "counter" 1 ⟨0, 1⟩).steps (Counter.behaviour none)
        (lateShutdown ++ [.abandon 2, .begin_ .shutdown, .check 3, .finish, .take, .finish]) =
          some s ∧
      s.closing = true ∧ s.activity = .idle ∧ s.clients[3]? = some ⟨.shutdown, .awaitingStop⟩ ∧
      ∀ later t, s.steps (Counter.behaviour none) later = some t → t.activity.inLoop = true →
        ¬ (.shutdown ∈ t.mailbox ∨ ∃ i, t.PostsShutdown i) := by
  have tidy : (System.spawn "counter" 1 ⟨0, 1⟩ : System Counter Counter.Message
      Counter.Reply).Tidy := System.spawn_tidy "counter" 1 _
  have accounted : (System.spawn "counter" 1 ⟨0, 1⟩ : System Counter Counter.Message
      Counter.Reply).ShutdownsCounted 0 := System.spawn_shutdownsCounted "counter" 1 _
  obtain ⟨s, run, asked, idle, waits⟩ : ∃ s, (System.spawn "counter" 1 ⟨0, 1⟩).steps
      (Counter.behaviour none)
      (lateShutdown ++ [.abandon 2, .begin_ .shutdown, .check 3, .finish, .take, .finish]) =
        some s ∧
        s.closing = true ∧ s.activity = .idle ∧
        s.clients[3]? = some ⟨.shutdown, .awaitingStop⟩ := ⟨_, rfl, rfl, rfl, rfl⟩
  refine ⟨s, run, asked, idle, waits, fun later t further inLoop => ?_⟩
  exact (accounted.run tidy run).never (tidy.run run) (by decide) further inLoop

end FleetResponse.Worker
