import FleetResponse.Worker.System

/-!
# What a step changes

A step of a worker and its clients is one of a few changes. What holds after every step is proved
change by change, without a look at the steps themselves.
-/

namespace FleetResponse.Worker

namespace Operation

variable {μ ρ : Type}

def message? : Operation μ → Option μ
  | call message => some message
  | send message => some message
  | shutdown => none
  | awaitStop => none

def envelope? (client : Nat) : Operation μ → Option (Envelope μ)
  | call message => some (.request client message)
  | send message => some (.request client message)
  | shutdown => some .shutdown
  | awaitStop => none

def handedIn : Operation μ → Stage ρ
  | call _ => .awaitingReply
  | send _ => .finished .sent
  | shutdown => .awaitingStop
  | awaitStop => .awaitingStop

end Operation

namespace Activity

variable {μ : Type}

def hasClosed : Activity μ → Bool
  | stopping => true
  | parting => true
  | ended => true
  | stopped => true
  | _ => false

def hasLeft : Activity μ → Bool
  | leaving => true
  | activity => activity.hasClosed

end Activity

namespace System

variable {σ μ ρ : Type} {b : Behaviour σ μ ρ} {s t : System σ μ ρ}

/-! ## Frames -/

@[simp]
theorem setStage_frame (s : System σ μ ρ) (i : Nat) (stage : Stage ρ) :
    (s.setStage i stage).content = s.content ∧ (s.setStage i stage).context = s.context ∧
      (s.setStage i stage).activity = s.activity ∧ (s.setStage i stage).mailbox = s.mailbox ∧
      (s.setStage i stage).free = s.free ∧ (s.setStage i stage).line = s.line ∧
      (s.setStage i stage).closing = s.closing ∧ (s.setStage i stage).closed = s.closed ∧
      (s.setStage i stage).handles = s.handles ∧ (s.setStage i stage).trace = s.trace :=
  ⟨rfl, rfl, rfl, rfl, rfl, rfl, rfl, rfl, rfl, rfl⟩

@[simp]
theorem freeSlot_frame (s : System σ μ ρ) :
    s.freeSlot.content = s.content ∧ s.freeSlot.context = s.context ∧
      s.freeSlot.activity = s.activity ∧ s.freeSlot.mailbox = s.mailbox ∧
      s.freeSlot.line = s.line.tail ∧ s.freeSlot.closing = s.closing ∧
      s.freeSlot.closed = s.closed ∧ s.freeSlot.handles = s.handles ∧
      s.freeSlot.trace = s.trace := by
  unfold freeSlot
  cases line : s.line with
  | nil => simp
  | cons i rest => simp

@[simp]
theorem answer_frame (s : System σ μ ρ) (i : Nat) (reply : Option ρ) :
    (s.answer i reply).content = s.content ∧ (s.answer i reply).context = s.context ∧
      (s.answer i reply).activity = s.activity ∧ (s.answer i reply).mailbox = s.mailbox ∧
      (s.answer i reply).free = s.free ∧ (s.answer i reply).line = s.line ∧
      (s.answer i reply).closing = s.closing ∧ (s.answer i reply).closed = s.closed ∧
      (s.answer i reply).handles = s.handles ∧ (s.answer i reply).trace = s.trace := by
  unfold answer
  split
  · split <;> simp
  · simp

theorem discard_same {α : Type} {f : System σ μ ρ → α}
    (answered : ∀ (s : System σ μ ρ) i, f (s.answer i none) = f s)
    (s : System σ μ ρ) (envelopes : List (Envelope μ)) : f (s.discard envelopes) = f s := by
  -- Discarding envelopes only answers requests.
  induction envelopes generalizing s with
  | nil => rfl
  | cons e envelopes ih =>
      cases e with
      | request i m => exact (ih (s.answer i none)).trans (answered s i)
      | shutdown => exact ih s

@[simp]
theorem discard_frame (s : System σ μ ρ) (envelopes : List (Envelope μ)) :
    (s.discard envelopes).content = s.content ∧ (s.discard envelopes).context = s.context ∧
      (s.discard envelopes).activity = s.activity ∧
      (s.discard envelopes).mailbox = s.mailbox ∧ (s.discard envelopes).free = s.free ∧
      (s.discard envelopes).line = s.line ∧ (s.discard envelopes).closing = s.closing ∧
      (s.discard envelopes).closed = s.closed ∧ (s.discard envelopes).handles = s.handles ∧
      (s.discard envelopes).trace = s.trace := by
  induction envelopes generalizing s with
  | nil => simp [discard]
  | cons e envelopes ih =>
      cases e with
      | request i m => simpa [discard] using ih (s.answer i none)
      | shutdown => exact ih s

/-! ## Clients -/

theorem map_modify_same {α β : Type} {f : α → α} {g : α → β} {i : Nat} {as : List α}
    (same : ∀ a, as[i]? = some a → g (f a) = g a) : (as.modify i f).map g = as.map g := by
  induction as generalizing i with
  | nil => simp
  | cons a as ih =>
      cases i with
      | zero => simpa using same a rfl
      | succ i => simpa using ih fun a found => same a (by simpa using found)

def operations (s : System σ μ ρ) : List (Operation μ) :=
  s.clients.map (·.operation)

@[simp]
theorem operations_setStage (s : System σ μ ρ) (i : Nat) (stage : Stage ρ) :
    (s.setStage i stage).operations = s.operations :=
  map_modify_same fun _ _ => rfl

@[simp]
theorem operations_freeSlot (s : System σ μ ρ) : s.freeSlot.operations = s.operations := by
  unfold freeSlot
  split
  · rfl
  · simp only [operations_setStage]
    rfl

@[simp]
theorem operations_answer (s : System σ μ ρ) (i : Nat) (reply : Option ρ) :
    (s.answer i reply).operations = s.operations := by
  unfold answer
  split
  · split <;> simp
  · rfl

@[simp]
theorem operations_discard (s : System σ μ ρ) (envelopes : List (Envelope μ)) :
    (s.discard envelopes).operations = s.operations :=
  discard_same (fun s i => s.operations_answer i none) s envelopes

theorem getElem?_setStage_ne {i j : Nat} (other : i ≠ j) (stage : Stage ρ) :
    (s.setStage i stage).clients[j]? = s.clients[j]? :=
  List.getElem?_modify_ne _ _ other

theorem getElem?_answer_of_ne {i j : Nat} {reply : Option ρ} {c : Client μ ρ}
    (found : s.clients[j]? = some c) (other : c.stage ≠ .awaitingReply) :
    (s.answer i reply).clients[j]? = some c := by
  unfold answer
  split
  · rename_i d there
    split
    · rename_i waits
      rw [getElem?_setStage_ne, found]
      rintro rfl
      rw [found] at there
      cases there
      exact other waits
    · exact found
  · exact found

theorem handleCount_eq (s : System σ μ ρ) :
    s.handleCount = s.handles + (s.clients.map (·.stage.isOpen)).countP (· = true) := by
  simp [handleCount, List.countP_map, Function.comp_def]

@[simp]
theorem handleCount_answer (s : System σ μ ρ) (i : Nat) (reply : Option ρ) :
    (s.answer i reply).handleCount = s.handleCount := by
  have same : (s.answer i reply).clients.map (·.stage.isOpen) =
      s.clients.map (·.stage.isOpen) := by
    unfold answer
    split
    · rename_i c found
      split
      · rename_i waits
        refine map_modify_same fun d there => ?_
        rw [found] at there
        cases there
        simp [waits, Stage.isOpen]
      · rfl
    · rfl
  rw [handleCount_eq, handleCount_eq, same]
  simp

@[simp]
theorem handleCount_discard (s : System σ μ ρ) (envelopes : List (Envelope μ)) :
    (s.discard envelopes).handleCount = s.handleCount :=
  discard_same (fun s i => s.handleCount_answer i none) s envelopes

theorem handleCount_pos {i : Nat} {c : Client μ ρ} (found : s.clients[i]? = some c)
    (under : c.stage.isOpen = true) : s.handleCount ≠ 0 := by
  have counted : 0 < s.clients.countP (·.stage.isOpen) :=
    List.countP_pos_iff.mpr ⟨c, List.mem_of_getElem? found, under⟩
  unfold handleCount
  omega

theorem setStage_client {i j : Nat} {stage : Stage ρ} {c : Client μ ρ}
    (found : (s.setStage i stage).clients[j]? = some c) :
    (i ≠ j ∧ s.clients[j]? = some c) ∨
      ∃ before, i = j ∧ s.clients[j]? = some before ∧ c = ⟨before.operation, stage⟩ := by
  rw [setStage, List.getElem?_modify] at found
  cases before : s.clients[j]? with
  | none => simp [before] at found
  | some d =>
      by_cases same : i = j
      · simp [before, same] at found
        exact .inr ⟨d, same, rfl, found.symm⟩
      · simp [before, same] at found
        exact .inl ⟨same, by rw [found]⟩

theorem answer_client {i j : Nat} {reply : Option ρ} {c : Client μ ρ}
    (found : (s.answer i reply).clients[j]? = some c) :
    (s.clients[j]? = some c ∧ ¬ (i = j ∧ c.stage = .awaitingReply)) ∨
      ∃ before, i = j ∧ s.clients[j]? = some before ∧ before.stage = .awaitingReply ∧
        c = ⟨before.operation, .answered reply⟩ := by
  unfold answer at found
  split at found
  · rename_i d there
    split at found
    · rename_i waits
      obtain ⟨other, was⟩ | ⟨before, rfl, was, rfl⟩ := setStage_client found
      · exact .inl ⟨was, fun both => other both.1⟩
      · have same : before = d := by simpa [was] using there
        exact .inr ⟨before, rfl, was, same ▸ waits, rfl⟩
    · rename_i other
      refine .inl ⟨found, ?_⟩
      rintro ⟨rfl, waits⟩
      rw [found] at there
      cases there
      exact other waits
  · rename_i gone
    refine .inl ⟨found, ?_⟩
    rintro ⟨rfl, -⟩
    rw [found] at gone
    cases gone

theorem freeSlot_client {j : Nat} {c : Client μ ρ}
    (found : s.freeSlot.clients[j]? = some c) :
    (s.clients[j]? = some c ∧ s.line.head? ≠ some j) ∨
      ∃ before, s.line.head? = some j ∧ s.clients[j]? = some before ∧
        c = ⟨before.operation, .granted⟩ := by
  unfold freeSlot at found
  cases line : s.line with
  | nil =>
      rw [line] at found
      exact .inl ⟨found, by simp⟩
  | cons i rest =>
      rw [line] at found
      obtain ⟨other, was⟩ | ⟨before, rfl, was, rfl⟩ := setStage_client found
      · exact .inl ⟨was, by simpa using other⟩
      · exact .inr ⟨before, rfl, was, rfl⟩

theorem getElem?_freeSlot_of_out (s : System σ μ ρ) {i : Nat} (out : i ∉ s.line) :
    s.freeSlot.clients[i]? = s.clients[i]? := by
  unfold freeSlot
  cases line : s.line with
  | nil => rfl
  | cons j rest =>
      have other : j ≠ i := by
        rintro rfl
        exact out (by simp [line])
      exact getElem?_setStage_ne (s := { s with line := rest }) other .granted

theorem getElem?_discard_of_ne {envelopes : List (Envelope μ)} {j : Nat} {c : Client μ ρ}
    (found : s.clients[j]? = some c) (other : c.stage ≠ .awaitingReply) :
    (s.discard envelopes).clients[j]? = some c := by
  induction envelopes generalizing s with
  | nil => exact found
  | cons e envelopes ih =>
      cases e with
      | request i m => exact ih (getElem?_answer_of_ne found other)
      | shutdown => exact ih found

theorem discard_client {envelopes : List (Envelope μ)} {j : Nat} {c : Client μ ρ}
    (found : (s.discard envelopes).clients[j]? = some c) :
    (s.clients[j]? = some c ∧ ∀ m, .request j m ∈ envelopes → c.stage ≠ .awaitingReply) ∨
      ∃ before, s.clients[j]? = some before ∧ before.stage = .awaitingReply ∧
        c = ⟨before.operation, .answered none⟩ := by
  induction envelopes generalizing s with
  | nil => exact .inl ⟨found, by simp⟩
  | cons e envelopes ih =>
      cases e with
      | shutdown =>
          obtain ⟨was, rest⟩ | done := ih found
          · exact .inl ⟨was, fun m posted => rest m (by simpa using posted)⟩
          · exact .inr done
      | request i m =>
          obtain ⟨was, rest⟩ | ⟨before, was, waits, rfl⟩ := ih found
          · obtain ⟨was, spared⟩ | ⟨before, rfl, earlier, waits, rfl⟩ := answer_client was
            · refine .inl ⟨was, fun n posted => ?_⟩
              obtain same | posted := List.mem_cons.mp posted
              · cases same
                exact fun waits => spared ⟨rfl, waits⟩
              · exact rest n posted
            · exact .inr ⟨before, earlier, waits, rfl⟩
          · obtain ⟨earlier, -⟩ | ⟨other, -, -, -, rfl⟩ := answer_client was
            · exact .inr ⟨before, earlier, waits, rfl⟩
            · cases waits

/-! ## Changes -/

def turnsAway (s : System σ μ ρ) : Stage ρ → Bool
  | .fresh => s.closing
  | .admitted => s.closed
  | .waiting => s.closed
  | .granted => s.closed
  | _ => false

inductive Shift (s : System σ μ ρ) : Operation μ → Stage ρ → Stage ρ → Prop
  | admitted {o : Operation μ} {message : μ} (request : o.message? = some message)
      (opening : s.closing = false) : Shift s o .fresh .admitted
  | refused {o : Operation μ} {message : μ} {stage : Stage ρ}
      (request : o.message? = some message) (away : s.turnsAway stage = true) :
      Shift s o stage (.finished (.failed .stopped))
  | resigned {o : Operation μ} {stage : Stage ρ} (request : o.message? = none)
      (away : s.turnsAway stage = true) : Shift s o stage .awaitingStop
  | watching : Shift s .awaitStop .fresh .awaitingStop
  | replied {o : Operation μ} {reply : ρ} :
      Shift s o (.answered (some reply)) (.finished (.replied reply))
  | unanswered {o : Operation μ} : Shift s o (.answered none) (.finished (.failed .stopped))
  | shutDown (ended : s.isStopped = true) :
      Shift s .shutdown .awaitingStop (.finished .shutDown)
  | sawStop {o : Operation μ} (other : o ≠ .shutdown) (ended : s.isStopped = true) :
      Shift s o .awaitingStop (.finished .stopped)
  | abandoned {o : Operation μ} {stage : Stage ρ} (under : stage.isOpen = true)
      (waits : stage ≠ .waiting) (holds : stage ≠ .granted) : Shift s o stage .abandoned

inductive Enters (s : System σ μ ρ) : Stage ρ → Nat → Prop
  | admitted {free : Nat} (slot : s.free = free + 1) : Enters s .admitted free
  | granted : Enters s .granted s.free

theorem Enters.entering {stage : Stage ρ} {free : Nat} (enters : s.Enters stage free) :
    stage = .admitted ∨ stage = .waiting ∨ stage = .granted := by
  cases enters with
  | admitted slot => exact .inl rfl
  | granted => exact .inr (.inr rfl)

inductive ClientChange (s : System σ μ ρ) (i : Nat) (c : Client μ ρ) : System σ μ ρ → Prop
  | shift {stage : Stage ρ} (moves : s.Shift c.operation c.stage stage) :
      ClientChange s i c (s.setStage i stage)
  | asked (asks : c.operation = .shutdown) (new : c.stage = .fresh)
      (opening : s.closing = false) :
      ClientChange s i c ({ s with closing := true }.setStage i .admitted)
  | queued (new : c.stage = .admitted) (opened : s.closed = false) (full : s.free = 0) :
      ClientChange s i c ({ s with line := s.line ++ [i] }.setStage i .waiting)
  | posted {free : Nat} {e : Envelope μ} (enters : s.Enters c.stage free)
      (opened : s.closed = false) (brings : c.operation.envelope? i = some e) :
      ClientChange s i c
        ({ s with free, mailbox := s.mailbox ++ [e] }.setStage i c.operation.handedIn)
  | wasted {free : Nat} (enters : s.Enters c.stage free) (watches : c.operation = .awaitStop) :
      ClientChange s i c { s with free }
  | left (waits : c.stage = .waiting) :
      ClientChange s i c ({ s with line := s.line.erase i }.setStage i .abandoned)
  | yielded (holds : c.stage = .granted) :
      ClientChange s i c (s.setStage i .abandoned).freeSlot

def mover? : Move μ → Option Nat
  | .check i => some i
  | .submit i => some i
  | .push i => some i
  | .collect i => some i
  | .abandon i => some i
  | _ => none

def readied (s : System σ μ ρ) : System σ μ ρ :=
  { s with activity := .idle }.setLifecycle .running

def took (s : System σ μ ρ) (i : Nat) (message : μ) (rest : List (Envelope μ)) :
    System σ μ ρ :=
  let context := { s.context with processed := s.context.processed + 1 }
  { { s with mailbox := rest }.freeSlot with
    context
    activity := .handling i message }.traced [.handling i message context.processed]

def told (s : System σ μ ρ) (rest : List (Envelope μ)) : System σ μ ρ :=
  { { s with mailbox := rest }.freeSlot with activity := .leaving }

inductive Change (b : Behaviour σ μ ρ) (s : System σ μ ρ) : Move μ → System σ μ ρ → Prop
  | client {m : Move μ} {i : Nat} {c : Client μ ρ} {t : System σ μ ρ} (moves : mover? m = some i)
      (found : s.clients[i]? = some c) (change : s.ClientChange i c t) : Change b s m t
  | begun {o : Operation μ} (held : s.handleCount ≠ 0) :
      Change b s (.begin_ o) { s with clients := s.clients ++ [⟨o, .fresh⟩] }
  | cloned (held : s.handleCount ≠ 0) :
      Change b s .cloneHandle { s with handles := s.handles + 1 }
  | dropped (held : s.handles ≠ 0) : Change b s .dropHandle { s with handles := s.handles - 1 }
  | started (at_ : s.activity = .starting) : Change b s .start s.startStep
  | readied (at_ : s.activity = .preparing) (well : b.startFailure = none) :
      Change b s .ready s.readied
  | broke {failure : WorkerError} (at_ : s.activity = .preparing)
      (ill : b.startFailure = some failure) : Change b s .ready { s with activity := .broken }
  | took {i : Nat} {message : μ} {rest : List (Envelope μ)} (at_ : s.activity = .idle)
      (next : s.mailbox = .request i message :: rest) :
      Change b s .take (s.took i message rest)
  | told {rest : List (Envelope μ)} (at_ : s.activity = .idle)
      (next : s.mailbox = .shutdown :: rest) :
      Change b s .take (s.told rest)
  | deserted (at_ : s.activity = .idle) (next : s.mailbox = []) (alone : s.handleCount = 0) :
      Change b s .take { s with activity := .leaving }
  | finished {i : Nat} {message : μ} {turn : Turn σ ρ} (at_ : s.activity = .handling i message)
      (ends : b.handle s.context message s.content = some turn) :
      Change b s .finish (s.finishStep i turn)
  | closed (at_ : s.activity = .leaving) : Change b s .close s.closeStep
  | shut (at_ : s.activity = .broken) : Change b s .close s.shutStep
  | stopping (at_ : s.activity = .stopping) : Change b s .stop s.stopStep
  | parted (at_ : s.activity = .parting) : Change b s .part s.partStep
  | stopped (at_ : s.activity = .ended) : Change b s .signal { s with activity := .stopped }

theorem Shift.isOpen {o : Operation μ} {before after : Stage ρ} (moves : s.Shift o before after) :
    before.isOpen = true := by
  cases moves with
  | refused request away => cases before <;> first | rfl | cases away
  | resigned request away => cases before <;> first | rfl | cases away
  | abandoned under waits holds => exact under
  | _ => rfl

theorem Shift.closed_of_waiting {o : Operation μ} {after : Stage ρ}
    (moves : s.Shift o .waiting after) : s.closed = true := by
  cases moves with
  | refused request away => exact away
  | resigned request away => exact away
  | abandoned under waits holds => exact absurd rfl waits

theorem ClientChange.isOpen {i : Nat} {c : Client μ ρ} (change : s.ClientChange i c t) :
    c.stage.isOpen = true := by
  cases change with
  | shift moves => exact moves.isOpen
  | asked asks new opening => rw [new]; rfl
  | queued new opened full => rw [new]; rfl
  | posted enters opened brings => rcases enters.entering with at_ | at_ | at_ <;> rw [at_] <;> rfl
  | wasted enters watches => rcases enters.entering with at_ | at_ | at_ <;> rw [at_] <;> rfl
  | left waits => rw [waits]; rfl
  | yielded holds => rw [holds]; rfl

theorem ClientChange.frame {i : Nat} {c : Client μ ρ} (change : s.ClientChange i c t) :
    t.content = s.content ∧ t.context = s.context ∧ t.activity = s.activity ∧
      t.closed = s.closed ∧ t.trace = s.trace ∧ s.mailbox <+: t.mailbox := by
  cases change with
  | posted enters opened brings => simp
  | _ => simp

theorem ClientChange.operations_eq {i : Nat} {c : Client μ ρ} (change : s.ClientChange i c t) :
    t.operations = s.operations := by
  cases change with
  | yielded holds => rw [operations_freeSlot, operations_setStage]
  | wasted enters watches => rfl
  | _ => exact operations_setStage _ _ _

/-! ## What the worker's own steps leave -/

@[simp]
theorem took_frame (s : System σ μ ρ) (i : Nat) (message : μ) (rest : List (Envelope μ)) :
    (s.took i message rest).activity = .handling i message ∧
      (s.took i message rest).mailbox = rest ∧ (s.took i message rest).line = s.line.tail ∧
      (s.took i message rest).closing = s.closing ∧ (s.took i message rest).closed = s.closed ∧
      (s.took i message rest).handles = s.handles ∧
      (s.took i message rest).trace =
        s.trace ++ [.handling i message (s.context.processed + 1)] ∧
      (s.took i message rest).operations = s.operations := by
  simp only [took, traced, freeSlot_frame, true_and]
  exact operations_freeSlot { s with mailbox := rest }

@[simp]
theorem told_frame (s : System σ μ ρ) (rest : List (Envelope μ)) :
    (s.told rest).activity = .leaving ∧ (s.told rest).mailbox = rest ∧
      (s.told rest).line = s.line.tail ∧ (s.told rest).closing = s.closing ∧
      (s.told rest).closed = s.closed ∧ (s.told rest).handles = s.handles ∧
      (s.told rest).trace = s.trace ∧ (s.told rest).operations = s.operations := by
  simp only [told, freeSlot_frame, true_and]
  exact operations_freeSlot { s with mailbox := rest }

theorem answer_clients_congr (same : s.clients = t.clients) (i : Nat) (reply : Option ρ) :
    (s.answer i reply).clients = (t.answer i reply).clients := by
  unfold answer
  rw [same]
  split
  · split
    · simp [setStage, same]
    · exact same
  · exact same

theorem finishStep_clients (s : System σ μ ρ) (i : Nat) (turn : Turn σ ρ) :
    (s.finishStep i turn).clients = (s.answer i turn.reply).clients := by
  have same := answer_clients_congr (t := s) (s :=
    ({ s with content := turn.content }.traced (turn.notes.map .noted)).setLifecycle
      turn.lifecycle) rfl i turn.reply
  unfold finishStep
  split <;> exact same

@[simp]
theorem finishStep_frame (s : System σ μ ρ) (i : Nat) (turn : Turn σ ρ) :
    (s.finishStep i turn).activity =
        (if turn.failure.any (·.isPermanent) then .leaving else .idle) ∧
      (s.finishStep i turn).mailbox = s.mailbox ∧ (s.finishStep i turn).line = s.line ∧
      (s.finishStep i turn).closing = s.closing ∧ (s.finishStep i turn).closed = s.closed ∧
      (s.finishStep i turn).handles = s.handles ∧
      (s.finishStep i turn).trace = s.trace ++ turn.notes.map .noted ∧
      (s.finishStep i turn).operations = s.operations := by
  have operations : (s.finishStep i turn).operations = (s.answer i turn.reply).operations := by
    rw [System.operations, finishStep_clients, System.operations]
  rw [operations, operations_answer]
  unfold finishStep
  split <;> simp [traced, setLifecycle]

@[simp]
theorem closeMailbox_frame (s : System σ μ ρ) :
    s.closeMailbox.activity = s.activity ∧ s.closeMailbox.mailbox = [] ∧
      s.closeMailbox.line = [] ∧ s.closeMailbox.closing = s.closing ∧
      s.closeMailbox.closed = true ∧ s.closeMailbox.handles = s.handles ∧
      s.closeMailbox.trace = s.trace ∧ s.closeMailbox.operations = s.operations ∧
      s.closeMailbox.handleCount = s.handleCount := by
  simp only [closeMailbox, discard_frame, operations_discard, handleCount_discard, true_and]
  exact ⟨rfl, rfl⟩

@[simp]
theorem closeStep_frame (s : System σ μ ρ) :
    s.closeStep.activity = .stopping ∧ s.closeStep.mailbox = [] ∧ s.closeStep.line = [] ∧
      s.closeStep.closing = s.closing ∧ s.closeStep.closed = true ∧
      s.closeStep.handles = s.handles ∧ s.closeStep.trace = s.trace ∧
      s.closeStep.operations = s.operations ∧ s.closeStep.handleCount = s.handleCount :=
  ⟨rfl, s.closeMailbox_frame.2⟩

@[simp]
theorem shutStep_frame (s : System σ μ ρ) :
    s.shutStep.activity = .ended ∧ s.shutStep.mailbox = [] ∧ s.shutStep.line = [] ∧
      s.shutStep.closing = s.closing ∧ s.shutStep.closed = true ∧
      s.shutStep.handles = s.handles ∧ s.shutStep.trace = s.trace ∧
      s.shutStep.operations = s.operations ∧ s.shutStep.handleCount = s.handleCount :=
  ⟨rfl, s.closeMailbox_frame.2⟩

def joins : Move μ → List (Operation μ)
  | .begin_ o => [o]
  | _ => []

theorem joins_of_client {m : Move μ} {i : Nat} (moves : mover? m = some i) : joins m = [] := by
  cases m <;> simp [mover?] at moves <;> rfl

theorem Change.operations_eq {m : Move μ} (change : s.Change b m t) :
    t.operations = s.operations ++ joins m := by
  have kept (same : t.operations = s.operations) (none : joins m = []) :
      t.operations = s.operations ++ joins m := by rw [same, none, List.append_nil]
  cases change with
  | client moves found change => exact kept change.operations_eq (joins_of_client moves)
  | begun held => exact List.map_append
  | told at_ next => exact kept (by simp) rfl
  | took at_ next => exact kept (by simp) rfl
  | finished at_ ends => exact kept (by simp) rfl
  | closed at_ => exact kept (by simp) rfl
  | shut at_ => exact kept (by simp) rfl
  | _ => exact kept rfl rfl

theorem Change.operations {m : Move μ} (change : s.Change b m t) :
    s.operations <+: t.operations :=
  ⟨_, change.operations_eq.symm⟩

theorem clientChange_of_refuse {i : Nat} {c : Client μ ρ} (away : s.turnsAway c.stage = true) :
    s.ClientChange i c (s.refuse i c.operation) := by
  cases doing : c.operation with
  | call m => exact .shift (.refused (by rw [doing]; rfl) away)
  | send m => exact .shift (.refused (by rw [doing]; rfl) away)
  | shutdown => exact .shift (.resigned (by rw [doing]; rfl) away)
  | awaitStop => exact .shift (.resigned (by rw [doing]; rfl) away)

theorem clientChange_of_check {i : Nat} {c : Client μ ρ} (new : c.stage = .fresh) :
    s.ClientChange i c (s.checkStep i c.operation) := by
  by_cases closing : s.closing = true
  · have away : s.turnsAway c.stage = true := by rw [new]; exact closing
    have refused := clientChange_of_refuse (i := i) away
    cases doing : c.operation with
    | call m => simpa [checkStep, closing, doing] using refused
    | send m => simpa [checkStep, closing, doing] using refused
    | shutdown => simpa [checkStep, closing, doing] using refused
    | awaitStop => simpa [checkStep, refuse, closing, doing] using refused
  · have opening : s.closing = false := by simpa using closing
    cases doing : c.operation with
    | call m =>
        simp only [checkStep, opening]
        exact .shift (by rw [new, doing]; exact .admitted rfl opening)
    | send m =>
        simp only [checkStep, opening]
        exact .shift (by rw [new, doing]; exact .admitted rfl opening)
    | shutdown =>
        simp only [checkStep, opening]
        exact .asked doing new opening
    | awaitStop => exact .shift (by rw [new, doing]; exact .watching)

theorem clientChange_of_enqueue {i free : Nat} {c : Client μ ρ} (enters : s.Enters c.stage free)
    (opened : s.closed = false) :
    s.ClientChange i c ({ s with free }.enqueue i c.operation) := by
  cases doing : c.operation with
  | call m =>
      simpa [doing, enqueue, mail, Operation.handedIn] using
        ClientChange.posted (i := i) enters opened (by rw [doing]; rfl)
  | send m =>
      simpa [doing, enqueue, mail, Operation.handedIn] using
        ClientChange.posted (i := i) enters opened (by rw [doing]; rfl)
  | shutdown =>
      simpa [doing, enqueue, mail, Operation.handedIn] using
        ClientChange.posted (i := i) enters opened (by rw [doing]; rfl)
  | awaitStop => exact .wasted enters doing

theorem clientChange_of_submit {i : Nat} {c : Client μ ρ} (new : c.stage = .admitted) :
    s.ClientChange i c (s.submitStep i c.operation) := by
  unfold submitStep
  split
  · rename_i closed
    exact clientChange_of_refuse (by rw [new]; exact closed)
  · rename_i opened
    have opened : s.closed = false := by simpa using opened
    split
    · rename_i slot
      exact clientChange_of_enqueue (new ▸ .admitted (by omega)) opened
    · rename_i full
      exact .queued new opened (by omega)

theorem clientChange_of_collect {i : Nat} {c : Client μ ρ} (going : s.collectStep? i c = some t) :
    s.ClientChange i c t := by
  unfold collectStep? at going
  split at going
  · rename_i reply at_
    cases going
    exact .shift (by rw [at_]; exact .replied)
  · rename_i at_
    cases going
    exact .shift (by rw [at_]; exact .unanswered)
  · rename_i at_ asks
    split at going
    · rename_i ended
      cases going
      exact .shift (by rw [at_, asks]; exact .shutDown ended)
    · cases going
  · rename_i at_ other
    split at going
    · rename_i ended
      cases going
      exact .shift (by rw [at_]; exact .sawStop other ended)
    · cases going
  · cases going

theorem clientChange_of_abandon {i : Nat} {c : Client μ ρ} (going : s.abandonStep? i c = some t) :
    s.ClientChange i c t := by
  unfold abandonStep? at going
  cases at_ : c.stage with
  | finished result => simp [at_] at going
  | abandoned => simp [at_] at going
  | waiting =>
      simp only [at_, Option.some.injEq] at going
      exact going ▸ .left at_
  | granted =>
      simp only [at_, Option.some.injEq] at going
      exact going ▸ .yielded at_
  | _ =>
      simp only [at_, Option.some.injEq] at going
      exact going ▸ .shift (by rw [at_]; exact .abandoned rfl nofun nofun)

theorem change_of_client {m : Move μ} {i : Nat} {step : Client μ ρ → Option (System σ μ ρ)}
    (moves : mover? m = some i) (going : (s.clients[i]?.bind step) = some t)
    (changes : ∀ c, step c = some t → s.ClientChange i c t) : s.Change b m t := by
  obtain ⟨c, found, stepped⟩ := Option.bind_eq_some_iff.mp going
  exact .client moves found (changes c stepped)

theorem change_of_take (at_ : s.activity = .idle) (going : s.takeStep? = some t) :
    s.Change b .take t := by
  unfold takeStep? at going
  split at going
  · rename_i i m rest next
    cases going
    exact .took at_ next
  · rename_i rest next
    cases going
    exact .told at_ next
  · rename_i next
    split at going
    · rename_i alone
      cases going
      exact .deserted at_ next alone
    · cases going

theorem change_of_step {m : Move μ} (going : s.step b m = some t) : s.Change b m t := by
  cases m with
  | begin_ o =>
      simp only [step] at going
      split at going
      · cases going
      · rename_i held
        cases going
        exact .begun held
  | check i =>
      refine change_of_client rfl going fun c going => ?_
      split at going
      · rename_i new
        cases going
        exact clientChange_of_check new
      · cases going
  | submit i =>
      refine change_of_client rfl going fun c going => ?_
      split at going
      · rename_i new
        cases going
        exact clientChange_of_submit new
      · cases going
  | push i =>
      refine change_of_client rfl going fun c going => ?_
      split at going
      · rename_i holds
        split at going
        · rename_i closed
          cases going
          exact clientChange_of_refuse (by rw [holds]; exact closed)
        · rename_i opened
          cases going
          exact clientChange_of_enqueue (holds ▸ .granted) (by simpa using opened)
      · rename_i waits
        split at going
        · rename_i closed
          cases going
          exact clientChange_of_refuse (by rw [waits]; exact closed)
        · cases going
      · cases going
  | collect i => exact change_of_client rfl going fun c going => clientChange_of_collect going
  | abandon i => exact change_of_client rfl going fun c going => clientChange_of_abandon going
  | cloneHandle =>
      simp only [step] at going
      split at going
      · cases going
      · rename_i held
        cases going
        exact .cloned held
  | dropHandle =>
      simp only [step] at going
      split at going
      · cases going
      · rename_i held
        cases going
        exact .dropped held
  | start =>
      simp only [step] at going
      split at going
      · rename_i at_
        cases going
        exact .started at_
      · cases going
  | ready =>
      simp only [step] at going
      split at going
      · rename_i at_
        cases going
        unfold readyStep
        split
        · rename_i well
          exact .readied at_ well
        · rename_i failure ill
          exact .broke at_ ill
      · cases going
  | take =>
      simp only [step] at going
      split at going
      · rename_i at_
        exact change_of_take at_ going
      · cases going
  | finish =>
      simp only [step] at going
      split at going
      · rename_i i message at_
        obtain ⟨turn, ends, rfl⟩ := Option.map_eq_some_iff.mp going
        exact .finished at_ ends
      · cases going
  | close =>
      simp only [step] at going
      split at going
      · rename_i at_
        cases going
        exact .closed at_
      · rename_i at_
        cases going
        exact .shut at_
      · cases going
  | stop =>
      simp only [step] at going
      split at going
      · rename_i at_
        cases going
        exact .stopping at_
      · cases going
  | part =>
      simp only [step] at going
      split at going
      · rename_i at_
        cases going
        exact .parted at_
      · cases going
  | signal =>
      simp only [step] at going
      split at going
      · rename_i at_
        cases going
        exact .stopped at_
      · cases going

theorem steps_invariant {P : System σ μ ρ → Prop}
    (keeps : ∀ {s t : System σ μ ρ} {m : Move μ}, P s → s.step b m = some t → P t)
    {moves : List (Move μ)} (holds : P s) (run : s.steps b moves = some t) : P t := by
  induction moves generalizing s with
  | nil =>
      cases run
      exact holds
  | cons m moves ih =>
      obtain ⟨next, stepped, run⟩ := Option.bind_eq_some_iff.mp run
      exact ih (keeps holds stepped) run

end System

end FleetResponse.Worker
