import FleetResponse.Proofs.Worker.Change

namespace FleetResponse.Worker.System

variable {σ μ ρ : Type} {b : Behaviour σ μ ρ} {s t : System σ μ ρ}

def Waiting (s : System σ μ ρ) (i : Nat) : Prop :=
  ∃ c, s.clients[i]? = some c ∧ c.stage = .waiting

theorem Waiting.stage {i : Nat} {c : Client μ ρ} (waiting : s.Waiting i)
    (found : s.clients[i]? = some c) : c.stage = .waiting := by
  obtain ⟨d, there, waits⟩ := waiting
  rw [found] at there
  cases there
  exact waits

theorem Waiting.setStage {i j : Nat} (waiting : s.Waiting j) (other : i ≠ j) (stage : Stage ρ) :
    (s.setStage i stage).Waiting j := by
  obtain ⟨d, there, waits⟩ := waiting
  exact ⟨d, by rw [getElem?_setStage_ne other, there], waits⟩

theorem Waiting.answer {j : Nat} (waiting : s.Waiting j) (i : Nat) (reply : Option ρ) :
    (s.answer i reply).Waiting j := by
  obtain ⟨d, there, waits⟩ := waiting
  exact ⟨d, getElem?_answer_of_ne there (by simp [waits]), waits⟩

structure Tidy (s : System σ μ ρ) : Prop where
  closed_eq : s.closed = s.activity.hasClosed
  cleared : s.closed = true → s.mailbox = [] ∧ s.line = []
  waits : ∀ i ∈ s.line, s.Waiting i
  distinct : s.line.Nodup

theorem spawn_tidy (identity : String) (size : Nat) (content : σ) :
    (spawn identity size content : System σ μ ρ).Tidy where
  closed_eq := rfl
  cleared := by simp [spawn]
  waits := by simp [spawn]
  distinct := by simp [spawn]

theorem Tidy.of_opened (opened : s.closed = false) (running : s.activity.hasClosed = false)
    (waits : ∀ i ∈ s.line, s.Waiting i) (distinct : s.line.Nodup) : s.Tidy where
  closed_eq := opened.trans running.symm
  cleared := by simp [opened]
  waits := waits
  distinct := distinct

theorem Tidy.out {i : Nat} {c : Client μ ρ} (tidy : s.Tidy) (found : s.clients[i]? = some c)
    (other : c.stage ≠ .waiting) : i ∉ s.line :=
  fun lined => other ((tidy.waits i lined).stage found)

theorem Tidy.setStage {i : Nat} (tidy : s.Tidy) (out : i ∉ s.line) (stage : Stage ρ) :
    (s.setStage i stage).Tidy where
  closed_eq := tidy.closed_eq
  cleared := tidy.cleared
  waits j lined := by
    have other : i ≠ j := fun same => out (same ▸ lined)
    exact (tidy.waits j lined).setStage other stage
  distinct := tidy.distinct

theorem Tidy.freeSlot (tidy : s.Tidy) : s.freeSlot.Tidy where
  closed_eq := by simpa using tidy.closed_eq
  cleared closed := by
    have cleared := tidy.cleared (by simpa using closed)
    simp [cleared]
  waits j lined := by
    unfold System.freeSlot at lined ⊢
    cases line : s.line with
    | nil => simp [line] at lined
    | cons i rest =>
        simp only [line, setStage_frame] at lined
        have distinct := List.nodup_cons.mp (line ▸ tidy.distinct)
        have waiting := tidy.waits j (by rw [line]; exact List.mem_cons_of_mem i lined)
        have other : i ≠ j := fun same => distinct.1 (same ▸ lined)
        exact Waiting.setStage (s := { s with line := rest }) waiting other .granted
  distinct := by
    rw [s.freeSlot_frame.2.2.2.2.1]
    exact tidy.distinct.tail

theorem Tidy.remail (tidy : s.Tidy) (opened : s.closed = false) (mailbox : List (Envelope μ)) :
    { s with mailbox }.Tidy where
  closed_eq := tidy.closed_eq
  cleared closed := by simp [opened] at closed
  waits := tidy.waits
  distinct := tidy.distinct

theorem Tidy.client {i : Nat} {c : Client μ ρ} (tidy : s.Tidy) (found : s.clients[i]? = some c)
    (change : s.ClientChange i c t) : t.Tidy := by
  cases change with
  | shift moves =>
      refine tidy.setStage (fun lined => ?_) _
      have waits := (tidy.waits i lined).stage found
      have closed := (waits ▸ moves).closed_of_waiting
      rw [(tidy.cleared closed).2] at lined
      cases lined
  | asked asks new opening =>
      have out := tidy.out found (by simp [new])
      have asked : { s with closing := true }.Tidy :=
        ⟨tidy.closed_eq, tidy.cleared, tidy.waits, tidy.distinct⟩
      exact asked.setStage out .admitted
  | queued new opened full =>
      have out := tidy.out found (by simp [new])
      refine ⟨tidy.closed_eq, by simp [opened], fun j lined => ?_, ?_⟩
      · obtain lined | same := List.mem_append.mp lined
        · have other : i ≠ j := fun same => out (same ▸ lined)
          have waits := tidy.waits j lined
          exact Waiting.setStage (s := { s with line := s.line ++ [i] }) waits other _
        · cases List.mem_singleton.mp same
          exact ⟨⟨c.operation, .waiting⟩, by simp [System.setStage, found], rfl⟩
      · exact List.nodup_append.mpr ⟨tidy.distinct, by simp, by
          rintro j lined k same rfl
          exact out (List.mem_singleton.mp same ▸ lined)⟩
  | @posted free e enters opened brings =>
      have out := tidy.out found (by rintro waits; rw [waits] at enters; cases enters)
      have posted := tidy.remail opened (s.mailbox ++ [e])
      exact Tidy.setStage (s := { s with free, mailbox := s.mailbox ++ [e] })
        ⟨posted.closed_eq, posted.cleared, posted.waits, posted.distinct⟩ out _
  | wasted enters watches => exact ⟨tidy.closed_eq, tidy.cleared, tidy.waits, tidy.distinct⟩
  | left waits =>
      have gone : { s with line := s.line.erase i }.Tidy := by
        refine ⟨tidy.closed_eq, fun closed => ?_, fun j lined => ?_, tidy.distinct.erase i⟩
        · obtain ⟨mailbox, line⟩ := tidy.cleared closed
          exact ⟨mailbox, by simp [line]⟩
        · exact tidy.waits j (List.mem_of_mem_erase lined)
      exact gone.setStage (tidy.distinct.not_mem_erase) .abandoned
  | yielded holds => exact (tidy.setStage (tidy.out found (by simp [holds])) .abandoned).freeSlot

theorem Tidy.step {m : Move μ} (tidy : s.Tidy) (change : s.Change b m t) : t.Tidy := by
  cases change with
  | client moves found change => exact tidy.client found change
  | begun held =>
      refine ⟨tidy.closed_eq, tidy.cleared, fun j lined => ?_, tidy.distinct⟩
      obtain ⟨d, there, waits⟩ := tidy.waits j lined
      obtain ⟨inside, -⟩ := List.getElem?_eq_some_iff.mp there
      exact ⟨d, (List.getElem?_append_left inside).trans there, waits⟩
  | cloned held | dropped held => exact ⟨tidy.closed_eq, tidy.cleared, tidy.waits, tidy.distinct⟩
  | started at_ | readied at_ | broke at_ | deserted at_ =>
      exact .of_opened (tidy.closed_eq.trans (at_ ▸ rfl)) rfl tidy.waits tidy.distinct
  | @took i message rest at_ next =>
      have opened : s.closed = false := tidy.closed_eq.trans (at_ ▸ rfl)
      have taken := (tidy.remail opened rest).freeSlot
      exact .of_opened (by simpa using opened) (by simp; rfl) taken.waits taken.distinct
  | @told rest at_ next =>
      have opened : s.closed = false := tidy.closed_eq.trans (at_ ▸ rfl)
      have taken := (tidy.remail opened rest).freeSlot
      exact .of_opened (by simpa using opened) (by simp; rfl) taken.waits taken.distinct
  | @finished i message turn at_ ends =>
      have opened : s.closed = false := tidy.closed_eq.trans (at_ ▸ rfl)
      refine .of_opened (by simpa using opened) ?_ (fun j lined => ?_)
        (by simpa using tidy.distinct)
      · rw [(s.finishStep_frame i turn).1]
        split <;> rfl
      · have waiting := (tidy.waits j (by simpa using lined)).answer i turn.reply
        unfold Waiting at waiting ⊢
        rwa [finishStep_clients]
  | closed at_ | shut at_ => exact ⟨by simp; rfl, by simp, by simp, by simp⟩
  | stopping at_ | parted at_ | stopped at_ =>
      exact ⟨tidy.closed_eq.trans (at_ ▸ rfl), tidy.cleared, tidy.waits, tidy.distinct⟩

theorem Tidy.run {moves : List (Move μ)} (tidy : s.Tidy) (run : s.steps b moves = some t) :
    t.Tidy :=
  steps_invariant (fun tidy stepped => tidy.step (change_of_step stepped)) tidy run

end FleetResponse.Worker.System
