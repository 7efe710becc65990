import FleetResponse.Response.Error
import FleetResponse.Response.Trial

namespace FleetResponse

structure AnsweredCall where
  request : Call
  answer : request.Answer

namespace AnsweredCall

def fault? (suspended : List DeviceId) : AnsweredCall → Option ResponseError
  | ⟨.query _, .error source⟩ => some (.queryDevices source)
  | ⟨.setStatus id _, .error source⟩ => some (.suspendDevice id suspended source)
  | ⟨.quarantine _ _ _, .error source⟩ => some (.quarantineReadings source)
  | ⟨.notify _, .error source⟩ => some (.notifyOwners source)
  | _ => none

def failed (call : AnsweredCall) : Bool :=
  (call.fault? []).isSome

end AnsweredCall

/-- Calls made in the order of a plan. The first that fails is the last one made. -/
def Follows : List Call → List AnsweredCall → Prop
  | [], made => made = []
  | _ :: _, [] => False
  | request :: plan, call :: made =>
      call.request = request ∧ if call.failed then made = [] else Follows plan made

theorem Follows.append {plan rest : List Call} {made more : List AnsweredCall}
    (h : Follows plan made) (succeeded : ∀ call ∈ made, call.failed = false)
    (more_follows : Follows rest more) : Follows (plan ++ rest) (made ++ more) := by
  induction plan generalizing made with
  | nil =>
      obtain rfl : made = [] := h
      exact more_follows
  | cons request plan ih =>
      cases made with
      | nil => exact h.elim
      | cons call made =>
          have first := succeeded call (List.mem_cons_self ..)
          simp only [Follows, first, List.cons_append] at h ⊢
          refine ⟨h.1, ih h.2 fun call member => succeeded call ?_⟩
          exact List.mem_cons_of_mem _ member

theorem Follows.cut {plan : List Call} {made : List AnsweredCall} (h : Follows plan made) :
    made.map (·.request) <+: plan := by
  induction plan generalizing made with
  | nil =>
      obtain rfl : made = [] := h
      exact List.nil_prefix
  | cons request plan ih =>
      cases made with
      | nil => exact h.elim
      | cons call made =>
          obtain ⟨rfl, rest⟩ := h
          rw [List.map_cons, List.cons_prefix_cons]
          refine ⟨rfl, ?_⟩
          split at rest
          · subst rest
            exact List.nil_prefix
          · exact ih rest

theorem Follows.complete {plan : List Call} {made : List AnsweredCall} (h : Follows plan made)
    (succeeded : ∀ call ∈ made, call.failed = false) : made.map (·.request) = plan := by
  induction plan generalizing made with
  | nil =>
      obtain rfl : made = [] := h
      rfl
  | cons request plan ih =>
      cases made with
      | nil => exact h.elim
      | cons call made =>
          obtain ⟨first, later⟩ := List.forall_mem_cons.mp succeeded
          simp only [Follows, first] at h
          rw [List.map_cons, h.1, ih h.2 later]

namespace Program

variable {α β σ : Type}

def calls (caps : Capabilities σ) : Program α → σ → List AnsweredCall
  | done _, _ => []
  | call request next, s =>
      let (answer, s) := caps.answer request s
      ⟨request, answer⟩ :: (next answer).calls caps s
  | note event next, s => next.calls caps (caps.log event s)

@[simp]
theorem run_done (caps : Capabilities σ) (result : α) (s : σ) :
    (done result).run caps s = (result, s) := rfl

@[simp]
theorem run_call (caps : Capabilities σ) (request : Call) (next : request.Answer → Program α)
    (s : σ) : (call request next).run caps s =
      (next (caps.answer request s).1).run caps (caps.answer request s).2 := rfl

@[simp]
theorem run_note (caps : Capabilities σ) (event : LogEvent) (next : Program α) (s : σ) :
    (note event next).run caps s = next.run caps (caps.log event s) := rfl

@[simp]
theorem calls_done (caps : Capabilities σ) (result : α) (s : σ) :
    (done result).calls caps s = [] := rfl

@[simp]
theorem calls_call (caps : Capabilities σ) (request : Call) (next : request.Answer → Program α)
    (s : σ) : (call request next).calls caps s =
      ⟨request, (caps.answer request s).1⟩ ::
        (next (caps.answer request s).1).calls caps (caps.answer request s).2 := rfl

@[simp]
theorem calls_note (caps : Capabilities σ) (event : LogEvent) (next : Program α) (s : σ) :
    (note event next).calls caps s = next.calls caps (caps.log event s) := rfl

theorem run_bind (caps : Capabilities σ) (p : Program α) (f : α → Program β) (s : σ) :
    (p.bind f).run caps s = (f (p.run caps s).1).run caps (p.run caps s).2 := by
  induction p generalizing s with
  | done result => rfl
  | call request next ih => exact ih _ _
  | note event next ih => exact ih _

theorem calls_bind (caps : Capabilities σ) (p : Program α) (f : α → Program β) (s : σ) :
    (p.bind f).calls caps s =
      p.calls caps s ++ (f (p.run caps s).1).calls caps (p.run caps s).2 := by
  induction p generalizing s with
  | done result => rfl
  | call request next ih => exact congrArg (List.cons _) (ih _ _)
  | note event next ih => exact ih _

inductive Ends : Program α → List AnsweredCall → α → Prop
  | done (result : α) : Ends (done result) [] result
  | call {request : Call} {next : request.Answer → Program α} {answer : request.Answer}
      {made : List AnsweredCall} {result : α} (rest : Ends (next answer) made result) :
      Ends (call request next) (⟨request, answer⟩ :: made) result
  | note {event : LogEvent} {next : Program α} {made : List AnsweredCall} {result : α}
      (rest : Ends next made result) : Ends (note event next) made result

theorem ends_run (caps : Capabilities σ) (p : Program α) (s : σ) :
    p.Ends (p.calls caps s) (p.run caps s).1 := by
  induction p generalizing s with
  | done result => exact .done result
  | call request next ih => exact .call (ih _ _)
  | note event next ih => exact .note (ih _)

theorem ends_of_result? {p : Program α} {result : α} (h : p.result? = some result) :
    p.Ends [] result := by
  induction p with
  | done value =>
      obtain rfl := Option.some.inj h
      exact .done value
  | call request next ih => cases h
  | note event next ih => exact .note (ih h)

theorem Ends.of_done {value result : α} {made : List AnsweredCall}
    (h : (Program.done value).Ends made result) : made = [] ∧ result = value := by
  cases h
  exact ⟨rfl, rfl⟩

theorem Ends.of_call {request : Call} {next : request.Answer → Program α}
    {made : List AnsweredCall} {result : α} (h : (Program.call request next).Ends made result) :
    ∃ answer rest, made = ⟨request, answer⟩ :: rest ∧ (next answer).Ends rest result := by
  cases h with
  | call rest => exact ⟨_, _, rfl, rest⟩

theorem Ends.of_note {event : LogEvent} {next : Program α} {made : List AnsweredCall} {result : α}
    (h : (Program.note event next).Ends made result) : next.Ends made result := by
  cases h with
  | note rest => exact rest

theorem Ends.of_bind {p : Program α} {f : α → Program β} {made : List AnsweredCall} {result : β}
    (h : (p.bind f).Ends made result) : ∃ first last middle, made = first ++ last ∧
      p.Ends first middle ∧ (f middle).Ends last result := by
  induction p generalizing made with
  | done middle => exact ⟨[], made, middle, rfl, .done middle, h⟩
  | call request next ih =>
      obtain ⟨answer, made, rfl, rest⟩ := Ends.of_call h
      obtain ⟨first, last, middle, rfl, early, late⟩ := ih answer rest
      exact ⟨_ :: first, last, middle, rfl, .call early, late⟩
  | note event next ih =>
      obtain ⟨first, last, middle, rfl, early, late⟩ := ih (Ends.of_note h)
      exact ⟨first, last, middle, rfl, .note early, late⟩

end Program

end FleetResponse
