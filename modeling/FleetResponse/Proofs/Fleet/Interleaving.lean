import FleetResponse.Proofs.Fleet.Capabilities
import FleetResponse.Response.Interleaving

namespace FleetResponse

def callsOf (i : Nat) (trace : List (Nat × AnsweredCall)) : List AnsweredCall :=
  (trace.filter fun entry => entry.1 = i).map (·.2)

theorem callsOf_append (i : Nat) (first second : List (Nat × AnsweredCall)) :
    callsOf i (first ++ second) = callsOf i first ++ callsOf i second := by
  rw [callsOf, List.filter_append, List.map_append, callsOf, callsOf]

theorem callsOf_own (i : Nat) (made : List AnsweredCall) :
    callsOf i (made.map (Prod.mk i)) = made := by
  have own : (made.map (Prod.mk i)).filter (fun entry => entry.1 = i) = made.map (Prod.mk i) :=
    List.filter_eq_self.mpr fun entry member => by
      obtain ⟨call, -, rfl⟩ := List.mem_map.mp member
      exact decide_eq_true rfl
  rw [callsOf, own, List.map_map]
  exact List.map_id made

theorem callsOf_other {i j : Nat} (differ : i ≠ j) (made : List AnsweredCall) :
    callsOf j (made.map (Prod.mk i)) = [] := by
  simp [callsOf, differ]

theorem mem_of_mem_callsOf {i : Nat} {trace : List (Nat × AnsweredCall)} {call : AnsweredCall}
    (h : call ∈ callsOf i trace) : call ∈ trace.map (·.2) := by
  obtain ⟨entry, listed, rfl⟩ := List.mem_map.mp h
  exact List.mem_map_of_mem (List.mem_filter.mp listed).1

theorem perm_filter_range {β : Type} {trace : List (Nat × β)} {n : Nat}
    (owned : ∀ entry ∈ trace, entry.1 < n) :
    trace.Perm ((List.range n).flatMap fun i => trace.filter fun entry => entry.1 = i) := by
  induction n generalizing trace with
  | zero =>
      have none : trace = [] :=
        List.eq_nil_iff_forall_not_mem.mpr fun entry member =>
          Nat.not_lt_zero _ (owned entry member)
      subst none
      exact .nil
  | succ n ih =>
      have early : ∀ entry ∈ trace.filter (fun entry => !decide (entry.1 = n)), entry.1 < n := by
        intro entry member
        obtain ⟨listed, other⟩ := List.mem_filter.mp member
        have bound := owned entry listed
        have differ : entry.1 ≠ n := by simpa using other
        omega
      have parts : (List.range n).flatMap (fun i =>
          (trace.filter fun entry => !decide (entry.1 = n)).filter fun entry => entry.1 = i) =
          (List.range n).flatMap fun i => trace.filter fun entry => entry.1 = i := by
        refine List.flatMap_congr fun i member => ?_
        have before : i < n := List.mem_range.mp member
        rw [List.filter_filter]
        refine List.filter_congr fun entry _ => ?_
        by_cases same : entry.1 = i
        · simp [same, Nat.ne_of_lt before]
        · simp [same]
      rw [List.range_succ, List.flatMap_append, List.flatMap_singleton, ← parts]
      exact (List.filter_append_perm (fun entry => decide (entry.1 = n)) trace).symm.trans
        (List.perm_append_comm.trans ((ih early).append_right _))

theorem perm_callsOf {trace : List (Nat × AnsweredCall)} {n : Nat}
    (owned : ∀ entry ∈ trace, entry.1 < n) :
    (trace.map (·.2)).Perm ((List.range n).flatMap fun i => callsOf i trace) := by
  have whole := (perm_filter_range owned).map (·.2)
  rwa [List.map_flatMap] at whole

namespace Interleaving

variable {α σ : Type} {offered : Call → Prop} {faulty : Prop} {before middle after : Contents}
  {programs running finished : List (Program α)} {schedule later : List Nat}
  {trace more : List (Nat × AnsweredCall)}

structure Traced (offered : Call → Prop) (faulty : Prop) (before : Contents)
    (programs : List (Program α)) (schedule : List Nat) (trace : List (Nat × AnsweredCall))
    (after : Contents) (finished : List (Program α)) : Prop where
  replays : before.Replays offered faulty (trace.map (·.2)) after
  owned : ∀ entry ∈ trace, entry.1 < programs.length
  length : finished.length = programs.length
  ends : ∀ (i : Nat) (last : Program α), finished[i]? = some last →
    ∃ first, programs[i]? = some first ∧
      (∀ {rest : List AnsweredCall} {result : α}, last.Ends rest result →
        first.Ends (callsOf i trace ++ rest) result) ∧
      (last.result? = none →
        first.result? = none ∧ (callsOf i trace).length = schedule.count i)

theorem Traced.refl (contents : Contents) (programs : List (Program α)) :
    Traced offered faulty contents programs [] [] contents programs where
  replays := .nil contents
  owned := by simp
  length := rfl
  ends i last located := ⟨last, located, id, fun unfinished => ⟨unfinished, rfl⟩⟩

theorem Traced.trans (h : Traced offered faulty before programs schedule trace middle running)
    (rest : Traced offered faulty middle running later more after finished) :
    Traced offered faulty before programs (schedule ++ later) (trace ++ more) after finished where
  replays := by
    rw [List.map_append]
    exact h.replays.append rest.replays
  owned entry member := by
    rcases List.mem_append.mp member with early | late
    · exact h.owned entry early
    · exact h.length ▸ rest.owned entry late
  length := rest.length.trans h.length
  ends i last located := by
    obtain ⟨between, there, late_ends, late_count⟩ := rest.ends i last located
    obtain ⟨first, here, early_ends, early_count⟩ := h.ends i between there
    refine ⟨first, here, fun end_of_last => ?_, fun unfinished => ?_⟩
    · rw [callsOf_append, List.append_assoc]
      exact early_ends (late_ends end_of_last)
    · obtain ⟨open_between, late⟩ := late_count unfinished
      obtain ⟨open_first, early⟩ := early_count open_between
      rw [callsOf_append, List.length_append, List.count_append, early, late]
      exact ⟨open_first, rfl⟩

variable {caps : Capabilities σ} {view : σ → Fleet}

theorem turn_traced (h : Serves caps view faulty) (i : Nat) (programs : List (Program α)) (s : σ) :
    (view (turn caps i programs s).2).Offers = (view s).Offers ∧
      ∃ trace, Traced (view s).Offers faulty (view s).contents programs [i] trace
        (view (turn caps i programs s).2).contents (turn caps i programs s).1 := by
  unfold turn
  cases located : programs[i]? with
  | none =>
      refine ⟨rfl, [], .nil _, by simp, rfl, fun j last there => ⟨last, there, id, ?_⟩⟩
      intro unfinished
      have differ : i ≠ j := by
        rintro rfl
        rw [located] at there
        cases there
      exact ⟨unfinished, (List.count_eq_zero.mpr (by simpa using differ.symm)).symm⟩
  | some program =>
      obtain ⟨made, replays, offers, ends, unfinished⟩ := h.step program s
      refine ⟨offers, made.map (Prod.mk i), ?_, ?_, List.length_set .., ?_⟩
      · simpa [Function.comp_def] using replays
      · intro entry member
        obtain ⟨call, -, rfl⟩ := List.mem_map.mp member
        exact (List.getElem?_eq_some_iff.mp located).1
      · intro j last there
        by_cases same : i = j
        · subst same
          rw [List.getElem?_set_self (List.getElem?_eq_some_iff.mp located).1] at there
          obtain rfl := Option.some.inj there
          rw [callsOf_own]
          refine ⟨program, located, ends, fun open_last => ?_⟩
          obtain ⟨open_first, one⟩ := unfinished open_last
          exact ⟨open_first, by rw [one, List.count_singleton_self]⟩
        · rw [List.getElem?_set_ne same] at there
          rw [callsOf_other same]
          refine ⟨last, there, id, fun open_last => ⟨open_last, ?_⟩⟩
          exact (List.count_eq_zero.mpr (by simpa using Ne.symm same)).symm

theorem run_traced (h : Serves caps view faulty) (schedule : List Nat)
    (programs : List (Program α)) (s : σ) :
    ∃ trace, Traced (view s).Offers faulty (view s).contents programs schedule trace
      (view (run caps schedule programs s).2).contents (run caps schedule programs s).1 := by
  induction schedule generalizing programs s with
  | nil => exact ⟨[], .refl _ _⟩
  | cons i schedule ih =>
      obtain ⟨same, first, here⟩ := turn_traced h i programs s
      obtain ⟨rest, later⟩ := ih (turn caps i programs s).1 (turn caps i programs s).2
      rw [same] at later
      exact ⟨first ++ rest, here.trans later⟩

end Interleaving

end FleetResponse
