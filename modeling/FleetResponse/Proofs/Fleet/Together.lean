import Mathlib.Algebra.BigOperators.Group.List.Basic
import FleetResponse.Proofs.Fleet.Interleaving

namespace FleetResponse

namespace Incident

def concernedIn (incident : Incident) (dir : Directory) : List Device :=
  dir.devices.filter incident.concerns

def reachesIn (incident : Incident) (dir : Directory) (r : Reading) : Bool :=
  incident.reaches ((incident.concernedIn dir).map (·.id)) r

end Incident

def taggedSweeps (trace : List (Nat × AnsweredCall)) : List (Nat × Sweep × Nat) :=
  trace.flatMap fun entry => entry.2.sweeps.map (Prod.mk entry.1)

/-- The position of the program that sets a reading aside: the one whose sweep is the first to
affect it. -/
def sweptBy (trace : List (Nat × AnsweredCall)) (r : Reading) : Option Nat :=
  ((taggedSweeps trace).find? fun entry => entry.2.1.affects r).map (·.1)

theorem taggedSweeps_all (trace : List (Nat × AnsweredCall)) :
    (taggedSweeps trace).map (·.2) = (trace.map (·.2)).flatMap (·.sweeps) := by
  induction trace with
  | nil => rfl
  | cons entry trace ih =>
      rw [taggedSweeps, List.flatMap_cons, List.map_append, List.map_map, List.map_cons,
        List.flatMap_cons, ← ih]
      exact congrArg (· ++ _) (List.map_id _)

theorem taggedSweeps_filter (i : Nat) (trace : List (Nat × AnsweredCall)) :
    (taggedSweeps trace).filter (·.1 = i) = taggedSweeps (trace.filter (·.1 = i)) := by
  induction trace with
  | nil => rfl
  | cons entry trace ih =>
      rw [taggedSweeps, List.flatMap_cons, List.filter_append]
      have rest : (trace.flatMap fun entry => entry.2.sweeps.map (Prod.mk entry.1)).filter
          (·.1 = i) = taggedSweeps (trace.filter (·.1 = i)) := ih
      rw [rest]
      by_cases own : entry.1 = i
      · rw [List.filter_cons_of_pos (by simpa using own), List.filter_eq_self.mpr]
        · rfl
        · intro tagged member
          obtain ⟨sweep, -, rfl⟩ := List.mem_map.mp member
          exact decide_eq_true own
      · rw [List.filter_cons_of_neg (by simpa using own), List.filter_eq_nil_iff.mpr]
        · rfl
        · intro tagged member
          obtain ⟨sweep, -, rfl⟩ := List.mem_map.mp member
          simpa using own

theorem taggedSweeps_own (i : Nat) (trace : List (Nat × AnsweredCall)) :
    ((taggedSweeps trace).filter (·.1 = i)).map (·.2) =
      (callsOf i trace).flatMap (·.sweeps) := by
  rw [taggedSweeps_filter, taggedSweeps_all, callsOf]

structure JointEffect (before : Contents) (incidents : List Incident)
    (trace : List (Nat × AnsweredCall)) (after : Contents) : Prop where
  effect : before.Effect (trace.map (·.2)) after
  owned : ∀ entry ∈ trace, entry.1 < incidents.length
  effects : ∀ (i : Nat) (incident : Incident), incidents[i]? = some incident →
    ∃ window summary, incident.window = .ok window ∧
      incident.CallEffects window (incident.concernedIn before.directory) (callsOf i trace)
        (.ok summary)

theorem map_range_eq {α β : Type} {l : List α} {f : Nat → β} {g : α → β}
    (same : ∀ i a, l[i]? = some a → f i = g a) : (List.range l.length).map f = l.map g := by
  refine List.ext_getElem (by simp) fun i _ inside => ?_
  rw [List.getElem_map, List.getElem_map, List.getElem_range]
  exact same i _ (List.getElem?_eq_getElem (by simpa using inside))

namespace JointEffect

variable {before after : Contents} {incidents : List Incident}
  {trace : List (Nat × AnsweredCall)}

theorem mem_iff (h : JointEffect before incidents trace after) {β : Type}
    (f : AnsweredCall → List β)
    (b : β) : b ∈ (trace.map (·.2)).flatMap f ↔
      ∃ (i : Nat) (incident : Incident), incidents[i]? = some incident ∧
        b ∈ (callsOf i trace).flatMap f := by
  constructor
  · intro member
    obtain ⟨call, listed, among⟩ := List.mem_flatMap.mp member
    obtain ⟨entry, traced, rfl⟩ := List.mem_map.mp listed
    refine ⟨entry.1, _, List.getElem?_eq_getElem (h.owned entry traced), ?_⟩
    refine List.mem_flatMap.mpr ⟨entry.2, List.mem_map_of_mem ?_, among⟩
    exact List.mem_filter.mpr ⟨traced, decide_eq_true rfl⟩
  · rintro ⟨i, incident, -, member⟩
    obtain ⟨call, made, among⟩ := List.mem_flatMap.mp member
    exact List.mem_flatMap.mpr ⟨call, mem_of_mem_callsOf made, among⟩

theorem perm (h : JointEffect before incidents trace after) {β : Type} (f : AnsweredCall → List β) :
    ((trace.map (·.2)).flatMap f).Perm
      ((List.range incidents.length).flatMap fun i => (callsOf i trace).flatMap f) := by
  rw [← List.flatMap_assoc]
  exact (perm_callsOf h.owned).flatMap_right f

/-! ## The directory -/

theorem directory (h : JointEffect before incidents trace after)
    (indexed : before.directory.WellIndexed) :
    after.directory = { before.directory with
      devices := before.directory.devices.map fun device =>
        if incidents.any (·.concerns device) then { device with status := .suspended }
        else device } := by
  have same (id : DeviceId) : id ∈ (trace.map (·.2)).flatMap (·.suspends) ↔
      id ∈ (before.directory.devices.filter fun device =>
        incidents.any (·.concerns device)).map (·.id) := by
    rw [h.mem_iff]
    constructor
    · rintro ⟨i, incident, located, suspended⟩
      obtain ⟨window, summary, -, effects⟩ := h.effects i incident located
      obtain ⟨device, concerned, rfl⟩ := List.mem_map.mp (effects.suspended id suspended)
      obtain ⟨member, concerns⟩ := List.mem_filter.mp concerned
      refine List.mem_map_of_mem (List.mem_filter.mpr ⟨member, ?_⟩)
      exact List.any_eq_true.mpr ⟨incident, List.mem_of_getElem? located, concerns⟩
    · intro picked
      obtain ⟨device, concerned, rfl⟩ := List.mem_map.mp picked
      obtain ⟨member, some_concerns⟩ := List.mem_filter.mp concerned
      obtain ⟨incident, listed, concerns⟩ := List.any_eq_true.mp some_concerns
      obtain ⟨i, located⟩ := List.getElem?_of_mem listed
      obtain ⟨window, summary, -, effects⟩ := h.effects i incident located
      refine ⟨i, incident, located, ?_⟩
      rw [(effects.summary summary rfl).1]
      exact List.mem_map_of_mem (List.mem_filter.mpr ⟨member, concerns⟩)
  rw [h.effect.directory, Directory.suspend_congr _ same, Directory.suspend]
  congr 1
  exact List.map_congr_left fun device member => Fleet.suspendedIn_picked indexed _ member

/-! ## The readings -/

theorem affects_eq {incident : Incident} {window : Window} (timed : incident.window = .ok window)
    (dir : Directory) (r : Reading) :
    (incident.sweep window (incident.concernedIn dir)).affects r = incident.reachesIn dir r :=
  congrFun (Incident.affects_of_window timed _) r

theorem mem_taggedSweeps (h : JointEffect before incidents trace after) {entry : Nat × Sweep × Nat}
    (member : entry ∈ taggedSweeps trace) :
    ∃ incident, incidents[entry.1]? = some incident ∧ entry.2.1.reason = incident.reason ∧
      ∀ r, entry.2.1.affects r = incident.reachesIn before.directory r := by
  obtain ⟨⟨i, call⟩, traced, made⟩ := List.mem_flatMap.mp member
  obtain ⟨sweep, listed, rfl⟩ := List.mem_map.mp made
  obtain ⟨incident, located⟩ : ∃ incident, incidents[i]? = some incident :=
    ⟨_, List.getElem?_eq_getElem (h.owned (i, call) traced)⟩
  obtain ⟨window, summary, timed, effects⟩ := h.effects i incident located
  have own : sweep ∈ (callsOf i trace).flatMap (·.sweeps) := by
    refine List.mem_flatMap.mpr ⟨call, List.mem_map.mpr ⟨(i, call), ?_, rfl⟩, listed⟩
    exact List.mem_filter.mpr ⟨traced, decide_eq_true rfl⟩
  have same : sweep.1 = incident.sweep window (incident.concernedIn before.directory) :=
    effects.swept sweep own
  refine ⟨incident, located, congrArg Sweep.reason same, fun r => ?_⟩
  exact (congrArg (fun sweep => sweep.affects r) same).trans (affects_eq timed before.directory r)

theorem any_affects (h : JointEffect before incidents trace after) (r : Reading) :
    (taggedSweeps trace).any (·.2.1.affects r) =
      incidents.any (·.reachesIn before.directory r) := by
  rw [Bool.eq_iff_iff, List.any_eq_true, List.any_eq_true]
  constructor
  · rintro ⟨entry, member, affects⟩
    obtain ⟨incident, located, -, same⟩ := h.mem_taggedSweeps member
    exact ⟨incident, List.mem_of_getElem? located, same r ▸ affects⟩
  · rintro ⟨incident, listed, reaches⟩
    obtain ⟨i, located⟩ := List.getElem?_of_mem listed
    obtain ⟨window, summary, timed, effects⟩ := h.effects i incident located
    have some_concerned : incident.concernedIn before.directory ≠ [] := by
      intro none_concerned
      simp [Incident.reachesIn, none_concerned, Incident.reaches] at reaches
    have swept := (effects.summary summary rfl).2.1
    rw [if_neg some_concerned, ← taggedSweeps_own] at swept
    have own : incident.sweep window (incident.concernedIn before.directory) ∈
        (((taggedSweeps trace).filter (·.1 = i)).map (·.2)).map (·.1) := by
      rw [swept]
      exact List.mem_singleton.mpr rfl
    rw [List.map_map] at own
    obtain ⟨entry, tagged, same⟩ := List.mem_map.mp own
    refine ⟨entry, (List.mem_filter.mp tagged).1, ?_⟩
    rw [show entry.2.1 = _ from same]
    exact (affects_eq timed before.directory r).trans reaches

theorem sweptBy_isSome (h : JointEffect before incidents trace after) (r : Reading) :
    (sweptBy trace r).isSome = incidents.any (·.reachesIn before.directory r) := by
  rw [← h.any_affects, sweptBy, Option.isSome_map, List.isSome_find?]

theorem sweptBy_reaches (h : JointEffect before incidents trace after) {r : Reading} {i : Nat}
    (captured : sweptBy trace r = some i) :
    ∃ incident, incidents[i]? = some incident ∧
      incident.reachesIn before.directory r = true := by
  obtain ⟨entry, found, rfl⟩ := Option.map_eq_some_iff.mp captured
  have affects : entry.2.1.affects r = true := by simpa using List.find?_some found
  obtain ⟨incident, located, -, same⟩ := h.mem_taggedSweeps (List.mem_of_find?_eq_some found)
  exact ⟨incident, located, same r ▸ affects⟩

def quarantinedBy (incidents : List Incident) (captured : Option Nat) (r : Reading) : Reading :=
  match captured.bind (incidents[·]?) with
  | some incident => r.quarantined incident.reason
  | none => r

theorem settled (h : JointEffect before incidents trace after) (r : Reading) :
    ReadingStore.settled (((trace.map (·.2)).flatMap (·.sweeps)).map (·.1)) r =
      quarantinedBy incidents (sweptBy trace r) r := by
  rw [← taggedSweeps_all, List.map_map, ReadingStore.settled, List.find?_map, quarantinedBy,
    sweptBy]
  have same : ((fun sweep : Sweep => sweep.affects r) ∘ (fun sweep : Sweep × Nat => sweep.1) ∘
      fun entry : Nat × Sweep × Nat => entry.2) = fun entry => entry.2.1.affects r := rfl
  rw [same]
  cases found : (taggedSweeps trace).find? fun entry => entry.2.1.affects r with
  | none => rfl
  | some entry =>
      obtain ⟨incident, located, reason, -⟩ :=
        h.mem_taggedSweeps (List.mem_of_find?_eq_some found)
      simp [located, reason]

theorem readings (h : JointEffect before incidents trace after) :
    after.readings.readings = before.readings.readings.map fun entry =>
      (entry.1, quarantinedBy incidents (sweptBy trace entry.2) entry.2) := by
  have effect := congrArg Prod.snd h.effect.readings
  rw [← show _ = after.readings from effect, ReadingStore.sweepAll_readings]
  exact List.map_congr_left fun entry _ => congrArg (Prod.mk entry.1) (h.settled entry.2)

theorem counts (h : JointEffect before incidents trace after) :
    (before.readings.sweepAll ((taggedSweeps trace).map (·.2.1))).1 =
      (taggedSweeps trace).map (·.2.2) := by
  have all := congrArg Prod.fst h.effect.readings
  rw [← taggedSweeps_all, List.map_map, List.map_map] at all
  exact all

theorem counted (h : JointEffect before incidents trace after) (i : Nat) :
    (((callsOf i trace).flatMap (·.sweeps)).map (·.2)).sum =
      before.readings.readings.countP fun entry => sweptBy trace entry.2 = some i := by
  rw [← taggedSweeps_own, List.map_map]
  refine (ReadingStore.sum_counts h.counts fun entry => entry.1 = i).trans
    (List.countP_congr fun entry _ => ?_)
  rw [sweptBy]
  cases (taggedSweeps trace).find? fun tagged => tagged.2.1.affects entry.2 <;> simp

theorem changed (h : JointEffect before incidents trace after) (kept : before.readings.WellKept) :
    before.readings.changed after.readings =
      (before.readings.readings.filter fun entry =>
        incidents.any (·.reachesIn before.directory entry.2)).map (·.1) := by
  rw [ReadingStore.changed_map kept (fun r => quarantinedBy incidents (sweptBy trace r) r)
    h.readings]
  congr 1
  refine List.filter_congr fun entry _ => ?_
  rw [Bool.eq_iff_iff, decide_eq_true_eq, ← h.settled, ne_eq, ReadingStore.settled_eq_self_iff,
    Bool.not_eq_false, ← h.any_affects, ← taggedSweeps_all, List.map_map, List.any_map]
  rfl

theorem total (h : JointEffect before incidents trace after) (kept : before.readings.WellKept) :
    ((List.range incidents.length).map fun i =>
        before.readings.readings.countP fun entry => sweptBy trace entry.2 = some i).sum =
      (before.readings.changed after.readings).length := by
  calc ((List.range incidents.length).map fun i =>
        before.readings.readings.countP fun entry => sweptBy trace entry.2 = some i).sum
      = ((List.range incidents.length).map fun i =>
          (((callsOf i trace).flatMap (·.sweeps)).map (·.2)).sum).sum := by
        simp only [h.counted]
    _ = (((List.range incidents.length).flatMap fun i =>
          (callsOf i trace).flatMap (·.sweeps)).map (·.2)).sum := by
        rw [List.map_flatMap, List.flatMap_def, List.sum_flatten, List.map_map]
        rfl
    _ = (((trace.map (·.2)).flatMap (·.sweeps)).map (·.2)).sum :=
        ((h.perm (·.sweeps)).map (·.2)).sum_eq.symm
    _ = (((taggedSweeps trace).filter fun _ => true).map (·.2.2)).sum := by
        rw [← taggedSweeps_all, List.map_map, List.filter_true]
        rfl
    _ = before.readings.readings.countP fun entry =>
          incidents.any (·.reachesIn before.directory entry.2) := by
        refine (ReadingStore.sum_counts h.counts fun _ => true).trans
          (List.countP_congr fun entry _ => ?_)
        rw [← h.sweptBy_isSome, sweptBy, Option.isSome_map]
        cases (taggedSweeps trace).find? fun tagged => tagged.2.1.affects entry.2 <;> simp
    _ = (before.readings.changed after.readings).length := by
        rw [h.changed kept, List.length_map, List.countP_eq_length_filter]

theorem sent (h : JointEffect before incidents trace after) :
    ((trace.map (·.2)).flatMap (·.sends)).Perm ((incidents.map fun incident =>
      incident.batch (incident.concernedIn before.directory)).filter (· ≠ [])) := by
  have own (i : Nat) (incident : Incident) (located : incidents[i]? = some incident) :
      (callsOf i trace).flatMap (·.sends) =
        [incident.batch (incident.concernedIn before.directory)].filter (· ≠ []) := by
    obtain ⟨window, summary, -, effects⟩ := h.effects i incident located
    have empty_iff : incident.batch (incident.concernedIn before.directory) = [] ↔
        incident.concernedIn before.directory = [] := by
      cases incident.concernedIn before.directory <;>
        simp [Incident.batch, List.eraseDups_cons]
    rw [effects.sent]
    by_cases none_concerned : incident.concernedIn before.directory = []
    · simp [none_concerned, Incident.batch]
    · simp [none_concerned, mt empty_iff.mp none_concerned, Except.isOk, Except.toBool]
  have each (l : List (List Notice)) :
      (l.map fun batch => [batch].filter (· ≠ [])).flatten = l.filter (· ≠ []) := by
    induction l with
    | nil => rfl
    | cons batch l ih =>
        rw [List.map_cons, List.flatten_cons, ih, ← List.filter_append, List.singleton_append]
  refine (h.perm (·.sends)).trans (.of_eq ?_)
  rw [List.flatMap_def, map_range_eq own, ← each, List.map_map]
  rfl

theorem separate (h : JointEffect before incidents trace after)
    (indexed : before.directory.WellIndexed)
    (apart : incidents.Pairwise fun a b => ∀ device ∈ before.directory.devices,
      ¬ (a.concerns device = true ∧ b.concerns device = true)) (r : Reading) :
    sweptBy trace r = incidents.findIdx? (·.reachesIn before.directory r) := by
  have alone {a b : Incident} (differ : ∀ device ∈ before.directory.devices,
      ¬ (a.concerns device = true ∧ b.concerns device = true))
      (a_reaches : a.reachesIn before.directory r = true)
      (b_reaches : b.reachesIn before.directory r = true) : False := by
    simp only [Incident.reachesIn, Incident.reaches, Bool.and_eq_true, List.contains_iff_mem]
      at a_reaches b_reaches
    obtain ⟨first, first_listed, first_id⟩ := List.mem_map.mp a_reaches.1.2
    obtain ⟨second, second_listed, second_id⟩ := List.mem_map.mp b_reaches.1.2
    obtain ⟨first_member, first_concerned⟩ := List.mem_filter.mp first_listed
    obtain ⟨second_member, second_concerned⟩ := List.mem_filter.mp second_listed
    obtain rfl := indexed.eq_of_id_eq first_member second_member (first_id.trans second_id.symm)
    exact differ first first_member ⟨first_concerned, second_concerned⟩
  cases captured : sweptBy trace r with
  | none =>
      have none_reaches := h.sweptBy_isSome r
      rw [captured, ← List.findIdx?_isSome] at none_reaches
      have never := Option.isSome_eq_false_iff.mp none_reaches.symm
      exact (Option.isNone_iff_eq_none.mp never).symm
  | some i =>
      obtain ⟨incident, located, reaches⟩ := h.sweptBy_reaches captured
      obtain ⟨inside, rfl⟩ := List.getElem?_eq_some_iff.mp located
      refine Eq.symm (List.findIdx?_eq_some_iff_getElem.mpr
        ⟨inside, reaches, fun j earlier also => ?_⟩)
      exact alone (List.pairwise_iff_getElem.mp apart j i _ inside earlier) also reaches

end JointEffect

/-! ## Schedules -/

namespace Interleaving.Traced

variable {before after : Contents} {incidents : List Incident} {schedule : List Nat}
  {trace : List (Nat × AnsweredCall)} {offered : Call → Prop} {faulty : Prop}
  {finished : List (Program (Except ResponseError Summary))}

theorem goes (h : Traced offered faulty before (incidents.map Incident.respond) schedule trace
    after finished) {i : Nat} {incident : Incident} (located : incidents[i]? = some incident)
    {filter : DeviceFilter} {window : Window} (filtered : incident.filter = .ok filter)
    (timed : incident.window = .ok window) {last : Program (Except ResponseError Summary)}
    (there : finished[i]? = some last) {rest : List AnsweredCall}
    {result : Except ResponseError Summary} (ends : last.Ends rest result) :
    incident.Session filter window (callsOf i trace ++ rest) result := by
  obtain ⟨first, here, whole, -⟩ := h.ends i last there
  rw [List.getElem?_map, located] at here
  obtain rfl := Option.some.inj here
  exact Incident.session_of_ends filtered timed (whole ends)

theorem last (h : Traced offered faulty before (incidents.map Incident.respond) schedule trace
    after finished) {i : Nat} (inside : i < incidents.length) :
    ∃ last, finished[i]? = some last := by
  refine ⟨_, List.getElem?_eq_getElem ?_⟩
  rw [h.length, List.length_map]
  exact inside

variable (valid : ∀ incident ∈ incidents, incident.Valid)

include valid

theorem ofResponse (h : Traced offered faulty before (incidents.map Incident.respond) schedule
    trace after finished) : ∀ call ∈ trace.map (·.2), call.request.ofResponse = true := by
  intro call member
  obtain ⟨⟨i, call⟩, traced, rfl⟩ := List.mem_map.mp member
  have inside : i < incidents.length := by simpa using h.owned (i, call) traced
  have located := List.getElem?_eq_getElem inside
  obtain ⟨last, there⟩ := h.last inside
  obtain ⟨filter, filtered⟩ := exists_of_isOk (valid _ (List.mem_of_getElem? located)).filter
  obtain ⟨window, timed⟩ := exists_of_isOk (valid _ (List.mem_of_getElem? located)).window
  -- Some end of the program will do: what was called before it is the same for all.
  have session := h.goes located filtered timed there
    (Program.ends_run Fleet.capabilities last Fleet.empty)
  refine session.ofResponse call (List.mem_append_left _ (List.mem_map.mpr ⟨(i, call), ?_, rfl⟩))
  exact List.mem_filter.mpr ⟨traced, decide_eq_true rfl⟩

theorem effect (h : Traced offered faulty before (incidents.map Incident.respond) schedule
    trace after finished) (indexed : before.directory.WellIndexed) :
    before.Effect (trace.map (·.2)) after :=
  h.replays.effect indexed (h.ofResponse valid)

theorem agree (h : Traced offered faulty before (incidents.map Incident.respond) schedule
    trace after finished) (indexed : before.directory.WellIndexed) {incident : Incident}
    {filter : DeviceFilter} (filtered : incident.filter = .ok filter) {i : Nat}
    {found : List Device} (made : ⟨.query filter, .ok found⟩ ∈ callsOf i trace) :
    found.map (·.id) = (incident.concernedIn before.directory).map (·.id) ∧
      found.map (·.owner) = (incident.concernedIn before.directory).map (·.owner) := by
  have concerned : before.directory.query filter = incident.concernedIn before.directory :=
    congrArg (before.directory.devices.filter ·) (Incident.picks_of_filter filtered)
  rw [← concerned]
  exact (h.effect valid indexed).agree (mem_of_mem_callsOf made)

theorem ended (h : Traced offered faulty before (incidents.map Incident.respond) schedule
    trace after finished) (indexed : before.directory.WellIndexed) {i : Nat}
    (inside : i < incidents.length)
    (turns : before.directory.devices.length + 4 ≤ schedule.count i)
    {last : Program (Except ResponseError Summary)} (there : finished[i]? = some last) :
    last.result?.isSome = true := by
  have located := List.getElem?_eq_getElem inside
  obtain ⟨filter, filtered⟩ := exists_of_isOk (valid _ (List.mem_of_getElem? located)).filter
  obtain ⟨window, timed⟩ := exists_of_isOk (valid _ (List.mem_of_getElem? located)).window
  have session := h.goes located filtered timed there
    (Program.ends_run Fleet.capabilities last Fleet.empty)
  rw [Option.isSome_iff_ne_none]
  intro unfinished
  obtain ⟨first, -, -, counted⟩ := h.ends i last there
  have calls := (counted unfinished).2
  have bound := session.length_le
  rw [List.length_append] at bound
  rcases session.found_mem with nothing | ⟨devices, rest, found, split⟩
  · rw [nothing, List.length_nil] at bound
    omega
  · cases own : callsOf i trace with
    | nil =>
        rw [own, List.length_nil] at calls
        omega
    | cons call made =>
        rw [own, List.cons_append] at split
        obtain ⟨rfl, -⟩ := List.cons.inj split
        have agree := (h.agree valid indexed filtered (own ▸ List.mem_cons_self ..)).1
        have size := congrArg List.length agree
        rw [List.length_map, List.length_map] at size
        have few : (Incident.concernedIn incidents[i] before.directory).length ≤
          before.directory.devices.length := List.length_filter_le ..
        rw [found] at bound
        omega

theorem outcome (h : Traced offered faulty before (incidents.map Incident.respond) schedule
    trace after finished) (ended : ∀ last ∈ finished, last.result?.isSome = true) {i : Nat}
    {incident : Incident} (located : incidents[i]? = some incident) :
    ∃ filter window last result, incident.filter = .ok filter ∧ incident.window = .ok window ∧
      finished[i]? = some last ∧ last.result? = some result ∧
      incident.Session filter window (callsOf i trace) result := by
  obtain ⟨filter, filtered⟩ := exists_of_isOk (valid _ (List.mem_of_getElem? located)).filter
  obtain ⟨window, timed⟩ := exists_of_isOk (valid _ (List.mem_of_getElem? located)).window
  obtain ⟨last, there⟩ := h.last (List.getElem?_eq_some_iff.mp located).1
  obtain ⟨result, done⟩ := Option.isSome_iff_exists.mp (ended last (List.mem_of_getElem? there))
  have session := h.goes located filtered timed there (Program.ends_of_result? done)
  rw [List.append_nil] at session
  exact ⟨filter, window, last, result, filtered, timed, there, done, session⟩

theorem faultless (h : Traced offered False before (incidents.map Incident.respond) schedule
    trace after finished) (indexed : before.directory.WellIndexed)
    (given : ∀ request, offered request) (ended : ∀ last ∈ finished, last.result?.isSome = true) :
    ∀ call ∈ trace.map (·.2), call.failed = false := by
  refine h.replays.succeeds indexed fun call member => ?_
  obtain ⟨⟨i, call⟩, traced, rfl⟩ := List.mem_map.mp member
  have inside : i < incidents.length := by simpa using h.owned (i, call) traced
  obtain ⟨filter, window, last, result, filtered, -, -, -, session⟩ :=
    h.outcome valid ended (List.getElem?_eq_getElem inside)
  have own : call ∈ callsOf i trace :=
    List.mem_map.mpr ⟨(i, call), List.mem_filter.mpr ⟨traced, decide_eq_true rfl⟩, rfl⟩
  have planned := session.requests (fun _ made => h.agree valid indexed filtered made) call own
  refine ⟨h.ofResponse valid call member, ?_, given _⟩
  exact Contents.knows_plan (fun device found => List.mem_map_of_mem (List.mem_filter.mp found).1)
    _ planned

theorem effects (h : Traced offered False before (incidents.map Incident.respond) schedule
    trace after finished) (indexed : before.directory.WellIndexed)
    (given : ∀ request, offered request) (ended : ∀ last ∈ finished, last.result?.isSome = true)
    {i : Nat} {incident : Incident} (located : incidents[i]? = some incident) :
    ∃ window summary last, incident.window = .ok window ∧ finished[i]? = some last ∧
      last.result? = some (.ok summary) ∧
      incident.CallEffects window (incident.concernedIn before.directory) (callsOf i trace)
        (.ok summary) := by
  obtain ⟨filter, window, last, result, filtered, timed, there, done, session⟩ :=
    h.outcome valid ended located
  obtain ⟨summary, rfl⟩ := session.succeeds_iff.mpr fun call made =>
    h.faultless valid indexed given ended call (mem_of_mem_callsOf made)
  exact ⟨window, summary, last, timed, there, done,
    session.effects fun _ made => h.agree valid indexed filtered made⟩

theorem joint (h : Traced offered False before (incidents.map Incident.respond) schedule
    trace after finished) (indexed : before.directory.WellIndexed)
    (given : ∀ request, offered request)
    (ended : ∀ last ∈ finished, last.result?.isSome = true) :
    JointEffect before incidents trace after where
  effect := h.effect valid indexed
  owned := by simpa using h.owned
  effects i incident located := by
    obtain ⟨window, summary, -, timed, -, -, effects⟩ :=
      h.effects valid indexed given ended located
    exact ⟨window, summary, timed, effects⟩

theorem results (h : Traced offered False before (incidents.map Incident.respond) schedule
    trace after finished) (indexed : before.directory.WellIndexed)
    (given : ∀ request, offered request)
    (ended : ∀ last ∈ finished, last.result?.isSome = true) :
    finished.map Program.result? = incidents.zipIdx.map fun (incident, i) =>
      some (.ok ⟨(incident.concernedIn before.directory).length,
        before.readings.readings.countP fun entry => sweptBy trace entry.2 = some i,
        ((incident.concernedIn before.directory).map (·.owner)).eraseDups.length⟩) := by
  have joint := h.joint valid indexed given ended
  refine List.ext_getElem (by simp [h.length]) fun i inside _ => ?_
  have place : i < incidents.length := by simpa [h.length] using inside
  obtain ⟨window, summary, last, -, there, done, effects⟩ :=
    h.effects valid indexed given ended (List.getElem?_eq_getElem place)
  obtain ⟨bound, rfl⟩ := List.getElem?_eq_some_iff.mp there
  rw [List.getElem_map, List.getElem_map, List.getElem_zipIdx, Nat.zero_add, done,
    (effects.summary summary rfl).2.2, joint.counted]

end Interleaving.Traced

theorem Fleet.interleaved_responses_end {fleet : Fleet} (reachable : fleet.Reachable)
    {incidents : List Incident} (valid : ∀ incident ∈ incidents, incident.Valid)
    {schedule : List Nat} (turns : ∀ i < incidents.length,
      fleet.directory.content.devices.length + 4 ≤ schedule.count i) :
    ∀ last ∈ (Interleaving.run capabilities schedule
      (incidents.map Incident.respond) fleet).1, last.result?.isSome = true := by
  intro last member
  obtain ⟨trace, traced⟩ :=
    Interleaving.run_traced serves schedule (incidents.map Incident.respond) fleet
  obtain ⟨i, there⟩ := List.getElem?_of_mem member
  have inside : i < incidents.length := by
    have bound := (List.getElem?_eq_some_iff.mp there).1
    rwa [traced.length, List.length_map] at bound
  exact traced.ended valid reachable.sound.directory inside (turns i inside) there

/-- Responses to valid incidents that take turns on a running fleet, in whatever order, have all
succeeded once they have ended. Each reading is set aside by one of them. -/
theorem Fleet.interleaved_responses_succeed {fleet : Fleet} (reachable : fleet.Reachable)
    (running : fleet.Running)
    {incidents : List Incident} (valid : ∀ incident ∈ incidents, incident.Valid)
    (schedule : List Nat)
    (ended : ∀ last ∈ (Interleaving.run capabilities schedule
      (incidents.map Incident.respond) fleet).1, last.result?.isSome = true) :
    let finished := (Interleaving.run capabilities schedule
      (incidents.map Incident.respond) fleet).1
    let after := (Interleaving.run capabilities schedule
      (incidents.map Incident.respond) fleet).2
    let dir := fleet.directory.content
    let readings := fleet.readings.content
    ∃ (sweptBy : Reading → Option Nat) (batches : List (List Notice)),
      finished.map Program.result? = incidents.zipIdx.map (fun (incident, i) =>
        some (.ok ⟨(incident.concernedIn dir).length,
          readings.readings.countP fun (_, r) => sweptBy r = some i,
          ((incident.concernedIn dir).map (·.owner)).eraseDups.length⟩)) ∧
      after.directory.content = { dir with
        devices := dir.devices.map fun device =>
          if incidents.any (·.concerns device) then { device with status := .suspended }
          else device } ∧
      after.readings.content.readings = readings.readings.map (fun (id, r) =>
        (id, match (sweptBy r).bind (incidents[·]?) with
          | some incident =>
              { r with status := .quarantined, reason := some incident.reason }
          | none => r)) ∧
      (∀ r, (sweptBy r).isSome = incidents.any (·.reachesIn dir r)) ∧
      (∀ r i, sweptBy r = some i →
        ∃ incident, incidents[i]? = some incident ∧ incident.reachesIn dir r = true) ∧
      ((List.range incidents.length).map fun i =>
          readings.readings.countP fun (_, r) => sweptBy r = some i).sum =
        (readings.changed after.readings.content).length ∧
      batches.Perm ((incidents.map fun incident =>
        incident.batch (incident.concernedIn dir)).filter (· ≠ [])) ∧
      after.outbox.content.notices = fleet.outbox.content.notices ++ batches.flatten ∧
      (incidents.Pairwise (fun a b => ∀ device ∈ dir.devices,
          ¬ (a.concerns device = true ∧ b.concerns device = true)) →
        ∀ r, sweptBy r = incidents.findIdx? (·.reachesIn dir r)) := by
  intro finished after dir readings
  obtain ⟨trace, traced⟩ :=
    Interleaving.run_traced serves schedule (incidents.map Incident.respond) fleet
  have indexed : fleet.contents.directory.WellIndexed := reachable.sound.directory
  have kept : fleet.contents.readings.WellKept := reachable.sound.readings
  have joint := traced.joint valid indexed running.offers ended
  refine ⟨FleetResponse.sweptBy trace, _, traced.results valid indexed running.offers ended,
    joint.directory indexed, joint.readings, joint.sweptBy_isSome,
    fun _ _ => joint.sweptBy_reaches, joint.total kept, joint.sent, ?_,
    joint.separate indexed⟩
  exact congrArg Outbox.notices joint.effect.outbox

def Fleet.drift : Incident :=
  { flaw with firmwareMin := "1.3", firmwareMax := " ", reason := "drift" }

theorem Fleet.interleaved_responses_succeed_trio :
    let schedule := (List.replicate 7 [0, 1]).flatten
    let finished := (Interleaving.run capabilities schedule
      ([flaw, drift].map Incident.respond) trio).1
    trio.Reachable ∧ trio.Running ∧ (∀ incident ∈ [flaw, drift], incident.Valid) ∧
      (∀ last ∈ finished, last.result?.isSome = true) ∧
      finished.map Program.result? = [some (.ok ⟨2, 1, 1⟩), some (.ok ⟨1, 1, 1⟩)] := by
  intro schedule finished
  have valid : ∀ incident ∈ [flaw, drift], incident.Valid := by
    intro incident member
    simp only [List.mem_cons, List.not_mem_nil, or_false] at member
    rcases member with rfl | rfl
    · exact flaw_valid
    · exact ⟨rfl, rfl⟩
  have ended : ∀ last ∈ finished, last.result?.isSome = true := by
    refine interleaved_responses_end trio_reachable valid fun i inside => ?_
    have three : trio.directory.content.devices.length = 3 := rfl
    have which : i = 0 ∨ i = 1 := by
      simp only [List.length_cons, List.length_nil] at inside
      omega
    rw [three]
    rcases which with rfl | rfl <;> decide
  have apart : [flaw, drift].Pairwise fun a b => ∀ device ∈ trio.directory.content.devices,
      ¬ (a.concerns device = true ∧ b.concerns device = true) := by
    have separate : (trio.directory.content.devices.all fun device =>
        !(flaw.concerns device && drift.concerns device)) = true := rfl
    simpa [or_iff_not_imp_left] using separate
  obtain ⟨sweptBy, batches, results, -, -, -, -, -, -, -, alone⟩ :=
    interleaved_responses_succeed trio_reachable trio_running valid schedule ended
  have first (r : Reading) : decide (sweptBy r = some 0) =
      flaw.reachesIn trio.directory.content r := by
    rw [alone apart, List.findIdx?_cons]
    cases flaw.reachesIn trio.directory.content r <;> simp
  have second (r : Reading) : decide (sweptBy r = some 1) =
      (!flaw.reachesIn trio.directory.content r && drift.reachesIn trio.directory.content r) := by
    rw [alone apart, List.findIdx?_cons, List.findIdx?_cons, List.findIdx?_nil]
    cases flaw.reachesIn trio.directory.content r <;>
      cases drift.reachesIn trio.directory.content r <;> simp
  refine ⟨trio_reachable, trio_running, valid, ended, results.trans ?_⟩
  simp only [List.zipIdx_cons, List.zipIdx_nil, List.map_cons, List.map_nil, first, second]
  rfl

end FleetResponse
