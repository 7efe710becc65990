import FleetResponse.Proofs.Fleet.Execution
import FleetResponse.Proofs.Reading.Store

/-!
# Stores that answer one at a time

Whoever asks a store, and whenever: the answers are those of the store alone, asked by one client
after the other in the order in which its worker took the requests.
-/

namespace FleetResponse

open Worker

variable {σ μ : Type} {Answer : μ → Type} {store : Store σ μ Answer}

namespace Desk

variable {desk last next : Desk σ μ Answer} {m : Move μ} {moves : List (Move μ)}

def order (desk : Desk σ μ Answer) : List (Nat × μ) :=
  desk.system.handled

def Passes (store : Store σ μ Answer) (identity : String) (size : Nat) (moves : List (Move μ))
    (desk : Desk σ μ Answer) : Prop :=
  ∃ before after, moves = before ++ after ∧
    (Desk.start store identity size).run store before = some desk

theorem run_append (store : Store σ μ Answer) (desk : Desk σ μ Answer)
    (before after : List (Move μ)) :
    desk.run store (before ++ after) =
      (desk.run store before).bind fun desk => desk.run store after := by
  induction before generalizing desk with
  | nil => rfl
  | cons m before ih =>
      rw [List.cons_append, run, run]
      cases desk.step store m with
      | none => rfl
      | some next => exact ih next

theorem step_cases (stepped : desk.step store m = some next) :
    (∃ request answer, store.atOnce? request = some answer ∧
        next = { desk with atOnce := desk.atOnce ++ [⟨request, answer⟩] }) ∨
      ((∃ system, desk.system.step store.behaviour m = some system ∧ next = { desk with system }) ∧
        ∀ o ∈ System.joins m, ∀ request, o.message? = some request →
          o = .call request ∧ store.atOnce? request = none) := by
  have moved (moves : desk.move store m = some next) :
      ∃ system, desk.system.step store.behaviour m = some system ∧ next = { desk with system } := by
    obtain ⟨system, going, rfl⟩ := Option.map_eq_some_iff.mp moves
    exact ⟨system, going, rfl⟩
  unfold step at stepped
  split at stepped
  · rename_i request
    split at stepped
    · rename_i answer known
      split at stepped
      · cases stepped
      · cases stepped
        exact .inl ⟨request, answer, known, rfl⟩
    · rename_i unknown
      refine .inr ⟨moved stepped, fun o joins other asks => ?_⟩
      cases List.mem_singleton.mp joins
      cases asks
      exact ⟨rfl, unknown⟩
  · cases stepped
  · rename_i calls sends
    refine .inr ⟨moved stepped, fun o joins request asks => ?_⟩
    cases m with
    | begin_ operation =>
        cases List.mem_singleton.mp joins
        cases o with
        | call message => exact absurd rfl (calls message)
        | send message => exact absurd rfl (sends message)
        | shutdown | awaitStop => cases asks
    | _ => cases joins

end Desk

structure Desk.Sound (store : Store σ μ Answer) (desk : Desk σ μ Answer) : Prop where
  asked : ∀ o ∈ desk.system.operations, ∀ request, o.message? = some request →
    o = .call request ∧ store.atOnce? request = none
  spared : ∀ reply ∈ desk.atOnce, store.atOnce? reply.request = some reply.answer
  faithful : ∃ h ended, Faithful store desk.system h ended

namespace Desk

variable {desk last next : Desk σ μ Answer} {m : Move μ} {moves : List (Move μ)}

theorem start_sound (store : Store σ μ Answer) (identity : String) (size : Nat) :
    (start store identity size).Sound store where
  asked := by simp [start, System.spawn, System.operations]
  spared := by simp [start]
  faithful := ⟨.empty, [], spawn_faithful store identity size⟩

theorem Sound.step (sound : desk.Sound store) (stepped : desk.step store m = some next) :
    next.Sound store := by
  obtain ⟨h, ended, faithful⟩ := sound.faithful
  obtain ⟨request, answer, known, rfl⟩ | ⟨⟨system, going, rfl⟩, joins⟩ := step_cases stepped
  · refine ⟨sound.asked, fun reply given => ?_, h, ended, faithful⟩
    obtain old | new := List.mem_append.mp given
    · exact sound.spared reply old
    · cases List.mem_singleton.mp new
      exact known
  · refine ⟨fun o listed => ?_, sound.spared, ?_⟩
    · rw [(System.change_of_step going).operations_eq] at listed
      obtain old | new := List.mem_append.mp listed
      · exact sound.asked o old
      · exact joins o new
    · obtain ⟨more, faithful⟩ := faithful.step going
      exact ⟨_, _, faithful⟩

theorem Sound.run (sound : desk.Sound store) (run : desk.run store moves = some last) :
    last.Sound store := by
  induction moves generalizing desk with
  | nil =>
      cases run
      exact sound
  | cons m moves ih =>
      obtain ⟨next, stepped, run⟩ := Option.bind_eq_some_iff.mp run
      exact ih (sound.step stepped) run

theorem system_run (run : desk.run store moves = some last) :
    ∃ going, desk.system.steps store.behaviour going = some last.system := by
  induction moves generalizing desk with
  | nil =>
      cases run
      exact ⟨[], rfl⟩
  | cons m moves ih =>
      obtain ⟨next, stepped, run⟩ := Option.bind_eq_some_iff.mp run
      obtain ⟨going, rest⟩ := ih run
      obtain ⟨request, answer, known, rfl⟩ | ⟨⟨system, first, rfl⟩, -⟩ := step_cases stepped
      · exact ⟨going, rest⟩
      · exact ⟨m :: going, by rw [System.steps, first]; exact rest⟩

theorem Passes.going {identity : String} {size : Nat} {earlier : Desk σ μ Answer}
    (passes : Passes store identity size moves earlier)
    (run : (start store identity size).run store moves = some last) :
    earlier.Sound store ∧
      ∃ going, earlier.system.steps store.behaviour going = some last.system := by
  obtain ⟨before, after, rfl, early⟩ := passes
  rw [run_append, early] at run
  exact ⟨(start_sound store identity size).run early, system_run run⟩

end Desk

/-! ## Linear stores -/

/-- All that the clients of a store see is as if they had asked it one after the other, in the order
in which its worker took the requests. What returned before something else was begun comes first,
and what was reported as stopped is not in the order, then or later. -/
structure Linear (store : Store σ μ Answer) (identity : String) (size : Nat)
    (moves : List (Move μ)) (desk : Desk σ μ Answer) : Prop where
  own : (desk.order.map Prod.fst).Nodup ∧ ∀ i request, (i, request) ∈ desk.order →
    desk.system.operations[i]? = some (.call request) ∧ store.atOnce? request = none
  realTime : ∀ earlier, Desk.Passes store identity size moves earlier →
    ∀ i j c result, earlier.system.clients[i]? = some c → c.stage = .finished result →
      earlier.system.clients.length ≤ j → i ∈ desk.order.map Prod.fst →
        j ∈ desk.order.map Prod.fst → [i, j].Sublist (desk.order.map Prod.fst)
  answers : ∀ i c request result, desk.system.clients[i]? = some c →
    c.operation = .call request → c.stage = .finished result →
      result = .failed .stopped ∨ ∃ answer, result = .replied ⟨request, answer⟩ ∧
        (i, ⟨request, answer⟩) ∈ (store.execute store.empty desk.order).1
  content : ∃ ended, desk.order = ended ++ desk.system.inHand ∧
    desk.system.content = (store.execute store.empty ended).2
  stopped : ∀ earlier, Desk.Passes store identity size moves earlier →
    ∀ i c, earlier.system.clients[i]? = some c → c.stage = .finished (.failed .stopped) →
      i ∉ desk.order.map Prod.fst
  atOnce : ∀ reply ∈ desk.atOnce, ∀ content,
    store.handle content reply.request = (reply.answer, content)

theorem pair_sublist {α : Type} {i j : α} {order front back : List α}
    (inside : order <+: front ++ back) (early : i ∈ front) (late : j ∉ front) (listed : j ∈ order) :
    [i, j].Sublist order := by
  obtain within | ⟨rest, rfl⟩ :=
    List.prefix_or_prefix_of_prefix inside (List.prefix_append front back)
  · exact absurd (within.subset listed) late
  · obtain there | there := List.mem_append.mp listed
    · exact absurd there late
    · exact (List.singleton_sublist.mpr early).append (List.singleton_sublist.mpr there)

namespace Faithful

variable {s t : System σ μ (Reply Answer)} {h : History μ} {ended : List (Nat × μ)}
  {moves : List (Move μ)}

theorem mem_due_of_rests (faithful : Faithful store s h ended)
    (run : s.steps store.behaviour moves = some t) {i : Nat} {c : Client μ (Reply Answer)}
    (found : s.clients[i]? = some c) (rests : c.stage.isOpen = false)
    (listed : i ∈ t.handled.map Prod.fst) : i ∈ s.due.map Prod.fst := by
  refine Classical.byContradiction fun out => ?_
  have gone : s.Gone i := ⟨⟨c, found, rests⟩, out⟩
  refine (gone.run faithful.sound.tidy run).2 ?_
  rw [System.due, List.map_append]
  exact List.mem_append_left _ listed

theorem not_handled_of_stopped (faithful : Faithful store s h ended)
    (run : s.steps store.behaviour moves = some t) {i : Nat} {c : Client μ (Reply Answer)}
    (found : s.clients[i]? = some c) (stopped : c.stage = .finished (.failed .stopped)) :
    i ∉ t.handled.map Prod.fst := by
  intro listed
  have rests : c.stage.isOpen = false := by rw [stopped]; rfl
  exact faithful.refused i c found (.inr stopped) (faithful.mem_due_of_rests run found rests listed)

theorem sublist_of_rests (faithful : Faithful store s h ended)
    (run : s.steps store.behaviour moves = some t) {i j : Nat} {c : Client μ (Reply Answer)}
    (found : s.clients[i]? = some c) (rests : c.stage.isOpen = false)
    (unborn : s.clients.length ≤ j)
    (first : i ∈ t.handled.map Prod.fst) (second : j ∈ t.handled.map Prod.fst) :
    [i, j].Sublist (t.handled.map Prod.fst) := by
  obtain ⟨more, later⟩ := faithful.run run
  obtain ⟨new, posts⟩ := History.posts_along (b := store.behaviour) (s := s) h moves
  have inside : t.handled.map Prod.fst <+:
      (requests h.posts).map Prod.fst ++ (requests new).map Prod.fst := by
    rw [← List.map_append, ← requests_append, posts]
    exact (later.sound.order.trans (ahead_prefix_requests _)).map Prod.fst
  have early : i ∈ (requests h.posts).map Prod.fst :=
    (faithful.due.map Prod.fst).subset (faithful.mem_due_of_rests run found rests first)
  have late : j ∉ (requests h.posts).map Prod.fst := by
    intro listed
    obtain ⟨⟨k, message⟩, posted, rfl⟩ := List.mem_map.mp listed
    obtain ⟨o, there, -⟩ := faithful.sound.served.genuine k message posted
    obtain ⟨inside, -⟩ := List.getElem?_eq_some_iff.mp there
    simp only [System.operations, List.length_map] at inside
    omega
  exact pair_sublist inside early late second

end Faithful

namespace Desk

variable {desk : Desk σ μ Answer} {moves : List (Move μ)}

theorem Sound.own (sound : desk.Sound store) :
    (desk.order.map Prod.fst).Nodup ∧ ∀ i request, (i, request) ∈ desk.order →
      desk.system.operations[i]? = some (.call request) ∧ store.atOnce? request = none := by
  obtain ⟨h, ended, faithful⟩ := sound.faithful
  have course := faithful.sound.handledInOrder store.behaviour
  refine ⟨course.once, fun i request listed => ?_⟩
  have posted := (course.order.trans (ahead_prefix_requests h.posts)).subset listed
  obtain ⟨o, found, asks⟩ := course.genuine.2 i request posted
  obtain ⟨rfl, unknown⟩ := sound.asked o (List.mem_of_getElem? found) request asks
  exact ⟨found, unknown⟩

theorem Sound.answers (sound : desk.Sound store) {i : Nat} {c : Client μ (Reply Answer)}
    {request : μ} {result : Result (Reply Answer)} (found : desk.system.clients[i]? = some c)
    (calls : c.operation = .call request) (finished : c.stage = .finished result) :
    result = .failed .stopped ∨ ∃ answer, result = .replied ⟨request, answer⟩ ∧
      (i, ⟨request, answer⟩) ∈ (store.execute store.empty desk.order).1 := by
  obtain ⟨h, ended, faithful⟩ := sound.faithful
  have standing := faithful.sound.served.stand i c found
  rw [calls, finished] at standing
  cases standing with
  | entering at_ => simp at at_
  | refused asks => exact .inl rfl
  | sawStop asks => cases asks
  | @replied _ reply done =>
      have there : (i, reply) ∈ (store.execute store.empty desk.order).1 := by
        rw [order, faithful.taken, store.execute_append]
        exact List.mem_append_left _ (faithful.replies i c reply found (.inr finished))
      have asked := (sound.own.2 i reply.request (Store.mem_of_mem_execute there)).1
      obtain ⟨other, answer⟩ := reply
      obtain rfl : request = other := by
        simpa [System.operations, found, calls] using asked
      exact .inr ⟨answer, rfl, there⟩

theorem Sound.atOnce_eq_nil (sound : desk.Sound store)
    (never : ∀ request, store.atOnce? request = none) : desk.atOnce = [] := by
  refine List.eq_nil_iff_forall_not_mem.mpr fun reply given => ?_
  have known := sound.spared reply given
  rw [never] at known
  cases known

theorem linear_of_run {identity : String} {size : Nat}
    (apt : ∀ request answer, store.atOnce? request = some answer →
      ∀ content, store.handle content request = (answer, content))
    (run : (start store identity size).run store moves = some desk) :
    Linear store identity size moves desk := by
  have sound := (start_sound store identity size).run run
  refine ⟨sound.own, fun earlier passes i j c result found finished unborn first second => ?_,
    fun i c request result => sound.answers, ?_, fun earlier passes i c found stopped => ?_,
    fun reply given => apt _ _ (sound.spared reply given)⟩
  · obtain ⟨⟨-, -, h, ended, faithful⟩, going, rest⟩ := passes.going run
    exact faithful.sublist_of_rests rest found (by rw [finished]; rfl) unborn first second
  · obtain ⟨h, ended, faithful⟩ := sound.faithful
    exact ⟨ended, faithful.taken, faithful.content⟩
  · obtain ⟨⟨-, -, h, ended, faithful⟩, going, rest⟩ := passes.going run
    exact faithful.not_handled_of_stopped rest found stopped

end Desk

/-! ## The stores in memory -/

theorem ReadingStore.eq_of_atOnce {request : ReadingStore.Request} {answer : request.Answer}
    (known : ReadingStore.atOnce? request = some answer) :
    ∃ window reason, (⟨request, answer⟩ : Reply ReadingStore.Request.Answer) =
      ⟨.quarantineWindow [] window reason, (0 : Nat)⟩ := by
  cases request with
  | quarantineWindow devices window reason =>
      cases devices with
      | nil =>
          cases known
          exact ⟨window, reason, rfl⟩
      | cons device devices => cases known
  | _ => cases known

theorem ReadingStore.handle_of_atOnce {request : ReadingStore.Request} {answer : request.Answer}
    (known : ReadingStore.atOnce? request = some answer) (store : ReadingStore) :
    store.handle request = (answer, store) := by
  obtain ⟨window, reason, same⟩ := ReadingStore.eq_of_atOnce known
  cases same
  exact store.quarantineWindow_nil window reason

namespace Outbox

def Request.batch? : Outbox.Request → Option (List Notice)
  | send batch => some batch
  | list => none

theorem execute_notices (outbox : Outbox) (order : List (Nat × Outbox.Request)) :
    (Outbox.store.execute outbox order).2.notices =
      outbox.notices ++ (order.filterMap (·.2.batch?)).flatten := by
  induction order generalizing outbox with
  | nil => exact (List.append_nil _).symm
  | cons entry order ih =>
      obtain ⟨i, request⟩ := entry
      cases request with
      | send batch =>
          have sent := ih (outbox.send batch)
          rw [Outbox.send, List.append_assoc] at sent
          exact sent
      | list => exact ih outbox

end Outbox

/-- The three stores in memory are linear, whatever their clients do and in whatever order everybody
moves. What is to be set aside for no devices does not go to the worker, and the outbox holds whole
batches, one behind the other. -/
theorem stores_linear (identity : String) (size : Nat) :
    (∀ moves desk,
      (Desk.start Directory.store identity size).run Directory.store moves = some desk →
        Linear Directory.store identity size moves desk ∧ desk.atOnce = []) ∧
    (∀ moves desk,
      (Desk.start ReadingStore.store identity size).run ReadingStore.store moves = some desk →
        Linear ReadingStore.store identity size moves desk ∧
          (∀ reply ∈ desk.atOnce, ∃ window reason,
            reply = ⟨.quarantineWindow [] window reason, (0 : Nat)⟩) ∧
          ∀ i window reason, (i, .quarantineWindow [] window reason) ∉ desk.order) ∧
    (∀ moves desk,
      (Desk.start Outbox.store identity size).run Outbox.store moves = some desk →
        Linear Outbox.store identity size moves desk ∧ desk.atOnce = [] ∧
          ∃ ended, desk.order = ended ++ desk.system.inHand ∧
            desk.system.content.notices = (ended.filterMap (·.2.batch?)).flatten) := by
  refine ⟨fun moves desk run => ?_, fun moves desk run => ?_, fun moves desk run => ?_⟩
  · have sound := (Desk.start_sound Directory.store identity size).run run
    exact ⟨Desk.linear_of_run (fun _ _ known => by cases known) run,
      sound.atOnce_eq_nil fun _ => rfl⟩
  · have sound := (Desk.start_sound ReadingStore.store identity size).run run
    have linear := Desk.linear_of_run (fun _ _ known => ReadingStore.handle_of_atOnce known) run
    refine ⟨linear, fun reply given => ?_, fun i window reason listed => ?_⟩
    · exact ReadingStore.eq_of_atOnce (sound.spared reply given)
    · cases (linear.own.2 i _ listed).2
  · have sound := (Desk.start_sound Outbox.store identity size).run run
    have linear := Desk.linear_of_run (fun _ _ known => by cases known) run
    obtain ⟨ended, order, content⟩ := linear.content
    refine ⟨linear, sound.atOnce_eq_nil fun _ => rfl, ended, order, ?_⟩
    rw [content]
    exact Outbox.execute_notices .empty ended

def crowd (first second fourth : μ) : List (Move μ) :=
  [.start, .ready, .begin_ (.call first), .check 0, .submit 0, .take, .finish, .collect 0,
    .begin_ (.call second), .check 1, .submit 1, .begin_ .shutdown, .check 2, .submit 2, .abandon 1,
    .begin_ (.call fourth), .check 3, .take, .finish, .take, .close, .stop, .part, .signal,
    .collect 2]

theorem stores_linear_crowd :
    let time : Timestamp := .mk 20000 0 0
    let window : Window := .mk time time
    let device : Device := ⟨⟨1⟩, ⟨8⟩, "probe", ⟨"1.0"⟩, .active, 1, time⟩
    let reading : Reading := ⟨⟨4⟩, ⟨1⟩, 0, time, .accepted, none⟩
    let notice (n : BitVec 128) : Notice := ⟨⟨n⟩, "flaw", "suspended"⟩
    let devices := crowd (.register device) (.setStatus ⟨1⟩ .suspended) (.get ⟨1⟩)
    let readings := crowd (.record reading) (.quarantineWindow [⟨1⟩] window "flaw") (.get ⟨4⟩)
    let notices := crowd (.send [notice 8, notice 9]) (.send [notice 8]) (.send [notice 9])
    (∃ desk, (Desk.start Directory.store "devices" 2).run Directory.store devices = some desk ∧
      desk.system.content.devices = [{ device with status := .suspended }] ∧
      Linear Directory.store "devices" 2 devices desk) ∧
    (∃ desk, (Desk.start ReadingStore.store "readings" 2).run ReadingStore.store
        (.begin_ (.call (.quarantineWindow [] window "flaw")) :: readings) = some desk ∧
      desk.atOnce = [⟨.quarantineWindow [] window "flaw", (0 : Nat)⟩] ∧
      desk.system.content.readings = [(⟨4⟩, reading.quarantined "flaw")] ∧
      Linear ReadingStore.store "readings" 2
        (.begin_ (.call (.quarantineWindow [] window "flaw")) :: readings) desk) ∧
    (∃ desk, (Desk.start Outbox.store "notices" 2).run Outbox.store notices = some desk ∧
      desk.system.content.notices = [notice 8, notice 9, notice 8] ∧
      Linear Outbox.store "notices" 2 notices desk) := by
  refine ⟨⟨_, rfl, rfl, ?_⟩, ⟨_, rfl, rfl, rfl, ?_⟩, ⟨_, rfl, rfl, ?_⟩⟩
  · exact ((stores_linear "devices" 2).1 _ _ rfl).1
  · exact ((stores_linear "readings" 2).2.1 _ _ rfl).1
  · exact ((stores_linear "notices" 2).2.2 _ _ rfl).1

end FleetResponse
