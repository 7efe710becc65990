import Mathlib.Data.List.Induction
import FleetResponse.Proofs.Database.Edge
import FleetResponse.Proofs.Database.Rows
import FleetResponse.Proofs.Fleet.Reachable

/-!
# The table of readings beside the store in memory

The same operations, one after the other, on the table of readings and on the store in memory.
-/

namespace FleetResponse.Database.Readings

inductive Operation
  | record (reading : Reading)
  | quarantineWindow (devices : List DeviceId) (window : Window) (reason : String)
  | quality (devices : List DeviceId)

namespace Operation

def request : Operation → ReadingStore.Request
  | record r => .record r
  | quarantineWindow devices window reason => .quarantineWindow devices window reason
  | quality devices => .quality devices

abbrev Answer (op : Operation) : Type :=
  op.request.Answer

def exchange : (op : Operation) → Exchange (Except QuarantineError op.Answer)
  | record r => Readings.record r
  | quarantineWindow devices window reason => Readings.quarantineWindow devices window reason
  | quality devices => Readings.quality devices

def inTable (known : List DeviceId) (rows : List Row) (op : Operation) :
    Except QuarantineError op.Answer × List Row :=
  op.exchange.run (server known) rows

def inMemory (fleet : Fleet) : (op : Operation) → Except QuarantineError op.Answer × Fleet
  | record r => fleet.record r
  | quarantineWindow devices window reason => fleet.quarantineWindow devices window reason
  | quality devices => fleet.quality devices

end Operation

def rowsAfter (known : List DeviceId) (ops : List Operation) : List Row :=
  ops.foldl (fun rows op => (op.inTable known rows).2) []

def fleetAfter (ops : List Operation) : Fleet :=
  ops.foldl (fun fleet op => (op.inMemory fleet).2) .empty

def storeAfter (ops : List Operation) : ReadingStore :=
  (fleetAfter ops).readings.content

/-- Whether the same operation after the same others has the same answer on both sides, and leaves
the same reading under every identifier. -/
def AgreeAt (known : List DeviceId) (earlier : List Operation) (op : Operation) : Prop :=
  (op.inTable known (rowsAfter known earlier)).1 = (op.inMemory (fleetAfter earlier)).1 ∧
    ∀ id, find (rowsAfter known (earlier ++ [op])) id =
      ((storeAfter (earlier ++ [op])).readings.lookup id).map row

def AtEveryStep (holds : List Operation → Operation → Prop) (ops : List Operation) : Prop :=
  ∀ earlier op, earlier ++ [op] <+: ops → holds earlier op

/-- What it takes for a table to do what a store does. A reading that is recorded again is of the
device that it was of. The numbers of the bounds of a window draw its edge where the window does.
The counts are within their type. -/
def CanAgree (store : ReadingStore) : Operation → Prop
  | .record r => ∀ old, store.readings.lookup r.id = some old → old.device = r.device
  | .quarantineWindow devices window _ =>
      ∀ entry ∈ store.readings, entry.2.status = .accepted → entry.2.device ∈ devices →
        (window.Spans entry.2.timestamp ↔ window.contains entry.2.timestamp = true)
  | .quality devices =>
      store.count devices .accepted < 2 ^ 63 ∧ store.count devices .quarantined < 2 ^ 63

/-- What every reading that is recorded has: a known device, and a timestamp of whole microseconds
that is no leap second. -/
def Sound (known : List DeviceId) (ops : List Operation) : Prop :=
  ∀ r, .record r ∈ ops → r.device ∈ known ∧ r.timestamp.Plain

def OneDevicePerReading (ops : List Operation) : Prop :=
  ∀ r s, .record r ∈ ops → .record s ∈ ops → r.id = s.id → r.device = s.device

/-! ## One operation -/

def tableHandle (store : ReadingStore) : (op : Operation) → op.Answer × ReadingStore
  | .record r => ((), store.record (store.placed r))
  | .quarantineWindow devices window reason =>
      (store.readings.countP fun entry => ReadingStore.reaches devices window entry.2,
        store.mark (ReadingStore.reaches devices window) reason)
  | .quality devices =>
      (⟨(Int64.ofNat (store.count devices .accepted)).toInt.toNat,
        (Int64.ofNat (store.count devices .quarantined)).toInt.toNat⟩, store)

section

variable {known : List DeviceId} {rows : List Row} {store : ReadingStore}

theorem tabled_quarantineWindow_nil (store : ReadingStore) (window : Window) (reason : String) :
    tableHandle store (.quarantineWindow [] window reason) = ((0 : Nat), store) := by
  have none_reached : ReadingStore.reaches [] window = fun _ => false := by
    funext r
    simp [ReadingStore.reaches]
  have same : store.mark (fun _ => false) reason = store := by
    simp [ReadingStore.mark]
  rw [tableHandle, none_reached, same, List.countP_false]
  rfl

theorem tabled_quality_nil (store : ReadingStore) :
    tableHandle store (.quality []) = (⟨0, 0⟩, store) := by
  simp [tableHandle, ReadingStore.count]

theorem inTable_tabled (h : Mirrors known rows store) {op : Operation} (sound : Sound known [op]) :
    (op.inTable known rows).1 = .ok (tableHandle store op).1 ∧
      Mirrors known (op.inTable known rows).2 (tableHandle store op).2 := by
  cases op with
  | record r =>
      obtain ⟨device, plain⟩ := sound r List.mem_cons_self
      exact h.run_record device plain
  | quarantineWindow devices window reason =>
      by_cases given : devices = []
      · subst given
        rw [tabled_quarantineWindow_nil]
        exact ⟨rfl, h⟩
      · exact h.run_quarantineWindow given window reason
  | quality devices =>
      by_cases given : devices = []
      · subst given
        rw [tabled_quality_nil]
        exact ⟨rfl, h⟩
      · have counted := h.run_quality given
        exact ⟨congrArg Prod.fst counted, congrArg Prod.snd counted ▸ h⟩

theorem inMemory_holds {fleet : Fleet} {dir : Directory} {outbox : Outbox}
    (h : fleet.Holds dir store outbox) (op : Operation) :
    (op.inMemory fleet).1 = .ok (store.handle op.request).1 ∧
      (op.inMemory fleet).2.Holds dir (store.handle op.request).2 outbox := by
  cases op with
  | record r =>
      obtain ⟨answer, holds⟩ := h.askReadings (.record r)
      exact ⟨congrArg (Except.mapError QuarantineError.worker) answer, holds⟩
  | quarantineWindow devices window reason =>
      by_cases given : devices = []
      · subst given
        have nothing := ReadingStore.quarantineWindow_nil store window reason
        simp only [Operation.request, ReadingStore.handle, nothing]
        exact ⟨rfl, h⟩
      · exact h.quarantineWindow given window reason
  | quality devices =>
      obtain ⟨answer, holds⟩ := h.askReadings (.quality devices)
      exact ⟨congrArg (Except.mapError QuarantineError.worker) answer, holds⟩

theorem reaches_eq_affects_iff {devices : List DeviceId} {window : Window} {r : Reading} :
    ReadingStore.reaches devices window r = ReadingStore.affects devices window r ↔
      (r.status = .accepted → r.device ∈ devices →
        (window.Spans r.timestamp ↔ window.contains r.timestamp = true)) := by
  have same : decide (window.Spans r.timestamp) = window.contains r.timestamp ↔
      (window.Spans r.timestamp ↔ window.contains r.timestamp = true) := by
    rw [Bool.eq_iff_iff, decide_eq_true_iff]
  rw [ReadingStore.reaches, ReadingStore.affects]
  by_cases accepted : r.status = .accepted
  · by_cases listed : r.device ∈ devices
    · simp [accepted, listed, same]
    · simp [listed]
  · simp [accepted]

theorem tableHandle_eq_handle {op : Operation} (agreeable : CanAgree store op) :
    tableHandle store op = store.handle op.request := by
  cases op with
  | record r =>
      have placed : store.placed r = r := by
        unfold ReadingStore.placed
        cases held : store.readings.lookup r.id with
        | none => rfl
        | some old =>
            rw [Option.elim_some, agreeable old held]
      rw [tableHandle, placed]
      rfl
  | quarantineWindow devices window reason =>
      have alike : ∀ entry ∈ store.readings, ReadingStore.reaches devices window entry.2 =
          ReadingStore.affects devices window entry.2 :=
        fun entry member => reaches_eq_affects_iff.mpr (agreeable entry member)
      refine Prod.ext (List.countP_congr fun entry member => by rw [alike entry member]) ?_
      exact (ReadingStore.mark_congr alike reason).trans
        (store.quarantineWindow_eq_mark devices window reason).symm
  | quality devices =>
      obtain ⟨accepted, quarantined⟩ := agreeable
      rw [tableHandle, (counted_iff _).mpr accepted, (counted_iff _).mpr quarantined]
      rfl

theorem canAgree_of_same (kept : store.WellKept) {op : Operation}
    (answer : (tableHandle store op).1 = (store.handle op.request).1)
    (readings : ∀ id, (tableHandle store op).2.readings.lookup id =
      (store.handle op.request).2.readings.lookup id) : CanAgree store op := by
  cases op with
  | record r =>
      intro old held
      -- On both sides the reading stands under its identifier, in the table with the old device.
      have replaced := ReadingStore.lookup_record store (store.placed r) r.id
      have own := ReadingStore.lookup_record store r r.id
      rw [if_pos (show r.id = (store.placed r).id from rfl)] at replaced
      rw [if_pos rfl] at own
      have same := replaced.symm.trans ((readings r.id).trans own)
      have device := congrArg Reading.device (Option.some_inj.mp same)
      simpa [ReadingStore.placed, held, Reading.stored] using device
  | quarantineWindow devices window reason =>
      intro entry member
      refine reaches_eq_affects_iff.mp ?_
      have same : (store.mark (ReadingStore.reaches devices window) reason).readings.lookup
          entry.1 = (store.mark (ReadingStore.affects devices window) reason).readings.lookup
            entry.1 := by
        rw [← ReadingStore.quarantineWindow_eq_mark]
        exact readings entry.1
      rw [ReadingStore.lookup_mark, ReadingStore.lookup_mark, kept.lookup_eq member,
        Option.map_some, Option.map_some, Option.some_inj] at same
      rw [Bool.eq_iff_iff, ← ReadingStore.swept_ne_iff devices window reason, ReadingStore.swept,
        ← same]
      by_cases reached : ReadingStore.reaches devices window entry.2 = true
      · have accepted : entry.2.status = .accepted := by
          simp only [ReadingStore.reaches, Bool.and_eq_true, decide_eq_true_eq] at reached
          exact reached.1.1
        rw [if_pos reached]
        exact iff_of_true reached (ReadingStore.quarantined_ne accepted reason)
      · rw [if_neg reached]
        exact iff_of_false reached fun differ => differ rfl
  | quality devices =>
      have counts := Quality.mk.inj answer
      exact ⟨(counted_iff _).mp counts.1, (counted_iff _).mp counts.2⟩

end

/-! ## Runs -/

section

variable {known : List DeviceId} {ops : List Operation}

theorem along_snoc {holds : List Operation → Operation → Prop} {op : Operation} :
    AtEveryStep holds (ops ++ [op]) ↔ AtEveryStep holds ops ∧ holds ops op := by
  constructor
  · intro along
    refine ⟨fun earlier next early => ?_, along ops op List.prefix_rfl⟩
    exact along earlier next (early.trans (List.prefix_append ops [op]))
  · rintro ⟨along, last⟩ earlier next early
    rcases List.prefix_concat_iff.mp early with whole | early
    · obtain ⟨rfl, same⟩ := List.append_inj' whole rfl
      exact List.singleton_inj.mp same ▸ last
    · exact along earlier next early

theorem rowsAfter_snoc (known : List DeviceId) (ops : List Operation) (op : Operation) :
    rowsAfter known (ops ++ [op]) = (op.inTable known (rowsAfter known ops)).2 := by
  rw [rowsAfter, List.foldl_append]
  rfl

theorem fleetAfter_holds (ops : List Operation) :
    (fleetAfter ops).Holds .empty (storeAfter ops) .empty := by
  induction ops using List.reverseRecOn with
  | nil => exact ⟨⟨rfl, rfl, rfl⟩, rfl, rfl, rfl⟩
  | append_singleton ops op ih =>
      obtain ⟨running, directory, -, outbox⟩ := (inMemory_holds ih op).2
      rw [storeAfter, fleetAfter, List.foldl_append]
      exact ⟨running, directory, rfl, outbox⟩

theorem storeAfter_snoc (ops : List Operation) (op : Operation) :
    storeAfter (ops ++ [op]) = ((storeAfter ops).handle op.request).2 := by
  rw [storeAfter, fleetAfter, List.foldl_append]
  exact (inMemory_holds (fleetAfter_holds ops) op).2.readings

theorem swept_origin (devices : List DeviceId) (window : Window) (reason : String) (r : Reading) :
    (ReadingStore.swept devices window reason r).device = r.device ∧
      (ReadingStore.swept devices window reason r).timestamp = r.timestamp := by
  unfold ReadingStore.swept
  split <;> exact ⟨rfl, rfl⟩

theorem origin (ops : List Operation) {entry : ReadingId × Reading}
    (member : entry ∈ (storeAfter ops).readings) :
    ∃ r, .record r ∈ ops ∧ r.id = entry.1 ∧ r.device = entry.2.device ∧
      r.timestamp.storagePrecision = entry.2.timestamp := by
  -- What stands in a store was recorded, with the same device and timestamp.
  induction ops using List.reverseRecOn generalizing entry with
  | nil => cases member
  | append_singleton ops op ih =>
      have earlier {entry : ReadingId × Reading} (member : entry ∈ (storeAfter ops).readings) :
          ∃ r, .record r ∈ ops ++ [op] ∧ r.id = entry.1 ∧ r.device = entry.2.device ∧
            r.timestamp.storagePrecision = entry.2.timestamp := by
        obtain ⟨r, recorded, rest⟩ := ih member
        exact ⟨r, List.mem_append_left [op] recorded, rest⟩
      rw [storeAfter_snoc] at member
      cases op with
      | record r =>
          rcases ReadingStore.mem_record member with rfl | kept
          · exact ⟨r, List.mem_append_right ops List.mem_cons_self, rfl, rfl, rfl⟩
          · exact earlier kept
      | quarantineWindow devices window reason =>
          simp only [Operation.request, ReadingStore.handle,
            ReadingStore.quarantineWindow_readings] at member
          obtain ⟨before, kept, rfl⟩ := List.mem_map.mp member
          obtain ⟨device, timestamp⟩ := swept_origin devices window reason before.2
          rw [device, timestamp]
          exact earlier kept
      | quality devices => exact earlier member

theorem Sound.plain (sound : Sound known ops) {entry : ReadingId × Reading}
    (member : entry ∈ (storeAfter ops).readings) : entry.2.timestamp.Plain := by
  obtain ⟨r, recorded, -, -, timestamp⟩ := origin ops member
  have plain := (sound r recorded).2
  rw [← timestamp, plain.stored]
  exact plain

theorem Sound.append {more : List Operation} (sound : Sound known (ops ++ more)) :
    Sound known ops ∧ Sound known more :=
  ⟨fun r recorded => sound r (List.mem_append_left more recorded),
    fun r recorded => sound r (List.mem_append_right ops recorded)⟩

theorem lookup_row_iff {store other : ReadingStore}
    (plain : ∀ entry ∈ store.readings, entry.2.timestamp.Plain)
    (other_plain : ∀ entry ∈ other.readings, entry.2.timestamp.Plain) (id : ReadingId) :
    (store.readings.lookup id).map row = (other.readings.lookup id).map row ↔
      store.readings.lookup id = other.readings.lookup id := by
  constructor
  · intro same
    cases held : store.readings.lookup id with
    | none =>
        rw [held, Option.map_none, eq_comm, Option.map_eq_none_iff] at same
        exact same.symm
    | some r =>
        rw [held, Option.map_some, eq_comm, Option.map_eq_some_iff] at same
        obtain ⟨found, there, rows⟩ := same
        have found_plain := other_plain (id, found) (ReadingStore.mem_of_lookup there)
        have r_plain := plain (id, r) (ReadingStore.mem_of_lookup held)
        obtain rfl := row_inj found_plain r_plain rows
        exact there.symm
  · exact congrArg (Option.map row)

theorem agreeAt_iff {op : Operation} (sound : Sound known (ops ++ [op]))
    (mirrors : Mirrors known (rowsAfter known ops) (storeAfter ops)) :
    AgreeAt known ops op ↔ CanAgree (storeAfter ops) op := by
  obtain ⟨answer, mirrored⟩ := inTable_tabled mirrors sound.append.2
  have memory := (inMemory_holds (fleetAfter_holds ops) op).1
  rw [AgreeAt, answer, memory, rowsAfter_snoc, Except.ok.injEq]
  constructor
  · rintro ⟨same, readings⟩
    refine canAgree_of_same mirrors.kept same fun id => ?_
    have found := readings id
    rw [mirrored.find, lookup_row_iff mirrored.plain fun _ => sound.plain] at found
    rw [found, storeAfter_snoc]
  · intro agreeable
    have same := tableHandle_eq_handle agreeable
    refine ⟨congrArg Prod.fst same, fun id => ?_⟩
    rw [mirrored.find, same, storeAfter_snoc]

theorem mirrors_after (sound : Sound known ops)
    (agreeable : AtEveryStep (fun earlier => CanAgree (storeAfter earlier)) ops) :
    Mirrors known (rowsAfter known ops) (storeAfter ops) := by
  induction ops using List.reverseRecOn with
  | nil => exact .empty known
  | append_singleton ops op ih =>
      obtain ⟨agreeable, last⟩ := along_snoc.mp agreeable
      have mirrored := (inTable_tabled (ih sound.append.1 agreeable) sound.append.2).2
      rw [rowsAfter_snoc, storeAfter_snoc, ← tableHandle_eq_handle last]
      exact mirrored

theorem along_agreeAt_iff (sound : Sound known ops) :
    AtEveryStep (AgreeAt known) ops ↔
      AtEveryStep (fun earlier => CanAgree (storeAfter earlier)) ops := by
  induction ops using List.reverseRecOn with
  | nil =>
      refine iff_of_true ?_ ?_ <;>
        exact fun earlier op early => absurd (List.prefix_nil.mp early) (by simp)
  | append_singleton ops op ih =>
      -- The table mirrors the store only while it can agree with it, which is known of the other
      -- operations by the time the last one is compared.
      rw [along_snoc, along_snoc, ih sound.append.1]
      exact and_congr_right fun agreeable =>
        agreeAt_iff sound (mirrors_after sound.append.1 agreeable)

/-! ## Runs with a device for every identifier -/

theorem storeAfter_length_le (ops : List Operation) :
    (storeAfter ops).readings.length ≤ ops.length := by
  induction ops using List.reverseRecOn with
  | nil => exact Nat.le_refl 0
  | append_singleton ops op ih =>
      rw [storeAfter_snoc, List.length_append, List.length_singleton]
      cases op with
      | record r =>
          simp only [Operation.request, ReadingStore.handle]
          cases held : (storeAfter ops).readings.lookup r.id with
          | none =>
              rw [ReadingStore.record_fresh held, List.length_append, List.length_singleton]
              omega
          | some old =>
              rw [ReadingStore.record_held held, List.length_map]
              omega
      | quarantineWindow devices window reason =>
          simp only [Operation.request, ReadingStore.handle,
            ReadingStore.quarantineWindow_readings, List.length_map]
          omega
      | quality devices => exact Nat.le_succ_of_le ih

theorem mem_of_along {earlier : List Operation} {op : Operation} (early : earlier ++ [op] <+: ops) :
    op ∈ ops ∧ ∀ before ∈ earlier, before ∈ ops :=
  ⟨early.subset (List.mem_append_right earlier List.mem_cons_self),
    fun _ member => early.subset (List.mem_append_left [op] member)⟩

structure WithinLimits (ops : List Operation) : Prop where
  bounds : ∀ devices window reason, .quarantineWindow devices window reason ∈ ops →
    ¬ window.opens.IsLeap ∧ ¬ window.closes.IsLeap
  few : ops.length < 2 ^ 63

theorem canAgree_of_oneDevicePerReading (sound : Sound known ops) (measured : WithinLimits ops)
    (steady : OneDevicePerReading ops) :
    AtEveryStep (fun earlier => CanAgree (storeAfter earlier)) ops := by
  intro earlier op early
  obtain ⟨last, before⟩ := mem_of_along early
  cases op with
  | record r =>
      intro old held
      obtain ⟨s, recorded, named, device, -⟩ := origin earlier (ReadingStore.mem_of_lookup held)
      rw [← device]
      exact steady s r (before _ recorded) last named
  | quarantineWindow devices window reason =>
      intro entry member _ _
      obtain ⟨opens, closes⟩ := measured.bounds devices window reason last
      have plain : entry.2.timestamp.Plain :=
        Sound.plain (fun r recorded => sound r (before _ recorded)) member
      have inside := Window.spans_iff plain.not_raised plain.2 opens closes
      rwa [plain.stored] at inside
  | quality devices =>
      have count_lt (status : ReadingStatus) : (storeAfter earlier).count devices status < 2 ^ 63 :=
        calc (storeAfter earlier).count devices status
            ≤ (storeAfter earlier).readings.length := List.countP_le_length
          _ ≤ earlier.length := storeAfter_length_le earlier
          _ ≤ ops.length := ((List.prefix_append earlier _).trans early).length_le
          _ < 2 ^ 63 := measured.few
      exact ⟨count_lt .accepted, count_lt .quarantined⟩

theorem held_of_recorded
    (agreeable : AtEveryStep (fun earlier => CanAgree (storeAfter earlier)) ops)
    {r : Reading} (recorded : .record r ∈ ops) :
    ∃ old, (storeAfter ops).readings.lookup r.id = some old ∧ old.device = r.device := by
  induction ops using List.reverseRecOn with
  | nil => cases recorded
  | append_singleton ops op ih =>
      obtain ⟨agreeable, last⟩ := along_snoc.mp agreeable
      rw [storeAfter_snoc]
      rcases List.mem_append.mp recorded with before | here
      · obtain ⟨old, held, device⟩ := ih agreeable before
        cases op with
        | record s =>
            -- Another reading under the same identifier: table and store can agree on it, so it is
            -- of the device of the one that it replaces.
            simp only [Operation.request, ReadingStore.handle, ReadingStore.lookup_record]
            by_cases named : r.id = s.id
            · rw [if_pos named]
              exact ⟨s.stored, rfl, (last old (named ▸ held)).symm.trans device⟩
            · rw [if_neg named]
              exact ⟨old, held, device⟩
        | quarantineWindow devices window reason =>
            simp only [Operation.request, ReadingStore.handle,
              ReadingStore.quarantineWindow_readings, ReadingStore.lookup_map_reading, held]
            exact ⟨_, rfl, (swept_origin devices window reason old).1.trans device⟩
        | quality devices => exact ⟨old, held, device⟩
      · obtain rfl := List.mem_singleton.mp here
        simp only [Operation.request, ReadingStore.handle, ReadingStore.lookup_record]
        exact ⟨r.stored, if_pos trivial, rfl⟩

theorem oneDevicePerReading_of_canAgree
    (agreeable : AtEveryStep (fun earlier => CanAgree (storeAfter earlier)) ops) :
    OneDevicePerReading ops := by
  induction ops using List.reverseRecOn with
  | nil => exact fun r s recorded => absurd recorded List.not_mem_nil
  | append_singleton ops op ih =>
      obtain ⟨before_agreeable, last⟩ := along_snoc.mp agreeable
      have against {r s : Reading} (recorded : .record r ∈ ops) (now : op = .record s)
          (named : r.id = s.id) : r.device = s.device := by
        subst now
        obtain ⟨old, held, device⟩ := held_of_recorded before_agreeable recorded
        exact device.symm.trans (last old (named ▸ held))
      intro r s r_recorded s_recorded named
      rcases List.mem_append.mp r_recorded with r_before | r_now <;>
        rcases List.mem_append.mp s_recorded with s_before | s_now
      · exact ih before_agreeable r s r_before s_before named
      · exact against r_before (List.mem_singleton.mp s_now).symm named
      · exact (against s_before (List.mem_singleton.mp r_now).symm named.symm).symm
      · have same := (List.mem_singleton.mp r_now).trans (List.mem_singleton.mp s_now).symm
        exact congrArg Reading.device (Operation.record.inj same)

/-- An operation after others is answered as in memory, and leaves the same readings, along all of a
run just when table and store can agree each time. Where no leap second is a bound and all can be
counted, that is when every reading recorded under one identifier is of one device. Without devices
nothing is sent and nothing found, on both sides. A row stands for one reading. -/
theorem agree_iff (sound : Sound known ops) :
    (AtEveryStep (AgreeAt known) ops ↔
      AtEveryStep (fun earlier => CanAgree (storeAfter earlier)) ops) ∧
    (WithinLimits ops → (AtEveryStep (AgreeAt known) ops ↔ OneDevicePerReading ops)) ∧
    (∀ store : ReadingStore, ∀ window reason,
      Readings.quarantineWindow [] window reason = .known (.ok 0) ∧
      store.quarantineWindow [] window reason = (0, store) ∧
      Readings.quality [] = .known (.ok ⟨0, 0⟩) ∧ store.quality [] = ⟨0, 0⟩) ∧
    (∀ a b : Reading, a.timestamp.Plain → b.timestamp.Plain → (row a = row b ↔ a = b)) := by
  refine ⟨along_agreeAt_iff sound, fun measured => ?_, fun store window reason => ?_,
    fun a b a_plain b_plain => ⟨row_inj a_plain b_plain, congrArg row⟩⟩
  · rw [along_agreeAt_iff sound]
    exact ⟨oneDevicePerReading_of_canAgree, canAgree_of_oneDevicePerReading sound measured⟩
  · refine ⟨rfl, ReadingStore.quarantineWindow_nil store window reason, rfl, ?_⟩
    simp [ReadingStore.quality, ReadingStore.count]

end

def sample (device : Nat) (value : UInt64) : Reading :=
  ⟨.ofNat _ 1, .ofNat _ device, value, newYear.opens, .accepted, none⟩

theorem agree_iff_replaced :
    let known : List DeviceId := [.ofNat _ 2]
    let ops : List Operation := [.record (sample 2 0), .quarantineWindow known newYear "flaw",
      .record (sample 2 1), .quality known]
    Sound known ops ∧ AtEveryStep (AgreeAt known) ops := by
  intro known ops
  have sound : Sound known ops := by
    intro r recorded
    obtain rfl | rfl : r = sample 2 0 ∨ r = sample 2 1 := by simpa [ops] using recorded
    all_goals exact ⟨List.mem_cons_self, rfl, by decide⟩
  have measured : WithinLimits ops := by
    refine ⟨fun devices window reason swept => ?_, by decide⟩
    obtain ⟨-, rfl, -⟩ : devices = known ∧ window = newYear ∧ reason = "flaw" := by
      simpa [ops] using swept
    decide
  have steady : OneDevicePerReading ops := by
    intro r s r_recorded s_recorded _
    have device {r : Reading} (recorded : .record r ∈ ops) : r.device = .ofNat _ 2 := by
      obtain rfl | rfl : r = sample 2 0 ∨ r = sample 2 1 := by simpa [ops] using recorded
      all_goals rfl
    rw [device r_recorded, device s_recorded]
  exact ⟨sound, ((agree_iff sound).2.1 measured).mpr steady⟩

/-- A reading that is recorded again with another device keeps its device in the table. -/
theorem not_agree_of_moved_device :
    let known : List DeviceId := [.ofNat _ 2, .ofNat _ 3]
    let ops : List Operation := [.record (sample 2 0), .record (sample 3 0)]
    Sound known ops ∧
      (find (rowsAfter known ops) (.ofNat _ 1)).map (·.value "device_id") =
        some (.text (Ident.text (.ofNat .device 2))) ∧
      ((storeAfter ops).readings.lookup (.ofNat _ 1)).map (·.device) = some (.ofNat _ 3) ∧
      ¬ AtEveryStep (AgreeAt known) ops := by
  intro known ops
  have sound : Sound known ops := by
    intro r recorded
    obtain rfl | rfl : r = sample 2 0 ∨ r = sample 3 0 := by simpa [ops] using recorded
    all_goals exact ⟨by decide, rfl, by decide⟩
  refine ⟨sound, rfl, rfl, fun agree => ?_⟩
  have steady := oneDevicePerReading_of_canAgree ((along_agreeAt_iff sound).mp agree)
  have same_device : (sample 2 0).device = (sample 3 0).device :=
    steady _ _ (by simp [ops]) (by simp [ops]) rfl
  exact absurd same_device (by decide)

end FleetResponse.Database.Readings
