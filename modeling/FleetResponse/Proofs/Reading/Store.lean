import FleetResponse.Reading.Store

namespace FleetResponse.ReadingStore

structure WellKept (store : ReadingStore) : Prop where
  distinct : (store.readings.map (·.1)).Nodup
  own : ∀ entry ∈ store.readings, entry.2.id = entry.1
  stored : ∀ entry ∈ store.readings, entry.2.timestamp.storagePrecision = entry.2.timestamp

theorem empty_wellKept : empty.WellKept where
  distinct := List.nodup_nil
  own _ member := by cases member
  stored _ member := by cases member

theorem WellKept.map {store : ReadingStore} (h : store.WellKept)
    (f : ReadingId × Reading → ReadingId × Reading) (key : ∀ entry, (f entry).1 = entry.1)
    (own : ∀ entry ∈ store.readings, (f entry).2.id = entry.1)
    (stored : ∀ entry ∈ store.readings,
      (f entry).2.timestamp.storagePrecision = (f entry).2.timestamp) :
    WellKept ⟨store.readings.map f⟩ where
  distinct := by
    have keys : (fun entry => (f entry).1) = Prod.fst := funext key
    simpa [Function.comp_def, keys] using h.distinct
  own entry member := by
    obtain ⟨before, kept, rfl⟩ := List.mem_map.mp member
    rw [own before kept, key before]
  stored entry member := by
    obtain ⟨before, kept, rfl⟩ := List.mem_map.mp member
    exact stored before kept

theorem record_wellKept {store : ReadingStore} (h : store.WellKept) (r : Reading) :
    (store.record r).WellKept := by
  have r_stored : r.stored.timestamp.storagePrecision = r.stored.timestamp :=
    r.timestamp.storagePrecision_idem
  unfold record
  split
  · apply h.map
    · intro entry
      split
      · rename_i same
        exact same.symm
      · rfl
    · intro entry member
      split
      · rename_i same
        exact same.symm
      · exact h.own entry member
    · intro entry member
      split
      · exact r_stored
      · exact h.stored entry member
  · rename_i fresh
    have absent : r.id ∉ store.readings.map (·.1) := by
      intro member
      obtain ⟨entry, kept, same⟩ := List.mem_map.mp member
      exact fresh (List.any_eq_true.mpr ⟨entry, kept, by simpa using same⟩)
    constructor
    · rw [List.map_append, List.map_singleton, List.nodup_append]
      refine ⟨h.distinct, by simp, ?_⟩
      rintro id member _ last rfl
      obtain rfl : id = r.id := List.mem_singleton.mp last
      exact absent member
    · intro entry member
      rcases List.mem_append.mp member with earlier | last
      · exact h.own entry earlier
      · obtain rfl := List.mem_singleton.mp last
        rfl
    · intro entry member
      rcases List.mem_append.mp member with earlier | last
      · exact h.stored entry earlier
      · obtain rfl := List.mem_singleton.mp last
        exact r_stored

theorem quarantine_wellKept {store after : ReadingStore} (h : store.WellKept) {id : ReadingId}
    {reason : String} (done : store.quarantine id reason = .ok after) : after.WellKept := by
  unfold quarantine at done
  split at done
  · cases done
  · obtain rfl := Except.ok.inj done
    apply h.map
    · intro entry
      split <;> rfl
    · intro entry member
      split <;> exact h.own entry member
    · intro entry member
      split <;> exact h.stored entry member

def mark (store : ReadingStore) (marks : Reading → Bool) (reason : String) : ReadingStore :=
  ⟨store.readings.map fun entry =>
    (entry.1, if marks entry.2 then entry.2.quarantined reason else entry.2)⟩

theorem mark_congr {store : ReadingStore} {marks others : Reading → Bool}
    (same : ∀ entry ∈ store.readings, marks entry.2 = others entry.2) (reason : String) :
    store.mark marks reason = store.mark others reason :=
  congrArg mk (List.map_congr_left fun entry member => by rw [same entry member])

theorem quarantineWindow_eq_mark (store : ReadingStore) (devices : List DeviceId)
    (window : Window) (reason : String) :
    (store.quarantineWindow devices window reason).2 =
      store.mark (affects devices window) reason := by
  refine congrArg mk (List.map_congr_left fun entry _ => ?_)
  split <;> rfl

theorem mark_wellKept {store : ReadingStore} (h : store.WellKept) (marks : Reading → Bool)
    (reason : String) : (store.mark marks reason).WellKept := by
  apply h.map
  · intro entry
    rfl
  · intro entry member
    dsimp only
    split <;> exact h.own entry member
  · intro entry member
    dsimp only
    split <;> exact h.stored entry member

theorem quarantineWindow_wellKept {store : ReadingStore} (h : store.WellKept)
    (devices : List DeviceId) (window : Window) (reason : String) :
    (store.quarantineWindow devices window reason).2.WellKept := by
  rw [quarantineWindow_eq_mark]
  exact mark_wellKept h (affects devices window) reason

theorem handle_wellKept {store : ReadingStore} (h : store.WellKept) (request : Request) :
    (store.handle request).2.WellKept := by
  cases request with
  | record r => exact record_wellKept h r
  | get id => exact h
  | quarantine id reason =>
      simp only [handle]
      cases done : store.quarantine id reason with
      | ok after => exact quarantine_wellKept h done
      | error e => exact h
  | quarantineWindow devices window reason =>
      exact quarantineWindow_wellKept h devices window reason
  | quality devices => exact h

/-! ## Changes -/

def changed (before after : ReadingStore) : List ReadingId :=
  (before.readings.map (·.1)).filter fun id =>
    before.readings.lookup id ≠ after.readings.lookup id

theorem lookup_map_entry (readings : List (ReadingId × Reading)) (g : ReadingId → Reading → Reading)
    (id : ReadingId) :
    (readings.map fun entry => (entry.1, g entry.1 entry.2)).lookup id =
      (readings.lookup id).map (g id) := by
  induction readings with
  | nil => rfl
  | cons entry readings ih =>
      rw [List.map_cons, List.lookup_cons, List.lookup_cons]
      split
      · rename_i same
        rw [eq_of_beq same]
        rfl
      · exact ih

theorem lookup_map_reading (readings : List (ReadingId × Reading)) (g : Reading → Reading)
    (id : ReadingId) :
    (readings.map fun entry => (entry.1, g entry.2)).lookup id = (readings.lookup id).map g :=
  lookup_map_entry readings (fun _ => g) id

theorem lookup_mark (store : ReadingStore) (marks : Reading → Bool) (reason : String)
    (id : ReadingId) : (store.mark marks reason).readings.lookup id =
      (store.readings.lookup id).map fun r => if marks r then r.quarantined reason else r :=
  lookup_map_reading store.readings (fun r => if marks r then r.quarantined reason else r) id

theorem WellKept.lookup_eq {store : ReadingStore} (h : store.WellKept)
    {entry : ReadingId × Reading} (member : entry ∈ store.readings) :
    store.readings.lookup entry.1 = some entry.2 := by
  obtain ⟨before, after, split⟩ := List.append_of_mem member
  have distinct := h.distinct
  rw [split, List.map_append, List.map_cons, List.nodup_append] at distinct
  refine List.lookup_eq_some_iff.mpr ⟨before, after, split, ?_⟩
  intro earlier kept
  have differ : earlier.1 ≠ entry.1 :=
    distinct.2.2 _ (List.mem_map_of_mem kept) _ (List.mem_cons_self ..)
  simpa using differ.symm

theorem mem_of_lookup {readings : List (ReadingId × Reading)} {id : ReadingId} {r : Reading}
    (held : readings.lookup id = some r) : (id, r) ∈ readings := by
  obtain ⟨before, later, rfl, -⟩ := List.lookup_eq_some_iff.mp held
  exact List.mem_append_right before List.mem_cons_self

theorem lookup_cons_entry (entry : ReadingId × Reading) (readings : List (ReadingId × Reading))
    (id : ReadingId) :
    (entry :: readings).lookup id = if id = entry.1 then some entry.2 else readings.lookup id := by
  rw [List.lookup_cons]
  by_cases own : id = entry.1
  · simp [own]
  · have other : (id == entry.1) = false := beq_false_of_ne own
    rw [other, if_neg own]

theorem any_key_eq (readings : List (ReadingId × Reading)) (id : ReadingId) :
    (readings.any fun entry => entry.1 = id) = (readings.lookup id).isSome := by
  induction readings with
  | nil => rfl
  | cons entry readings ih =>
      rw [List.any_cons, lookup_cons_entry, ih]
      by_cases same : entry.1 = id
      · simp [same]
      · simp [same, Ne.symm same]

theorem record_held {store : ReadingStore} {r old : Reading}
    (held : store.readings.lookup r.id = some old) : (store.record r).readings =
      store.readings.map fun entry => if entry.1 = r.id then (r.id, r.stored) else entry := by
  rw [record, if_pos (by rw [any_key_eq, held]; rfl)]

theorem record_fresh {store : ReadingStore} {r : Reading}
    (fresh : store.readings.lookup r.id = none) :
    (store.record r).readings = store.readings ++ [(r.id, r.stored)] := by
  rw [record, if_neg (by rw [any_key_eq, fresh]; exact Bool.false_ne_true)]

theorem keys_record (store : ReadingStore) (r : Reading) :
    (store.record r).readings.map (·.1) = if r.id ∈ store.readings.map (·.1)
      then store.readings.map (·.1) else store.readings.map (·.1) ++ [r.id] := by
  have listed : r.id ∈ store.readings.map (·.1) ↔ (store.readings.lookup r.id).isSome = true := by
    rw [← any_key_eq, List.any_eq_true, List.mem_map]
    simp
  cases held : store.readings.lookup r.id with
  | none =>
      rw [if_neg (by rw [listed, held]; exact Bool.false_ne_true), record_fresh held,
        List.map_append]
      rfl
  | some old =>
      rw [if_pos (by rw [listed, held]; rfl), record_held held, List.map_map]
      refine List.map_congr_left fun entry _ => ?_
      rw [Function.comp_apply]
      split
      · rename_i same
        exact same.symm
      · rfl

theorem mem_record {store : ReadingStore} {r : Reading} {entry : ReadingId × Reading}
    (member : entry ∈ (store.record r).readings) :
    entry = (r.id, r.stored) ∨ entry ∈ store.readings := by
  cases held : store.readings.lookup r.id with
  | none =>
      rw [record_fresh held, List.mem_append, List.mem_singleton] at member
      exact member.symm
  | some old =>
      rw [record_held held] at member
      obtain ⟨before, kept, rfl⟩ := List.mem_map.mp member
      split
      · exact .inl rfl
      · exact .inr kept

theorem lookup_map_replaced (readings : List (ReadingId × Reading)) (key id : ReadingId)
    (r : Reading) :
    (readings.map fun entry => if entry.1 = key then (key, r) else entry).lookup id =
      if id = key then (readings.lookup key).map fun _ => r else readings.lookup id := by
  induction readings with
  | nil => simp
  | cons entry readings ih =>
      rw [List.map_cons, lookup_cons_entry, lookup_cons_entry, lookup_cons_entry, ih]
      by_cases same : entry.1 = key
      · subst same
        by_cases own : id = entry.1 <;> simp [own]
      · by_cases own : id = key
        · subst own
          simp [same, Ne.symm same]
        · simp [same, own]

theorem lookup_record (store : ReadingStore) (r : Reading) (id : ReadingId) :
    (store.record r).readings.lookup id =
      if id = r.id then some r.stored else store.readings.lookup id := by
  cases held : store.readings.lookup r.id with
  | none =>
      rw [record_fresh held, List.lookup_append, lookup_cons_entry]
      by_cases own : id = r.id
      · subst own
        simp [held]
      · simp [own]
  | some old =>
      rw [record_held held, lookup_map_replaced, held]
      rfl

theorem quarantined_ne {r : Reading} (accepted : r.status = .accepted) (reason : String) :
    r.quarantined reason ≠ r := by
  intro same
  have := congrArg Reading.status same
  rw [accepted] at this
  cases this

theorem affects_iff {devices : List DeviceId} {window : Window} {r : Reading} :
    affects devices window r = true ↔
      r.status = .accepted ∧ r.device ∈ devices ∧ window.contains r.timestamp = true := by
  simp [affects, and_assoc]

def swept (devices : List DeviceId) (window : Window) (reason : String) (r : Reading) : Reading :=
  if affects devices window r then r.quarantined reason else r

theorem quarantineWindow_readings (store : ReadingStore) (devices : List DeviceId)
    (window : Window) (reason : String) :
    (store.quarantineWindow devices window reason).2.readings =
      store.readings.map fun entry => (entry.1, swept devices window reason entry.2) :=
  congrArg readings (store.quarantineWindow_eq_mark devices window reason)

theorem swept_ne_iff (devices : List DeviceId) (window : Window) (reason : String) (r : Reading) :
    swept devices window reason r ≠ r ↔ affects devices window r = true := by
  unfold swept
  split
  · rename_i affected
    exact iff_of_true (quarantined_ne (affects_iff.mp affected).1 reason) affected
  · rename_i spared
    exact iff_of_false (fun differ => differ rfl) spared

theorem changed_map {store after : ReadingStore} (h : store.WellKept) (g : Reading → Reading)
    (mapped : after.readings = store.readings.map fun entry => (entry.1, g entry.2)) :
    store.changed after = (store.readings.filter fun entry => g entry.2 ≠ entry.2).map (·.1) := by
  rw [changed, List.filter_map]
  congr 1
  apply List.filter_congr
  intro entry member
  rw [Function.comp_apply, mapped, lookup_map_reading, h.lookup_eq member, Option.map_some,
    decide_eq_decide]
  simp [eq_comm]

theorem changed_quarantineWindow {store : ReadingStore} (h : store.WellKept)
    (devices : List DeviceId) (window : Window) (reason : String) :
    store.changed (store.quarantineWindow devices window reason).2 =
      (store.readings.filter fun entry => affects devices window entry.2).map (·.1) := by
  rw [changed_map h _ (quarantineWindow_readings store devices window reason)]
  congr 1
  apply List.filter_congr
  intro entry member
  rw [Bool.eq_iff_iff, decide_eq_true_eq, swept_ne_iff]

theorem quarantineWindow_count {store : ReadingStore} (h : store.WellKept)
    (devices : List DeviceId) (window : Window) (reason : String) :
    (store.quarantineWindow devices window reason).1 =
      (store.changed (store.quarantineWindow devices window reason).2).length := by
  rw [changed_quarantineWindow h, List.length_map, ← List.countP_eq_length_filter]
  rfl

theorem quarantineWindow_nil (store : ReadingStore) (window : Window) (reason : String) :
    store.quarantineWindow [] window reason = (0, store) := by
  simp [quarantineWindow, affects]

end FleetResponse.ReadingStore
