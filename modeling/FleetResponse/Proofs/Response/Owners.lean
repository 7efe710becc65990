import FleetResponse.Proofs.Distinct
import FleetResponse.Response.Owners

namespace FleetResponse.OwnerSet

structure Tracks (owners : OwnerSet) (met : List ScitizenId) : Prop where
  order : owners.order = met.eraseDups
  seen : ∀ owner, owner ∈ owners.seen ↔ owner ∈ met
  alike : owners.order.Perm owners.seen

theorem empty_tracks : empty.Tracks [] :=
  ⟨rfl, fun _ => Iff.rfl, .nil⟩

namespace Tracks

variable {owners : OwnerSet} {met : List ScitizenId}

theorem contains_iff (h : owners.Tracks met) {owner : ScitizenId} :
    owners.seen.contains owner = true ↔ owner ∈ met := by
  rw [List.contains_iff_mem, h.seen]

theorem isNew_iff (h : owners.Tracks met) {owner : ScitizenId} :
    (owners.insert owner).1 = true ↔ owner ∉ met := by
  rw [← h.contains_iff, OwnerSet.insert]
  cases owners.seen.contains owner <;> simp

theorem insert (h : owners.Tracks met) (owner : ScitizenId) :
    (owners.insert owner).2.Tracks (met ++ [owner]) := by
  by_cases known : owner ∈ met
  · rw [OwnerSet.insert, if_pos (h.contains_iff.mpr known)]
    constructor
    · rw [Distinct.eraseDups_concat, if_pos known, h.order]
    · intro other
      rw [h.seen other, List.mem_append, List.mem_singleton]
      constructor
      · exact Or.inl
      · rintro (member | rfl)
        · exact member
        · exact known
    · exact h.alike
  · rw [OwnerSet.insert, if_neg (mt h.contains_iff.mp known)]
    constructor
    · rw [Distinct.eraseDups_concat, if_neg known, h.order]
    · intro other
      simp [h.seen other, or_comm]
    · exact List.perm_append_comm.trans (h.alike.cons owner)

end Tracks

def ofOwners (owners : List ScitizenId) : OwnerSet :=
  owners.foldl (fun set owner => (set.insert owner).2) empty

theorem ofOwners_concat (owners : List ScitizenId) (owner : ScitizenId) :
    ofOwners (owners ++ [owner]) = ((ofOwners owners).insert owner).2 := by
  rw [ofOwners, List.foldl_append]
  rfl

theorem ofDevices_eq (devices : List Device) :
    ofDevices devices = ofOwners (devices.map (·.owner)) := by
  rw [ofDevices, ofOwners, List.foldl_map]

theorem ofOwners_tracks (owners : List ScitizenId) : (ofOwners owners).Tracks owners := by
  induction owners using List.reverseRecOn with
  | nil => exact empty_tracks
  | append_singleton owners owner ih =>
      rw [ofOwners_concat]
      exact ih.insert owner

theorem ofDevices_tracks (devices : List Device) :
    (ofDevices devices).Tracks (devices.map (·.owner)) := by
  rw [ofDevices_eq]
  exact ofOwners_tracks _

@[simp]
theorem ofDevices_order (devices : List Device) :
    (ofDevices devices).order = (devices.map (·.owner)).eraseDups :=
  (ofDevices_tracks devices).order

/-- After every sequence of inserts the set has its owners once, in the order in which each was
first inserted, and knows exactly those. The next insert tells whether its owner is one of them.
A sequence after another adds the owners that the first one lacks. The owners of some devices are
collected by such a sequence. -/
theorem ofOwners_first_occurrences :
    (∀ owners : List ScitizenId,
      let set := ofOwners owners
      set.order.Nodup ∧ set.order.Perm set.seen ∧
      (∀ owner, (set.insert owner).1 = true ↔ owner ∉ owners) ∧
      set.order = Distinct.firsts owners ∧ set.size = owners.toFinset.card ∧
      ∀ more, (ofOwners (owners ++ more)).order =
        set.order ++ (ofOwners more).order.filter fun owner => owner ∉ owners) ∧
    ∀ devices : List Device, ofDevices devices = ofOwners (devices.map (·.owner)) := by
  refine ⟨fun owners => ?_, ofDevices_eq⟩
  intro set
  have tracks := ofOwners_tracks owners
  refine ⟨?_, tracks.alike, fun owner => tracks.isNew_iff, ?_, ?_, fun more => ?_⟩
  · rw [tracks.order]
    exact Distinct.nodup_eraseDups owners
  · rw [tracks.order, Distinct.eraseDups_eq_firsts]
  · rw [size, tracks.order, Distinct.length_eraseDups]
  · rw [(ofOwners_tracks _).order, tracks.order, (ofOwners_tracks more).order,
      Distinct.eraseDups_append_filter]

end FleetResponse.OwnerSet
