import Mathlib.Data.Finset.Card
import Mathlib.Data.List.Induction
import Mathlib.Data.List.Nodup
import Mathlib.Data.List.Perm.Basic

namespace FleetResponse.Distinct

variable {α : Type} [DecidableEq α]

def firsts (l : List α) : List α :=
  (l.zipIdx.filter fun (a, i) => a ∉ l.take i).map Prod.fst

theorem firsts_concat (l : List α) (a : α) :
    firsts (l ++ [a]) = if a ∈ l then firsts l else firsts l ++ [a] := by
  have front : l.zipIdx.filter (fun (b, i) => b ∉ (l ++ [a]).take i) =
      l.zipIdx.filter fun (b, i) => b ∉ l.take i := by
    refine List.filter_congr fun (b, i) listed => ?_
    have inside : i ≤ l.length := Nat.le_of_lt (List.mem_zipIdx' listed).1
    simp only [List.take_append_of_le_length inside]
  rw [firsts, List.zipIdx_append, List.filter_append, List.map_append, front]
  by_cases known : a ∈ l <;> simp [known, firsts]

theorem eraseDups_concat (l : List α) (a : α) :
    (l ++ [a]).eraseDups = if a ∈ l then l.eraseDups else l.eraseDups ++ [a] := by
  rw [List.eraseDups_append]
  split <;> rename_i known <;> simp [List.removeAll, known, List.eraseDups_cons]

theorem eraseDups_eq_firsts (l : List α) : l.eraseDups = firsts l := by
  induction l using List.reverseRecOn with
  | nil => rfl
  | append_singleton l a ih => rw [eraseDups_concat, firsts_concat, ih]

theorem nodup_eraseDups (l : List α) : l.eraseDups.Nodup := by
  induction l using List.reverseRecOn with
  | nil => exact List.nodup_nil
  | append_singleton l a ih =>
      rw [eraseDups_concat]
      split
      · exact ih
      · rename_i fresh
        exact List.concat_eq_append ▸ ih.concat fun kept => fresh (List.mem_eraseDups.mp kept)

theorem eraseDups_of_nodup {l : List α} (distinct : l.Nodup) : l.eraseDups = l := by
  induction l using List.reverseRecOn with
  | nil => rfl
  | append_singleton l a ih =>
      obtain ⟨front, -, apart⟩ := List.nodup_append.mp distinct
      have fresh : a ∉ l := fun listed => apart a listed a List.mem_cons_self rfl
      rw [eraseDups_concat, if_neg fresh, ih front]

theorem eraseDups_perm {l m : List α} (order : l.Perm m) : l.eraseDups.Perm m.eraseDups := by
  refine (List.perm_ext_iff_of_nodup (nodup_eraseDups l) (nodup_eraseDups m)).mpr fun a => ?_
  rw [List.mem_eraseDups, List.mem_eraseDups, order.mem_iff]

theorem eraseDups_append_filter (l m : List α) :
    (l ++ m).eraseDups = l.eraseDups ++ m.eraseDups.filter fun a => a ∉ l := by
  induction m using List.reverseRecOn with
  | nil => simp
  | append_singleton m a ih =>
      rw [← List.append_assoc, eraseDups_concat, eraseDups_concat, ih]
      by_cases left : a ∈ l <;> by_cases right : a ∈ m <;> simp [left, right]

theorem length_eraseDups (l : List α) : l.eraseDups.length = l.toFinset.card := by
  have same : l.eraseDups.toFinset = l.toFinset := by
    ext a
    rw [List.mem_toFinset, List.mem_toFinset, List.mem_eraseDups]
  rw [← same, List.toFinset_card_of_nodup (nodup_eraseDups l)]

end FleetResponse.Distinct
