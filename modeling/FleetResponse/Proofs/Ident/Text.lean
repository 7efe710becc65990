import Mathlib.Algebra.Group.Nat.Defs
import FleetResponse.Ident

namespace FleetResponse

namespace Base32

theorem digit_inj {a b : Nat} (a_lt : a < 32) (b_lt : b < 32) (same : digit a = digit b) :
    a = b := by
  have distinct : ∀ a b : Fin 32, digit a = digit b → a = b := by decide
  exact congrArg Fin.val (distinct ⟨a, a_lt⟩ ⟨b, b_lt⟩ same)

theorem render_inj {width a b : Nat} (a_lt : a < 32 ^ width) (b_lt : b < 32 ^ width)
    (same : render width a = render width b) : a = b := by
  induction width generalizing a b with
  | zero =>
      rw [Nat.pow_zero, Nat.lt_one_iff] at a_lt b_lt
      rw [a_lt, b_lt]
  | succ width ih =>
      rw [Nat.pow_succ] at a_lt b_lt
      obtain ⟨front, last⟩ := List.append_inj' same rfl
      have quotients : a / 32 = b / 32 :=
        ih (Nat.div_lt_of_lt_mul (by omega)) (Nat.div_lt_of_lt_mul (by omega)) front
      have rests : a % 32 = b % 32 :=
        digit_inj (Nat.mod_lt _ (by decide)) (Nat.mod_lt _ (by decide)) (List.singleton_inj.mp last)
      omega

end Base32

namespace Ident

variable {kind : IdentKind}

theorem toNat_lt_pow_width (id : Ident kind) : id.toNat < 32 ^ width :=
  Nat.lt_of_lt_of_le id.value.isLt (by decide)

theorem text_inj {a b : Ident kind} : a.text = b.text ↔ a = b := by
  constructor
  · intro same
    have codes : Base32.render width a.toNat = Base32.render width b.toNat := by
      have lists := congrArg String.toList same
      simpa [text] using lists
    have values := Base32.render_inj a.toNat_lt_pow_width b.toNat_lt_pow_width codes
    cases a
    cases b
    exact congrArg Ident.mk (BitVec.eq_of_toNat_eq values)
  · exact congrArg text

theorem contains_text (ids : List (Ident kind)) (id : Ident kind) :
    (ids.map text).contains id.text = ids.contains id := by
  rw [Bool.eq_iff_iff, List.contains_iff_mem, List.contains_iff_mem, List.mem_map]
  constructor
  · rintro ⟨other, listed, same⟩
    exact text_inj.mp same ▸ listed
  · intro listed
    exact ⟨id, listed, rfl⟩

end Ident

end FleetResponse
