import FleetResponse.Proofs.Ident.Grammar
import FleetResponse.Proofs.Text.Numeral

namespace FleetResponse

namespace Text

def bytes (text : String) : List UInt8 :=
  text.toUTF8.data.toList

def bytesLe (s t : String) : Bool :=
  (compare (bytes s) (bytes t)).isLE

theorem bytes_ofList {cs : List Char} (ascii : ∀ c ∈ cs, c.toNat < 128) :
    bytes (String.ofList cs) = cs.map fun c => c.val.toUInt8 := by
  have single : ∀ c ∈ cs, String.utf8EncodeChar c = [c.val.toUInt8] := by
    intro c member
    apply String.utf8EncodeChar_eq_singleton
    rw [Char.utf8Size_eq_one_iff, UInt32.le_iff_toNat_le]
    exact Nat.le_of_lt_succ (ascii c member)
  rw [bytes, String.toUTF8_eq_toByteArray, String.toByteArray_ofList, List.utf8Encode,
    List.data_toByteArray, List.flatMap_congr single, List.map_eq_flatMap]

theorem compare_byte {c d : Char} (c_ascii : c.toNat < 128) (d_ascii : d.toNat < 128) :
    compare c.val.toUInt8 d.val.toUInt8 = compare c d := by
  have byte {c : Char} (ascii : c.toNat < 128) : c.val.toUInt8.toNat = c.toNat := by
    rw [UInt32.toNat_toUInt8, Char.toNat_val]
    exact Nat.mod_eq_of_lt (by omega)
  rw [UInt8.compare_eq_toNat_compare_toNat, byte c_ascii, byte d_ascii, compare_toNat]

theorem compare_bytes {cs ds : List Char} (cs_ascii : ∀ c ∈ cs, c.toNat < 128)
    (ds_ascii : ∀ d ∈ ds, d.toNat < 128) :
    compare (bytes (String.ofList cs)) (bytes (String.ofList ds)) = compare cs ds := by
  rw [bytes_ofList cs_ascii, bytes_ofList ds_ascii]
  induction cs generalizing ds with
  | nil => cases ds <;> rfl
  | cons c cs ih =>
      cases ds with
      | nil => rfl
      | cons d ds =>
          obtain ⟨c_small, cs_small⟩ := List.forall_mem_cons.mp cs_ascii
          obtain ⟨d_small, ds_small⟩ := List.forall_mem_cons.mp ds_ascii
          rw [List.map_cons, List.map_cons, List.compare_cons_cons, List.compare_cons_cons,
            compare_byte c_small d_small, ih cs_small ds_small]

theorem compare_append_left (front cs ds : List Char) :
    compare (front ++ cs) (front ++ ds) = compare cs ds := by
  induction front with
  | nil => rfl
  | cons c front ih =>
      rw [List.cons_append, List.cons_append, List.compare_cons_cons, ih, compare_toNat,
        Nat.compare_eq_eq.mpr rfl, Ordering.eq_then]

theorem compare_concat {cs ds : List Char} (long : cs.length = ds.length) (c d : Char) :
    compare (cs ++ [c]) (ds ++ [d]) = (compare cs ds).then (compare c d) := by
  induction cs generalizing ds with
  | nil =>
      obtain rfl := List.length_eq_zero_iff.mp long.symm
      exact List.compare_cons_cons.trans Ordering.then_eq
  | cons x cs ih =>
      cases ds with
      | nil => cases long
      | cons y ds =>
          rw [List.cons_append, List.cons_append, List.compare_cons_cons, List.compare_cons_cons,
            ih (Nat.succ.inj long), Ordering.then_assoc]

end Text

namespace Base32

theorem compare_digit {a b : Nat} (a_lt : a < 32) (b_lt : b < 32) :
    compare (digit a) (digit b) = compare a b := by
  have inOrder : ∀ a b : Fin 32, compare (digit a) (digit b) = compare a.val b.val := by decide
  exact inOrder ⟨a, a_lt⟩ ⟨b, b_lt⟩

theorem compare_render {width a b : Nat} (a_lt : a < 32 ^ width) (b_lt : b < 32 ^ width) :
    compare (render width a) (render width b) = compare a b := by
  -- The first digit counts most, and the alphabet is in order.
  induction width generalizing a b with
  | zero =>
      rw [Nat.pow_zero, Nat.lt_one_iff] at a_lt b_lt
      rw [a_lt, b_lt]
      rfl
  | succ width ih =>
      rw [Nat.pow_succ] at a_lt b_lt
      have a_last : a % 32 < 32 := Nat.mod_lt a (by decide)
      have b_last : b % 32 < 32 := Nat.mod_lt b (by decide)
      calc compare (render (width + 1) a) (render (width + 1) b)
          = (compare (render width (a / 32)) (render width (b / 32))).then
              (compare (digit (a % 32)) (digit (b % 32))) :=
            Text.compare_concat (by rw [length_render, length_render]) _ _
        _ = (compare (a / 32) (b / 32)).then (compare (a % 32) (b % 32)) := by
            rw [ih (Nat.div_lt_of_lt_mul (by omega)) (Nat.div_lt_of_lt_mul (by omega)),
              compare_digit a_last b_last]
        _ = compare a b := by
            rw [← Text.compare_mul_add _ _ a_last b_last, Nat.div_add_mod, Nat.div_add_mod]

end Base32

namespace Ident

open Base32

variable {kind : IdentKind}

theorem text_eq_labelled (id : Ident kind) : id.text = labelled kind (render width id.toNat) :=
  rfl

theorem text_eq_ofList (id : Ident kind) :
    id.text = String.ofList (kind.label.toList ++ '_' :: render width id.toNat) := by
  rw [← String.toList_inj, text_eq_labelled, toList_labelled, String.toList_ofList]

theorem text_ascii (id : Ident kind) :
    ∀ c ∈ kind.label.toList ++ '_' :: render width id.toNat, c.toNat < 128 := by
  have label : ∀ c ∈ kind.label.toList, c.toNat < 128 := by
    cases kind <;> simp [IdentKind.label]
  intro c member
  rcases List.mem_append.mp member with inLabel | later
  · exact label c inLabel
  · rcases List.mem_cons.mp later with rfl | digit
    · decide
    · exact (isDigit_of_mem_render c digit).small

theorem compare_text (a b : Ident kind) :
    compare (Text.bytes a.text) (Text.bytes b.text) = compare a b := by
  rw [text_eq_ofList, text_eq_ofList, Text.compare_bytes a.text_ascii b.text_ascii,
    Text.compare_append_left, List.compare_cons_cons, Text.compare_toNat,
    Nat.compare_eq_eq.mpr rfl, Ordering.eq_then,
    compare_render a.toNat_lt_pow_width b.toNat_lt_pow_width]
  rfl

theorem bytesLe_text (a b : Ident kind) : Text.bytesLe a.text b.text = a.le b := by
  rw [Text.bytesLe, compare_text, le]

theorem label_inj {a b : IdentKind} (same : a.label = b.label) : a = b := by
  revert same
  cases a <;> cases b <;> decide

theorem parse_other (id : Ident kind) {other : IdentKind} (differ : other ≠ kind) :
    parse other id.text = .error (.wrongLabel other.label kind.label) :=
  (Parsed.mislabelled (not_mem_label kind) fun same => differ (label_inj same).symm).parse_eq

/-- The text of every identifier is read back as this identifier. As one of another kind it fails,
and both labels are named. Of two identifiers of one kind, the one with the larger number has the
text with the larger bytes, so that identifiers are in order just when their texts are, and both are
sorted alike. -/
theorem text_parse_and_order (kind : IdentKind) :
    (∀ value : BitVec 128, parse kind (⟨value⟩ : Ident kind).text = .ok ⟨value⟩) ∧
    (∀ (id : Ident kind) (other : IdentKind), other ≠ kind →
      parse other id.text = .error (.wrongLabel other.label kind.label)) ∧
    (∀ a b : Ident kind, compare a b = compare (Text.bytes a.text) (Text.bytes b.text)) ∧
    (∀ ids : List (Ident kind), ids.Pairwise (fun a b => a.le b = true) ↔
      (ids.map text).Pairwise fun s t => Text.bytesLe s t = true) ∧
    ∀ ids : List (Ident kind),
      (ids.mergeSort le).map text = (ids.map text).mergeSort Text.bytesLe := by
  refine ⟨fun value => parse_text ⟨value⟩, fun id other differ => parse_other id differ,
    fun a b => (compare_text a b).symm, fun ids => ?_, fun ids => ?_⟩
  · rw [List.pairwise_map]
    simp only [bytesLe_text]
  · exact List.map_mergeSort fun a _ b _ => (bytesLe_text a b).symm

end Ident

end FleetResponse
