import Mathlib.Data.List.GetD
import Mathlib.Data.List.Induction
import Mathlib.Data.Nat.Digits.Defs
import Mathlib.Data.String.Basic
import FleetResponse.Proofs.Ident.Text
import FleetResponse.Proofs.Text.Letter

namespace FleetResponse

namespace Base32

def IsDigit (c : Char) : Prop :=
  c.isDigit = true ∨ (c.isAlpha = true ∧ c.toUpper ∉ ['I', 'L', 'O', 'U'])

instance (c : Char) : Decidable (IsDigit c) :=
  inferInstanceAs (Decidable (_ ∨ _))

instance (cs : List Char) : Decidable (∀ c ∈ cs, IsDigit c) :=
  List.decidableBAll IsDigit cs

def number (c : Char) : Nat :=
  alphabet.idxOf c.toUpper

def total (cs : List Char) : Nat :=
  Nat.ofDigits 32 (cs.map number).reverse

def IsCode (cs : List Char) : Prop :=
  cs.length = 26 ∧ ∀ c ∈ cs, IsDigit c

/-- A code in upper case, and with only the three last bits of its first digit. -/
def canonical : List Char → List Char
  | [] => []
  | c :: cs => digit (number c % 8) :: cs.map Char.toUpper

/-! ## Digits -/

theorem toUpper_of_large {c : Char} (large : 128 ≤ c.toNat) : c.toUpper = c := by
  rw [← Char.toNat_inj, Text.toNat_toUpper, if_neg (by omega)]

theorem IsDigit.small {c : Char} (digit : IsDigit c) : c.toNat < 128 := by
  rcases digit with figure | ⟨letter, -⟩
  · exact (Char.isDigit_iff_toNat.mp figure).2.trans_lt (by decide)
  · rcases Text.isAlpha_iff.mp letter with capital | small
    · have bounds := Text.isUpper_iff.mp capital
      omega
    · have bounds := Text.isLower_iff.mp small
      omega

theorem mem_alphabet_iff {c : Char} : c.toUpper ∈ alphabet ↔ IsDigit c := by
  by_cases small : c.toNat < 128
  · have each : ∀ n : Fin 128, (Char.ofNat n).toUpper ∈ alphabet ↔ IsDigit (Char.ofNat n) := by
      decide
    simpa using each ⟨c.toNat, small⟩
  · have ascii : alphabet.all (·.toNat < 128) = true := by decide
    have same := toUpper_of_large (Nat.le_of_not_lt small)
    refine ⟨fun member => ?_, fun digit => absurd digit.small small⟩
    rw [same] at member
    exact absurd (of_decide_eq_true (List.all_eq_true.mp ascii c member)) small

theorem nodup_alphabet : alphabet.Nodup := by
  decide

theorem digitValue?_eq (c : Char) :
    digitValue? c = if IsDigit c then some (number c) else none := by
  unfold digitValue? number
  split
  · rename_i digit
    have inside := List.idxOf_lt_length_of_mem (mem_alphabet_iff.mpr digit)
    refine List.idxOf?_eq_some_iff.mpr ⟨inside, List.getElem_idxOf inside, fun j before same => ?_⟩
    have at_j := nodup_alphabet.idxOf_getElem j (before.trans inside)
    exact absurd (same ▸ at_j) (by omega)
  · rename_i other
    exact List.idxOf?_eq_none_iff.mpr (mt mem_alphabet_iff.mp other)

theorem IsDigit.number_lt {c : Char} (digit : IsDigit c) : number c < 32 :=
  List.idxOf_lt_length_of_mem (mem_alphabet_iff.mpr digit)

theorem IsDigit.digit_number {c : Char} (isDigit : IsDigit c) : digit (number c) = c.toUpper := by
  have inside := List.idxOf_lt_length_of_mem (mem_alphabet_iff.mpr isDigit)
  rw [digit, number, List.getD_eq_getElem _ _ inside, List.getElem_idxOf inside]

theorem digit_spec : ∀ n : Fin 32, IsDigit (digit n) ∧ number (digit n) = n ∧
    (digit n).toUpper = digit n := by
  decide

theorem IsDigit.number_toUpper {c : Char} (isDigit : IsDigit c) : number c.toUpper = number c := by
  have same := (digit_spec ⟨number c, isDigit.number_lt⟩).2.1
  rwa [isDigit.digit_number] at same

/-! ## Codes -/

@[simp]
theorem total_nil : total [] = 0 :=
  rfl

@[simp]
theorem total_cons (c : Char) (cs : List Char) :
    total (c :: cs) = number c * 32 ^ cs.length + total cs := by
  simp [total, Nat.ofDigits_append]
  ring

theorem total_concat (cs : List Char) (c : Char) :
    total (cs ++ [c]) = 32 * total cs + number c := by
  simp [total, Nat.ofDigits_cons]
  ring

theorem total_lt {cs : List Char} (digits : ∀ c ∈ cs, IsDigit c) : total cs < 32 ^ cs.length := by
  induction cs with
  | nil => simp
  | cons c cs ih =>
      have rest := ih fun d member => digits d (List.mem_cons_of_mem c member)
      have first := (digits c List.mem_cons_self).number_lt
      rw [total_cons, List.length_cons, Nat.pow_succ]
      nlinarith [Nat.mul_le_mul_right (32 ^ cs.length) (Nat.le_of_lt_succ first)]

theorem total_map_toUpper {cs : List Char} (digits : ∀ c ∈ cs, IsDigit c) :
    total (cs.map Char.toUpper) = total cs := by
  have numbers : (cs.map Char.toUpper).map number = cs.map number := by
    rw [List.map_map]
    exact List.map_congr_left fun c member => (digits c member).number_toUpper
  rw [total, numbers, total]

theorem render_total {cs : List Char} (digits : ∀ c ∈ cs, IsDigit c) :
    render cs.length (total cs) = cs.map Char.toUpper := by
  induction cs using List.reverseRecOn with
  | nil => rfl
  | append_singleton cs c ih =>
      -- Digits are written from the last one, which is the remainder.
      have last : IsDigit c := digits c (by simp)
      have rest := ih fun d member => digits d (List.mem_append_left [c] member)
      have small := last.number_lt
      have quotient : total (cs ++ [c]) / 32 = total cs := by rw [total_concat]; omega
      have remainder : total (cs ++ [c]) % 32 = number c := by rw [total_concat]; omega
      rw [List.length_append, List.length_singleton, render, quotient, remainder, rest,
        last.digit_number, List.map_append]
      rfl

theorem isDigit_of_mem_render {width value : Nat} :
    ∀ c ∈ render width value, IsDigit c := by
  induction width generalizing value with
  | zero => simp [render]
  | succ width ih =>
      have last := (digit_spec ⟨value % 32, Nat.mod_lt _ (by decide)⟩).1
      simpa [render, or_imp, forall_and] using ⟨ih, last⟩

theorem total_render (width value : Nat) : total (render width value) = value % 32 ^ width := by
  induction width generalizing value with
  | zero => simp [render, Nat.mod_one]
  | succ width ih =>
      have last := (digit_spec ⟨value % 32, Nat.mod_lt _ (by decide)⟩).2.1
      rw [render, total_concat, ih, Nat.pow_succ, Nat.mul_comm _ 32, Nat.mod_mul, Nat.add_comm]
      exact congrArg (· + 32 * (value / 32 % 32 ^ width)) last

theorem appendDigits_eq (value : Nat) (cs : List Char) :
    appendDigits value cs =
      if ∀ c ∈ cs, IsDigit c then .ok (value * 32 ^ cs.length + total cs)
      else .error .character := by
  induction cs generalizing value with
  | nil => simp [appendDigits]
  | cons c cs ih =>
      rw [appendDigits, digitValue?_eq]
      by_cases digit : IsDigit c
      · rw [if_pos digit]
        dsimp only
        rw [ih]
        by_cases rest : ∀ d ∈ cs, IsDigit d
        · rw [if_pos rest, if_pos (List.forall_mem_cons.mpr ⟨digit, rest⟩), total_cons,
            List.length_cons, Nat.pow_succ]
          congr 1
          ring
        · rw [if_neg rest, if_neg fun all => rest (List.forall_mem_cons.mp all).2]
      · rw [if_neg digit, if_neg fun all => digit (all c List.mem_cons_self)]

theorem byteCount_eq (cs : List Char) : byteCount cs = (String.ofList cs).utf8ByteSize := by
  rw [String.utf8ByteSize_ofList]
  induction cs with
  | nil => rfl
  | cons c cs ih =>
      rw [String.utf8Len_cons, ← ih, Nat.add_comm]
      rfl

theorem utf8ByteSize_of_digits {cs : List Char} (digits : ∀ c ∈ cs, IsDigit c) :
    (String.ofList cs).utf8ByteSize = cs.length := by
  rw [← byteCount_eq]
  induction cs with
  | nil => rfl
  | cons c cs ih =>
      have small := (digits c List.mem_cons_self).small
      have one : c.utf8Size = 1 :=
        Char.utf8Size_eq_one_iff.mpr (UInt32.le_iff_toNat_le.mpr (Nat.le_of_lt_succ small))
      have rest := ih fun d member => digits d (List.mem_cons_of_mem c member)
      rw [byteCount, List.foldr_cons, one, List.length_cons, Nat.add_comm]
      exact congrArg (· + 1) rest

theorem read_eq (cs : List Char) :
    read Ident.width cs =
      if (String.ofList cs).utf8ByteSize ≠ 26 then .error .length
      else if ∀ c ∈ cs, IsDigit c then .ok (total cs) else .error .character := by
  rw [read, byteCount_eq, appendDigits_eq, Nat.zero_mul, Nat.zero_add]
  exact (ite_not _ _ _).symm

theorem IsCode.read {code : List Char} (isCode : IsCode code) :
    read Ident.width code = .ok (total code) := by
  have bytes := (utf8ByteSize_of_digits isCode.2).trans isCode.1
  rw [read_eq, if_neg (not_not.mpr bytes), if_pos isCode.2]

theorem isCode_iff {cs : List Char} :
    IsCode cs ↔ (String.ofList cs).utf8ByteSize = 26 ∧ ∀ c ∈ cs, IsDigit c := by
  constructor
  · rintro ⟨length, digits⟩
    exact ⟨(utf8ByteSize_of_digits digits).trans length, digits⟩
  · rintro ⟨bytes, digits⟩
    exact ⟨(utf8ByteSize_of_digits digits).symm.trans bytes, digits⟩

theorem IsCode.total_mod {code : List Char} (isCode : IsCode code) :
    total code % 2 ^ 128 = total (canonical code) := by
  -- Of the first digit of a code only three bits have room in 128.
  obtain ⟨length, digits⟩ := isCode
  cases code with
  | nil => cases length
  | cons c cs =>
      have rest := total_lt fun d member => digits d (List.mem_cons_of_mem c member)
      have uppers := total_map_toUpper fun d member => digits d (List.mem_cons_of_mem c member)
      have first := (digit_spec ⟨number c % 8, by omega⟩).2.1
      rw [canonical, total_cons, total_cons, uppers, List.length_map]
      simp only at first
      rw [first]
      have count : cs.length = 25 := by simpa using length
      rw [count] at rest ⊢
      omega

theorem isCode_canonical {code : List Char} (isCode : IsCode code) : IsCode (canonical code) := by
  obtain ⟨length, digits⟩ := isCode
  cases code with
  | nil => cases length
  | cons c cs =>
      refine ⟨by simpa [canonical] using length, List.forall_mem_cons.mpr ⟨?_, ?_⟩⟩
      · exact (digit_spec ⟨number c % 8, by omega⟩).1
      · intro d member
        obtain ⟨e, listed, rfl⟩ := List.mem_map.mp member
        have digit := digits e (List.mem_cons_of_mem c listed)
        exact digit.digit_number ▸ (digit_spec ⟨number e, digit.number_lt⟩).1

theorem IsCode.render_mod {code : List Char} (isCode : IsCode code) :
    render Ident.width (total code % 2 ^ 128) = canonical code := by
  obtain ⟨length, digits⟩ := isCode_canonical isCode
  have rendered := render_total digits
  rw [length, ← isCode.total_mod] at rendered
  refine rendered.trans ?_
  cases code with
  | nil => rfl
  | cons c cs =>
      have first := (digit_spec ⟨number c % 8, by omega⟩).2.2
      have rest : cs.map (Char.toUpper ∘ Char.toUpper) = cs.map Char.toUpper := by
        refine List.map_congr_left fun d member => ?_
        have digit := isCode.2 d (List.mem_cons_of_mem c member)
        have upper := (digit_spec ⟨number d, digit.number_lt⟩).2.2
        rwa [digit.digit_number] at upper
      rw [canonical, List.map_cons, List.map_map, rest]
      exact congrArg (· :: cs.map Char.toUpper) first

end Base32

namespace Ident

open Base32

variable {kind : IdentKind}

def labelled (kind : IdentKind) (rest : List Char) : String :=
  kind.label ++ "_" ++ String.ofList rest

theorem toList_labelled (kind : IdentKind) (rest : List Char) :
    (labelled kind rest).toList = kind.label.toList ++ '_' :: rest := by
  simp [labelled]

theorem not_mem_label (kind : IdentKind) : '_' ∉ kind.label.toList := by
  cases kind <;> decide

theorem parse_labelled (kind : IdentKind) (rest : List Char) :
    parse kind (labelled kind rest) =
      match read width rest with
      | .error fault => .error (.malformed fault)
      | .ok n => .ok (ofNat kind n) := by
  rw [parse, toList_labelled, if_neg (by simp), Text.cut?_append (not_mem_label kind)]
  cases found : read width rest <;> simp [found]

theorem parse_code (kind : IdentKind) {code : List Char} (isCode : IsCode code) :
    parse kind (labelled kind code) = .ok (ofNat kind (total code)) := by
  rw [parse_labelled, isCode.read]

theorem toNat_ofNat (kind : IdentKind) (n : Nat) : (ofNat kind n).toNat = n % 2 ^ 128 :=
  BitVec.toNat_ofNat n 128

theorem parse_text (id : Ident kind) : parse kind id.text = .ok id := by
  have isCode : IsCode (render width id.toNat) :=
    ⟨length_render width id.toNat, isDigit_of_mem_render⟩
  have value : ofNat kind id.toNat = id := congrArg Ident.mk (BitVec.ofNat_toNat _ _)
  have read := parse_code kind isCode
  rwa [total_render, Nat.mod_eq_of_lt id.toNat_lt_pow_width, value] at read

theorem text_ofNat_total (kind : IdentKind) {code : List Char} (isCode : IsCode code) :
    (ofNat kind (total code)).text = labelled kind (canonical code) := by
  rw [text, toNat_ofNat, isCode.render_mod, labelled]

/-- What becomes of a text that is read as an identifier. -/
inductive Parsed (kind : IdentKind) : String → Except IdentError (Ident kind) → Prop
  | empty : Parsed kind "" (.error .empty)
  | unmarked {text : String} (filled : text ≠ "") (absent : '_' ∉ text.toList) :
      Parsed kind text (.error .missingSeparator)
  | mislabelled {actual rest : String} (first : '_' ∉ actual.toList)
      (other : actual ≠ kind.label) :
      Parsed kind (actual ++ "_" ++ rest) (.error (.wrongLabel kind.label actual))
  | miscounted {rest : List Char} (bytes : (String.ofList rest).utf8ByteSize ≠ 26) :
      Parsed kind (labelled kind rest) (.error (.malformed .length))
  | foreign {rest : List Char} (bytes : (String.ofList rest).utf8ByteSize = 26)
      (stray : ∃ c ∈ rest, ¬ IsDigit c) :
      Parsed kind (labelled kind rest) (.error (.malformed .character))
  | code {code : List Char} (isCode : IsCode code) :
      Parsed kind (labelled kind code) (.ok (ofNat kind (total code)))

theorem parsed_labelled (kind : IdentKind) (rest : List Char) :
    Parsed kind (labelled kind rest) (parse kind (labelled kind rest)) := by
  rw [parse_labelled, read_eq]
  by_cases bytes : (String.ofList rest).utf8ByteSize = 26
  · rw [if_neg (not_not.mpr bytes)]
    by_cases digits : ∀ c ∈ rest, IsDigit c
    · rw [if_pos digits]
      exact .code (isCode_iff.mpr ⟨bytes, digits⟩)
    · rw [if_neg digits]
      push Not at digits
      exact .foreign bytes digits
  · rw [if_pos bytes]
    exact .miscounted bytes

theorem parsed_parse (kind : IdentKind) (text : String) : Parsed kind text (parse kind text) := by
  by_cases filled : text.toList = []
  · obtain rfl : text = "" := String.toList_eq_nil_iff.mp filled
    exact .empty
  · cases found : Text.cut? '_' text.toList with
    | none =>
        have missing : parse kind text = .error .missingSeparator := by
          rw [parse, if_neg filled, found]
        rw [missing]
        exact .unmarked (mt String.toList_eq_nil_iff.mpr filled) (Text.cut?_eq_none_iff.mp found)
    | some parts =>
        obtain ⟨label, rest⟩ := parts
        have first := Text.not_mem_of_cut? found
        have whole : text = String.ofList label ++ "_" ++ String.ofList rest := by
          apply String.toList_inj.mp
          simpa using Text.eq_append_of_cut? found
        by_cases same : String.ofList label = kind.label
        · rw [whole, same]
          exact parsed_labelled kind rest
        · have wrong : parse kind text = .error (.wrongLabel kind.label (String.ofList label)) := by
            rw [parse, if_neg filled, found]
            exact if_neg same
          rw [wrong, whole]
          exact .mislabelled (by simpa using first) same

theorem Parsed.parse_eq {text : String} {result : Except IdentError (Ident kind)}
    (parsed : Parsed kind text result) : parse kind text = result := by
  cases parsed with
  | empty => rfl
  | unmarked filled absent =>
      rw [parse, if_neg (mt String.toList_eq_nil_iff.mp filled), Text.cut?_eq_none_iff.mpr absent]
  | @mislabelled actual rest first other =>
      have parts : (actual ++ "_" ++ rest).toList = actual.toList ++ '_' :: rest.toList := by
        simp
      rw [parse, parts, if_neg (by simp), Text.cut?_append first]
      simp only [String.ofList_toList]
      exact if_neg other
  | miscounted bytes =>
      rw [parse_labelled, read_eq, if_pos bytes]
  | @foreign rest bytes stray =>
      have unlike : ¬ ∀ c ∈ rest, IsDigit c := by
        obtain ⟨c, member, other⟩ := stray
        exact fun all => other (all c member)
      rw [parse_labelled, read_eq, if_neg (not_not.mpr bytes), if_neg unlike]
  | code isCode => exact parse_code kind isCode

theorem parse_eq_iff {text : String} {result : Except IdentError (Ident kind)} :
    parse kind text = result ↔ Parsed kind text result :=
  ⟨fun same => same ▸ parsed_parse kind text, Parsed.parse_eq⟩

/-- A text is read as an identifier of a kind exactly if it is the label of the kind, an
underscore and a code; all others fail with the first fault that they have. The identifier is the
number of the code in 128 bits, and two codes are those of one identifier exactly if they have the
same canonical form, which is how the identifier is written. -/
theorem parse_grammar (kind : IdentKind) :
    (∀ text, (∃ id, parse kind text = .ok id) ↔
      ∃ code, IsCode code ∧ text = labelled kind code) ∧
    (∀ text, parse kind text = .error .empty ↔ text = "") ∧
    (∀ text, parse kind text = .error .missingSeparator ↔ text ≠ "" ∧ '_' ∉ text.toList) ∧
    (∀ text expected actual, parse kind text = .error (.wrongLabel expected actual) ↔
      expected = kind.label ∧ actual ≠ kind.label ∧
        '_' ∉ actual.toList ∧ ∃ rest, text = actual ++ "_" ++ rest) ∧
    (∀ text, parse kind text = .error (.malformed .length) ↔
      ∃ rest, text = labelled kind rest ∧ (String.ofList rest).utf8ByteSize ≠ 26) ∧
    (∀ text, parse kind text = .error (.malformed .character) ↔
      ∃ rest, text = labelled kind rest ∧ (String.ofList rest).utf8ByteSize = 26 ∧
        ∃ c ∈ rest, ¬ IsDigit c) ∧
    (∀ code, IsCode code → ∃ id, parse kind (labelled kind code) = .ok id ∧
      id.toNat = total code % 2 ^ 128 ∧ id.text = labelled kind (canonical code)) ∧
    ∀ code other, IsCode code → IsCode other →
      (parse kind (labelled kind code) = parse kind (labelled kind other) ↔
        labelled kind (canonical code) = labelled kind (canonical other)) := by
  refine ⟨fun text => ⟨?_, ?_⟩, fun text => ⟨?_, ?_⟩, fun text => ⟨?_, ?_⟩,
    fun text expected actual => ⟨?_, ?_⟩, fun text => ⟨?_, ?_⟩, fun text => ⟨?_, ?_⟩, ?_, ?_⟩
  · rintro ⟨id, read⟩
    cases parse_eq_iff.mp read with
    | code isCode => exact ⟨_, isCode, rfl⟩
  · rintro ⟨code, isCode, rfl⟩
    exact ⟨_, parse_code kind isCode⟩
  · intro failed
    cases parse_eq_iff.mp failed
    rfl
  · rintro rfl
    rfl
  · intro failed
    cases parse_eq_iff.mp failed with
    | unmarked filled absent => exact ⟨filled, absent⟩
  · rintro ⟨filled, absent⟩
    exact (Parsed.unmarked filled absent).parse_eq
  · intro failed
    cases parse_eq_iff.mp failed with
    | mislabelled first other => exact ⟨rfl, other, first, _, rfl⟩
  · rintro ⟨rfl, other, first, rest, rfl⟩
    exact (Parsed.mislabelled first other).parse_eq
  · intro failed
    cases parse_eq_iff.mp failed with
    | miscounted bytes => exact ⟨_, rfl, bytes⟩
  · rintro ⟨rest, rfl, bytes⟩
    exact (Parsed.miscounted bytes).parse_eq
  · intro failed
    cases parse_eq_iff.mp failed with
    | foreign bytes stray => exact ⟨_, rfl, bytes, stray⟩
  · rintro ⟨rest, rfl, bytes, stray⟩
    exact (Parsed.foreign bytes stray).parse_eq
  · intro code isCode
    exact ⟨_, parse_code kind isCode, toNat_ofNat kind _, text_ofNat_total kind isCode⟩
  · intro code other isCode isOther
    rw [parse_code kind isCode, parse_code kind isOther, Except.ok.injEq, ← text_inj,
      text_ofNat_total kind isCode, text_ofNat_total kind isOther]

end Ident

end FleetResponse
