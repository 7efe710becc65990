import FleetResponse.Json.Printer
import FleetResponse.Proofs.Json.Grammar

namespace FleetResponse.Json

open Reader Text

/-! ## String literals -/

theorem unit?_hexDigit : ∀ n : Fin 32,
    unit? '0' '0' (Printer.hexDigit (n / 16)) (Printer.hexDigit (n % 16)) = some n := by
  decide

theorem join?_unit_cons {n : Nat} (low : n < 0x20) (ps : List Piece) :
    join? (.unit n :: ps) = (join? ps).map (Char.ofNat n :: ·) := by
  have noHigh : isHighSurrogate n = false := by simp [isHighSurrogate]; omega
  have noLow : isLowSurrogate n = false := by simp [isLowSurrogate]; omega
  rcases ps with _ | ⟨c | m, ps⟩
  · simp [join?, noHigh, noLow]
  · simp [join?, noHigh, noLow, Function.comp_def]
  · simp [join?, noHigh, noLow]

theorem exists_piece (c : Char) : ∃ p, Quoted (Printer.escape c) [p] ∧
    ∀ ps, join? (p :: ps) = (join? ps).map (c :: ·) := by
  -- A character is written as itself, or as an escape that stands for it alone.
  unfold Printer.escape
  split_ifs with quote escape backspace feed line carriage tab low
  · exact ⟨.char c, .short (by rw [quote]; rfl) .done, fun _ => rfl⟩
  · exact ⟨.char c, .short (by rw [escape]; rfl) .done, fun _ => rfl⟩
  · exact ⟨.char c, .short (by rw [backspace]; rfl) .done, fun _ => rfl⟩
  · exact ⟨.char c, .short (by rw [feed]; rfl) .done, fun _ => rfl⟩
  · exact ⟨.char c, .short (by rw [line]; rfl) .done, fun _ => rfl⟩
  · exact ⟨.char c, .short (by rw [carriage]; rfl) .done, fun _ => rfl⟩
  · exact ⟨.char c, .short (by rw [tab]; rfl) .done, fun _ => rfl⟩
  · refine ⟨.unit c.toNat, .unit (unit?_hexDigit ⟨c.toNat, low⟩) .done, fun ps => ?_⟩
    rw [join?_unit_cons low, Char.ofNat_toNat]
  · exact ⟨.char c, .raw (Nat.le_of_not_lt low) quote escape .done, fun _ => rfl⟩

theorem exists_pieces (cs : List Char) :
    ∃ ps, Quoted (cs.flatMap Printer.escape) ps ∧ join? ps = some cs := by
  induction cs with
  | nil => exact ⟨[], .done, rfl⟩
  | cons c cs ih =>
      obtain ⟨ps, quoted, joined⟩ := ih
      obtain ⟨p, first, join⟩ := exists_piece c
      refine ⟨p :: ps, first.append quoted, ?_⟩
      rw [join, joined, Option.map_some]

theorem exists_quoted (s : String) : ∃ ns ps, Printer.string (some s) = '"' :: (ns ++ ['"']) ∧
    Quoted ns ps ∧ (join? ps).map String.ofList = some s := by
  obtain ⟨ps, quoted, joined⟩ := exists_pieces s.toList
  exact ⟨_, ps, rfl, quoted, by rw [joined, Option.map_some, String.ofList_toList]⟩

/-! ## Number literals -/

structure Numeral.Proper (n : Numeral) : Prop where
  whole : WholeDigits n.whole
  fraction : AllDigits n.fraction
  exponent : ∀ e ∈ n.exponent, AllDigits e.2 ∧ e.2 ≠ []

theorem Numeral.Proper.written {n : Numeral} (proper : n.Proper) :
    n.Written (Printer.numeral n) := by
  obtain ⟨negative, whole, fraction, exponent⟩ := n
  obtain ⟨wholeDigits, fractionDigits, exponentDigits⟩ := proper
  rw [Printer.numeral, List.append_assoc, List.append_assoc]
  refine .mk wholeDigits fractionDigits ?_
  cases exponent with
  | none => exact .absent
  | some e =>
      obtain ⟨negative, digits⟩ := e
      obtain ⟨all, filled⟩ := exponentDigits _ rfl
      cases negative with
      | true => exact .present (.inl rfl) .minus all filled
      | false => exact .present (.inl rfl) .absent all filled

theorem wholeDigits_digits (n : Nat) : WholeDigits (digits n) where
  digits := allDigits_digits n
  filled := digits_ne_nil n
  leading zero := by
    cases n with
    | zero => rfl
    | succ n => exact absurd zero (head?_digits n.succ_pos)

theorem Numeral.proper_integer (negative : Bool) (n : Nat) :
    (Numeral.mk negative (digits n) [] none).Proper where
  whole := wholeDigits_digits n
  fraction _ member := by cases member
  exponent _ given := by cases given

/-! ## Values -/

inductive Proper : Form → Prop
  | null : Proper (.value .null)
  | bool (b : Bool) : Proper (.value (.bool b))
  | number {n : Numeral} (proper : n.Proper) : Proper (.value (.number n))
  | text (s : String) : Proper (.value (.text s))
  | emptyArray : Proper (.value (.array []))
  | array {vs : List Json} (items : Proper (.items vs)) : Proper (.value (.array vs))
  | emptyObject : Proper (.value (.object []))
  | object {ms : List (Option String × Json)} (members : Proper (.members ms)) :
      Proper (.value (.object ms))
  | lastItem {v : Json} (item : Proper (.value v)) : Proper (.items [v])
  | item {v : Json} {vs : List Json} (item : Proper (.value v)) (more : Proper (.items vs)) :
      Proper (.items (v :: vs))
  | lastMember {v : Json} (name : String) (item : Proper (.value v)) :
      Proper (.members [(some name, v)])
  | member {v : Json} {vs : List (Option String × Json)} (name : String) (item : Proper (.value v))
      (more : Proper (.members vs)) : Proper (.members ((some name, v) :: vs))

theorem Proper.exists_items {vs : List Json} (proper : Proper (.items vs)) :
    ∃ w ws, vs = w :: ws := by
  cases proper with
  | lastItem => exact ⟨_, _, rfl⟩
  | item => exact ⟨_, _, rfl⟩

theorem Proper.exists_members {ms : List (Option String × Json)} (proper : Proper (.members ms)) :
    ∃ w ws, ms = w :: ws := by
  cases proper with
  | lastMember => exact ⟨_, _, rfl⟩
  | member => exact ⟨_, _, rfl⟩

/-! ## Compact texts -/

def compact : Form → List Char
  | .value v => Printer.value v
  | .items vs => Printer.elements vs ++ [']']
  | .members ms => Printer.entries ms ++ ['\x7d']

theorem spells_text (s : String) : Spells (.value (.text s)) (Printer.string (some s)) := by
  obtain ⟨ns, ps, written, quoted, joined⟩ := exists_quoted s
  rw [written, Json.text, ← joined]
  exact .string quoted

theorem Proper.spells_compact {form : Form} (proper : Proper form) :
    Spells form (compact form) := by
  induction proper with
  | null => exact .null
  | bool b =>
      cases b with
      | true => exact .yes
      | false => exact .no
  | number proper => exact .number proper.written
  | text s => exact spells_text s
  | emptyArray => exact .emptyArray blanks_nil
  | array _ ih => exact .array ih
  | emptyObject => exact .emptyObject blanks_nil
  | object _ ih => exact .object ih
  | lastItem _ ih => exact .lastItem blanks_nil ih blanks_nil
  | item _ more ihItem ihMore =>
      obtain ⟨w, ws, rfl⟩ := more.exists_items
      have spelled := Spells.item blanks_nil ihItem blanks_nil ihMore
      simpa [compact, Printer.elements] using spelled
  | lastMember name _ ih =>
      obtain ⟨ns, ps, written, quoted, joined⟩ := exists_quoted name
      have spelled := Spells.lastMember blanks_nil quoted blanks_nil blanks_nil ih blanks_nil
      rw [joined] at spelled
      simpa [compact, Printer.entries, written] using spelled
  | member name _ more ihItem ihMore =>
      obtain ⟨w, ws, rfl⟩ := more.exists_members
      obtain ⟨ns, ps, written, quoted, joined⟩ := exists_quoted name
      have spelled := Spells.member blanks_nil quoted blanks_nil blanks_nil ihItem blanks_nil ihMore
      rw [joined] at spelled
      simpa [compact, Printer.entries, written] using spelled

/-! ## Texts over several lines -/

def layout (level : Nat) : Form → List Char
  | .value v => Printer.indented level v
  | .items vs => Printer.indentedElements (level + 1) vs ++ (Printer.newLine level ++ [']'])
  | .members ms => Printer.indentedEntries (level + 1) ms ++ (Printer.newLine level ++ ['\x7d'])

theorem blanks_newLine (level : Nat) : Blanks (Printer.newLine level) := by
  intro c member
  rcases List.mem_cons.mp member with rfl | space
  · rfl
  · rw [List.eq_of_mem_replicate space]
    rfl

theorem blanks_space : Blanks [' '] := by
  intro c member
  rw [List.mem_singleton.mp member]
  rfl

theorem Proper.spells_layout {form : Form} (proper : Proper form) (level : Nat) :
    Spells form (layout level form) := by
  induction proper generalizing level with
  | null => exact .null
  | bool b =>
      cases b with
      | true => exact .yes
      | false => exact .no
  | number proper => exact .number proper.written
  | text s => exact spells_text s
  | emptyArray => exact .emptyArray blanks_nil
  | array items ih =>
      obtain ⟨w, ws, rfl⟩ := items.exists_items
      have spelled := Spells.array (ih level)
      simpa [layout, Printer.indented] using spelled
  | emptyObject => exact .emptyObject blanks_nil
  | object members ih =>
      obtain ⟨w, ws, rfl⟩ := members.exists_members
      have spelled := Spells.object (ih level)
      simpa [layout, Printer.indented] using spelled
  | lastItem _ ih =>
      have spelled := Spells.lastItem (blanks_newLine (level + 1)) (ih (level + 1))
        (blanks_newLine level)
      simpa [layout, Printer.indentedElements] using spelled
  | item _ more ihItem ihMore =>
      obtain ⟨w, ws, rfl⟩ := more.exists_items
      have spelled := Spells.item (blanks_newLine (level + 1)) (ihItem (level + 1)) blanks_nil
        (ihMore level)
      simpa [layout, Printer.indentedElements] using spelled
  | lastMember name _ ih =>
      obtain ⟨ns, ps, written, quoted, joined⟩ := exists_quoted name
      have spelled := Spells.lastMember (blanks_newLine (level + 1)) quoted blanks_nil blanks_space
        (ih (level + 1)) (blanks_newLine level)
      rw [joined] at spelled
      simpa [layout, Printer.indentedEntries, written] using spelled
  | member name _ more ihItem ihMore =>
      obtain ⟨w, ws, rfl⟩ := more.exists_members
      obtain ⟨ns, ps, written, quoted, joined⟩ := exists_quoted name
      have spelled := Spells.member (blanks_newLine (level + 1)) quoted blanks_nil blanks_space
        (ihItem (level + 1)) blanks_nil (ihMore level)
      rw [joined] at spelled
      simpa [layout, Printer.indentedEntries, written] using spelled

/-! ## Documents -/

theorem parse?_render {v : Json} (proper : Proper (.value v)) : parse? v.render = some v := by
  have read := parse?_of_spells blanks_nil proper.spells_compact blanks_nil
  rwa [List.nil_append, List.append_nil] at read

theorem parse?_renderIndented {v : Json} (proper : Proper (.value v)) :
    parse? v.renderIndented = some v := by
  have read := parse?_of_spells blanks_nil (proper.spells_layout 0) blanks_nil
  rwa [List.nil_append, List.append_nil] at read

end FleetResponse.Json
