import FleetResponse.Json.Reader
import FleetResponse.Proofs.Text.Numeral

namespace FleetResponse.Json

open Reader Text

/-! ## String literals -/

inductive Quoted : List Char → List Piece → Prop
  | done : Quoted [] []
  | raw {c : Char} {cs : List Char} {ps : List Piece} (visible : 0x20 ≤ c.toNat) (noQuote : c ≠ '"')
      (noEscape : c ≠ '\\') (more : Quoted cs ps) : Quoted (c :: cs) (.char c :: ps)
  | short {c d : Char} {cs : List Char} {ps : List Piece} (known : shortEscape? c = some d)
      (more : Quoted cs ps) : Quoted ('\\' :: c :: cs) (.char d :: ps)
  | unit {a b c d : Char} {n : Nat} {cs : List Char} {ps : List Piece}
      (hex : unit? a b c d = some n) (more : Quoted cs ps) :
      Quoted ('\\' :: 'u' :: a :: b :: c :: d :: cs) (.unit n :: ps)

theorem Quoted.append {cs ds : List Char} {ps qs : List Piece} (front : Quoted cs ps)
    (back : Quoted ds qs) : Quoted (cs ++ ds) (ps ++ qs) := by
  induction front with
  | done => exact back
  | raw visible noQuote noEscape _ ih => exact .raw visible noQuote noEscape ih
  | short known _ ih => exact .short known ih
  | unit hex _ ih => exact .unit hex ih

theorem Quoted.pieces_eq {cs : List Char} {ps : List Piece} (quoted : Quoted cs ps)
    (rest : List Char) : pieces (cs ++ '"' :: rest) = some (ps, rest) := by
  induction quoted with
  | done => rfl
  | @raw c cs ps visible noQuote noEscape _ ih =>
      have written : ¬ (c.toNat < 0x20 ∨ c = '\\') :=
        not_or.mpr ⟨Nat.not_lt.mpr visible, noEscape⟩
      rw [List.cons_append, pieces.eq_4 _ _ noQuote (fun _ _ _ _ _ same => absurd same noEscape)
        (fun _ _ same => absurd same noEscape), if_neg written, ih]
      rfl
  | @short c d cs ps known _ ih =>
      have other : c ≠ 'u' := by
        rintro rfl
        cases known
      rw [List.cons_append, List.cons_append,
        pieces.eq_3 _ _ (fun _ _ _ _ _ same => absurd same other), known, ih]
      rfl
  | unit hex _ ih =>
      simp only [List.cons_append]
      rw [pieces.eq_2, hex, ih]
      rfl

theorem Quoted.string_eq {cs : List Char} {ps : List Piece} (quoted : Quoted cs ps)
    (rest : List Char) :
    Reader.string (cs ++ '"' :: rest) = some ((join? ps).map String.ofList, rest) := by
  rw [Reader.string, quoted.pieces_eq]
  rfl

/-! ## Number literals -/

structure WholeDigits (cs : List Char) : Prop where
  digits : AllDigits cs
  filled : cs ≠ []
  leading : cs.head? = some '0' → cs = ['0']

inductive ExponentSign : Bool → List Char → Prop
  | minus : ExponentSign true ['-']
  | plus : ExponentSign false ['+']
  | absent : ExponentSign false []

inductive Exponent : Option (Bool × List Char) → List Char → Prop
  | absent : Exponent none []
  | present {mark : Char} {negative : Bool} {sign digits : List Char}
      (known : mark = 'e' ∨ mark = 'E') (signed : ExponentSign negative sign)
      (all : AllDigits digits) (filled : digits ≠ []) :
      Exponent (some (negative, digits)) (mark :: (sign ++ digits))

def minusSign (negative : Bool) : List Char :=
  if negative then ['-'] else []

def point (fraction : List Char) : List Char :=
  if fraction = [] then [] else '.' :: fraction

inductive Numeral.Written : Numeral → List Char → Prop
  | mk {negative : Bool} {whole fraction es : List Char} {exponent : Option (Bool × List Char)}
      (wholeDigits : WholeDigits whole) (fractionDigits : AllDigits fraction)
      (exponentWritten : Exponent exponent es) :
      Written ⟨negative, whole, fraction, exponent⟩
        (minusSign negative ++ (whole ++ (point fraction ++ es)))

def Ends (cs : List Char) : Prop :=
  ∀ c ∈ cs.head?, c.isDigit = false ∧ c ≠ '.' ∧ c ≠ 'e' ∧ c ≠ 'E'

theorem ends_cons {c : Char} (digit : c.isDigit = false) (noPoint : c ≠ '.') (small : c ≠ 'e')
    (large : c ≠ 'E') (cs : List Char) : Ends (c :: cs) := by
  simpa [Ends] using ⟨digit, noPoint, small, large⟩

theorem ends_nil : Ends [] := by
  intro c first
  cases first

theorem Ends.undigit {cs : List Char} (ends : Ends cs) : Undigit cs :=
  fun c first => (ends c first).1

theorem whole_eq {cs rest : List Char} (whole : WholeDigits cs) (stop : Undigit rest) :
    Reader.whole (cs ++ rest) = some (cs, rest) := by
  rw [Reader.whole, span_digits whole.digits stop]
  obtain ⟨digits, filled, leading⟩ := whole
  split
  · rename_i same
    cases same
    exact absurd rfl filled
  · rename_i same
    cases same
    cases leading rfl
  · rfl

theorem someDigits_eq {cs rest : List Char} (digits : AllDigits cs) (filled : cs ≠ [])
    (stop : Undigit rest) : someDigits (cs ++ rest) = some (cs, rest) := by
  rw [someDigits, span_digits digits stop]
  split
  · rename_i same
    cases same
    exact absurd rfl filled
  · rfl

theorem fraction_eq {cs rest : List Char} (digits : AllDigits cs) (stop : Undigit rest)
    (noPoint : ∀ c ∈ rest.head?, c ≠ '.') : fraction (point cs ++ rest) = some (cs, rest) := by
  by_cases empty : cs = []
  · subst empty
    cases rest with
    | nil => rfl
    | cons c rest => exact fraction.eq_2 _ fun _ same => noPoint c rfl (List.cons.inj same).1
  · rw [point, if_neg empty]
    exact someDigits_eq digits empty stop

theorem exponentSign_eq {negative : Bool} {sign digits : List Char}
    (signed : ExponentSign negative sign) (all : AllDigits digits) (rest : List Char)
    (filled : digits ≠ []) :
    exponentSign (sign ++ digits ++ rest) = (negative, digits ++ rest) := by
  obtain ⟨c, cs, rfl⟩ := List.exists_cons_of_ne_nil filled
  have digit := all c List.mem_cons_self
  cases signed with
  | minus => rfl
  | plus => rfl
  | absent =>
      refine exponentSign.eq_3 _ (fun _ same => ?_) (fun _ same => ?_) <;>
      · rw [(List.cons.inj same).1] at digit
        cases digit

theorem exponent_eq {e : Option (Bool × List Char)} {es rest : List Char} (written : Exponent e es)
    (ends : Ends rest) : exponent (es ++ rest) = some (e, rest) := by
  cases written with
  | absent =>
      cases rest with
      | nil => rfl
      | cons c rest =>
          obtain ⟨-, -, small, large⟩ := ends c rfl
          exact if_neg (not_or.mpr ⟨small, large⟩)
  | @present mark negative sign digits known signed all filled =>
      rw [List.cons_append, exponent, if_pos known, exponentSign_eq signed all rest filled]
      simp only
      rw [someDigits_eq all filled ends.undigit]
      rfl

theorem Exponent.head {e : Option (Bool × List Char)} {es rest : List Char}
    (written : Exponent e es) (ends : Ends rest) :
    ∀ c ∈ (es ++ rest).head?, c.isDigit = false ∧ c ≠ '.' := by
  cases written with
  | absent => exact fun c first => ⟨(ends c first).1, (ends c first).2.1⟩
  | present known =>
      rintro c first
      obtain rfl := Option.some.inj first
      rcases known with rfl | rfl <;> decide

theorem undigit_point {cs rest : List Char} (stop : Undigit rest) : Undigit (point cs ++ rest) := by
  unfold point
  split
  · exact stop
  · exact undigit_cons rfl _

theorem minus_eq {cs : List Char} (negative : Bool) (first : ∀ c ∈ cs.head?, c.isDigit = true) :
    minus (minusSign negative ++ cs) = (negative, cs) := by
  cases negative with
  | true => rfl
  | false =>
      refine minus.eq_2 _ fun rest same => ?_
      obtain rfl : cs = '-' :: rest := same
      cases first '-' rfl

theorem WholeDigits.head {cs : List Char} (whole : WholeDigits cs) :
    ∃ c t, cs = c :: t ∧ c.isDigit = true := by
  obtain ⟨c, t, rfl⟩ := List.exists_cons_of_ne_nil whole.filled
  exact ⟨c, t, rfl, whole.digits c List.mem_cons_self⟩

theorem Numeral.Written.numeral_eq {n : Numeral} {cs rest : List Char} (written : n.Written cs)
    (ends : Ends rest) : numeral (cs ++ rest) = some (n, rest) := by
  obtain ⟨wholeDigits, fractionDigits, exponentWritten⟩ := written
  rename_i negative whole fraction es e
  have stop := exponentWritten.head ends
  obtain ⟨c, t, rfl, digit⟩ := wholeDigits.head
  have first : ∀ d ∈ (c :: t ++ (point fraction ++ (es ++ rest))).head?, d.isDigit = true := by
    rintro d same
    obtain rfl := Option.some.inj same
    exact digit
  simp only [List.append_assoc]
  rw [numeral, minus_eq negative first]
  simp only
  rw [whole_eq wholeDigits (undigit_point fun d same => (stop d same).1), Option.bind_eq_bind,
    Option.bind_some]
  simp only
  rw [fraction_eq fractionDigits (fun d same => (stop d same).1) fun d same => (stop d same).2,
    Option.bind_eq_bind, Option.bind_some]
  simp only
  rw [exponent_eq exponentWritten ends]
  rfl

/-! ## Blanks and marks -/

def Blanks (cs : List Char) : Prop :=
  ∀ c ∈ cs, isSpace c = true

theorem blanks_nil : Blanks [] := by
  intro c member
  cases member

theorem skipSpace_blanks {bs : List Char} (blanks : Blanks bs) (cs : List Char) :
    skipSpace (bs ++ cs) = skipSpace cs :=
  List.dropWhile_append_of_pos blanks

theorem skipSpace_cons {c : Char} (visible : isSpace c = false) (cs : List Char) :
    skipSpace (c :: cs) = c :: cs := by
  simp [skipSpace, visible]

theorem after?_mark {mark : Char} {bs : List Char} (visible : isSpace mark = false)
    (blanks : Blanks bs) (rest : List Char) : after? mark (bs ++ mark :: rest) = some rest := by
  rw [after?, skipSpace_blanks blanks, skipSpace_cons visible]
  exact if_pos rfl

theorem after?_other {mark c : Char} {bs : List Char} (visible : isSpace c = false)
    (other : c ≠ mark) (blanks : Blanks bs) (rest : List Char) :
    after? mark (bs ++ c :: rest) = none := by
  rw [after?, skipSpace_blanks blanks, skipSpace_cons visible]
  exact if_neg other

theorem Blanks.ends_append {bs : List Char} (blanks : Blanks bs) {rest : List Char}
    (ends : Ends rest) : Ends (bs ++ rest) := by
  cases bs with
  | nil => exact ends
  | cons c bs =>
      have blank := blanks c List.mem_cons_self
      simp only [isSpace, Bool.or_eq_true, decide_eq_true_eq] at blank
      rcases blank with ((rfl | rfl) | rfl) | rfl <;>
      · exact ends_cons (by decide) (by decide) (by decide) (by decide) _

/-! ## Values -/

/-- What a text may be: a value, or the items of an array or the members of an object with the
bracket after them. There is at least one item or member. -/
inductive Form
  | value (v : Json)
  | items (vs : List Json)
  | members (ms : List (Option String × Json))

inductive Spells : Form → List Char → Prop
  | null : Spells (.value .null) ['n', 'u', 'l', 'l']
  | yes : Spells (.value (.bool true)) ['t', 'r', 'u', 'e']
  | no : Spells (.value (.bool false)) ['f', 'a', 'l', 's', 'e']
  | number {n : Numeral} {cs : List Char} (written : n.Written cs) : Spells (.value (.number n)) cs
  | string {cs : List Char} {ps : List Piece} (quoted : Quoted cs ps) :
      Spells (.value (.string ((join? ps).map String.ofList))) ('"' :: (cs ++ ['"']))
  | emptyArray {bs : List Char} (blanks : Blanks bs) :
      Spells (.value (.array [])) ('[' :: (bs ++ [']']))
  | array {vs : List Json} {cs : List Char} (items : Spells (.items vs) cs) :
      Spells (.value (.array vs)) ('[' :: cs)
  | emptyObject {bs : List Char} (blanks : Blanks bs) :
      Spells (.value (.object [])) ('\x7b' :: (bs ++ ['\x7d']))
  | object {ms : List (Option String × Json)} {cs : List Char} (members : Spells (.members ms) cs) :
      Spells (.value (.object ms)) ('\x7b' :: cs)
  | lastItem {v : Json} {bs cs es : List Char} (before : Blanks bs) (item : Spells (.value v) cs)
      (after : Blanks es) : Spells (.items [v]) (bs ++ (cs ++ (es ++ [']'])))
  | item {v : Json} {vs : List Json} {bs cs es ds : List Char} (before : Blanks bs)
      (item : Spells (.value v) cs) (after : Blanks es) (more : Spells (.items vs) ds) :
      Spells (.items (v :: vs)) (bs ++ (cs ++ (es ++ ',' :: ds)))
  | lastMember {v : Json} {ps : List Piece} {as ns ms bs cs es : List Char} (first : Blanks as)
      (name : Quoted ns ps) (middle : Blanks ms) (before : Blanks bs) (item : Spells (.value v) cs)
      (after : Blanks es) :
      Spells (.members [((join? ps).map String.ofList, v)])
        (as ++ '"' :: (ns ++ '"' :: (ms ++ ':' :: (bs ++ (cs ++ (es ++ ['\x7d']))))))
  | member {v : Json} {vs : List (Option String × Json)} {ps : List Piece}
      {as ns ms bs cs es ds : List Char} (first : Blanks as) (name : Quoted ns ps)
      (middle : Blanks ms) (before : Blanks bs) (item : Spells (.value v) cs) (after : Blanks es)
      (more : Spells (.members vs) ds) :
      Spells (.members (((join? ps).map String.ofList, v) :: vs))
        (as ++ '"' :: (ns ++ '"' :: (ms ++ ':' :: (bs ++ (cs ++ (es ++ ',' :: ds))))))

theorem isSpace_of_isDigit {c : Char} (digit : c.isDigit = true) : isSpace c = false := by
  by_contra space
  simp only [isSpace, Bool.not_eq_false, Bool.or_eq_true, decide_eq_true_eq] at space
  rcases space with ((rfl | rfl) | rfl) | rfl <;> cases digit

theorem Numeral.Written.head {n : Numeral} {cs : List Char} (written : n.Written cs) :
    ∃ c t, cs = c :: t ∧ (c = '-' ∨ c.isDigit = true) := by
  obtain ⟨wholeDigits, -, -⟩ := written
  rename_i negative whole fraction es e
  obtain ⟨c, t, rfl, digit⟩ := wholeDigits.head
  cases negative with
  | true => exact ⟨'-', _, rfl, .inl rfl⟩
  | false => exact ⟨c, _, rfl, .inr digit⟩

theorem Spells.head {v : Json} {cs : List Char} (spells : Spells (.value v) cs) :
    ∃ c t, cs = c :: t ∧ isSpace c = false ∧ c ≠ ']' := by
  cases spells with
  | number written =>
      obtain ⟨c, t, rfl, rfl | digit⟩ := written.head
      · exact ⟨'-', t, rfl, by decide, by decide⟩
      · refine ⟨c, t, rfl, isSpace_of_isDigit digit, ?_⟩
        rintro rfl
        cases digit
  | _ => exact ⟨_, _, rfl, by decide, by decide⟩

theorem value_of_head {cs : List Char} {c : Char} {t : List Char} (bound : Nat) {bs : List Char}
    (blanks : Blanks bs) (same : cs = c :: t) (first : c = '-' ∨ c.isDigit = true) :
    value (bound + 1) (bs ++ cs) = (numeral cs).map fun (n, rest) => (.number n, rest) := by
  have visible : isSpace c = false := first.elim (fun same => same ▸ by decide) isSpace_of_isDigit
  rw [value.eq_2, skipSpace_blanks blanks, same, skipSpace_cons visible]
  split <;> first
    | rfl
    | rename_i matched
      cases matched
      rcases first with same | digit
      · cases same
      · cases digit

/-- What the reader does with a text that has the form, whatever follows it. -/
def Reads : Form → Nat → List Char → Prop
  | .value v, bound, cs =>
      ∀ bs rest, Blanks bs → Ends rest → value bound (bs ++ (cs ++ rest)) = some (v, rest)
  | .items vs, bound, cs => ∀ rest, items bound (cs ++ rest) = some (vs, rest)
  | .members ms, bound, cs => ∀ rest, members bound (cs ++ rest) = some (ms, rest)

theorem reads_value {v : Json} {bound : Nat} {c : Char} {cs : List Char}
    (visible : isSpace c = false)
    (read : ∀ rest, Ends rest → value (bound + 1) (c :: (cs ++ rest)) = some (v, rest)) :
    Reads (.value v) (bound + 1) (c :: cs) := by
  intro bs rest blanks ends
  have spaces := skipSpace_cons visible (cs ++ rest)
  rw [List.cons_append, value.eq_2, skipSpace_blanks blanks, ← read rest ends, value.eq_2]

theorem reads_number {n : Numeral} {bound : Nat} {cs : List Char} (written : n.Written cs) :
    Reads (.value (.number n)) (bound + 1) cs := by
  intro bs rest blanks ends
  obtain ⟨c, t, rfl, first⟩ := written.head
  rw [value_of_head bound blanks (List.cons_append ..) first, written.numeral_eq ends]
  rfl

theorem reads_string {ps : List Piece} {bound : Nat} {cs : List Char} (quoted : Quoted cs ps) :
    Reads (.value (.string ((join? ps).map String.ofList))) (bound + 1)
      ('"' :: (cs ++ ['"'])) := by
  refine reads_value (by decide) fun rest _ => ?_
  rw [value.eq_2, skipSpace_cons (by decide), List.append_assoc, List.singleton_append]
  simp only
  rw [quoted.string_eq]
  rfl

theorem reads_emptyArray {bound : Nat} {bs : List Char} (blanks : Blanks bs) :
    Reads (.value (.array [])) (bound + 1) ('[' :: (bs ++ [']'])) := by
  refine reads_value (by decide) fun rest _ => ?_
  rw [value.eq_2, skipSpace_cons (by decide), List.append_assoc, List.singleton_append]
  simp only
  rw [after?_mark (by decide) blanks]

theorem reads_emptyObject {bound : Nat} {bs : List Char} (blanks : Blanks bs) :
    Reads (.value (.object [])) (bound + 1) ('\x7b' :: (bs ++ ['\x7d'])) := by
  refine reads_value (by decide) fun rest _ => ?_
  rw [value.eq_2, skipSpace_cons (by decide), List.append_assoc, List.singleton_append]
  simp only
  rw [after?_mark (by decide) blanks]

theorem reads_array {vs : List Json} {bound : Nat} {cs : List Char}
    (opens : ∀ rest, after? ']' (cs ++ rest) = none) (items : Reads (.items vs) bound cs) :
    Reads (.value (.array vs)) (bound + 1) ('[' :: cs) := by
  refine reads_value (by decide) fun rest _ => ?_
  rw [value.eq_2, skipSpace_cons (by decide)]
  simp only
  rw [opens rest]
  simp only
  rw [items rest]
  rfl

theorem reads_object {ms : List (Option String × Json)} {bound : Nat} {cs : List Char}
    (opens : ∀ rest, after? '\x7d' (cs ++ rest) = none) (members : Reads (.members ms) bound cs) :
    Reads (.value (.object ms)) (bound + 1) ('\x7b' :: cs) := by
  refine reads_value (by decide) fun rest _ => ?_
  rw [value.eq_2, skipSpace_cons (by decide)]
  simp only
  rw [opens rest]
  simp only
  rw [members rest]
  rfl

theorem ends_mark {mark : Char} {es : List Char} (blanks : Blanks es)
    (known : mark = ',' ∨ mark = ']' ∨ mark = '\x7d') (rest : List Char) :
    Ends (es ++ mark :: rest) := by
  apply blanks.ends_append
  rcases known with rfl | rfl | rfl <;>
  · exact ends_cons (by decide) (by decide) (by decide) (by decide) rest

theorem items_value {v : Json} {bound : Nat} {bs cs tail : List Char} (before : Blanks bs)
    (item : Reads (.value v) bound cs) (ends : Ends tail) :
    items (bound + 1) (bs ++ (cs ++ tail)) =
      match after? ',' tail with
      | some rest => (items bound rest).map fun (more, rest) => (v :: more, rest)
      | none => (after? ']' tail).map fun rest => ([v], rest) := by
  rw [items.eq_2, item bs tail before ends, Option.bind_eq_bind, Option.bind_some]
  simp only
  cases after? ',' tail with
  | none => exact Option.map_eq_bind.symm
  | some rest => exact Option.map_eq_bind.symm

theorem reads_lastItem {v : Json} {bound : Nat} {bs cs es : List Char} (before : Blanks bs)
    (after : Blanks es) (item : Reads (.value v) bound cs) :
    Reads (.items [v]) (bound + 1) (bs ++ (cs ++ (es ++ [']']))) := by
  intro rest
  simp only [List.append_assoc, List.singleton_append]
  rw [items_value before item (ends_mark after (by decide) rest),
    after?_other (by decide) (by decide) after, after?_mark (by decide) after]
  rfl

theorem reads_item {v : Json} {vs : List Json} {bound : Nat} {bs cs es ds : List Char}
    (before : Blanks bs) (after : Blanks es) (item : Reads (.value v) bound cs)
    (more : Reads (.items vs) bound ds) :
    Reads (.items (v :: vs)) (bound + 1) (bs ++ (cs ++ (es ++ ',' :: ds))) := by
  intro rest
  simp only [List.append_assoc, List.cons_append]
  rw [items_value before item (ends_mark after (by decide) _), after?_mark (by decide) after]
  simp only
  rw [more rest]
  rfl

theorem members_value {v : Json} {ps : List Piece} {bound : Nat}
    {as ns ms bs cs tail : List Char} (first : Blanks as) (name : Quoted ns ps) (middle : Blanks ms)
    (before : Blanks bs) (item : Reads (.value v) bound cs) (ends : Ends tail) :
    members (bound + 1) (as ++ '"' :: (ns ++ '"' :: (ms ++ ':' :: (bs ++ (cs ++ tail))))) =
      match after? ',' tail with
      | some rest => (members bound rest).map fun (more, rest) =>
          (((join? ps).map String.ofList, v) :: more, rest)
      | none => (after? '\x7d' tail).map fun rest =>
          ([((join? ps).map String.ofList, v)], rest) := by
  rw [members.eq_2, after?_mark (by decide) first, Option.bind_eq_bind, Option.bind_some,
    name.string_eq, Option.bind_eq_bind, Option.bind_some]
  simp only
  rw [after?_mark (by decide) middle, Option.bind_eq_bind, Option.bind_some,
    item bs tail before ends, Option.bind_eq_bind, Option.bind_some]
  simp only
  cases after? ',' tail with
  | none => exact Option.map_eq_bind.symm
  | some rest => exact Option.map_eq_bind.symm

theorem reads_lastMember {v : Json} {ps : List Piece} {bound : Nat}
    {as ns ms bs cs es : List Char} (first : Blanks as) (name : Quoted ns ps) (middle : Blanks ms)
    (before : Blanks bs) (after : Blanks es) (item : Reads (.value v) bound cs) :
    Reads (.members [((join? ps).map String.ofList, v)]) (bound + 1)
      (as ++ '"' :: (ns ++ '"' :: (ms ++ ':' :: (bs ++ (cs ++ (es ++ ['\x7d'])))))) := by
  intro rest
  simp only [List.append_assoc, List.cons_append, List.nil_append]
  rw [members_value first name middle before item (ends_mark after (by decide) rest),
    after?_other (by decide) (by decide) after, after?_mark (by decide) after]
  rfl

theorem reads_member {v : Json} {vs : List (Option String × Json)} {ps : List Piece} {bound : Nat}
    {as ns ms bs cs es ds : List Char} (first : Blanks as) (name : Quoted ns ps)
    (middle : Blanks ms) (before : Blanks bs) (after : Blanks es)
    (item : Reads (.value v) bound cs) (more : Reads (.members vs) bound ds) :
    Reads (.members (((join? ps).map String.ofList, v) :: vs)) (bound + 1)
      (as ++ '"' :: (ns ++ '"' :: (ms ++ ':' :: (bs ++ (cs ++ (es ++ ',' :: ds)))))) := by
  intro rest
  simp only [List.append_assoc, List.cons_append]
  rw [members_value first name middle before item (ends_mark after (by decide) _),
    after?_mark (by decide) after]
  simp only
  rw [more rest]
  rfl

theorem Spells.items_open {vs : List Json} {cs : List Char} (spells : Spells (.items vs) cs)
    (rest : List Char) : after? ']' (cs ++ rest) = none := by
  have start {v : Json} {bs ds es : List Char} (before : Blanks bs) (item : Spells (.value v) ds) :
      after? ']' (bs ++ (ds ++ es)) = none := by
    obtain ⟨c, t, rfl, visible, other⟩ := item.head
    exact after?_other visible other before (t ++ es)
  cases spells with
  | lastItem before item after =>
      simp only [List.append_assoc]
      exact start before item
  | item before item after more =>
      simp only [List.append_assoc]
      exact start before item

theorem Spells.members_open {ms : List (Option String × Json)} {cs : List Char}
    (spells : Spells (.members ms) cs) (rest : List Char) :
    after? '\x7d' (cs ++ rest) = none := by
  cases spells with
  | lastMember first =>
      rw [List.append_assoc]
      exact after?_other (by decide) (by decide) first _
  | member first =>
      rw [List.append_assoc]
      exact after?_other (by decide) (by decide) first _

theorem reads_of_lt {form : Form} {cs : List Char} {bound : Nat}
    (reads : ∀ bound, 2 * cs.length ≤ bound → Reads form (bound + 1) cs)
    (enough : 2 * cs.length < bound) : Reads form bound cs := by
  cases bound with
  | zero => cases enough
  | succ bound => exact reads bound (Nat.le_of_lt_succ enough)

theorem Spells.reads {form : Form} {cs : List Char} (spells : Spells form cs) :
    ∀ bound, 2 * cs.length ≤ bound → Reads form (bound + 1) cs := by
  -- The calls nest at most two deep for each character: the brackets and the commas each open
  -- one call for the items after them and one for the next item.
  induction spells with
  | null => exact fun bound _ => reads_value (by decide) fun rest _ => rfl
  | yes => exact fun bound _ => reads_value (by decide) fun rest _ => rfl
  | no => exact fun bound _ => reads_value (by decide) fun rest _ => rfl
  | number written => exact fun bound _ => reads_number written
  | string quoted => exact fun bound _ => reads_string quoted
  | emptyArray blanks => exact fun bound _ => reads_emptyArray blanks
  | emptyObject blanks => exact fun bound _ => reads_emptyObject blanks
  | array items ih =>
      intro bound enough
      rw [List.length_cons] at enough
      exact reads_array items.items_open (reads_of_lt ih (by omega))
  | object members ih =>
      intro bound enough
      rw [List.length_cons] at enough
      exact reads_object members.members_open (reads_of_lt ih (by omega))
  | lastItem before _ after ih =>
      intro bound enough
      simp only [List.length_append, List.length_singleton] at enough
      exact reads_lastItem before after (reads_of_lt ih (by omega))
  | item before _ after _ ihItem ihMore =>
      intro bound enough
      simp only [List.length_append, List.length_cons] at enough
      exact reads_item before after (reads_of_lt ihItem (by omega)) (reads_of_lt ihMore (by omega))
  | lastMember first name middle before _ after ih =>
      intro bound enough
      simp only [List.length_append, List.length_cons, List.length_nil] at enough
      exact reads_lastMember first name middle before after (reads_of_lt ih (by omega))
  | member first name middle before _ after _ ihItem ihMore =>
      intro bound enough
      simp only [List.length_append, List.length_cons] at enough
      exact reads_member first name middle before after (reads_of_lt ihItem (by omega))
        (reads_of_lt ihMore (by omega))

theorem parse?_of_spells {v : Json} {bs cs es : List Char} (before : Blanks bs)
    (spells : Spells (.value v) cs) (after : Blanks es) :
    parse? (String.ofList (bs ++ (cs ++ es))) = some v := by
  have ends : Ends es := by
    have stop := after.ends_append ends_nil
    rwa [List.append_nil] at stop
  have enough : 2 * cs.length ≤ 2 * (bs ++ (cs ++ es)).length + 1 := by
    simp only [List.length_append]
    omega
  have read := spells.reads _ enough bs es before ends
  have spaces : skipSpace es = [] := by
    have skipped := skipSpace_blanks after []
    rwa [List.append_nil] at skipped
  rw [parse?, String.toList_ofList, read]
  exact if_pos spaces

end FleetResponse.Json
