import FleetResponse.Proofs.Json.Grammar

namespace FleetResponse.Json

open Reader Text

/-! ## Blanks and string literals -/

theorem exists_blanks (cs : List Char) : ∃ bs, Blanks bs ∧ cs = bs ++ skipSpace cs :=
  ⟨cs.takeWhile isSpace, List.all_eq_true.mp List.all_takeWhile,
    List.takeWhile_append_dropWhile.symm⟩

theorem blanks_of_skipSpace {cs : List Char} (skipped : skipSpace cs = []) : Blanks cs := by
  obtain ⟨bs, blanks, same⟩ := exists_blanks cs
  rw [skipped, List.append_nil] at same
  exact same ▸ blanks

theorem of_after? {mark : Char} {cs rest : List Char} (read : after? mark cs = some rest) :
    ∃ bs, Blanks bs ∧ cs = bs ++ mark :: rest := by
  obtain ⟨bs, blanks, same⟩ := exists_blanks cs
  rw [after?] at read
  split at read
  · rename_i c t skipped
    split at read
    · rename_i known
      obtain rfl := Option.some.inj read
      exact ⟨bs, blanks, by rw [same, skipped, known]⟩
    · cases read
  · cases read

theorem of_pieces {cs rest : List Char} {ps : List Piece} (read : pieces cs = some (ps, rest)) :
    ∃ ns, cs = ns ++ '"' :: rest ∧ Quoted ns ps := by
  induction cs using pieces.induct generalizing ps with
  | case1 rest =>
      cases read
      exact ⟨[], rfl, .done⟩
  | case2 a b c d more ih =>
      simp only [pieces, Option.bind_eq_bind, Option.bind_eq_some_iff, Prod.exists] at read
      obtain ⟨n, hex, qs, t, inner, same⟩ := read
      cases same
      obtain ⟨ns, rfl, quoted⟩ := ih inner
      exact ⟨_, rfl, .unit hex quoted⟩
  | case3 c more plain ih =>
      rw [pieces.eq_3 _ _ plain] at read
      simp only [Option.bind_eq_bind, Option.bind_eq_some_iff, Prod.exists] at read
      obtain ⟨d, known, qs, t, inner, same⟩ := read
      cases same
      obtain ⟨ns, rfl, quoted⟩ := ih inner
      exact ⟨_, rfl, .short known quoted⟩
  | case4 c more noQuote noUnit noEscape bad =>
      rw [pieces.eq_4 _ _ noQuote noUnit noEscape, if_pos bad] at read
      cases read
  | case5 c more noQuote noUnit noEscape good ih =>
      rw [pieces.eq_4 _ _ noQuote noUnit noEscape, if_neg good] at read
      simp only [Option.bind_eq_bind, Option.bind_eq_some_iff, Prod.exists] at read
      obtain ⟨qs, t, inner, same⟩ := read
      cases same
      obtain ⟨visible, plain⟩ := not_or.mp good
      obtain ⟨ns, rfl, quoted⟩ := ih inner
      exact ⟨_, rfl, .raw (Nat.le_of_not_lt visible) noQuote plain quoted⟩
  | case6 => cases read

theorem of_string {cs rest : List Char} {s : Option String}
    (read : Reader.string cs = some (s, rest)) :
    ∃ ns ps, cs = ns ++ '"' :: rest ∧ Quoted ns ps ∧ s = (join? ps).map String.ofList := by
  rw [Reader.string] at read
  simp only [Option.bind_eq_bind, Option.bind_eq_some_iff, Prod.exists] at read
  obtain ⟨ps, t, inner, same⟩ := read
  cases same
  obtain ⟨ns, rfl, quoted⟩ := of_pieces inner
  exact ⟨ns, ps, rfl, quoted, rfl⟩

/-! ## Number literals -/

theorem span_isDigit (cs : List Char) : ∃ ds rest, cs.span Char.isDigit = (ds, rest) ∧
    cs = ds ++ rest ∧ AllDigits ds := by
  exact ⟨_, _, List.span_eq_takeWhile_dropWhile _ _, List.takeWhile_append_dropWhile.symm,
    List.all_eq_true.mp List.all_takeWhile⟩

theorem of_whole {cs ds rest : List Char} (read : Reader.whole cs = some (ds, rest)) :
    cs = ds ++ rest ∧ WholeDigits ds := by
  obtain ⟨front, back, spanned, rfl, digits⟩ := span_isDigit cs
  rw [Reader.whole, spanned] at read
  split at read
  · cases read
  · cases read
  · rename_i filled alone
    cases read
    refine ⟨rfl, digits, fun empty => filled _ (by rw [empty]), fun zero => ?_⟩
    obtain ⟨tail, rfl⟩ := List.head?_eq_some_iff.mp zero
    cases tail with
    | nil => rfl
    | cons c tail => exact absurd rfl (alone c tail rest)

theorem of_someDigits {cs ds rest : List Char} (read : someDigits cs = some (ds, rest)) :
    cs = ds ++ rest ∧ AllDigits ds ∧ ds ≠ [] := by
  obtain ⟨front, back, spanned, rfl, digits⟩ := span_isDigit cs
  rw [someDigits, spanned] at read
  split at read
  · cases read
  · rename_i filled
    cases read
    exact ⟨rfl, digits, fun empty => filled _ (by rw [empty])⟩

theorem of_fraction {cs ds rest : List Char} (read : fraction cs = some (ds, rest)) :
    cs = point ds ++ rest ∧ AllDigits ds := by
  unfold fraction at read
  split at read
  · obtain ⟨rfl, digits, filled⟩ := of_someDigits read
    exact ⟨by rw [point, if_neg filled]; rfl, digits⟩
  · cases read
    exact ⟨rfl, List.forall_mem_nil _⟩

theorem of_exponentSign {cs rest : List Char} {negative : Bool}
    (read : exponentSign cs = (negative, rest)) :
    ∃ sign, cs = sign ++ rest ∧ ExponentSign negative sign := by
  unfold exponentSign at read
  split at read
  · cases read
    exact ⟨_, rfl, .minus⟩
  · cases read
    exact ⟨_, rfl, .plus⟩
  · cases read
    exact ⟨_, rfl, .absent⟩

theorem of_exponent {cs rest : List Char} {e : Option (Bool × List Char)}
    (read : exponent cs = some (e, rest)) : ∃ es, cs = es ++ rest ∧ Exponent e es := by
  cases cs with
  | nil =>
      cases read
      exact ⟨[], rfl, .absent⟩
  | cons c cs =>
      rw [exponent] at read
      split at read
      · rename_i known
        cases sign : exponentSign cs with
        | mk negative tail =>
            obtain ⟨signs, rfl, signed⟩ := of_exponentSign sign
            rw [sign] at read
            obtain ⟨⟨ds, t⟩, digits, same⟩ := Option.map_eq_some_iff.mp read
            cases same
            obtain ⟨rfl, all, filled⟩ := of_someDigits digits
            exact ⟨c :: (signs ++ ds), by simp, .present known signed all filled⟩
      · cases read
        exact ⟨[], rfl, .absent⟩

theorem minus_cases (cs : List Char) : cs = minusSign (minus cs).1 ++ (minus cs).2 := by
  unfold minus
  split <;> rfl

theorem of_numeral {cs rest : List Char} {n : Numeral} (read : numeral cs = some (n, rest)) :
    ∃ ts, cs = ts ++ rest ∧ n.Written ts := by
  have sign := minus_cases cs
  rw [numeral] at read
  simp only [Option.bind_eq_bind, Option.bind_eq_some_iff, Prod.exists] at read
  obtain ⟨whole, afterWhole, first, fraction, afterFraction, second, e, t, third, same⟩ := read
  cases same
  obtain ⟨wholeEq, wholeDigits⟩ := of_whole first
  obtain ⟨fractionEq, fractionDigits⟩ := of_fraction second
  obtain ⟨es, exponentEq, exponentWritten⟩ := of_exponent third
  refine ⟨_, ?_, .mk wholeDigits fractionDigits exponentWritten⟩
  rw [List.append_assoc, List.append_assoc, List.append_assoc, ← exponentEq, ← fractionEq,
    ← wholeEq, ← sign]

/-! ## Values -/

structure Accepts (bound : Nat) : Prop where
  value : ∀ {cs v rest}, value bound cs = some (v, rest) →
    ∃ bs ts, Blanks bs ∧ Spells (.value v) ts ∧ cs = bs ++ (ts ++ rest)
  items : ∀ {cs vs rest}, items bound cs = some (vs, rest) →
    ∃ ts, Spells (.items vs) ts ∧ cs = ts ++ rest
  members : ∀ {cs ms rest}, members bound cs = some (ms, rest) →
    ∃ ts, Spells (.members ms) ts ∧ cs = ts ++ rest

theorem accepts_value {bound : Nat} (shorter : Accepts bound) {cs rest : List Char} {v : Json}
    (read : value (bound + 1) cs = some (v, rest)) :
    ∃ bs ts, Blanks bs ∧ Spells (.value v) ts ∧ cs = bs ++ (ts ++ rest) := by
  obtain ⟨bs, blanks, same⟩ := exists_blanks cs
  suffices spelled : ∃ ts, Spells (.value v) ts ∧ skipSpace cs = ts ++ rest by
    obtain ⟨ts, spells, skipped⟩ := spelled
    exact ⟨bs, ts, blanks, spells, skipped ▸ same⟩
  rw [value.eq_2] at read
  split at read
  · rename_i first
    cases read
    exact ⟨_, .null, first⟩
  · rename_i first
    cases read
    exact ⟨_, .yes, first⟩
  · rename_i first
    cases read
    exact ⟨_, .no, first⟩
  · rename_i first
    obtain ⟨⟨s, t⟩, inner, same⟩ := Option.map_eq_some_iff.mp read
    cases same
    obtain ⟨ns, ps, rfl, quoted, rfl⟩ := of_string inner
    exact ⟨_, .string quoted, by simp [first]⟩
  · rename_i first
    split at read
    · rename_i closed
      cases read
      obtain ⟨es, inside, rfl⟩ := of_after? closed
      exact ⟨_, .emptyArray inside, by simp [first]⟩
    · obtain ⟨⟨vs, t⟩, inner, same⟩ := Option.map_eq_some_iff.mp read
      cases same
      obtain ⟨ts, spells, rfl⟩ := shorter.items inner
      exact ⟨_, .array spells, first⟩
  · rename_i first
    split at read
    · rename_i closed
      cases read
      obtain ⟨es, inside, rfl⟩ := of_after? closed
      exact ⟨_, .emptyObject inside, by simp [first]⟩
    · obtain ⟨⟨ms, t⟩, inner, same⟩ := Option.map_eq_some_iff.mp read
      cases same
      obtain ⟨ts, spells, rfl⟩ := shorter.members inner
      exact ⟨_, .object spells, first⟩
  · obtain ⟨⟨n, t⟩, inner, same⟩ := Option.map_eq_some_iff.mp read
    cases same
    obtain ⟨ts, first, written⟩ := of_numeral inner
    exact ⟨_, .number written, first⟩

theorem accepts_items {bound : Nat} (shorter : Accepts bound) {cs rest : List Char}
    {vs : List Json} (read : items (bound + 1) cs = some (vs, rest)) :
    ∃ ts, Spells (.items vs) ts ∧ cs = ts ++ rest := by
  rw [items.eq_2] at read
  simp only [Option.bind_eq_bind, Option.bind_eq_some_iff, Prod.exists] at read
  obtain ⟨v, afterItem, item, read⟩ := read
  obtain ⟨bs, ts, before, spells, rfl⟩ := shorter.value item
  split at read
  · rename_i comma
    obtain ⟨es, after, rfl⟩ := of_after? comma
    simp only [Option.bind_eq_some_iff, Prod.exists] at read
    obtain ⟨more, t, others, same⟩ := read
    cases same
    obtain ⟨ds, spellsMore, rfl⟩ := shorter.items others
    exact ⟨_, .item before spells after spellsMore, by simp⟩
  · simp only [Option.bind_eq_some_iff] at read
    obtain ⟨t, closed, same⟩ := read
    cases same
    obtain ⟨es, after, rfl⟩ := of_after? closed
    exact ⟨_, .lastItem before spells after, by simp⟩

theorem accepts_members {bound : Nat} (shorter : Accepts bound) {cs rest : List Char}
    {ms : List (Option String × Json)} (read : members (bound + 1) cs = some (ms, rest)) :
    ∃ ts, Spells (.members ms) ts ∧ cs = ts ++ rest := by
  rw [members.eq_2] at read
  simp only [Option.bind_eq_bind, Option.bind_eq_some_iff, Prod.exists] at read
  obtain ⟨afterQuote, quote, name, afterName, literal, afterColon, colon, v, afterItem, item,
    read⟩ := read
  obtain ⟨as, first, rfl⟩ := of_after? quote
  obtain ⟨ns, ps, rfl, quoted, rfl⟩ := of_string literal
  obtain ⟨gs, middle, rfl⟩ := of_after? colon
  obtain ⟨bs, ts, before, spells, rfl⟩ := shorter.value item
  split at read
  · rename_i comma
    obtain ⟨es, after, rfl⟩ := of_after? comma
    simp only [Option.bind_eq_some_iff, Prod.exists] at read
    obtain ⟨more, t, others, same⟩ := read
    cases same
    obtain ⟨ds, spellsMore, rfl⟩ := shorter.members others
    exact ⟨_, .member first quoted middle before spells after spellsMore, by simp⟩
  · simp only [Option.bind_eq_some_iff] at read
    obtain ⟨t, closed, same⟩ := read
    cases same
    obtain ⟨es, after, rfl⟩ := of_after? closed
    exact ⟨_, .lastMember first quoted middle before spells after, by simp⟩

theorem accepts (bound : Nat) : Accepts bound := by
  -- The induction is on the bound, which every call inside lowers by one.
  induction bound with
  | zero =>
      constructor
      · intro cs v rest read
        cases read
      · intro cs vs rest read
        cases read
      · intro cs ms rest read
        cases read
  | succ bound ih => exact ⟨accepts_value ih, accepts_items ih, accepts_members ih⟩

/-! ## Documents -/

inductive Document (v : Json) : String → Prop
  | mk {bs cs es : List Char} (before : Blanks bs) (spells : Spells (.value v) cs)
      (after : Blanks es) : Document v (String.ofList (bs ++ (cs ++ es)))

theorem parse?_eq_some_iff {v : Json} {document : String} :
    parse? document = some v ↔ Document v document := by
  constructor
  · intro parsed
    rw [parse?] at parsed
    split at parsed
    · cases parsed
    · rename_i w rest read
      split at parsed
      · rename_i skipped
        cases parsed
        obtain ⟨bs, ts, before, spells, same⟩ := (accepts _).value read
        rw [← String.ofList_toList (s := document), same]
        exact .mk before spells (blanks_of_skipSpace skipped)
      · cases parsed
  · rintro ⟨before, spells, after⟩
    exact parse?_of_spells before spells after

/-! ## Blanks outside string literals -/

/-- A text without its blanks, but for those between two quotes. The first argument tells whether
the text starts there. -/
def bare : Bool → List Char → List Char
  | _, [] => []
  | false, c :: cs => if isSpace c then bare false cs else c :: bare (c = '"') cs
  | true, '\\' :: c :: cs => '\\' :: c :: bare true cs
  | true, c :: cs => c :: bare (c ≠ '"') cs

theorem bare_blanks {bs : List Char} (blanks : Blanks bs) (cs : List Char) :
    bare false (bs ++ cs) = bare false cs := by
  induction bs with
  | nil => rfl
  | cons b bs ih =>
      obtain ⟨first, rest⟩ := List.forall_mem_cons.mp blanks
      rw [List.cons_append, bare, if_pos first, ih rest]

theorem bare_plain {ts : List Char} (plain : ∀ c ∈ ts, isSpace c = false ∧ c ≠ '"')
    (cs : List Char) : bare false (ts ++ cs) = ts ++ bare false cs := by
  induction ts with
  | nil => rfl
  | cons t ts ih =>
      obtain ⟨⟨visible, noQuote⟩, rest⟩ := List.forall_mem_cons.mp plain
      simp [bare, visible, noQuote, ih rest]

theorem bare_inside {c : Char} (noQuote : c ≠ '"') (noEscape : c ≠ '\\') (cs : List Char) :
    bare true (c :: cs) = c :: bare true cs := by
  rw [bare.eq_4 c cs fun _ _ same => absurd same noEscape]
  simp [noQuote]

theorem inside_of_hexValue? {c : Char} {n : Nat} (hex : hexValue? c = some n) :
    c ≠ '"' ∧ c ≠ '\\' := by
  constructor <;>
  · rintro rfl
    cases hex

theorem bare_quoted {ns : List Char} {ps : List Piece} (quoted : Quoted ns ps) (cs : List Char) :
    bare true (ns ++ '"' :: cs) = ns ++ '"' :: bare false cs := by
  induction quoted with
  | done => simp [bare]
  | raw _ noQuote noEscape _ ih => rw [List.cons_append, bare_inside noQuote noEscape, ih]; rfl
  | short known _ ih => simp [bare, ih]
  | @unit a b c d n ns ps hex _ ih =>
      simp only [unit?, Option.bind_eq_bind, Option.bind_eq_some_iff] at hex
      obtain ⟨_, first, _, second, _, third, _, fourth, -⟩ := hex
      have each {e : Char} {m : Nat} (hex : hexValue? e = some m) (es : List Char) :
          bare true (e :: es) = e :: bare true es :=
        bare_inside (inside_of_hexValue? hex).1 (inside_of_hexValue? hex).2 es
      simp only [List.cons_append]
      rw [bare, each first, each second, each third, each fourth, ih]

theorem plain_of_isDigit {c : Char} (digit : c.isDigit = true) : isSpace c = false ∧ c ≠ '"' := by
  refine ⟨isSpace_of_isDigit digit, ?_⟩
  rintro rfl
  cases digit

theorem Numeral.Written.plain {n : Numeral} {ts : List Char} (written : n.Written ts) :
    ∀ c ∈ ts, isSpace c = false ∧ c ≠ '"' := by
  obtain ⟨wholeDigits, fractionDigits, exponentWritten⟩ := written
  rename_i negative whole fraction es e
  simp only [List.forall_mem_append]
  refine ⟨?_, fun c member => plain_of_isDigit (wholeDigits.digits c member), ?_, ?_⟩
  · cases negative <;> simp [minusSign, isSpace]
  · rw [point]
    split
    · exact List.forall_mem_nil _
    · exact List.forall_mem_cons.mpr ⟨by decide, fun c member =>
        plain_of_isDigit (fractionDigits c member)⟩
  · cases exponentWritten with
    | absent => exact List.forall_mem_nil _
    | present known signed all filled =>
        simp only [List.forall_mem_cons, List.forall_mem_append]
        refine ⟨?_, ?_, fun c member => plain_of_isDigit (all c member)⟩
        · rcases known with rfl | rfl <;> decide
        · cases signed <;> simp [isSpace]

theorem Spells.exists_bare {form : Form} {ts : List Char} (spells : Spells form ts) :
    ∃ us, Spells form us ∧ ∀ cs, bare false (ts ++ cs) = us ++ bare false cs := by
  induction spells with
  | null => exact ⟨_, .null, bare_plain (by simp [isSpace])⟩
  | yes => exact ⟨_, .yes, bare_plain (by simp [isSpace])⟩
  | no => exact ⟨_, .no, bare_plain (by simp [isSpace])⟩
  | number written => exact ⟨_, .number written, bare_plain written.plain⟩
  | string quoted =>
      refine ⟨_, .string quoted, fun cs => ?_⟩
      simp [bare, isSpace, bare_quoted quoted]
  | emptyArray blanks =>
      refine ⟨_, .emptyArray blanks_nil, fun cs => ?_⟩
      simp [bare, isSpace, bare_blanks blanks]
  | emptyObject blanks =>
      refine ⟨_, .emptyObject blanks_nil, fun cs => ?_⟩
      simp [bare, isSpace, bare_blanks blanks]
  | array _ ih =>
      obtain ⟨us, spelled, same⟩ := ih
      refine ⟨_, .array spelled, fun cs => ?_⟩
      simp [bare, isSpace, same]
  | object _ ih =>
      obtain ⟨us, spelled, same⟩ := ih
      refine ⟨_, .object spelled, fun cs => ?_⟩
      simp [bare, isSpace, same]
  | lastItem before _ after ih =>
      obtain ⟨us, spelled, same⟩ := ih
      refine ⟨_, .lastItem blanks_nil spelled blanks_nil, fun cs => ?_⟩
      simp [bare, isSpace, bare_blanks before, bare_blanks after, same]
  | item before _ after _ ihItem ihMore =>
      obtain ⟨us, spelled, same⟩ := ihItem
      obtain ⟨ws, more, sameMore⟩ := ihMore
      refine ⟨_, .item blanks_nil spelled blanks_nil more, fun cs => ?_⟩
      simp [bare, isSpace, bare_blanks before, bare_blanks after, same, sameMore]
  | lastMember first name middle before _ after ih =>
      obtain ⟨us, spelled, same⟩ := ih
      refine ⟨_, .lastMember blanks_nil name blanks_nil blanks_nil spelled blanks_nil,
        fun cs => ?_⟩
      simp [bare, isSpace, bare_quoted name, bare_blanks first, bare_blanks middle,
        bare_blanks before, bare_blanks after, same]
  | member first name middle before _ after _ ihItem ihMore =>
      obtain ⟨us, spelled, same⟩ := ihItem
      obtain ⟨ws, more, sameMore⟩ := ihMore
      refine ⟨_, .member blanks_nil name blanks_nil blanks_nil spelled blanks_nil more,
        fun cs => ?_⟩
      simp [bare, isSpace, bare_quoted name, bare_blanks first, bare_blanks middle,
        bare_blanks before, bare_blanks after, same, sameMore]

theorem Document.bare {v : Json} {document : String} (spelled : Document v document) :
    Document v (String.ofList (bare false document.toList)) := by
  obtain ⟨before, spells, after⟩ := spelled
  rename_i bs cs es
  obtain ⟨us, short, same⟩ := spells.exists_bare
  have nothing : Json.bare false es = [] := by
    have skipped := bare_blanks after []
    rwa [List.append_nil] at skipped
  have whole : Json.bare false (bs ++ (cs ++ es)) = [] ++ (us ++ []) := by
    rw [bare_blanks before, same, nothing]
    rfl
  rw [String.toList_ofList, whole]
  exact .mk blanks_nil short blanks_nil

theorem parse?_congr {document other : String}
    (alike : bare false document.toList = bare false other.toList)
    (read : parse? document ≠ none) (otherRead : parse? other ≠ none) :
    parse? document = parse? other := by
  obtain ⟨v, parsed⟩ := Option.ne_none_iff_exists'.mp read
  obtain ⟨w, otherParsed⟩ := Option.ne_none_iff_exists'.mp otherRead
  have short := parse?_eq_some_iff.mpr (parse?_eq_some_iff.mp parsed).bare
  have otherShort := parse?_eq_some_iff.mpr (parse?_eq_some_iff.mp otherParsed).bare
  rw [alike, otherShort] at short
  rw [parsed, otherParsed, short]

end FleetResponse.Json
