import Nexa.Shared.Json

namespace Json

open List

theorem hexValue_hexDigit : ∀ digit < 16, hexValue (hexDigit digit) = some digit := by decide

theorem scanUnit_low {code : Nat} (small : code < 32) (rest : Text) :
    scanUnit ('0' :: '0' :: hexDigit (code / 16) :: hexDigit (code % 16) :: rest) = some (code, rest) := by
  have zero : hexValue '0' = some 0 := by decide
  have high := hexValue_hexDigit (code / 16) (by omega)
  have low := hexValue_hexDigit (code % 16) (by omega)
  simp only [scanUnit, zero, high, low, Option.bind_eq_bind, Option.bind_some, Option.pure_def]
  congr 2
  omega

variable {point : CodePoint}

theorem ofUnit_code (small : point.code < 32) : CodePoint.ofUnit point.code = point := by
  cases point with
  | scalar character =>
    have outside : ¬ (0xd800 ≤ character.toNat ∧ character.toNat ≤ 0xdfff) := by
      simp only [CodePoint.code] at small
      omega
    simp [CodePoint.ofUnit, CodePoint.code, outside]
  | surrogate code half =>
    simp only [CodePoint.code] at small
    omega

theorem scanEscape_unit (small : point.code < 32) (rest : Text) :
    scanEscape ('u' :: '0' :: '0' :: hexDigit (point.code / 16) :: hexDigit (point.code % 16) :: rest) =
      some (point, rest) := by
  have plain : isHigh point.code = false := by
    simp only [isHigh, decide_eq_false_iff_not]
    omega
  simp only [scanEscape, if_true, scanUnit_low small, Option.bind_some, plain, Bool.false_eq_true, if_false,
    ofUnit_code small]

theorem scanString_escapePoint (fuel : Nat) (point : CodePoint) (rest : Text) :
    scanString (fuel + 1) (escapePoint point ++ rest) =
      (scanString fuel rest).map fun (text, rest) => (point :: text, rest) := by
  unfold escapePoint
  split_ifs with quote backslash newline carriage tab backspace feed control
  -- The short escapes.
  iterate 7
    · subst point
      simp [scanString, scanEscape]
  · simp [scanString, scanEscape_unit control]
  · simp [scanString, quote, backslash, control]

variable {text : Text}

theorem scanString_dump {fuel : Nat} (rest : Text) (enough : (text.flatMap escapePoint).length < fuel) :
    scanString fuel (text.flatMap escapePoint ++ .scalar '"' :: rest) = some (text, rest) := by
  induction text generalizing fuel with
  | nil =>
    obtain ⟨fuel, rfl⟩ : ∃ less, fuel = less + 1 := ⟨fuel - 1, by omega⟩
    simp [scanString]
  | cons point text ih =>
    have written : 0 < (escapePoint point).length := by
      unfold escapePoint
      split_ifs <;> simp
    simp only [flatMap_cons, length_append] at enough
    obtain ⟨fuel, rfl⟩ : ∃ less, fuel = less + 1 := ⟨fuel - 1, by omega⟩
    rw [flatMap_cons, append_assoc, scanString_escapePoint, ih (by omega)]
    rfl

def continues (point : CodePoint) : Bool := point.isDigit ∨ point = '.' ∨ point = 'e' ∨ point = 'E'

def Ends (rest : Text) : Prop := ∀ point ∈ rest.head?, continues point = false

variable {rest : Text}

theorem Ends.isDigit (ends : Ends rest) : ∀ point ∈ rest.head?, point.isDigit = false := by
  intro point member
  have stops := ends point member
  simp only [continues, decide_eq_false_iff_not, not_or] at stops
  simpa using stops.1

theorem Ends.head_ne (ends : Ends rest) (more : continues point = true) : rest.head? ≠ some point := by
  intro head
  have stops := ends point head
  simp [more] at stops

theorem pastDigits_append {digits rest : Text} (all : ∀ point ∈ digits, point.isDigit = true) (ends : Ends rest) :
    digitsOf (digits ++ rest) = digits ∧ pastDigits (digits ++ rest) = rest := by
  have stop : rest.takeWhile CodePoint.isDigit = [] ∧ rest.dropWhile CodePoint.isDigit = rest := by
    cases rest with
    | nil => simp
    | cons point rest => simp [ends.isDigit point (by simp)]
  constructor
  · rw [digitsOf, takeWhile_append_of_pos all, stop.1, append_nil]
  · rw [pastDigits, dropWhile_append_of_pos all, stop.2]

theorem scanFraction_ends (ends : Ends rest) : scanFraction rest = ([], rest) := by
  have noPoint : rest.head? ≠ some (.scalar '.') := ends.head_ne (by decide)
  simp [scanFraction, noPoint]

theorem scanExponent_ends (ends : Ends rest) : scanExponent rest = ([], rest) := by
  have noLower : rest.head? ≠ some (.scalar 'e') := ends.head_ne (by decide)
  have noUpper : rest.head? ≠ some (.scalar 'E') := ends.head_ne (by decide)
  simp [scanExponent, noLower, noUpper]

theorem isDigit_of_mem_scalarText {number : Nat}
    (member : point ∈ scalarText (Numerals.text number)) : point.isDigit = true := by
  obtain ⟨character, inside, rfl⟩ := mem_map.mp member
  exact Numerals.isDigit_of_mem_text inside

theorem magnitude_text (number : Nat) : magnitude (scalarText (Numerals.text number)) = number := by
  have same : (scalarText (Numerals.text number)).filterMap CodePoint.character? = Numerals.text number := by
    rw [scalarText, filterMap_map]
    exact filterMap_some
  rw [magnitude, same, Numerals.value?_text, Option.getD_some]

theorem scanDigits_text (number : Nat) (ends : Ends rest) :
    scanDigits (scalarText (Numerals.text number) ++ rest) = some (scalarText (Numerals.text number), rest) := by
  by_cases zero : number = 0
  · subst number
    rfl
  · obtain ⟨first, digits, split⟩ := exists_cons_of_ne_nil (Numerals.text_ne_nil number)
    have leading : first ≠ '0' := Numerals.head_text_ne_zero zero (by rw [split]; rfl)
    have all : ∀ point ∈ scalarText (first :: digits), point.isDigit = true := by
      intro point member
      rw [<- split] at member
      exact isDigit_of_mem_scalarText member
    have front : (CodePoint.scalar first).isDigit = true := all _ (by simp [scalarText])
    have scanned : digitsOf (scalarText digits ++ rest) = scalarText digits ∧
        pastDigits (scalarText digits ++ rest) = rest :=
      pastDigits_append (fun point member => all point (mem_cons_of_mem _ member)) ends
    rw [split]
    simp [scanDigits, scalarText, leading, front] at scanned ⊢
    exact scanned

theorem scanNumber_integerText (value : Int) (ends : Ends rest) :
    scanNumber (integerText value ++ rest) = some (.integer value, rest) := by
  have scanned := scanDigits_text value.natAbs ends
  rw [integerText]
  split_ifs with negative
  · have magnitude : -(value.natAbs : Int) = value := by omega
    simp only [scanNumber, cons_append, head?_cons, if_true, take_succ_cons, take_zero,
      length_singleton, drop_succ_cons, drop_zero, scanned, Option.map_some,
      scanFraction_ends ends, scanExponent_ends ends, and_self, magnitude_text, reduceCtorEq, if_false, magnitude]
  · obtain ⟨first, digits, split⟩ := exists_cons_of_ne_nil (Numerals.text_ne_nil value.natAbs)
    have inside : first ∈ Numerals.text value.natAbs := by simp [split]
    have digit := Numerals.isDigit_of_mem_text inside
    have unsigned : (scalarText (Numerals.text value.natAbs) ++ rest).head? ≠ some (.scalar '-') := by
      rw [split]
      intro head
      have minus : first = '-' := by simpa [scalarText] using head
      subst first
      exact absurd digit (by decide)
    have magnitude : (value.natAbs : Int) = value := by omega
    simp only [scanNumber, if_neg unsigned, length_nil, drop_zero, scanned, Option.map_some,
      scanFraction_ends ends, scanExponent_ends ends, and_self, magnitude_text, if_true, magnitude]

variable {F E : Type}

mutual

/-- Without blanks, the members in their order. The objects are allowed ones. -/
inductive Writes (allowed : List (Text × Value F) -> Prop) : Value F -> Text -> Prop
  | null : Writes allowed .null ['n', 'u', 'l', 'l']
  | yes : Writes allowed (.boolean true) ['t', 'r', 'u', 'e']
  | no : Writes allowed (.boolean false) ['f', 'a', 'l', 's', 'e']
  | integer (value : Int) : Writes allowed (.integer value) (integerText value)
  | string (text : Text) : Writes allowed (.string text) (dumpString text)
  | emptyArray : Writes allowed (.array []) ['[', ']']
  | array {items : List (Value F)} {text : Text} :
      WritesItems allowed items text -> Writes allowed (.array items) ('[' :: (text ++ [.scalar ']']))
  | emptyObject : allowed [] -> Writes allowed (.object []) [openBrace, closeBrace]
  | object {members : List (Text × Value F)} {text : Text} : allowed members ->
      WritesMembers allowed members text -> Writes allowed (.object members) (openBrace :: (text ++ [closeBrace]))

inductive WritesItems (allowed : List (Text × Value F) -> Prop) : List (Value F) -> Text -> Prop
  | last {item : Value F} {text : Text} : Writes allowed item text -> WritesItems allowed [item] text
  | more {item : Value F} {items : List (Value F)} {text texts : Text} :
      Writes allowed item text -> WritesItems allowed items texts ->
        WritesItems allowed (item :: items) (text ++ .scalar ',' :: texts)

inductive WritesMembers (allowed : List (Text × Value F) -> Prop) : List (Text × Value F) -> Text -> Prop
  | last {key : Text} {value : Value F} {text : Text} :
      Writes allowed value text -> WritesMembers allowed [(key, value)] (dumpString key ++ .scalar ':' :: text)
  | more {key : Text} {value : Value F} {members : List (Text × Value F)} {text texts : Text} :
      Writes allowed value text -> WritesMembers allowed members texts ->
        WritesMembers allowed ((key, value) :: members)
          (dumpString key ++ .scalar ':' :: (text ++ .scalar ',' :: texts))

end

def Starts (text : Text) : Prop :=
  ∃ point rest, text = point :: rest ∧ isWhitespace point = false ∧ point ≠ .scalar ']' ∧ point ≠ .scalar '\uFEFF'

theorem starts_cons (rest : Text) (blank : isWhitespace point = false)
    (bracket : point ≠ .scalar ']') (mark : point ≠ .scalar '\uFEFF') : Starts (point :: rest) :=
  ⟨point, rest, rfl, blank, bracket, mark⟩

theorem starts_digit (rest : Text) (digit : point.isDigit = true) : Starts (point :: rest) := by
  refine starts_cons rest ?_ ?_ ?_
  · rw [isWhitespace, decide_eq_false_iff_not]
    rintro (rfl | rfl | rfl | rfl) <;> exact absurd digit (by decide)
  · rintro rfl
    exact absurd digit (by decide)
  · rintro rfl
    exact absurd digit (by decide)

theorem integerText_head (value : Int) :
    ∃ point rest, integerText value = point :: rest ∧ (point.isDigit = true ∨ point = .scalar '-') := by
  obtain ⟨first, digits, split⟩ := exists_cons_of_ne_nil (Numerals.text_ne_nil value.natAbs)
  rw [integerText]
  split_ifs
  · exact ⟨_, _, rfl, .inr rfl⟩
  · have inside : CodePoint.scalar first ∈ scalarText (Numerals.text value.natAbs) := by simp [split, scalarText]
    exact ⟨.scalar first, scalarText digits, by rw [split]; rfl, .inl (isDigit_of_mem_scalarText inside)⟩

theorem Writes.starts {allowed : List (Text × Value F) -> Prop} {value : Value F}
    (writes : Writes allowed value text) : Starts text := by
  cases writes with
  | integer value =>
    obtain ⟨point, rest, split, digit | sign⟩ := integerText_head value
    · exact split ▸ starts_digit rest digit
    · subst point
      exact split ▸ starts_cons rest (by decide) (by decide) (by decide)
  | null | yes | no | string | emptyArray | array | emptyObject | object =>
    exact starts_cons _ (by decide) (by decide) (by decide)

theorem skip_starts (starts : Starts text) (rest : Text) : skip (text ++ rest) = text ++ rest := by
  obtain ⟨point, tail, rfl, blank, -⟩ := starts
  simp [skip, blank]

theorem skip_cons (visible : isWhitespace point = false) (rest : Text) : skip (point :: rest) = point :: rest := by
  simp [skip, visible]

theorem keyword_none {point letter : CodePoint} (differ : point ≠ letter) (word rest : Text) :
    keyword (letter :: word) (point :: rest) = none := by
  simp [keyword, differ]

theorem readAtom_integer (hooks : Hooks F E) (value : Int) (ends : Ends rest) :
    readAtom hooks (integerText value ++ rest) = .ok (.integer value, rest) := by
  have scanned := scanNumber_integerText value ends
  obtain ⟨point, tail, split, front⟩ := integerText_head value
  have letters : point ≠ .scalar 'n' ∧ point ≠ .scalar 't' ∧ point ≠ .scalar 'f' := by
    refine ⟨?_, ?_, ?_⟩ <;> rintro rfl <;> exact absurd front (by decide)
  rw [split, cons_append] at scanned ⊢
  simp only [readAtom, keyword_none letters.1, keyword_none letters.2.1, keyword_none letters.2.2, scanned]

theorem ends_cons (stops : continues point = false) (rest : Text) : Ends (point :: rest) := by
  intro head same
  obtain rfl : point = head := by simpa using same
  exact stops

theorem readValue_integer (hooks : Hooks F E) (fuel : Nat) (value : Int) (ends : Ends rest) :
    readValue hooks (fuel + 1) (integerText value ++ rest) = .ok (.integer value, rest) := by
  have atom := readAtom_integer hooks value ends
  obtain ⟨point, tail, split, front⟩ := integerText_head value
  have others : point ≠ .scalar '"' ∧ point ≠ openBrace ∧ point ≠ .scalar '[' := by
    refine ⟨?_, ?_, ?_⟩ <;> rintro rfl <;> exact absurd front (by decide)
  rw [split, cons_append] at atom ⊢
  rw [readValue, if_neg others.1, if_neg others.2.1, if_neg others.2.2, atom]

theorem scanString_written {fuel : Nat} (rest : Text) (enough : (dumpString text).length ≤ fuel + 1) :
    scanString fuel ((text.flatMap escapePoint ++ [.scalar '"']) ++ rest) = some (text, rest) := by
  simp only [dumpString, length_cons, length_append, length_nil] at enough
  rw [append_assoc]
  exact scanString_dump rest (by omega)

section

variable {hooks : Hooks F E} {allowed : List (Text × Value F) -> Prop}

theorem WritesItems.starts {items : List (Value F)} {text : Text} (writes : WritesItems allowed items text) :
    Starts text := by
  cases writes with
  | last item => exact item.starts
  | more item _ =>
    obtain ⟨point, tail, rfl, visible⟩ := item.starts
    exact ⟨point, _, rfl, visible⟩

theorem WritesMembers.quoted {members : List (Text × Value F)} {text : Text}
    (writes : WritesMembers allowed members text) : ∃ tail, text = .scalar '"' :: tail := by
  cases writes with
  | last | more => exact ⟨_, rfl⟩

theorem readMembers_key (hooks : Hooks F E) {fuel : Nat} (key : Text) {value : Text} (starts : Starts value)
    (rest : Text) (enough : (dumpString key).length ≤ fuel + 1) :
    readMembers hooks (fuel + 1) (dumpString key ++ .scalar ':' :: (value ++ rest)) =
      (do
        let (read, rest) <- readValue hooks fuel (value ++ rest)
        if (skip rest).head? = some closeBrace then .ok ([(key, read)], (skip rest).tail)
        else if (skip rest).head? = some (.scalar ',') then do
          let (members, rest) <- readMembers hooks fuel (skip (skip rest).tail)
          .ok ((key, read) :: members, rest)
        else .error .decode) := by
  have keyRead := scanString_written (.scalar ':' :: (value ++ rest)) enough
  rw [readMembers, dumpString, cons_append, head?_cons, if_pos rfl, tail_cons, keyRead]
  simp only [scanned, Except.bind, bind, skip_cons (show isWhitespace (.scalar ':') = false by decide),
    head?_cons, if_true, tail_cons, skip_starts starts]

mutual

theorem Writes.read (accepts : ∀ members, allowed members -> hooks.pairs members = .ok members)
    {value : Value F} {text : Text} (writes : Writes allowed value text) (fuel : Nat) {rest : Text}
    (ends : Ends rest) (enough : text.length < fuel) :
    readValue hooks fuel (text ++ rest) = .ok (value, rest) := by
  obtain ⟨fuel, rfl⟩ : ∃ less, fuel = less + 1 := ⟨fuel - 1, by omega⟩
  match writes with
  | .null => rfl
  | .yes => rfl
  | .no => rfl
  | .integer value => exact readValue_integer hooks fuel value ends
  | .string text =>
    rw [dumpString, cons_append, readValue, if_pos rfl, scanString_written rest (by omega)]
    rfl
  | .emptyArray => rfl
  | .array items =>
    simp only [length_cons, length_append, length_nil] at enough
    have inner := WritesItems.read accepts items fuel rest (by omega)
    obtain ⟨point, tail, rfl, blank, bracket, -⟩ := items.starts
    simp only [cons_append, append_assoc, nil_append] at inner ⊢
    rw [readValue, if_neg (by decide), if_neg (by decide), if_pos rfl, skip_cons blank,
      if_neg (by simpa using bracket), inner]
    rfl
  | .emptyObject allows =>
    simp only [cons_append, nil_append]
    rw [readValue, if_neg (by decide), if_pos rfl, skip_cons (by decide), head?_cons, if_pos rfl, accepts _ allows]
    rfl
  | .object allows members =>
    simp only [length_cons, length_append, length_nil] at enough
    have inner := WritesMembers.read accepts members fuel rest (by omega)
    obtain ⟨tail, rfl⟩ := members.quoted
    simp only [cons_append, append_assoc, nil_append] at inner ⊢
    rw [readValue, if_neg (by decide), if_pos rfl, skip_cons (by decide), head?_cons, if_neg (by decide), inner]
    simp only [Except.bind, bind, accepts _ allows, raising]

theorem WritesItems.read (accepts : ∀ members, allowed members -> hooks.pairs members = .ok members)
    {items : List (Value F)} {text : Text} (writes : WritesItems allowed items text) (fuel : Nat) (rest : Text)
    (enough : text.length + 1 < fuel) :
    readItems hooks fuel (text ++ .scalar ']' :: rest) = .ok (items, rest) := by
  obtain ⟨fuel, rfl⟩ : ∃ less, fuel = less + 1 := ⟨fuel - 1, by omega⟩
  match writes with
  | .last item =>
    have stop : Ends (.scalar ']' :: rest) := ends_cons (by decide) rest
    rw [readItems, item.read accepts fuel stop (by omega)]
    rfl
  | .more item items =>
    simp only [length_cons, length_append] at enough
    have others := items.read accepts fuel rest (by omega)
    have stop : ∀ tail : Text, Ends (.scalar ',' :: tail) := ends_cons (by decide)
    rw [append_assoc, cons_append, readItems, item.read accepts fuel (stop _) (by omega)]
    simp only [Except.bind, bind, skip_cons (show isWhitespace (.scalar ',') = false by decide), head?_cons,
      tail_cons, skip_starts items.starts, others]
    rfl

theorem WritesMembers.read (accepts : ∀ members, allowed members -> hooks.pairs members = .ok members)
    {members : List (Text × Value F)} {text : Text} (writes : WritesMembers allowed members text) (fuel : Nat)
    (rest : Text) (enough : text.length + 1 < fuel) :
    readMembers hooks fuel (text ++ closeBrace :: rest) = .ok (members, rest) := by
  obtain ⟨fuel, rfl⟩ : ∃ less, fuel = less + 1 := ⟨fuel - 1, by omega⟩
  match writes with
  | .last value =>
    simp only [length_cons, length_append] at enough
    have stop : Ends (closeBrace :: rest) := ends_cons (by decide) rest
    rw [append_assoc, cons_append, readMembers_key hooks _ value.starts _ (by omega),
      value.read accepts fuel stop (by omega)]
    rfl
  | .more value members =>
    simp only [length_cons, length_append] at enough
    have others := members.read accepts fuel rest (by omega)
    have stop : ∀ tail : Text, Ends (.scalar ',' :: tail) := ends_cons (by decide)
    obtain ⟨tail, rfl⟩ := members.quoted
    rw [append_assoc, cons_append, append_assoc, cons_append,
      readMembers_key hooks _ value.starts _ (by omega), value.read accepts fuel (stop _) (by omega)]
    simp only [Except.bind, bind, skip_cons (show isWhitespace (.scalar ',') = false by decide),
      skip_cons (show isWhitespace (.scalar '"') = false by decide), head?_cons, tail_cons,
      cons_append] at others ⊢
    rw [others]
    rfl

end

theorem loads_written (accepts : ∀ members, allowed members -> hooks.pairs members = .ok members)
    {value : Value F} {text : Text} (writes : Writes allowed value text) : loads hooks text = .ok value := by
  have ends : Ends [] := by
    intro point member
    cases member
  have found := writes.read accepts (text.length + 1) ends (by omega)
  have start := skip_starts writes.starts []
  rw [append_nil] at found start
  obtain ⟨point, tail, rfl, -, -, mark⟩ := writes.starts
  rw [loads, head?_cons, if_neg (by simpa using mark), start, found]
  rfl

end

end Json
