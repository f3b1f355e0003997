import Mathlib.Data.List.DropRight
import Mathlib.Data.List.Lex
import Nexa.Shared.JsonWriting
import Nexa.Shared.Outcome

/-! `canonical_json.py`: members by the UTF-16 units of their names, safe integers, floats as in ECMAScript. -/

namespace Nexa.Workloads

open Json Paging Value Numerals
open List hiding lookup

structure Floats (F : Type) where
  isFinite : F -> Bool
  isZero : F -> Bool
  isNegative : F -> Bool
  repr : F -> List Char
  equal : F -> F -> Bool
  equalInteger : F -> Int -> Bool
  aboveInteger : F -> Int -> Bool
  atMostInteger : F -> Int -> Bool
  literal : List Char -> F

inductive EncodeError where
  | value (message : String)
  | unicode
deriving DecidableEq

def maxSafeInteger : Nat := 2 ^ 53 - 1

def partition (mark : Char) (text : List Char) : List Char × List Char :=
  (text.takeWhile (· != mark), (text.dropWhile (· != mark)).tail)

def exponentValue (text : List Char) : Int := if text.head? = some '-' then -((value? text.tail).getD 0 : Nat)
  else if text.head? = some '+' then ((value? text.tail).getD 0 : Nat)
  else ((value? text).getD 0 : Nat)

def shortestDigits (text : List Char) : List Char × Int := let (mantissa, exponentText) := partition 'e' text
  let exponent := if exponentText = [] then 0 else exponentValue exponentText
  let (whole, fraction) := partition '.' mantissa
  let fraction := if fraction = ['0'] then [] else fraction
  let digits := (whole ++ fraction).dropWhile (· == '0')
  let stripped := digits.rdropWhile (· == '0')
  (stripped, exponent - fraction.length + (digits.length - stripped.length : Nat))

def es6Digits (sign digits : List Char) (exponent : Int) : List Char := let k : Int := digits.length
  let n := exponent + k
  if k ≤ n ∧ n ≤ 21 then sign ++ digits ++ List.replicate (n - k).toNat '0'
  else if 0 < n ∧ n ≤ 21 then sign ++ digits.take n.toNat ++ '.' :: digits.drop n.toNat
  else if -6 < n ∧ n ≤ 0 then sign ++ '0' :: '.' :: (List.replicate (-n).toNat '0' ++ digits)
  else
    let tail := n - 1
    let mantissa := if digits.length = 1 then digits else digits.take 1 ++ '.' :: digits.drop 1
    sign ++ mantissa ++ 'e' :: (if tail > 0 then '+' else '-') :: text tail.natAbs

variable {F : Type} (floats : Floats F)

def es6Number (value : F) : Except EncodeError Json.Text :=
  if !floats.isFinite value then .error (.value "non-finite numbers are not valid JSON")
  else if floats.isZero value then .ok ['0']
  else
    let (digits, exponent) := shortestDigits (floats.repr value)
    .ok (scalarText (es6Digits (if floats.isNegative value then ['-'] else []) digits exponent))

def utf16Character (code : Nat) : List Nat := if code < 0x10000 then [code / 256, code % 256]
  else
    let high := 0xd800 + (code - 0x10000) / 0x400
    let low := 0xdc00 + (code - 0x10000) % 0x400
    [high / 256, high % 256, low / 256, low % 256]

def utf16 (text : Json.Text) : List Nat := text.flatMap fun point => utf16Character point.code

def isScalar (text : Json.Text) : Bool := (characters? text).isSome

def partRank (part : Json.Text × Except EncodeError Json.Text) : List Nat := utf16 part.1

def partText (part : Json.Text × Except EncodeError Json.Text) : Except EncodeError Json.Text :=
  part.2.map (memberText dumpString part.1)

mutual

def encode : Value F -> Except EncodeError Json.Text
  | .null => .ok ['n', 'u', 'l', 'l']
  | .boolean true => .ok ['t', 'r', 'u', 'e']
  | .boolean false => .ok ['f', 'a', 'l', 's', 'e']
  | .integer value =>
    if maxSafeInteger < value.natAbs then .error (.value "integer is outside the I-JSON safe range")
    else .ok (integerText value)
  | .float value => es6Number floats value
  | .string text => .ok (dumpString text)
  | .array items => (encodeItems items).map fun texts => '[' :: (joined texts ++ [.scalar ']'])
  | .object members =>
    -- The members are encoded in their order, so the first error is that of the first key in order.
    if members.all fun member => isScalar member.1 then
      ((ordered partRank (encodeMembers members)).mapM partText).map
        fun texts => openBrace :: (joined texts ++ [closeBrace])
    else .error .unicode

def encodeItems : List (Value F) -> Except EncodeError (List Json.Text)
  | [] => .ok []
  | item :: items => do
    let text <- encode item
    let texts <- encodeItems items
    .ok (text :: texts)

def encodeMembers : List (Json.Text × Value F) -> List (Json.Text × Except EncodeError Json.Text)
  | [] => []
  | (key, value) :: members => (key, encode value) :: encodeMembers members

end

def canonicalJson (value : Value F) : Except EncodeError ByteArray :=
  (encode floats value).bind fun text => Outcome.orFail .unicode (encodeUtf8 text)

def number? : Value F -> Option (Int ⊕ F)
  | .boolean value => some (.inl (if value then 1 else 0))
  | .integer value => some (.inl value)
  | .float value => some (.inr value)
  | _ => none

def numbersEqual : Option (Int ⊕ F) -> Option (Int ⊕ F) -> Bool
  | some (.inl left), some (.inl right) => left = right
  | some (.inl left), some (.inr right) => floats.equalInteger right left
  | some (.inr left), some (.inl right) => floats.equalInteger left right
  | some (.inr left), some (.inr right) => floats.equal left right
  | _, _ => false

mutual

def pyEq : Value F -> Value F -> Bool
  | .null, right => match right with
      | .null => true
      | _ => false
  | .string left, right => match right with
      | .string right => left = right
      | _ => false
  | .array left, right => match right with
      | .array right => pyEqItems left right
      | _ => false
  | .object left, right => match right with
      | .object right => left.length = right.length && pyEqMembers left right
      | _ => false
  | .boolean left, right => numbersEqual floats (number? (.boolean left)) (number? right)
  | .integer left, right => numbersEqual floats (number? (.integer left)) (number? right)
  | .float left, right => numbersEqual floats (number? (.float left)) (number? right)

def pyEqItems : List (Value F) -> List (Value F) -> Bool
  | [], right => right.isEmpty
  | item :: items, right => match right with
      | [] => false
      | other :: others => pyEq item other && pyEqItems items others

def pyEqMembers : List (Json.Text × Value F) -> List (Json.Text × Value F) -> Bool
  | [], _ => true
  | (key, value) :: members, others =>
    (match lookup key others with
      | some other => pyEq value other
      | none => false) && pyEqMembers members others

end

variable {floats}

theorem pyEqMembers_iff {members others : List (Json.Text × Value F)} :
    pyEqMembers floats members others = true <->
      ∀ member ∈ members, ∃ other, lookup member.1 others = some other ∧ pyEq floats member.2 other = true := by
  induction members with
  | nil => simp [pyEqMembers]
  | cons member members ih =>
    obtain ⟨name, first⟩ := member
    rw [pyEqMembers, Bool.and_eq_true, ih, forall_mem_cons]
    cases lookup name others <;> simp

def Plain (value : Value F) : Prop :=
  value.All fun
    | .integer number => number.natAbs ≤ maxSafeInteger
    | .float _ => False
    | .string text => Printable text
    | .object members => ∀ member ∈ members, Printable member.1
    | _ => True

theorem encodeMembers_eq (members : List (Json.Text × Value F)) :
    encodeMembers floats members = members.map fun member => (member.1, encode floats member.2) := by
  induction members with
  | nil => rw [encodeMembers, map_nil]
  | cons member members ih =>
    obtain ⟨key, value⟩ := member
    rw [encodeMembers, ih, map_cons]

theorem mapM_ok {α : Type} {write : α -> Except EncodeError Json.Text} {text : α -> Json.Text} {parts : List α}
    (written : ∀ part ∈ parts, write part = .ok (text part)) : parts.mapM write = .ok (parts.map text) := by
  induction parts with
  | nil => rfl
  | cons part parts ih =>
    rw [mapM_cons, written part (by simp), ih fun other member => written other (by simp [member])]
    rfl

theorem encodeItems_eq (items : List (Value F)) : encodeItems floats items = items.mapM (encode floats) := by
  induction items with
  | nil => rw [encodeItems]; rfl
  | cons item items ih =>
    rw [encodeItems, ih, mapM_cons]
    rfl

theorem isScalar_iff {text : Json.Text} :
    isScalar text = true <-> ∀ point ∈ text, ∃ character, point = .scalar character := by
  constructor
  · intro scalar point member
    obtain ⟨characters, found⟩ := Option.isSome_iff_exists.mp scalar
    rw [characters?_eq_some.mp found] at member
    obtain ⟨character, -, rfl⟩ := mem_map.mp member
    exact ⟨character, rfl⟩
  · intro scalar
    obtain ⟨raw, encoded, -⟩ := encodeUtf8_scalar scalar
    obtain ⟨characters, found, -⟩ := Option.map_eq_some_iff.mp encoded
    rw [isScalar, found, Option.isSome_some]

/-- No floats, integers in the safe range, no halves of surrogate pairs. -/
def Safe (value : Value F) : Prop :=
  value.All fun
    | .integer number => number.natAbs ≤ maxSafeInteger
    | .float _ => False
    | .string text => isScalar text = true
    | .object members => ∀ member ∈ members, isScalar member.1 = true
    | _ => True

def compactStyle (floats : Floats F) (rank : Json.Text -> List Nat) : Style F where
  quote := dumpString
  float value := scalarText (floats.repr value)
  rank := some rank

theorem encode_safe {value : Value F} (safe : Safe value) :
    encode floats value = .ok (dumps (compactStyle floats utf16) value) := by
  induction value using parts with
  | null => rw [encode, dumps]
  | boolean value => cases value <;> rw [encode, dumps]
  | integer value =>
    have small : value.natAbs ≤ maxSafeInteger := safe
    rw [encode, if_neg (by omega), dumps]
  | float value => exact safe.elim
  | string text => rw [encode, dumps]; rfl
  | array items ih =>
    have each := (all_array.mp safe).2
    rw [encode, encodeItems_eq, mapM_ok fun item member => ih item member (each item member), dumps, dumpsItems_eq]
    rfl
  | object members ih =>
    obtain ⟨names, each⟩ := all_object.mp safe
    have parts : ∀ member ∈ ordered (fun member => utf16 member.1) members,
        (partText ∘ fun member => (member.1, encode floats member.2)) member =
          .ok (memberText dumpString member.1 (dumps (compactStyle floats utf16) member.2)) := by
      intro member inside
      have origin := (ordered_perm _ members).mem_iff.mp inside
      rw [Function.comp_apply, partText, ih member origin (each member origin)]
      rfl
    have sorted : ordered partRank (members.map fun member => (member.1, encode floats member.2)) =
        (ordered (fun member => utf16 member.1) members).map fun member => (member.1, encode floats member.2) :=
      ordered_map (fun _ => rfl) members
    rw [encode, if_pos (all_eq_true.mpr names), encodeMembers_eq, sorted, mapM_map, mapM_ok parts, dumps,
      dumpsMembers_eq, arrange_map, map_map]
    rfl

theorem Safe.scalar (floats : Floats F) {value : Value F} (safe : Safe value) (rank : Json.Text -> List Nat) :
    ∃ raw, encodeUtf8 (dumps (compactStyle floats rank) value) = some raw ∧
      decodeUtf8 raw = some (dumps (compactStyle floats rank) value) := by
  have points : value.Points fun point => ∃ character, point = .scalar character := by
    refine All.imp (fun part => ?_) safe
    cases part with
    | string text => exact isScalar_iff.mp
    | object members => exact fun names member inside => isScalar_iff.mp (names member inside)
    | float => exact id
    | _ => exact fun _ => trivial
  exact encodeUtf8_scalar (dumps_points rfl (fun _ => scalar_of_ascii) points)

theorem canonicalJson_safe {value : Value F} (safe : Safe value) :
    canonicalJson floats value =
      Outcome.orFail .unicode (encodeUtf8 (dumps (compactStyle floats utf16) value)) := by
  rw [canonicalJson, encode_safe safe]
  rfl

theorem canonicalJson_plain {value : Value F} (plain : Plain value) :
    ∃ raw, canonicalJson floats value = .ok raw := by
  have scalar {text : Json.Text} (printable : Printable text) : isScalar text = true := by
    refine isScalar_iff.mpr fun point member => scalar_of_ascii ?_
    have bounds := printable point member
    omega
  have safe : Safe value := by
    refine All.imp (fun part => ?_) plain
    cases part with
    | string text => exact scalar
    | object members => exact fun names member inside => scalar (names member inside)
    | float | integer => exact id
    | _ => exact fun _ => trivial
  obtain ⟨raw, encoded, -⟩ := safe.scalar floats utf16
  exact ⟨raw, by rw [canonicalJson_safe safe, encoded]; rfl⟩

def runnerJson (floats : Floats F) (value : Value F) : Except EncodeError ByteArray :=
  Outcome.orFail .unicode (encodeUtf8 (dumps (compactStyle floats pointRank) value))

def Basic (value : Value F) : Prop :=
  value.All fun
    | .object members => ∀ member ∈ members, ∀ point ∈ member.1, point.code < 0x10000
    | _ => True

/-- In the basic plane a code unit is a code point, so both orders are the same. -/
theorem flatMap_utf16_lt {left right : List Nat} (leftBasic : ∀ code ∈ left, code < 0x10000)
    (rightBasic : ∀ code ∈ right, code < 0x10000) (less : left < right) :
    left.flatMap utf16Character < right.flatMap utf16Character := by
  induction left generalizing right with
  | nil =>
    cases right with
    | nil => exact absurd less (lt_irrefl _)
    | cons second right =>
      rw [flatMap_cons, utf16Character, if_pos (rightBasic second mem_cons_self)]
      exact nil_lt_cons _ _
  | cons first left ih =>
    cases right with
    | nil => cases less
    | cons second right =>
      obtain ⟨small, leftRest⟩ := forall_mem_cons.mp leftBasic
      obtain ⟨other, rightRest⟩ := forall_mem_cons.mp rightBasic
      rw [flatMap_cons, flatMap_cons, utf16Character, utf16Character, if_pos small, if_pos other]
      simp only [cons_append, nil_append, cons_lt_cons_iff]
      rcases cons_lt_cons_iff.mp less with lower | ⟨rfl, later⟩
      · omega
      · exact .inr ⟨rfl, .inr ⟨rfl, ih leftRest rightRest later⟩⟩

theorem utf16_eq (text : Json.Text) : utf16 text = (pointRank text).flatMap utf16Character := by
  rw [utf16, pointRank, flatMap_map]

theorem dumps_basic {value : Value F} (basic : Basic value) (keyed : value.Keyed) :
    dumps (compactStyle floats utf16) value = dumps (compactStyle floats pointRank) value := by
  induction value using parts with
  | null | integer | float | string => rfl
  | boolean value => cases value <;> rfl
  | array items ih =>
    have each := (all_array.mp basic).2
    have keys := keyed_array.mp keyed
    rw [dumps, dumps, dumpsItems_eq, dumpsItems_eq,
      map_congr_left fun item member => ih item member (each item member) (keys item member)]
  | object members ih =>
    obtain ⟨names, each⟩ := all_object.mp basic
    obtain ⟨distinct, keys⟩ := keyed_object.mp keyed
    have small : ∀ member ∈ members, ∀ code ∈ pointRank member.1, code < 0x10000 := by
      intro member inside code found
      obtain ⟨point, there, rfl⟩ := mem_map.mp found
      exact names member inside point there
    have ranked : Ranked (fun member : Json.Text × Value F => pointRank member.1) members := by
      have mapped := distinct.map pointRank_injective
      rwa [map_map] at mapped
    have sorted : ordered (fun member => pointRank member.1) members =
        ordered (fun member => utf16 member.1) members := by
      refine ordered_agree ranked fun left inside right also order => not_lt.mp fun below => ?_
      rw [utf16_eq, utf16_eq] at order
      exact absurd (flatMap_utf16_lt (small right also) (small left inside) below) (not_lt.mpr order)
    have texts : ∀ member ∈ ordered (fun member => utf16 member.1) members,
        dumps (compactStyle floats utf16) member.2 = dumps (compactStyle floats pointRank) member.2 := by
      intro member inside
      have origin := (ordered_perm _ members).mem_iff.mp inside
      exact ih member origin (each member origin) (keys member origin)
    rw [dumps, dumps, dumpsMembers_eq, dumpsMembers_eq, arrange_map, arrange_map, map_map, map_map]
    change openBrace :: (joined ((ordered (fun member => utf16 member.1) members).map _) ++ _) =
      openBrace :: (joined ((ordered (fun member => pointRank member.1) members).map _) ++ _)
    rw [sorted]
    congr 3
    exact map_congr_left fun member inside => by
      simp only [Function.comp_apply, texts member inside]
      rfl

theorem Safe.plainly {value : Value F} (safe : Safe value) (rank : Json.Text -> List Nat) :
    Plainly (compactStyle floats rank) value := by
  refine All.imp (fun part => ?_) safe
  cases part with
  | string | object => exact fun _ => by simp [compactStyle]
  | float => exact id
  | _ => exact fun _ => trivial

theorem loads_safe (floats : Floats F) {E : Type} (hooks : Hooks F E) {value : Value F} (safe : Safe value)
    (keyed : value.Keyed) (dict : ∀ members, hooks.pairs members = .ok (dictOf members)) :
    loads hooks (dumps (compactStyle floats utf16) value) = .ok (value.sorted utf16) := by
  refine loads_written (fun members distinct => ?_) (dumps_writes _ (safe.plainly utf16) keyed)
  rw [dict, dictOf_eq distinct]

/-- The bytes are read back as the value and as no other, and in the basic plane all encoders agree. -/
theorem canonicalJson_exact (floats : Floats F) {value : Value F} (safe : Safe value) (keyed : value.Keyed) :
    ∃ raw, canonicalJson floats value = .ok raw ∧
      (∃ text, decodeUtf8 raw = some text ∧ ∀ {E : Type} (hooks : Hooks F E),
        (∀ members, hooks.pairs members = .ok (dictOf members)) -> loads hooks text = .ok (value.sorted utf16)) ∧
      (∀ other : Value F, Safe other -> other.Keyed -> canonicalJson floats other = .ok raw ->
        other.sorted utf16 = value.sorted utf16) ∧
      (Basic value -> runnerJson floats value = .ok raw) := by
  obtain ⟨raw, encoded, decoded⟩ := safe.scalar floats utf16
  refine ⟨raw, by rw [canonicalJson_safe safe, encoded]; rfl,
    ⟨_, decoded, fun hooks => loads_safe floats hooks safe keyed⟩,
    fun other safeOther keyedOther same => ?_, fun basic => ?_⟩
  · obtain ⟨found, encodedOther, decodedOther⟩ := safeOther.scalar floats utf16
    rw [canonicalJson_safe safeOther, encodedOther] at same
    obtain rfl : found = raw := Except.ok.inj same
    have texts := Option.some.inj (decodedOther.symm.trans decoded)
    let hooks : Hooks F Unit := ⟨fun _ => .error (), fun members => .ok (dictOf members), fun _ => .error ()⟩
    have read := loads_safe floats hooks safeOther keyedOther fun _ => rfl
    rw [texts, loads_safe floats hooks safe keyed fun _ => rfl] at read
    exact (Except.ok.inj read).symm
  · rw [runnerJson, ← dumps_basic basic keyed, encoded]
    rfl

def tenths : Floats Int where
  isFinite _ := true
  isZero value := value = 0
  isNegative value := value < 0
  repr value := text (value.natAbs / 10) ++ '.' :: text (value.natAbs % 10)
  equal left right := left = right
  equalInteger left right := left = 10 * right
  aboveInteger left right := 10 * right < left
  atMostInteger left right := left ≤ 10 * right
  literal _ := 9

def sampleValue : Value Int := .object [(textOf "b", .integer 1), (textOf "a", .null)]

theorem canonicalJson_exact_sample :
    ∃ raw, canonicalJson tenths sampleValue = .ok raw ∧ runnerJson tenths sampleValue = .ok raw := by
  have safe : Safe sampleValue := by
    simp only [Safe, sampleValue, All, AllMembers]
    decide
  have keyed : sampleValue.Keyed := by
    simp only [Keyed, sampleValue, All, AllMembers]
    decide
  have basic : Basic sampleValue := by
    simp only [Basic, sampleValue, All, AllMembers]
    decide
  obtain ⟨raw, encoded, -, -, runner⟩ := canonicalJson_exact tenths safe keyed
  exact ⟨raw, encoded, runner basic⟩

end Nexa.Workloads
