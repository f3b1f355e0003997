import Nexa.Shared.Numerals

/-! JSON as the Python standard library reads it: a text may hold halves of surrogate pairs, and hooks are given. -/

namespace Json

/-- A character, or half of a surrogate pair that stands alone. -/
inductive CodePoint where
  | scalar (character : Char)
  | surrogate (code : Nat) (half : 0xd800 ≤ code ∧ code ≤ 0xdfff)
deriving DecidableEq

instance : Coe Char CodePoint := ⟨.scalar⟩

abbrev Text := List CodePoint

def textOf (literal : String) : Text := literal.toList.map .scalar

def scalarText (characters : List Char) : Text := characters.map .scalar

def CodePoint.character? : CodePoint -> Option Char
  | .scalar character => some character
  | .surrogate _ _ => none

def CodePoint.code : CodePoint -> Nat
  | .scalar character => character.toNat
  | .surrogate code _ => code

def CodePoint.isDigit : CodePoint -> Bool
  | .scalar character => character.isDigit
  | .surrogate _ _ => false

def characters? (text : Text) : Option (List Char) := text.mapM CodePoint.character?

inductive Value (F : Type) where
  | null
  | boolean (value : Bool)
  | integer (value : Int)
  | float (value : F)
  | string (value : Text)
  | array (items : List (Value F))
  | object (members : List (Text × Value F))

def hexDigit (value : Nat) : CodePoint := .scalar (Nat.digitChar value)

def hexValue : CodePoint -> Option Nat
  | .scalar character =>
    if character.isDigit then some (character.toNat - 48)
    else if 'a' ≤ character ∧ character ≤ 'f' then some (character.toNat - 87)
    else if 'A' ≤ character ∧ character ≤ 'F' then some (character.toNat - 55)
    else none
  | .surrogate _ _ => none

def escapePoint (point : CodePoint) : Text := if point = '"' then ['\\', '"']
  else if point = '\\' then ['\\', '\\']
  else if point = '\n' then ['\\', 'n']
  else if point = '\r' then ['\\', 'r']
  else if point = '\t' then ['\\', 't']
  else if point = '\x08' then ['\\', 'b']
  else if point = '\x0c' then ['\\', 'f']
  else if point.code < 32 then ['\\', 'u', '0', '0', hexDigit (point.code / 16), hexDigit (point.code % 16)]
  else [point]

def dumpString (text : Text) : Text := '"' :: (text.flatMap escapePoint ++ [.scalar '"'])

def scanUnit : Text -> Option (Nat × Text)
  | a :: b :: c :: d :: rest => do
    let a <- hexValue a
    let b <- hexValue b
    let c <- hexValue c
    let d <- hexValue d
    pure (4096 * a + 256 * b + 16 * c + d, rest)
  | _ => none

def isHigh (unit : Nat) : Bool := 0xd800 ≤ unit ∧ unit ≤ 0xdbff

def isLow (unit : Nat) : Bool := 0xdc00 ≤ unit ∧ unit ≤ 0xdfff

def CodePoint.ofUnit (unit : Nat) : CodePoint :=
  if half : 0xd800 ≤ unit ∧ unit ≤ 0xdfff then .surrogate unit half else .scalar (Char.ofNat unit)

def scanPair (high : Nat) (rest : Text) : Option (CodePoint × Text) :=
  if rest.take 2 = [.scalar '\\', .scalar 'u'] then
    (scanUnit (rest.drop 2)).map fun (low, after) =>
      if isLow low then (.scalar (Char.ofNat (0x10000 + (high - 0xd800) * 0x400 + (low - 0xdc00))), after)
      else (.ofUnit high, rest)
  else some (.ofUnit high, rest)

def scanEscape : Text -> Option (CodePoint × Text)
  | [] => none
  | point :: rest =>
    if point = 'u' then
      (scanUnit rest).bind fun (unit, rest) =>
        if isHigh unit then scanPair unit rest else some (.ofUnit unit, rest)
    else if point = '"' then some ('"', rest)
    else if point = '\\' then some ('\\', rest)
    else if point = '/' then some ('/', rest)
    else if point = 'b' then some ('\x08', rest)
    else if point = 'f' then some ('\x0c', rest)
    else if point = 'n' then some ('\n', rest)
    else if point = 'r' then some ('\r', rest)
    else if point = 't' then some ('\t', rest)
    else none

def scanString : Nat -> Text -> Option (Text × Text)
  | 0, _ => none
  | _ + 1, [] => none
  | fuel + 1, point :: rest =>
    if point = '"' then some ([], rest)
    else if point = '\\' then
      (scanEscape rest).bind fun (point, rest) =>
        (scanString fuel rest).map fun (text, rest) => (point :: text, rest)
    else if point.code < 32 then none
    else (scanString fuel rest).map fun (text, rest) => (point :: text, rest)

def integerText (value : Int) : Text :=
  if value < 0 then '-' :: scalarText (Numerals.text value.natAbs) else scalarText (Numerals.text value.natAbs)

def digitsOf (input : Text) : Text := input.takeWhile CodePoint.isDigit

def pastDigits (input : Text) : Text := input.dropWhile CodePoint.isDigit

def scanDigits : Text -> Option (Text × Text)
  | [] => none
  | first :: rest =>
    if first = '0' then some (['0'], rest)
    else if first.isDigit then some (first :: digitsOf rest, pastDigits rest)
    else none

def scanFraction (input : Text) : Text × Text :=
  if input.head? = some (.scalar '.') ∧ digitsOf input.tail ≠ [] then
    ('.' :: digitsOf input.tail, pastDigits input.tail)
  else ([], input)

def scanSign (input : Text) : Text × Text :=
  if input.head? = some (.scalar '+') ∨ input.head? = some (.scalar '-') then (input.take 1, input.tail)
  else ([], input)

def scanExponent (input : Text) : Text × Text :=
  if input.head? = some (.scalar 'e') ∨ input.head? = some (.scalar 'E') then
    let (sign, rest) := scanSign input.tail
    if digitsOf rest = [] then ([], input) else (input.take 1 ++ sign ++ digitsOf rest, pastDigits rest)
  else ([], input)

inductive Number where
  | integer (value : Int)
  | literal (text : Text)

def magnitude (digits : Text) : Nat := (Numerals.value? (digits.filterMap CodePoint.character?)).getD 0

def scanNumber (input : Text) : Option (Number × Text) :=
  let sign := if input.head? = some (.scalar '-') then input.take 1 else []
  (scanDigits (input.drop sign.length)).map fun (digits, rest) =>
    let (fraction, rest) := scanFraction rest
    let (exponent, rest) := scanExponent rest
    if fraction = [] ∧ exponent = [] then
      (.integer (if sign = [] then magnitude digits else -magnitude digits), rest)
    else (.literal (sign ++ digits ++ fraction ++ exponent), rest)

variable {F E : Type}

structure Hooks (F E : Type) where
  parseFloat : Text -> Except E (Value F)
  pairs : List (Text × Value F) -> Except E (List (Text × Value F))
  constant : Text -> Except E (Value F)

def assign (members : List (Text × Value F)) (key : Text) (value : Value F) : List (Text × Value F) :=
  if members.any fun member => member.1 = key then
    members.map fun member => if member.1 = key then (key, value) else member
  else members ++ [(key, value)]

def dictOf (pairs : List (Text × Value F)) : List (Text × Value F) :=
  pairs.foldl (fun members pair => assign members pair.1 pair.2) []

inductive ReadError (E : Type) where
  | decode
  | raised (error : E)

def isWhitespace (point : CodePoint) : Bool := point = ' ' ∨ point = '\t' ∨ point = '\n' ∨ point = '\r'

def skip (input : Text) : Text := input.dropWhile isWhitespace

def keyword (word input : Text) : Option (Text) :=
  if input.take word.length = word then some (input.drop word.length) else none

def openBrace : CodePoint := '\x7b'

def closeBrace : CodePoint := '\x7d'

def raising {α : Type} : Except E α -> Except (ReadError E) α
  | .ok value => .ok value
  | .error error => .error (.raised error)

def scanned {α : Type} : Option α -> Except (ReadError E) α
  | some value => .ok value
  | none => .error .decode

def readConstant (hooks : Hooks F E) (input : Text) : Except (ReadError E) (Value F × Text) :=
  match keyword ['N', 'a', 'N'] input with
  | some rest => (raising (hooks.constant ['N', 'a', 'N'])).map fun value => (value, rest)
  | none =>
    match keyword ['I', 'n', 'f', 'i', 'n', 'i', 't', 'y'] input with
    | some rest =>
      (raising (hooks.constant ['I', 'n', 'f', 'i', 'n', 'i', 't', 'y'])).map fun value => (value, rest)
    | none =>
      match keyword ['-', 'I', 'n', 'f', 'i', 'n', 'i', 't', 'y'] input with
      | some rest =>
        (raising (hooks.constant ['-', 'I', 'n', 'f', 'i', 'n', 'i', 't', 'y'])).map
          fun value => (value, rest)
      | none => .error .decode

def readAtom (hooks : Hooks F E) (input : Text) : Except (ReadError E) (Value F × Text) :=
  match keyword ['n', 'u', 'l', 'l'] input, keyword ['t', 'r', 'u', 'e'] input,
      keyword ['f', 'a', 'l', 's', 'e'] input, scanNumber input with
  | some rest, _, _, _ => .ok (.null, rest)
  | _, some rest, _, _ => .ok (.boolean true, rest)
  | _, _, some rest, _ => .ok (.boolean false, rest)
  | _, _, _, some (.integer value, rest) => .ok (.integer value, rest)
  | _, _, _, some (.literal text, rest) => (raising (hooks.parseFloat text)).map fun value => (value, rest)
  | _, _, _, none => readConstant hooks input

mutual

def readValue (hooks : Hooks F E) : Nat -> Text -> Except (ReadError E) (Value F × Text)
  | 0, _ => .error .decode
  | _ + 1, [] => .error .decode
  | fuel + 1, point :: rest =>
    if point = '"' then
      (scanned (scanString fuel rest)).map fun (text, rest) => (.string text, rest)
    else if point = openBrace then
      if (skip rest).head? = some closeBrace then
        (raising (hooks.pairs [])).map fun members => (.object members, (skip rest).tail)
      else do
        let (members, rest) <- readMembers hooks fuel (skip rest)
        let members <- raising (hooks.pairs members)
        .ok (.object members, rest)
    else if point = '[' then
      if (skip rest).head? = some (.scalar ']') then .ok (.array [], (skip rest).tail)
      else (readItems hooks fuel (skip rest)).map fun (items, rest) => (.array items, rest)
    else readAtom hooks (point :: rest)

def readItems (hooks : Hooks F E) : Nat -> Text -> Except (ReadError E) (List (Value F) × Text)
  | 0, _ => .error .decode
  | fuel + 1, input => do
    let (item, rest) <- readValue hooks fuel input
    if (skip rest).head? = some (.scalar ']') then .ok ([item], (skip rest).tail)
    else if (skip rest).head? = some (.scalar ',') then do
      let (items, rest) <- readItems hooks fuel (skip (skip rest).tail)
      .ok (item :: items, rest)
    else .error .decode

def readMembers (hooks : Hooks F E) :
    Nat -> Text -> Except (ReadError E) (List (Text × Value F) × Text)
  | 0, _ => .error .decode
  | fuel + 1, input =>
    if input.head? = some (.scalar '"') then do
      let (key, rest) <- scanned (scanString fuel input.tail)
      if (skip rest).head? = some (.scalar ':') then do
        let (value, rest) <- readValue hooks fuel (skip (skip rest).tail)
        if (skip rest).head? = some closeBrace then .ok ([(key, value)], (skip rest).tail)
        else if (skip rest).head? = some (.scalar ',') then do
          let (members, rest) <- readMembers hooks fuel (skip (skip rest).tail)
          .ok ((key, value) :: members, rest)
        else .error .decode
      else .error .decode
    else .error .decode

end

def loads (hooks : Hooks F E) (text : Text) : Except (ReadError E) (Value F) :=
  if text.head? = some (.scalar '\uFEFF') then .error .decode
  else do
    let (value, rest) <- readValue hooks (text.length + 1) (skip text)
    if skip rest = [] then .ok value else .error .decode

end Json
