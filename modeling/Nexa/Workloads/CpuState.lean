import Mathlib
import Nexa.Shared.JsonWriting
import Nexa.Shared.Outcome

/-! `cpu_state.py`. What is decoded is what was encoded, and no other bytes are accepted for it. -/

namespace Nexa.Workloads

open Json Outcome

def stateMaxBytes : Nat := 4096

def stateMaxInteger : Int := 2 ^ 53 - 1

def stateFields : List Json.Text :=
  [textOf "schema_version", textOf "step", textOf "accumulator", textOf "input_checksum", textOf "spec_checksum"]

def isLowerHex (point : CodePoint) : Bool := point.isDigit || (97 ≤ point.code && point.code ≤ 102)

def isChecksum (text : Json.Text) : Bool :=
  text.take 7 = textOf "sha256:" && text.length = 71 && (text.drop 7).all isLowerHex

theorem isChecksum_iff {text : Json.Text} :
    isChecksum text = true <->
      (text.take 7 = textOf "sha256:" ∧ text.length = 71) ∧ ∀ point ∈ text.drop 7, isLowerHex point = true := by
  simp only [isChecksum, Bool.and_eq_true, decide_eq_true_eq, List.all_eq_true]

inductive CpuStateError where
  | state (message : String)
  | unicode
deriving DecidableEq

structure CpuState where
  step : Int
  accumulator : Int
  inputChecksum : Json.Text
  specChecksum : Json.Text
deriving DecidableEq

def safeInteger (message : String) : Value Empty -> Except CpuStateError Int
  | .integer value =>
    if 0 ≤ value ∧ value ≤ stateMaxInteger then .ok value else .error (.state message)
  | _ => .error (.state message)

def checksum : Value Empty -> Except CpuStateError Json.Text
  | .string text => if isChecksum text then .ok text else .error (.state "state checksum is invalid")
  | _ => .error (.state "state checksum is invalid")

def checkState (step accumulator inputChecksum specChecksum : Value Empty) : Except CpuStateError CpuState := do
  let step <- safeInteger "state step is invalid" step
  let accumulator <- safeInteger "state accumulator is invalid" accumulator
  let inputChecksum <- checksum inputChecksum
  let specChecksum <- checksum specChecksum
  return { step, accumulator, inputChecksum, specChecksum }

def stateDocument (state : CpuState) : List (Json.Text × Value Empty) :=
  [(textOf "schema_version", .integer 1), (textOf "step", .integer state.step),
    (textOf "accumulator", .integer state.accumulator), (textOf "input_checksum", .string state.inputChecksum),
    (textOf "spec_checksum", .string state.specChecksum)]

def stateStyle : Style Empty where
  quote := quoteAscii
  float := Empty.elim
  rank := some pointRank

def encodeState (state : CpuState) : Except CpuStateError ByteArray := do
  let state <- checkState (.integer state.step) (.integer state.accumulator) (.string state.inputChecksum)
    (.string state.specChecksum)
  orFail .unicode (encodeAscii (dumps stateStyle (.object (stateDocument state))))

def stateHooks : Hooks Empty CpuStateError where
  parseFloat _ := .error (.state "state numbers must be integers")
  pairs members := if (members.map Prod.fst).Nodup then .ok members else .error (.state "duplicate state key")
  constant _ := .error (.state "state numbers must be integers")

def isVersionOne : Value Empty -> Bool
  | .integer version => version = 1
  | _ => false

def stateOfDocument (iterations modulus : Int) (inputChecksum specChecksum : Json.Text)
    (members : List (Json.Text × Value Empty)) : Except CpuStateError CpuState := do
  let field name := (lookup (textOf name) members).getD .null
  require (closed stateFields members) (.state "state fields are invalid")
  require (isVersionOne (field "schema_version")) (.state "state schema version is unsupported")
  let state <- checkState (field "step") (field "accumulator") (field "input_checksum") (field "spec_checksum")
  require (state.step ≤ iterations ∧ state.accumulator < modulus) (.state "state cursor is outside the job bounds")
  require (state.inputChecksum = inputChecksum ∧ state.specChecksum = specChecksum)
    (.state "state belongs to another input or spec")
  return state

def stateOfText (iterations modulus : Int) (inputChecksum specChecksum text : Json.Text) :
    Except CpuStateError CpuState :=
  match loads stateHooks text with
  | .error .decode => .error (.state "state is not strict JSON")
  | .error (.raised error) => .error error
  | .ok (.object members) => stateOfDocument iterations modulus inputChecksum specChecksum members
  | .ok _ => .error (.state "state fields are invalid")

def decodeState (raw : ByteArray) (iterations modulus : Int) (inputChecksum specChecksum : Json.Text) :
    Except CpuStateError CpuState := do
  require (1 ≤ raw.size ∧ raw.size ≤ stateMaxBytes) (.state "state size is outside its bound")
  let text <- orFail (.state "state is not strict JSON") (decodeAscii raw)
  let state <- stateOfText iterations modulus inputChecksum specChecksum text
  let again <- encodeState state
  require (again = raw) (.state "state is not canonical")
  return state

structure CpuState.Valid (state : CpuState) : Prop where
  step : 0 ≤ state.step ∧ state.step ≤ stateMaxInteger
  accumulator : 0 ≤ state.accumulator ∧ state.accumulator ≤ stateMaxInteger
  inputChecksum : isChecksum state.inputChecksum = true
  specChecksum : isChecksum state.specChecksum = true

variable {state : CpuState}

theorem checkState_valid (valid : state.Valid) :
    checkState (.integer state.step) (.integer state.accumulator) (.string state.inputChecksum)
      (.string state.specChecksum) = .ok state := by
  simp only [checkState, safeInteger, checksum, if_pos valid.step, if_pos valid.accumulator,
    if_pos valid.inputChecksum, if_pos valid.specChecksum]
  rfl

theorem code_of_isLowerHex {point : CodePoint} (hex : isLowerHex point = true) :
    32 ≤ point.code ∧ point.code ≤ 126 := by
  rw [isLowerHex, Bool.or_eq_true, Bool.and_eq_true, decide_eq_true_eq, decide_eq_true_eq] at hex
  rcases hex with digit | letter
  · cases point with
    | scalar character =>
      rw [CodePoint.isDigit, Char.isDigit, Bool.and_eq_true, decide_eq_true_eq, decide_eq_true_eq] at digit
      have low : 48 ≤ character.toNat := digit.1
      have high : character.toNat ≤ 57 := digit.2
      rw [CodePoint.code]
      omega
    | surrogate code half => cases digit
  · omega

theorem printable_of_isChecksum {text : Json.Text} (valid : isChecksum text = true) : Printable text := by
  obtain ⟨⟨front, -⟩, digits⟩ := isChecksum_iff.mp valid
  intro point member
  rw [<- List.take_append_drop 7 text, List.mem_append] at member
  rcases member with letter | digit
  · rw [front] at letter
    have closed : ∀ point ∈ textOf "sha256:", 32 ≤ point.code ∧ point.code ≤ 126 := by decide
    exact closed point letter
  · exact code_of_isLowerHex (digits point digit)

theorem dumps_stateDocument (state : CpuState) :
    dumps stateStyle (.object (stateDocument state)) =
      textOf "\x7b\"accumulator\":" ++ (integerText state.accumulator ++ (textOf ",\"input_checksum\":" ++
        (quoteAscii state.inputChecksum ++ (textOf ",\"schema_version\":1,\"spec_checksum\":" ++
          (quoteAscii state.specChecksum ++ (textOf ",\"step\":" ++
            (integerText state.step ++ textOf "\x7d"))))))) := by
  have order : arrange stateStyle.rank (dumpsMembers stateStyle (stateDocument state)) =
      [(textOf "accumulator", integerText state.accumulator),
        (textOf "input_checksum", quoteAscii state.inputChecksum), (textOf "schema_version", integerText 1),
        (textOf "spec_checksum", quoteAscii state.specChecksum), (textOf "step", integerText state.step)] := rfl
  rw [dumps, order]
  simp only [List.map_cons, List.map_nil, joined, memberText, List.append_assoc, List.cons_append]
  rfl

theorem ascii_stateText (valid : state.Valid) : Ascii (dumps stateStyle (.object (stateDocument state))) := by
  have input := ascii_dumpString (printable_of_isChecksum valid.inputChecksum)
  have spec := ascii_dumpString (printable_of_isChecksum valid.specChecksum)
  rw [<- quoteAscii_printable (printable_of_isChecksum valid.inputChecksum)] at input
  rw [<- quoteAscii_printable (printable_of_isChecksum valid.specChecksum)] at spec
  rw [dumps_stateDocument]
  refine ascii_append.mpr ⟨by unfold Ascii; decide, ascii_append.mpr ⟨ascii_integerText _, ?_⟩⟩
  refine ascii_append.mpr ⟨by unfold Ascii; decide, ascii_append.mpr ⟨input, ?_⟩⟩
  refine ascii_append.mpr ⟨by unfold Ascii; decide, ascii_append.mpr ⟨spec, ?_⟩⟩
  exact ascii_append.mpr ⟨by unfold Ascii; decide, ascii_append.mpr ⟨ascii_integerText _, by unfold Ascii; decide⟩⟩

theorem length_stateText (valid : state.Valid) :
    1 ≤ (dumps stateStyle (.object (stateDocument state))).length ∧
      (dumps stateStyle (.object (stateDocument state))).length ≤ stateMaxBytes := by
  have safe : ∀ value : Int, 0 ≤ value ∧ value ≤ stateMaxInteger -> (integerText value).length ≤ 17 := by
    intro value bounds
    refine length_integerText_le (by decide) ?_
    unfold stateMaxInteger at bounds
    omega
  have step := safe _ valid.step
  have accumulator := safe _ valid.accumulator
  have quoted : ∀ text : Json.Text, isChecksum text = true -> (quoteAscii text).length ≤ 428 := by
    intro text matched
    have bound := length_dumpString_le text
    have length := (isChecksum_iff.mp matched).1.2
    rw [quoteAscii_printable (printable_of_isChecksum matched)]
    omega
  have input := quoted _ valid.inputChecksum
  have spec := quoted _ valid.specChecksum
  rw [dumps_stateDocument]
  simp only [List.length_append, textOf, List.length_map]
  have fixed : ("\x7b\"accumulator\":".toList.length, ",\"input_checksum\":".toList.length,
      ",\"schema_version\":1,\"spec_checksum\":".toList.length, ",\"step\":".toList.length,
      "\x7d".toList.length) = (15, 18, 36, 8, 1) := by decide
  simp only [Prod.mk.injEq] at fixed
  obtain ⟨first, second, third, fourth, fifth⟩ := fixed
  rw [first, second, third, fourth, fifth, stateMaxBytes]
  omega

theorem encodeState_valid (valid : state.Valid) :
    ∃ raw, encodeState state = .ok raw ∧ 1 ≤ raw.size ∧ raw.size ≤ stateMaxBytes ∧
      decodeAscii raw = some (dumps stateStyle (.object (stateDocument state))) := by
  obtain ⟨raw, encoded, size, decoded⟩ := encodeAscii_ascii (ascii_stateText valid)
  have length := length_stateText valid
  refine ⟨raw, ?_, by omega, by omega, decoded⟩
  simp only [encodeState, checkState_valid valid]
  change orFail _ (encodeAscii (dumps stateStyle (.object (stateDocument state)))) = _
  rw [encoded]
  rfl

theorem loads_stateText (valid : state.Valid) :
    loads stateHooks (dumps stateStyle (.object (stateDocument state))) =
      .ok ((Value.object (stateDocument state)).arranged stateStyle.rank) := by
  have keyed : (Value.object (stateDocument state)).Keyed := by
    rw [Value.keyed_object]
    refine ⟨?_, ?_⟩
    · change [textOf "schema_version", textOf "step", textOf "accumulator", textOf "input_checksum",
        textOf "spec_checksum"].Nodup
      decide
    · simp [stateDocument, Value.Keyed, Value.All]
  have plainly : Plainly stateStyle (.object (stateDocument state)) := by
    have input := quoteAscii_printable (printable_of_isChecksum valid.inputChecksum)
    have spec := quoteAscii_printable (printable_of_isChecksum valid.specChecksum)
    have keys : ∀ key ∈ stateFields, quoteAscii key = dumpString key := by decide
    rw [Plainly, Value.all_object]
    constructor
    · intro member inside
      have field : member.1 ∈ stateFields := by
        have named : member.1 ∈ (stateDocument state).map Prod.fst := List.mem_map_of_mem inside
        exact named
      exact keys _ field
    · simp [stateDocument, Value.All, stateStyle, input, spec]
  refine loads_written ?_ (dumps_writes stateStyle plainly keyed)
  intro members distinct
  exact if_pos distinct

theorem stateOfText_encoded (valid : state.Valid) {iterations modulus : Int}
    (within : state.step ≤ iterations ∧ state.accumulator < modulus) :
    stateOfText iterations modulus state.inputChecksum state.specChecksum
      (dumps stateStyle (.object (stateDocument state))) = .ok state := by
  have distinct : ((stateDocument state).map Prod.fst).Nodup := by
    change stateFields.Nodup
    decide
  obtain ⟨shown, arranged, found, keys⟩ := Value.arranged_members stateStyle.rank distinct
  have read : ∀ name, lookup (textOf name) shown =
      (lookup (textOf name) (stateDocument state)).map (Value.arranged stateStyle.rank) := fun name => found _
  have fields : closed stateFields shown = true := by
    rw [keys]
    rfl
  have version : lookup (textOf "schema_version") shown = some (.integer 1) := read _
  have step : lookup (textOf "step") shown = some (.integer state.step) := read _
  have accumulator : lookup (textOf "accumulator") shown = some (.integer state.accumulator) := read _
  have input : lookup (textOf "input_checksum") shown = some (.string state.inputChecksum) := read _
  have spec : lookup (textOf "spec_checksum") shown = some (.string state.specChecksum) := read _
  rw [stateOfText, loads_stateText valid, arranged]
  simp only [stateOfDocument, fields, version, step, accumulator, input, spec, Option.getD_some, checkState_valid valid,
    isVersionOne, require, within, bind, Except.bind, if_true, and_self, decide_true]
  rfl

theorem decodeState_encodeState (valid : state.Valid) {iterations modulus : Int}
    (within : state.step ≤ iterations ∧ state.accumulator < modulus) :
    ∃ raw, encodeState state = .ok raw ∧
      decodeState raw iterations modulus state.inputChecksum state.specChecksum = .ok state := by
  obtain ⟨raw, encoded, low, high, decoded⟩ := encodeState_valid valid
  refine ⟨raw, encoded, ?_⟩
  simp only [decodeState, require, low, high, and_self, if_true, decoded, orFail, stateOfText_encoded valid within,
    encoded, bind, Except.bind]
  rfl

theorem encodeState_of_decodeState {raw : ByteArray} {iterations modulus : Int}
    {inputChecksum specChecksum : Json.Text}
    (decoded : decodeState raw iterations modulus inputChecksum specChecksum = .ok state) :
    encodeState state = .ok raw := by
  simp only [decodeState, bind_eq_ok, require_eq_ok, pure_eq_ok, exists_const] at decoded
  obtain ⟨-, text, -, found, -, again, encoded, rfl, rfl⟩ := decoded
  exact encoded

end Nexa.Workloads
