import Mathlib.Data.List.Lex
import Nexa.Shared.JsonOrder

namespace Json

open Paging List Value

variable {F : Type}

structure Style (F : Type) where
  quote : Text -> Text
  float : F -> Text
  rank : Option (Text -> List Nat)

def pointRank (text : Text) : List Nat := text.map CodePoint.code

def joined : List Text -> Text
  | [] => []
  | [text] => text
  | text :: texts => text ++ .scalar ',' :: joined texts

def memberText (quote : Text -> Text) (key text : Text) : Text := quote key ++ .scalar ':' :: text

def arrange {α : Type} (rank : Option (Text -> List Nat)) (parts : List (Text × α)) : List (Text × α) :=
  match rank with
  | some rank => ordered (fun part => rank part.1) parts
  | none => parts

mutual

def dumps (style : Style F) : Value F -> Text
  | .null => ['n', 'u', 'l', 'l']
  | .boolean true => ['t', 'r', 'u', 'e']
  | .boolean false => ['f', 'a', 'l', 's', 'e']
  | .integer value => integerText value
  | .float value => style.float value
  | .string text => style.quote text
  | .array items => '[' :: (joined (dumpsItems style items) ++ [.scalar ']'])
  | .object members =>
    openBrace :: (joined ((arrange style.rank (dumpsMembers style members)).map fun part =>
      memberText style.quote part.1 part.2) ++ [closeBrace])

def dumpsItems (style : Style F) : List (Value F) -> List Text
  | [] => []
  | item :: items => dumps style item :: dumpsItems style items

def dumpsMembers (style : Style F) : List (Text × Value F) -> List (Text × Text)
  | [] => []
  | (key, value) :: members => (key, dumps style value) :: dumpsMembers style members

end

theorem dumpsItems_eq (style : Style F) (items : List (Value F)) :
    dumpsItems style items = items.map (dumps style) := by
  induction items with
  | nil => rfl
  | cons item items ih => rw [dumpsItems, ih, map_cons]

theorem dumpsMembers_eq (style : Style F) (members : List (Text × Value F)) :
    dumpsMembers style members = members.map fun member => (member.1, dumps style member.2) := by
  induction members with
  | nil => rfl
  | cons member members ih =>
    obtain ⟨key, value⟩ := member
    rw [dumpsMembers, ih, map_cons]

theorem arrange_map {α β : Type} (rank : Option (Text -> List Nat)) (change : α -> β) (parts : List (Text × α)) :
    arrange rank (parts.map fun part => (part.1, change part.2)) =
      (arrange rank parts).map fun part => (part.1, change part.2) := by
  cases rank with
  | none => rfl
  | some rank => exact ordered_map (fun _ => rfl) parts

theorem arrange_perm {α : Type} (rank : Option (Text -> List Nat)) (parts : List (Text × α)) :
    (arrange rank parts).Perm parts := by
  cases rank with
  | none => exact .refl _
  | some rank => exact ordered_perm _ parts

def Value.arranged (rank : Option (Text -> List Nat)) (value : Value F) : Value F := match rank with
  | some rank => value.sorted rank
  | none => value

theorem Value.arranged_none : arranged none = (id : Value F -> Value F) := rfl

theorem Value.arranged_array (rank : Option (Text -> List Nat)) (items : List (Value F)) :
    (array items).arranged rank = .array (items.map (arranged rank)) := by
  cases rank with
  | none => simp [arranged_none]
  | some rank => exact sorted_array rank items

theorem Value.arranged_object (rank : Option (Text -> List Nat)) (members : List (Text × Value F)) :
    (object members).arranged rank =
      .object ((arrange rank members).map fun member => (member.1, member.2.arranged rank)) := by
  cases rank with
  | none => simp [arranged_none, arrange]
  | some rank => exact sorted_object rank members

theorem Value.arranged_members (rank : Option (Text -> List Nat)) {members : List (Text × Value F)}
    (distinct : (members.map Prod.fst).Nodup) :
    ∃ shown, (object members).arranged rank = .object shown ∧
      (∀ key, lookup key shown = (lookup key members).map (arranged rank)) ∧
      ∀ fields, closed fields shown = closed fields members := by
  have perm := arrange_perm rank members
  refine ⟨_, arranged_object rank members, ?_, ?_⟩
  · intro key
    rw [lookup_map, lookup_perm distinct perm]
  · intro fields
    have keys : ((arrange rank members).all fun member => fields.contains member.1) =
        members.all fun member => fields.contains member.1 := by
      rw [Bool.eq_iff_iff, all_eq_true, all_eq_true]
      exact ⟨fun all member inside => all member (perm.mem_iff.mpr inside),
        fun all member inside => all member (perm.mem_iff.mp inside)⟩
    simp only [closed, all_map, lookup_map, lookup_perm distinct perm, Option.isSome_map]
    rw [<- keys]
    rfl

def Plainly (style : Style F) (value : Value F) : Prop :=
  value.All fun
    | .float _ => False
    | .string text => style.quote text = dumpString text
    | .object members => ∀ member ∈ members, style.quote member.1 = dumpString member.1
    | _ => True

section

variable {allowed : List (Text × Value F) -> Prop} {shown : Value F -> Value F} {text : Value F -> Text}

theorem writesItems {item : Value F} {items : List (Value F)}
    (writes : ∀ part ∈ item :: items, Writes allowed (shown part) (text part)) :
    WritesItems allowed ((item :: items).map shown) (joined ((item :: items).map text)) := by
  induction items generalizing item with
  | nil => exact .last (writes item (by simp))
  | cons next items ih =>
    exact .more (writes item (by simp)) (ih fun part member => writes part (mem_cons_of_mem _ member))

theorem writesMembers {member : Text × Value F} {members : List (Text × Value F)}
    (writes : ∀ part ∈ member :: members, Writes allowed (shown part.2) (text part.2)) :
    WritesMembers allowed ((member :: members).map fun part => (part.1, shown part.2))
      (joined ((member :: members).map fun part => memberText dumpString part.1 (text part.2))) := by
  induction members generalizing member with
  | nil => exact .last (writes member (by simp))
  | cons next members ih =>
    have first := writes member (by simp)
    have others := ih fun part inside => writes part (mem_cons_of_mem _ inside)
    obtain ⟨key, value⟩ := member
    have all : WritesMembers allowed ((key, shown value) :: (next :: members).map fun part => (part.1, shown part.2))
        _ := .more first others
    simpa [joined, memberText] using all

end

theorem dumps_writes (style : Style F) {value : Value F} (plainly : Plainly style value) (keyed : value.Keyed) :
    Writes (fun members => (members.map Prod.fst).Nodup) (value.arranged style.rank) (dumps style value) := by
  induction value using parts with
  | null =>
    cases style.rank <;> exact .null
  | boolean value =>
    cases value <;> cases style.rank <;> first | exact .yes | exact .no
  | integer value =>
    cases style.rank <;> exact .integer value
  | float value => exact plainly.elim
  | string text =>
    have quoted : style.quote text = dumpString text := plainly
    rw [dumps, quoted]
    cases style.rank <;> exact .string text
  | array items ih =>
    have parts := (all_array.mp plainly).2
    have keys := keyed_array.mp keyed
    rw [arranged_array, dumps, dumpsItems_eq]
    cases items with
    | nil => exact .emptyArray
    | cons item items =>
      exact .array (writesItems fun part member => ih part member (parts part member) (keys part member))
  | object members ih =>
    obtain ⟨quoted, parts⟩ := all_object.mp plainly
    have keys := keyed_object.mp keyed
    have perm := arrange_perm style.rank members
    have distinct : (((arrange style.rank members).map fun member =>
        (member.1, member.2.arranged style.rank)).map Prod.fst).Nodup := by
      rw [map_map]
      exact (perm.map Prod.fst).nodup_iff.mpr keys.1
    have texts : ((arrange style.rank members).map fun member => (member.1, dumps style member.2)).map
        (fun part => memberText style.quote part.1 part.2) =
        (arrange style.rank members).map fun member => memberText dumpString member.1 (dumps style member.2) := by
      rw [map_map]
      refine map_congr_left fun member inside => ?_
      simp only [Function.comp_apply, memberText, quoted member (perm.mem_iff.mp inside)]
    rw [arranged_object, dumps, dumpsMembers_eq, arrange_map, texts]
    have writes : ∀ member ∈ arrange style.rank members,
        Writes (fun members => (members.map Prod.fst).Nodup) (member.2.arranged style.rank) (dumps style member.2) := by
      intro member inside
      have origin := perm.mem_iff.mp inside
      exact ih member origin (parts member origin) (keys.2 member origin)
    generalize arrange style.rank members = sorted at distinct writes
    cases sorted with
    | nil => exact .emptyObject nodup_nil
    | cons member sorted => exact .object distinct (writesMembers writes)

def escapeUnit (unit : Nat) : Text :=
  ['\\', 'u', hexDigit (unit / 4096), hexDigit (unit / 256 % 16), hexDigit (unit / 16 % 16), hexDigit (unit % 16)]

def escapeAscii (point : CodePoint) : Text := if 32 ≤ point.code ∧ point.code ≤ 126 then escapePoint point
  else if point = '\n' ∨ point = '\r' ∨ point = '\t' ∨ point = '\x08' ∨ point = '\x0c' then escapePoint point
  else if point.code < 0x10000 then escapeUnit point.code
  else
    escapeUnit (0xd800 + (point.code - 0x10000) / 0x400) ++ escapeUnit (0xdc00 + (point.code - 0x10000) % 0x400)

def quoteAscii (text : Text) : Text := '"' :: (text.flatMap escapeAscii ++ [.scalar '"'])

def Printable (text : Text) : Prop := ∀ point ∈ text, 32 ≤ point.code ∧ point.code ≤ 126

instance (text : Text) : Decidable (Printable text) := List.decidableBAll _ text

variable {text : Text}

theorem quoteAscii_printable (printable : Printable text) : quoteAscii text = dumpString text := by
  have same : text.flatMap escapeAscii = text.flatMap escapePoint :=
    flatMap_congr fun point member => by rw [escapeAscii, if_pos (printable point member)]
  rw [quoteAscii, dumpString, same]

def encodeAscii (text : Text) : Option ByteArray :=
  (text.mapM fun point => if point.code < 128 then some (UInt8.ofNat point.code) else none).map
    fun bytes => ⟨bytes.toArray⟩

def decodeAscii (raw : ByteArray) : Option Text :=
  raw.data.toList.mapM fun byte =>
    if byte.toNat < 128 then some (.scalar (Char.ofNat byte.toNat)) else none

def Ascii (text : Text) : Prop := ∀ point ∈ text, point.code < 128

instance (text : Text) : Decidable (Ascii text) := List.decidableBAll _ text

variable {point : CodePoint}

theorem ofNat_code (small : point.code < 128) : CodePoint.scalar (Char.ofNat point.code) = point := by
  cases point with
  | scalar character => simp [CodePoint.code]
  | surrogate code half =>
    simp only [CodePoint.code] at small
    omega

theorem encodeAscii_ascii (ascii : Ascii text) :
    ∃ raw, encodeAscii text = some raw ∧ raw.size = text.length ∧ decodeAscii raw = some text := by
  have bytes : text.mapM (fun point => if point.code < 128 then some (UInt8.ofNat point.code) else none) =
      some (text.map fun point => UInt8.ofNat point.code) := by
    induction text with
    | nil => rfl
    | cons point text ih =>
      have small : point.code < 128 := ascii point (by simp)
      have rest := ih fun other member => ascii other (mem_cons_of_mem _ member)
      simp [mapM_cons, small, rest]
  refine ⟨_, by rw [encodeAscii, bytes]; rfl, by simp [ByteArray.size], ?_⟩
  simp only [decodeAscii]
  clear bytes
  induction text with
  | nil => rfl
  | cons point text ih =>
    have small : point.code < 128 := ascii point (by simp)
    have rest := ih fun other member => ascii other (mem_cons_of_mem _ member)
    have byte : (UInt8.ofNat point.code).toNat = point.code := by
      rw [UInt8.toNat_ofNat']
      omega
    simp only [map_cons, mapM_cons, byte, small, if_true, rest, ofNat_code small]
    rfl

theorem ascii_append {left right : Text} : Ascii (left ++ right) <-> Ascii left ∧ Ascii right := by
  simp only [Ascii, mem_append, or_imp, forall_and]

theorem ascii_cons : Ascii (point :: text) <-> point.code < 128 ∧ Ascii text := by
  simp only [Ascii, forall_mem_cons]

theorem ascii_integerText (value : Int) : Ascii (integerText value) := by
  have digits : Ascii (scalarText (Numerals.text value.natAbs)) := by
    intro point member
    obtain ⟨character, inside, rfl⟩ := mem_map.mp member
    have digit := Numerals.isDigit_of_mem_text inside
    rw [Char.isDigit, Bool.and_eq_true, decide_eq_true_eq, decide_eq_true_eq] at digit
    have high : character.toNat ≤ 57 := digit.2
    rw [CodePoint.code]
    omega
  rw [integerText]
  split_ifs
  · exact ascii_cons.mpr ⟨by decide, digits⟩
  · exact digits

theorem length_integerText_le {value : Int} {digits : Nat} (positive : 0 < digits)
    (small : value.natAbs < 10 ^ digits) :
    (integerText value).length ≤ digits + 1 := by
  have bound := Numerals.length_text_le positive small
  rw [integerText]
  split_ifs <;> simp [scalarText] <;> omega

theorem mem_dumpString (member : point ∈ dumpString text) : point.code < 128 ∨ point ∈ text := by
  have digits : ∀ value < 16, (hexDigit value).code < 128 := by decide
  rw [dumpString, mem_cons, mem_append, mem_singleton] at member
  rcases member with rfl | inside | rfl
  · exact .inl (by decide)
  · obtain ⟨source, found, written⟩ := mem_flatMap.mp inside
    unfold escapePoint at written
    split_ifs at written with quote backslash newline carriage tab backspace feed control
    iterate 7
      · simp only [mem_cons, not_mem_nil, or_false] at written
        rcases written with rfl | rfl <;> exact .inl (by decide)
    · simp only [mem_cons, not_mem_nil, or_false] at written
      rcases written with rfl | rfl | rfl | rfl | rfl | rfl
      iterate 4 exact .inl (by decide)
      · exact .inl (digits _ (by omega))
      · exact .inl (digits _ (by omega))
    · exact .inr (mem_singleton.mp written ▸ found)
  · exact .inl (by decide)

theorem ascii_dumpString (printable : Printable text) : Ascii (dumpString text) := by
  intro point member
  rcases mem_dumpString member with small | inside
  · exact small
  · have bounds := printable point inside
    omega

theorem mem_joined {texts : List Text} (member : point ∈ joined texts) :
    point = .scalar ',' ∨ ∃ text ∈ texts, point ∈ text := by
  fun_induction joined texts with
  | case1 => cases member
  | case2 text => exact .inr ⟨text, by simp, member⟩
  | case3 text texts _ ih =>
    rw [mem_append, mem_cons] at member
    rcases member with here | mark | later
    · exact .inr ⟨text, by simp, here⟩
    · exact .inl mark
    · exact (ih later).imp id fun found => found.imp fun other both => ⟨mem_cons_of_mem _ both.1, both.2⟩

/-- The points of a value's texts, for a value without floats. -/
def Value.Points (allowed : CodePoint -> Prop) (value : Value F) : Prop :=
  value.All fun
    | .float _ => False
    | .string text => ∀ point ∈ text, allowed point
    | .object members => ∀ member ∈ members, ∀ point ∈ member.1, allowed point
    | _ => True

theorem dumps_points {style : Style F} (quote : style.quote = dumpString) {allowed : CodePoint -> Prop}
    (ascii : ∀ point, point.code < 128 -> allowed point) {value : Value F} (points : value.Points allowed) :
    ∀ point ∈ dumps style value, allowed point := by
  have quoted {text : Text} (each : ∀ point ∈ text, allowed point) : ∀ point ∈ dumpString text, allowed point :=
    fun point member => (mem_dumpString member).elim (ascii point) (each point)
  have list {texts : List Text} (each : ∀ text ∈ texts, ∀ point ∈ text, allowed point) (left right : Char)
      (small : left.toNat < 128 ∧ right.toNat < 128) :
      ∀ point ∈ CodePoint.scalar left :: (joined texts ++ [.scalar right]), allowed point := by
    intro point member
    rw [mem_cons, mem_append, mem_singleton] at member
    rcases member with rfl | inside | rfl
    · exact ascii _ small.1
    · rcases mem_joined inside with rfl | ⟨text, found, there⟩
      · exact ascii _ (by decide)
      · exact each text found point there
    · exact ascii _ small.2
  induction value using parts with
  | null => exact fun point member => ascii point ((by decide : Ascii ['n', 'u', 'l', 'l']) point member)
  | boolean value =>
    cases value
    · exact fun point member => ascii point ((by decide : Ascii ['f', 'a', 'l', 's', 'e']) point member)
    · exact fun point member => ascii point ((by decide : Ascii ['t', 'r', 'u', 'e']) point member)
  | integer value => exact fun point member => ascii point (ascii_integerText value point member)
  | float value => exact points.elim
  | string text =>
    rw [dumps, quote]
    exact quoted points
  | array items ih =>
    have each := (all_array.mp points).2
    rw [dumps, dumpsItems_eq]
    refine list (fun text member => ?_) '[' ']' (by decide)
    obtain ⟨item, found, rfl⟩ := mem_map.mp member
    exact ih item found (each item found)
  | object members ih =>
    obtain ⟨names, each⟩ := all_object.mp points
    rw [dumps, dumpsMembers_eq, arrange_map, map_map]
    refine list (fun text member => ?_) _ _ (by decide)
    obtain ⟨part, found, rfl⟩ := mem_map.mp member
    have origin := (arrange_perm style.rank members).mem_iff.mp found
    intro point inside
    rw [Function.comp_apply, memberText, quote, mem_append, mem_cons] at inside
    rcases inside with name | rfl | value
    · exact quoted (names part origin) point name
    · exact ascii _ (by decide)
    · exact ih part origin (each part origin) point value

theorem length_dumpString_le (text : Text) : (dumpString text).length ≤ 6 * text.length + 2 := by
  have body : (text.flatMap escapePoint).length ≤ 6 * text.length := by
    induction text with
    | nil => simp
    | cons point text ih =>
      have one : (escapePoint point).length ≤ 6 := by
        unfold escapePoint
        split_ifs <;> simp
      rw [flatMap_cons, length_append, length_cons]
      omega
  rw [dumpString, length_cons, length_append, length_singleton]
  omega

def encodeUtf8 (text : Text) : Option ByteArray :=
  (characters? text).map fun characters => (String.ofList characters).toByteArray

def decodeUtf8 (raw : ByteArray) : Option Text := (String.fromUTF8? raw).map fun text => scalarText text.toList

theorem decodeUtf8_toByteArray (text : String) : decodeUtf8 text.toByteArray = some (textOf text) := by
  have valid : text.toByteArray.IsValidUTF8 := text.isValidUTF8
  rw [decodeUtf8, String.fromUTF8?, dif_pos valid]
  rfl

theorem characters?_eq_some {characters : List Char} :
    characters? text = some characters <-> text = scalarText characters := by
  induction text generalizing characters with
  | nil =>
    cases characters with
    | nil => simp [characters?, scalarText]
    | cons => simp [characters?, scalarText]
  | cons point text ih =>
    rw [characters?] at ih ⊢
    rw [mapM_cons]
    cases point with
    | surrogate code half =>
      simp only [CodePoint.character?, Option.bind_eq_bind, Option.bind_none, reduceCtorEq, false_iff]
      cases characters <;> simp [scalarText]
    | scalar character =>
      cases characters with
      | nil => simp [CodePoint.character?, scalarText, Option.bind_eq_some_iff]
      | cons first rest =>
        simp only [CodePoint.character?, Option.bind_eq_bind, Option.bind_some, Option.bind_eq_some_iff,
          Option.pure_def, Option.some.injEq, List.cons.injEq, scalarText, map_cons, CodePoint.scalar.injEq]
        constructor
        · rintro ⟨found, read, rfl, rfl⟩
          exact ⟨rfl, ih.mp read⟩
        · rintro ⟨rfl, same⟩
          exact ⟨rest, ih.mpr same, rfl, rfl⟩

theorem encodeUtf8_scalar (scalar : ∀ point ∈ text, ∃ character, point = .scalar character) :
    ∃ raw, encodeUtf8 text = some raw ∧ decodeUtf8 raw = some text := by
  obtain ⟨characters, rfl⟩ : ∃ characters, text = scalarText characters := by
    induction text with
    | nil => exact ⟨[], rfl⟩
    | cons point text ih =>
      obtain ⟨character, rfl⟩ := scalar point mem_cons_self
      obtain ⟨characters, rfl⟩ := ih fun other member => scalar other (mem_cons_of_mem _ member)
      exact ⟨character :: characters, rfl⟩
  refine ⟨_, by rw [encodeUtf8, characters?_eq_some.mpr rfl]; rfl, ?_⟩
  rw [decodeUtf8_toByteArray, textOf, String.toList_ofList]
  rfl

theorem scalar_of_ascii (small : point.code < 128) : ∃ character, point = .scalar character :=
  ⟨_, (ofNat_code small).symm⟩

theorem pointRank_injective : Function.Injective pointRank := by
  refine map_injective_iff.mpr fun left right same => ?_
  cases left with
  | scalar left =>
    cases right with
    | scalar right => exact congrArg CodePoint.scalar (Char.toNat_inj.mp same)
    | surrogate code half =>
      have valid := left.valid
      have : left.toNat = code := same
      simp only [Char.toNat, UInt32.isValidChar, Nat.isValidChar] at *
      omega
  | surrogate code half =>
    cases right with
    | scalar right =>
      have valid := right.valid
      have : code = right.toNat := same
      simp only [Char.toNat, UInt32.isValidChar, Nat.isValidChar] at *
      omega
    | surrogate other _ =>
      obtain rfl : code = other := same
      rfl

theorem dictOf_eq {members : List (Text × Value F)} (distinct : (members.map Prod.fst).Nodup) :
    dictOf members = members := by
  have append (kept rest : List (Text × Value F)) (distinct : ((kept ++ rest).map Prod.fst).Nodup) :
      rest.foldl (fun members pair => assign members pair.1 pair.2) kept = kept ++ rest := by
    induction rest generalizing kept with
    | nil => simp
    | cons pair rest ih =>
      have absent : (kept.any fun member => member.1 = pair.1) = false := by
        rw [map_append, map_cons, nodup_append] at distinct
        simp only [any_eq_false, decide_eq_true_eq]
        exact fun member inside => distinct.2.2 _ (mem_map_of_mem inside) _ mem_cons_self
      rw [foldl_cons, assign, absent, if_neg (by decide), ih _ (by simpa using distinct)]
      simp
  exact append [] members distinct

end Json
