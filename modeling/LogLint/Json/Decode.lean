import LogLint.Json.Error

/-!
# JSON の木から型つきの値を読む

すでに読んだ JSON の木を、求める型として読む部品。誤りは位置を持たない原因（`Fault`）で返す。

木には二つの出どころがあり、配列を構造体として読んだときの余りの言い方だけが違う。

* `Source.value` — JSON の値の表（キーの重複はまとめてある）
* `Source.content` — 読みながら取っておいた木（キーの重複が残る）

## 構造体

構造体は object からも配列からも読める。

* object（`scanFields`）— 組を前から見る。知っているフィールドは最初の出現を順に読み、
  二度目が現れたらそこで `duplicateField`。知らないキーは読み飛ばす。最後に、なかった
  フィールドは既定値があればそれを、なければ `missingField`
* 配列 — 要素をフィールドの宣言順に当てる。足りなければ既定値か `invalidLength`、
  余れば `invalidLength`
-/

namespace LogLint.Json

/-- 木の出どころ。 -/
inductive Source where
  | value
  | content
  deriving DecidableEq, Repr

/-- 木から読んだ結果。 -/
abbrev Decoded (α : Type) := Except Fault α

namespace Decode

/-- 型の誤り。 -/
def mismatch {α : Type} (j : Json) (expected : String) : Decoded α :=
  .error (.invalidType j.unexpected expected)

/-- 真偽値。 -/
def bool : Json → Decoded Bool
  | .bool b => .ok b
  | j => mismatch j "a boolean"

/-- 文字列。 -/
def string : Json → Decoded String
  | .string s => .ok s
  | j => mismatch j "a string"

/-- 64 ビットの非負整数。負の整数は値の誤り、浮動小数点数は型の誤り。 -/
def usize : Json → Decoded Nat
  | .number (.unsigned n) => .ok n
  | .number (.negative n) => .error (.invalidValue (.signed n) "usize")
  | j => mismatch j "usize"

/-- `null` なら `none`、それ以外は `d` で読む。 -/
def option {α : Type} (d : Json → Decoded α) : Json → Decoded (Option α)
  | .null => .ok none
  | j => some <$> d j

/-- 配列の各要素を `d` で読む。 -/
def list {α : Type} (d : Json → Decoded α) : Json → Decoded (List α)
  | .array xs => xs.mapM d
  | j => mismatch j "a sequence"

/-- 名前の並びの中の位置。 -/
def indexOf? (names : List String) (s : String) : Option Nat :=
  names.findIdx? (· == s)

/-- 列挙子の名前。値の表からは文字列だけ、取っておいた木からは番号も受ける。 -/
def identifier (names : List String) (src : Source) : Json → Decoded Nat
  | .string s =>
    match indexOf? names s with
    | some i => .ok i
    | none => .error (.unknownVariant s names)
  | .number (.unsigned n) =>
    if src = .content then
      if n < names.length then .ok n
      else .error (.invalidValue (.unsigned n) ("variant index 0 <= i < " ++ intText names.length))
    else mismatch (.number (.unsigned n)) "variant identifier"
  | j => mismatch j "variant identifier"

/-- 値を持たない列挙子。名前の文字列か、名前だけをキーに持ち値が `null` の object。 -/
def unitVariant (names : List String) : Json → Decoded Nat
  | .string s =>
    match indexOf? names s with
    | some i => .ok i
    | none => .error (.unknownVariant s names)
  | .object [(k, v)] =>
    match indexOf? names k with
    | none => .error (.unknownVariant k names)
    | some i =>
      match v with
      | .null => .ok i
      | v => mismatch v "unit"
  | .object _ => .error (.invalidValue .map "map with a single key")
  | j => mismatch j "string or map"

/-! ## 構造体 -/

/-- object の組を前から見た結果：各フィールドの最初の値、読む順、最初の重複。 -/
structure FieldScan where
  slots : Array (Option Json)
  order : List Nat
  duplicate? : Option String

/-- 組を前から見る。重複が現れたらそこで止める。 -/
def scanFields (names : List String) (entries : List (String × Json)) : FieldScan :=
  go entries ⟨(List.replicate names.length none).toArray, [], none⟩
where
  go : List (String × Json) → FieldScan → FieldScan
    | [], s => { s with order := s.order.reverse }
    | (k, v) :: rest, s =>
      match indexOf? names k with
      | none => go rest s
      | some i =>
        match s.slots[i]? with
        | some (some _) => { s with order := s.order.reverse, duplicate? := some k }
        | _ => go rest { s with slots := s.slots.set! i (some v), order := i :: s.order }

/-- `i` 番目のフィールドの値。 -/
def FieldScan.slot (s : FieldScan) (i : Nat) : Json :=
  (s.slots[i]?.join).getD .null

/-- 重複があれば誤り。 -/
def FieldScan.checkDuplicate (s : FieldScan) : Decoded Unit :=
  match s.duplicate? with
  | some k => .error (.duplicateField k)
  | none => .ok ()

/-- 既定値のないフィールドの値。なければ `missingField`。 -/
def required {α : Type} (name : String) : Option α → Decoded α
  | some a => .ok a
  | none => .error (.missingField name)

/-- 構造体を object か配列から読む。 -/
def structOf {α : Type} (name : String) (fields : List String)
    (fromMap : FieldScan → Decoded α) (fromSeq : List Json → Decoded α) : Json → Decoded α
  | .object entries => fromMap (scanFields fields entries)
  | .array items => fromSeq items
  | j => mismatch j ("struct " ++ name)

/-- 配列から構造体を読んだ後の余り。`count` は読んだ要素の数。 -/
def leftover (src : Source) (count : Nat) (rest : List Json) : Decoded Unit :=
  match rest with
  | [] => .ok ()
  | _ =>
    match src with
    | .content =>
      .error (.invalidLength (count + rest.length)
        (if count = 1 then "1 element in sequence" else intText count ++ " elements in sequence"))
    | .value => .error (.invalidLength (count + rest.length) "fewer elements in array")

/-- 配列から構造体を読むとき、足りない要素の誤り。 -/
def short {α : Type} (structName : String) (fieldCount index : Nat) : Decoded α :=
  .error (.invalidLength index
    ("struct " ++ structName ++ " with " ++ intText fieldCount ++
      (if fieldCount = 1 then " element" else " elements")))

end Decode

end LogLint.Json
