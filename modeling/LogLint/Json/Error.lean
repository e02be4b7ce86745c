import LogLint.Json.Number
import LogLint.Text.Quoted

/-!
# JSON を読むときの誤り

誤りは原因（`Fault`）と、テキストから読んだときはその位置（`Position`）からなる。
メッセージは `Error.message` の一か所で作る。位置があれば `… at line L column C` と続く。

原因は二種類ある。

* 構文の誤り（`SyntaxCode`）— テキストが JSON でない。いつも位置を持つ
* 型の誤り — JSON ではあるが、求める形に合わない（型違い、値の範囲外、長さ、知らない列挙子、
  フィールドの欠落と重複）。テキストから読んだときは、誤りに気づいた値を囲む配列か object を
  閉じたところの位置を持つ。値の木から読んだときは位置を持たない

位置の行は 1 から、桁は行の先頭からのバイト数で数える。
-/

namespace LogLint.Json

/-- 構文の誤りの種類。 -/
inductive SyntaxCode where
  | eofWhileParsingList
  | eofWhileParsingObject
  | eofWhileParsingString
  | eofWhileParsingValue
  | expectedColon
  | expectedListCommaOrEnd
  | expectedObjectCommaOrEnd
  | expectedSomeIdent
  | expectedSomeValue
  | invalidEscape
  | invalidNumber
  | numberOutOfRange
  | controlCharacterWhileParsingString
  | keyMustBeAString
  | loneLeadingSurrogateInHexEscape
  | trailingComma
  | trailingCharacters
  | unexpectedEndOfHexEscape
  | recursionLimitExceeded
  deriving DecidableEq, Repr

/-- 構文の誤りの文。 -/
def SyntaxCode.text : SyntaxCode → String
  | .eofWhileParsingList => "EOF while parsing a list"
  | .eofWhileParsingObject => "EOF while parsing an object"
  | .eofWhileParsingString => "EOF while parsing a string"
  | .eofWhileParsingValue => "EOF while parsing a value"
  | .expectedColon => "expected \x60:\x60"
  | .expectedListCommaOrEnd => "expected \x60,\x60 or \x60]\x60"
  | .expectedObjectCommaOrEnd => "expected \x60,\x60 or \x60\x7d\x60"
  | .expectedSomeIdent => "expected ident"
  | .expectedSomeValue => "expected value"
  | .invalidEscape => "invalid escape"
  | .invalidNumber => "invalid number"
  | .numberOutOfRange => "number out of range"
  | .controlCharacterWhileParsingString =>
    "control character (\\u0000-\\u001F) found while parsing a string"
  | .keyMustBeAString => "key must be a string"
  | .loneLeadingSurrogateInHexEscape => "lone leading surrogate in hex escape"
  | .trailingComma => "trailing comma"
  | .trailingCharacters => "trailing characters"
  | .unexpectedEndOfHexEscape => "unexpected end of hex escape"
  | .recursionLimitExceeded => "recursion limit exceeded"

/-- 型の誤りで、見つかった値の種類。 -/
inductive Unexpected where
  | null
  | bool (b : Bool)
  | unsigned (n : Nat)
  | signed (n : Int)
  | float (x : Float)
  | string (s : String)
  | sequence
  | map

/-- 見つかった値の言い方。 -/
def Unexpected.text : Unexpected → String
  | .null => "null"
  | .bool b => "boolean \x60" ++ (if b then "true" else "false") ++ "\x60"
  | .unsigned n => "integer \x60" ++ intText n ++ "\x60"
  | .signed n => "integer \x60" ++ intText n ++ "\x60"
  | .float x => "floating point \x60" ++ floatText x ++ "\x60"
  | .string s => "string " ++ Text.quoted s
  | .sequence => "sequence"
  | .map => "map"

/-- JSON の値の種類。 -/
def unexpected : Json → Unexpected
  | .null => .null
  | .bool b => .bool b
  | .number (.unsigned n) => .unsigned n
  | .number (.negative n) => .signed n
  | .number (.float x) => .float x
  | .string s => .string s
  | .array _ => .sequence
  | .object _ => .map

/-- 候補の名前を並べる：一つなら `a`、二つなら `a` or `b`、三つ以上なら one of `a`, `b`, …。 -/
def oneOf (names : List String) : String :=
  let tick (n : String) := "\x60" ++ n ++ "\x60"
  match names with
  | [a] => tick a
  | [a, b] => tick a ++ " or " ++ tick b
  | _ => "one of " ++ ", ".intercalate (names.map tick)

/-- 誤りの原因。 -/
inductive Fault where
  | malformed (code : SyntaxCode)
  | invalidType (found : Unexpected) (expected : String)
  | invalidValue (found : Unexpected) (expected : String)
  | invalidLength (length : Nat) (expected : String)
  | unknownVariant (name : String) (expected : List String)
  | missingField (name : String)
  | duplicateField (name : String)

/-- 原因の文。 -/
def Fault.text : Fault → String
  | .malformed code => code.text
  | .invalidType found expected => "invalid type: " ++ found.text ++ ", expected " ++ expected
  | .invalidValue found expected => "invalid value: " ++ found.text ++ ", expected " ++ expected
  | .invalidLength n expected => "invalid length " ++ intText n ++ ", expected " ++ expected
  | .unknownVariant name [] => "unknown variant \x60" ++ name ++ "\x60, there are no variants"
  | .unknownVariant name expected =>
    "unknown variant \x60" ++ name ++ "\x60, expected " ++ oneOf expected
  | .missingField name => "missing field \x60" ++ name ++ "\x60"
  | .duplicateField name => "duplicate field \x60" ++ name ++ "\x60"

/-- テキストの中の位置。行は 1 から、桁は行頭からのバイト数。 -/
structure Position where
  line : Nat
  column : Nat
  deriving DecidableEq, Repr

/-- 誤り：原因と、わかっていれば位置。 -/
structure Error where
  fault : Fault
  position : Option Position := none

/-- 誤りのメッセージ。 -/
def Error.message (e : Error) : String :=
  match e.position with
  | none => e.fault.text
  | some p => e.fault.text ++ " at line " ++ intText p.line ++ " column " ++ intText p.column

end LogLint.Json
