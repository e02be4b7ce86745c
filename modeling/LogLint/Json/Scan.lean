import LogLint.Json.Error
import LogLint.Text.Utf8

/-!
# JSON の字句

入力のバイト列の上で、空白、文字列、数を読む純粋な関数。どれも読み始めの位置を受け取り、
読み終えた位置を返すか、誤りの種類と報告する位置を返す。

報告する位置には二通りある：読んだバイトの直後（`at`）と、いま見ているバイトの直後
（`past`、入力の終わりで止まる）。どちらを使うかは誤りごとに決まっていて、下の各関数に書く。

## 文字列

`"` の次から読む。`\` の後は `" \ / b f n r t u` だけを受け、`\u` は四桁の 16 進。
サロゲートは `\uD8xx\uDCxx` の組でだけ受ける。制御文字（U+0000–U+001F）はそのままでは
書けない。

## 数

`-` の後（または最初の数字）から読む。整数は 2^64 未満なら非負整数、負なら -2^63 以上の
負の整数、それ以外と小数点・指数を持つ数は `floatOfParts` で浮動小数点数にする。仮数が
2^64 を超える桁は捨てて指数に数える。指数が 2^31 を超えるときは、仮数が 0 でなく指数が
正なら範囲外、それ以外は 0 になる。

## 停止性

どの走査も位置が増える。`fuel` には残りのバイト数を渡す。
-/

namespace LogLint.Json

/-- 字句の誤り：種類と報告する位置（バイトの番号）。 -/
structure ScanError where
  code : SyntaxCode
  index : Nat

/-- 字句の結果：値と読み終えた位置。 -/
abbrev ScanResult (α : Type) := Except ScanError (α × Nat)

namespace Scan

/-- 位置 `i` のバイト。入力の終わりでは `none`。 -/
def byte? (input : ByteArray) (i : Nat) : Option UInt8 := input[i]?

/-- 数字か。 -/
def isDigit (b : UInt8) : Bool := 0x30 ≤ b && b ≤ 0x39

/-- 位置 `i` が数字ならその値。 -/
def digitAt? (input : ByteArray) (i : Nat) : Option Nat :=
  match byte? input i with
  | some b => if isDigit b then some (b.toNat - 0x30) else none
  | none => none

/-- 見ているバイトの直後の位置（入力の終わりで止まる）。 -/
def past (input : ByteArray) (i : Nat) : Nat := min input.size (i + 1)

/-- 空白（SP, LF, HT, CR）を飛ばした位置。 -/
def skipBlank (input : ByteArray) (i : Nat) : Nat :=
  if h : i < input.size then
    let b := input[i]
    if b == 0x20 || b == 0x0A || b == 0x09 || b == 0x0D then skipBlank input (i + 1) else i
  else i
termination_by input.size - i

/-- 数字を飛ばした位置。 -/
def skipDigits (input : ByteArray) (i : Nat) : Nat :=
  if h : i < input.size then
    if isDigit input[i] then skipDigits input (i + 1) else i
  else i
termination_by input.size - i

/-! ## 文字列 -/

/-- 16 進数字一つの値。 -/
def hexValue? (b : UInt8) : Option Nat :=
  if 0x30 ≤ b && b ≤ 0x39 then some (b.toNat - 0x30)
  else if 0x61 ≤ b && b ≤ 0x66 then some (b.toNat - 0x61 + 10)
  else if 0x41 ≤ b && b ≤ 0x46 then some (b.toNat - 0x41 + 10)
  else none

/-- `\u` の後の四桁。四バイト残っていなければ終わりで EOF、数字でなければ四バイト後で
`invalidEscape`。 -/
def hex4 (input : ByteArray) (i : Nat) : ScanResult Nat :=
  if i + 4 ≤ input.size then
    let ds := [i, i + 1, i + 2, i + 3].map fun j => (byte? input j).bind hexValue?
    match ds with
    | [some a, some b, some c, some d] => .ok (((a * 16 + b) * 16 + c) * 16 + d, i + 4)
    | _ => .error ⟨.invalidEscape, i + 4⟩
  else .error ⟨.eofWhileParsingString, input.size⟩

/-- 符号点を UTF-8 でバイト列に足す。 -/
def pushCode (acc : ByteArray) (n : Nat) : ByteArray :=
  (Text.Utf8.encodeChar (Char.ofNat n)).foldl ByteArray.push acc

/-- `\u` の後を読む。サロゲートの組は一つの符号点にする。 -/
def unicodeEscape (input : ByteArray) (acc : ByteArray) (i : Nat) :
    Except ScanError (ByteArray × Nat) := do
  let (n, i) ← hex4 input i
  if 0xDC00 ≤ n ∧ n ≤ 0xDFFF then throw ⟨.loneLeadingSurrogateInHexEscape, i⟩
  if n < 0xD800 ∨ 0xDBFF < n then return (pushCode acc n, i)
  match byte? input i with
  | none => throw ⟨.eofWhileParsingString, i⟩
  | some b => if b != 0x5C then throw ⟨.unexpectedEndOfHexEscape, i + 1⟩
  let i := i + 1
  match byte? input i with
  | none => throw ⟨.eofWhileParsingString, i⟩
  | some b => if b != 0x75 then throw ⟨.unexpectedEndOfHexEscape, i + 1⟩
  let (n2, i) ← hex4 input (i + 1)
  if n2 < 0xDC00 ∨ 0xDFFF < n2 then throw ⟨.loneLeadingSurrogateInHexEscape, i⟩
  return (pushCode acc (((n - 0xD800) * 1024 + (n2 - 0xDC00)) + 0x10000), i)

/-- `\` の後の一文字を読む。 -/
def escape (input : ByteArray) (acc : ByteArray) (i : Nat) : ScanResult ByteArray :=
  match byte? input i with
  | none => .error ⟨.eofWhileParsingString, i⟩
  | some b =>
    let simple (c : UInt8) : ScanResult ByteArray := .ok (acc.push c, i + 1)
    if b == 0x22 then simple 0x22
    else if b == 0x5C then simple 0x5C
    else if b == 0x2F then simple 0x2F
    else if b == 0x62 then simple 0x08
    else if b == 0x66 then simple 0x0C
    else if b == 0x6E then simple 0x0A
    else if b == 0x72 then simple 0x0D
    else if b == 0x74 then simple 0x09
    else if b == 0x75 then unicodeEscape input acc (i + 1)
    else .error ⟨.invalidEscape, i + 1⟩

/-- 文字列の中身を閉じる `"` まで読む。 -/
def stringBody (input : ByteArray) : Nat → ByteArray → Nat → ScanResult ByteArray
  | 0, _, i => .error ⟨.eofWhileParsingString, max i input.size⟩
  | fuel + 1, acc, i =>
    match byte? input i with
    | none => .error ⟨.eofWhileParsingString, input.size⟩
    | some b =>
      if b == 0x22 then .ok (acc, i + 1)
      else if b == 0x5C then
        match escape input acc (i + 1) with
        | .ok (acc, j) => stringBody input fuel acc j
        | .error e => .error e
      else if b < 0x20 then .error ⟨.controlCharacterWhileParsingString, i + 1⟩
      else stringBody input fuel (acc.push b) (i + 1)

/-- 開きの `"` の次から文字列を読む。 -/
def string (input : ByteArray) (i : Nat) : ScanResult String :=
  match stringBody input (input.size + 1) ByteArray.empty i with
  | .ok (bytes, j) => .ok ((String.fromUTF8? bytes).getD "", j)
  | .error e => .error e

/-- 読み捨てるときの `\` の後。`\u` の四桁は 16 進であることだけを確かめる。 -/
def skipEscape (input : ByteArray) (i : Nat) : Except ScanError Nat :=
  match byte? input i with
  | none => .error ⟨.eofWhileParsingString, i⟩
  | some b =>
    if b == 0x22 || b == 0x5C || b == 0x2F || b == 0x62 || b == 0x66 || b == 0x6E ||
        b == 0x72 || b == 0x74 then .ok (i + 1)
    else if b == 0x75 then (hex4 input (i + 1)).map (·.2)
    else .error ⟨.invalidEscape, i + 1⟩

/-- 文字列を読み捨てる。制御文字はその位置で誤りになる。 -/
def skipStringBody (input : ByteArray) : Nat → Nat → Except ScanError Nat
  | 0, i => .error ⟨.eofWhileParsingString, max i input.size⟩
  | fuel + 1, i =>
    match byte? input i with
    | none => .error ⟨.eofWhileParsingString, input.size⟩
    | some b =>
      if b == 0x22 then .ok (i + 1)
      else if b == 0x5C then
        match skipEscape input (i + 1) with
        | .ok j => skipStringBody input fuel j
        | .error e => .error e
      else if b < 0x20 then .error ⟨.controlCharacterWhileParsingString, i⟩
      else skipStringBody input fuel (i + 1)

/-! ## 数 -/

/-- 64 ビットの非負整数の最大値。 -/
def u64Max : Nat := Nat.pow 2 64 - 1

/-- 32 ビットの符号付き整数の最大値。 -/
def i32Max : Nat := Nat.pow 2 31 - 1

/-- 32 ビットの符号付き整数の範囲に丸める。 -/
def saturate (n : Int) : Int := max (-(Int.pow 2 31)) (min (Int.pow 2 31 - 1) n)

/-- 仮数と指数から浮動小数点数を作る。範囲外なら今の位置で誤り。 -/
def fromParts (positive : Bool) (sig : Nat) (exp : Int) (i : Nat) : ScanResult Number :=
  match floatOfParts positive sig exp with
  | some x => .ok (.float x, i)
  | none => .error ⟨.numberOutOfRange, i⟩

/-- 指数が 32 ビットを超えたとき：残りの数字を読み捨てる。 -/
def exponentOverflow (input : ByteArray) (positive zeroSig positiveExp : Bool) (i : Nat) :
    ScanResult Number :=
  if !zeroSig && positiveExp then .error ⟨.numberOutOfRange, i⟩
  else .ok (.float (if positive then 0.0 else -0.0), skipDigits input i)

/-- 指数の数字を読む。`exp` は読んだところまでの値。 -/
def exponentDigits (input : ByteArray) (positive : Bool) (sig : Nat) (start : Int)
    (positiveExp : Bool) : Nat → Nat → Nat → ScanResult Number
  | 0, _, i => .error ⟨.eofWhileParsingValue, i⟩
  | fuel + 1, exp, i =>
    match digitAt? input i with
    | some d =>
      if exp * 10 + d > i32Max then exponentOverflow input positive (sig == 0) positiveExp (i + 1)
      else exponentDigits input positive sig start positiveExp fuel (exp * 10 + d) (i + 1)
    | none =>
      let final := saturate (if positiveExp then start + exp else start - exp)
      fromParts positive sig final i

/-- `e` か `E` の位置から指数を読む。 -/
def exponent (input : ByteArray) (positive : Bool) (sig : Nat) (start : Int) (i : Nat) :
    ScanResult Number :=
  let i := i + 1
  let (positiveExp, i) :=
    match byte? input i with
    | some 0x2B => (true, i + 1)
    | some 0x2D => (false, i + 1)
    | _ => (true, i)
  match byte? input i with
  | none => .error ⟨.eofWhileParsingValue, i⟩
  | some b =>
    if isDigit b then
      exponentDigits input positive sig start positiveExp (input.size + 1) (b.toNat - 0x30) (i + 1)
    else .error ⟨.invalidNumber, i + 1⟩

/-- 指数があれば指数を、なければ仮数と指数から値を作る。 -/
def exponentOrParts (input : ByteArray) (positive : Bool) (sig : Nat) (exp : Int) (i : Nat) :
    ScanResult Number :=
  match byte? input i with
  | some 0x65 => exponent input positive sig exp i
  | some 0x45 => exponent input positive sig exp i
  | _ => fromParts positive sig exp i

/-- 小数部の数字を読む。`after` は小数点の後で読んだ桁数（負で数える）。 -/
def fractionDigits (input : ByteArray) (positive : Bool) (before : Int) :
    Nat → Nat → Int → Nat → ScanResult Number
  | 0, _, _, i => .error ⟨.eofWhileParsingValue, i⟩
  | fuel + 1, sig, after, i =>
    match digitAt? input i with
    | some d =>
      if sig * 10 + d > u64Max then
        -- 仮数が溢れる：残りの数字は捨てる
        exponentOrParts input positive sig (before + after) (skipDigits input i)
      else fractionDigits input positive before fuel (sig * 10 + d) (after - 1) (i + 1)
    | none =>
      if after = 0 then
        match byte? input i with
        | some _ => .error ⟨.invalidNumber, past input i⟩
        | none => .error ⟨.eofWhileParsingValue, past input i⟩
      else exponentOrParts input positive sig (before + after) i

/-- 小数点の位置から小数部を読む。 -/
def fraction (input : ByteArray) (positive : Bool) (sig : Nat) (before : Int) (i : Nat) :
    ScanResult Number :=
  fractionDigits input positive before (input.size + 1) sig 0 (i + 1)

/-- 整数部を読み終えた後：小数点か指数があれば続けて読み、なければ整数にする。 -/
def afterInteger (input : ByteArray) (positive : Bool) (sig : Nat) (i : Nat) :
    ScanResult Number :=
  match byte? input i with
  | some 0x2E => fraction input positive sig 0 i
  | some 0x65 => exponent input positive sig 0 i
  | some 0x45 => exponent input positive sig 0 i
  | _ =>
    if positive then .ok (.unsigned sig, i)
    else if 1 ≤ sig ∧ sig ≤ Nat.pow 2 63 then .ok (.negative (-(sig : Int)), i)
    else .ok (.float (-(sig.toUInt64.toFloat)), i)

/-- 仮数が 64 ビットを超えた整数部の残り：桁を指数に数える。 -/
def longInteger (input : ByteArray) (positive : Bool) (sig : Nat) :
    Nat → Int → Nat → ScanResult Number
  | 0, _, i => .error ⟨.eofWhileParsingValue, i⟩
  | fuel + 1, exp, i =>
    match byte? input i with
    | some b =>
      if isDigit b then longInteger input positive sig fuel (exp + 1) (i + 1)
      else if b == 0x2E then fraction input positive sig exp i
      else if b == 0x65 || b == 0x45 then exponent input positive sig exp i
      else fromParts positive sig exp i
    | none => fromParts positive sig exp i

/-- 整数部の数字を読む。 -/
def integerDigits (input : ByteArray) (positive : Bool) : Nat → Nat → Nat → ScanResult Number
  | 0, _, i => .error ⟨.eofWhileParsingValue, i⟩
  | fuel + 1, sig, i =>
    match digitAt? input i with
    | some d =>
      if sig * 10 + d > u64Max then longInteger input positive sig (input.size + 1) 0 i
      else integerDigits input positive fuel (sig * 10 + d) (i + 1)
    | none => afterInteger input positive sig i

/-- 数を読む。`i` は最初の数字（`-` の後）の位置。 -/
def number (input : ByteArray) (positive : Bool) (i : Nat) : ScanResult Number :=
  match byte? input i with
  | none => .error ⟨.eofWhileParsingValue, i⟩
  | some b =>
    if b == 0x30 then
      match digitAt? input (i + 1) with
      | some _ => .error ⟨.invalidNumber, past input (i + 1)⟩
      | none => afterInteger input positive 0 (i + 1)
    else if isDigit b then integerDigits input positive (input.size + 1) (b.toNat - 0x30) (i + 1)
    else .error ⟨.invalidNumber, i + 1⟩

/-! ## 綴りの決まった値 -/

/-- `null`、`true`、`false` の残りの綴りを読む。終わりなら EOF、違えば読んだ直後で誤り。 -/
def ident (input : ByteArray) : List UInt8 → Nat → Except ScanError Nat
  | [], i => .ok i
  | b :: rest, i =>
    match byte? input i with
    | none => .error ⟨.eofWhileParsingValue, i⟩
    | some c => if c == b then ident input rest (i + 1) else .error ⟨.expectedSomeIdent, i + 1⟩

end Scan

end LogLint.Json
