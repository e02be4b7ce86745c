import LogLint.Text.Utf8
import LogLint.Unicode.Graphic

/-!
# Go の文字列リテラル

Go の文字列リテラルの読み書き。

* 生のリテラル `` `…` `` — 中身をそのまま値とし、`\r` だけを捨てる。中身に backquote があれば不正
* 解釈付きリテラル `"…"` — escape を読む。`\a \b \f \n \r \t \v \\ \"` は一文字、`\xHH` と
  `\ooo`（三桁の八進、値は 0o377 まで）は一バイト、`\uHHHH` と `\UHHHHHHHH` は Unicode の
  scalar value（サロゲートと U+10FFFF を超える値は不正）。escape されない `"` と改行は不正

バイトの escape があるので、解釈付きリテラルはまずバイト列に読み、正しい UTF-8 のときだけ
値になる（`unquote?`）。

書き出し（`quote`）は常に解釈付きリテラルを作る。`"` と `\` と七つの制御文字には名前のある
escape を使い、表示できない文字（Unicode 16.0 で `Unicode.isPrintableIn` でないもの）は
符号点の大きさに応じて `\xHH`、`\uHHHH`、`\UHHHHHHHH`（小文字の 16 進）にする。

## 停止性

`decodeBody` は文字の列の上の構造的な再帰である。
-/

namespace LogLint.Go.StringLit

open LogLint.Text

/-! ## 数字 -/

/-- 16 進数字の値。大文字も小文字も受ける。 -/
def hexValue? (c : Char) : Option Nat :=
  if '0' ≤ c ∧ c ≤ '9' then some (c.toNat - '0'.toNat)
  else if 'a' ≤ c ∧ c ≤ 'f' then some (c.toNat - 'a'.toNat + 10)
  else if 'A' ≤ c ∧ c ≤ 'F' then some (c.toNat - 'A'.toNat + 10)
  else none

/-- 16 進数字の列を上の桁から読む。 -/
def hexNumber? (cs : List Char) : Option Nat :=
  cs.foldlM (fun n c => (hexValue? c).map (n * 16 + ·)) 0

/-- 八進数字の値。 -/
def octalValue? (c : Char) : Option Nat :=
  if '0' ≤ c ∧ c ≤ '7' then some (c.toNat - '0'.toNat) else none

/-- Unicode の scalar value か：サロゲートでなく U+10FFFF 以下。 -/
def isScalar (n : Nat) : Bool :=
  n < 0xD800 || (0xDFFF < n && n ≤ 0x10FFFF)

/-- 符号点を UTF-8 のバイト列にする。scalar value でなければ `none`。 -/
def scalarBytes? (n : Nat) : Option (List UInt8) :=
  if isScalar n then some (Utf8.encodeChar (Char.ofNat n)) else none

/-! ## 読む -/

/-- 解釈付きリテラルの本体（両端の `"` を除いた部分）をバイト列に読む。 -/
def decodeBody : List Char → Option (List UInt8)
  | [] => some []
  | '"' :: _ => none
  | '\n' :: _ => none
  | '\\' :: 'a' :: rest => (decodeBody rest).map (0x07 :: ·)
  | '\\' :: 'b' :: rest => (decodeBody rest).map (0x08 :: ·)
  | '\\' :: 'f' :: rest => (decodeBody rest).map (0x0C :: ·)
  | '\\' :: 'n' :: rest => (decodeBody rest).map (0x0A :: ·)
  | '\\' :: 'r' :: rest => (decodeBody rest).map (0x0D :: ·)
  | '\\' :: 't' :: rest => (decodeBody rest).map (0x09 :: ·)
  | '\\' :: 'v' :: rest => (decodeBody rest).map (0x0B :: ·)
  | '\\' :: '\\' :: rest => (decodeBody rest).map (0x5C :: ·)
  | '\\' :: '"' :: rest => (decodeBody rest).map (0x22 :: ·)
  | '\\' :: 'x' :: h1 :: h2 :: rest =>
    match hexNumber? [h1, h2] with
    | some n => (decodeBody rest).map (n.toUInt8 :: ·)
    | none => none
  | '\\' :: 'u' :: h1 :: h2 :: h3 :: h4 :: rest =>
    match (hexNumber? [h1, h2, h3, h4]).bind scalarBytes? with
    | some bytes => (decodeBody rest).map (bytes ++ ·)
    | none => none
  | '\\' :: 'U' :: h1 :: h2 :: h3 :: h4 :: h5 :: h6 :: h7 :: h8 :: rest =>
    match (hexNumber? [h1, h2, h3, h4, h5, h6, h7, h8]).bind scalarBytes? with
    | some bytes => (decodeBody rest).map (bytes ++ ·)
    | none => none
  | '\\' :: o1 :: o2 :: o3 :: rest =>
    match octalValue? o1, octalValue? o2, octalValue? o3 with
    | some a, some b, some c =>
      let n := a * 64 + b * 8 + c
      if n ≤ 0xFF then (decodeBody rest).map (n.toUInt8 :: ·) else none
    | _, _, _ => none
  | '\\' :: _ => none
  | c :: rest => (decodeBody rest).map (Utf8.encodeChar c ++ ·)

/-- 生のリテラルの中身：backquote を含まなければ `\r` を捨てたもの。 -/
def rawValue? (body : List Char) : Option String :=
  if body.contains '\x60' then none else some (String.ofList (body.filter (· != '\r')))

/-- 文字列リテラルを読む。形が不正なときと、値が正しい UTF-8 にならないときは `none`。 -/
def unquote? (lit : String) : Option String :=
  match lit.toList with
  | '\x60' :: rest@(_ :: _) =>
    if rest.getLast? = some '\x60' then rawValue? rest.dropLast else none
  | '"' :: rest@(_ :: _) =>
    if rest.getLast? = some '"' then (decodeBody rest.dropLast).bind Utf8.toString? else none
  | _ => none

/-! ## 書く -/

/-- 16 進の小文字の数字。 -/
def hexDigitChar (d : Nat) : Char :=
  if d < 10 then Char.ofNat (0x30 + d) else Char.ofNat (0x61 + d - 10)

/-- `n` をちょうど `width` 桁の 16 進で書く（上の桁は捨てる）。 -/
def hexDigits : Nat → Nat → List Char
  | 0, _ => []
  | w + 1, n => hexDigits w (n / 16) ++ [hexDigitChar (n % 16)]

/-- 表示できない文字の escape。符号点の大きさで `\x`、`\u`、`\U` を選ぶ。 -/
def numericEscape (c : Char) : List Char :=
  let n := c.toNat
  if n < 0x80 then '\\' :: 'x' :: hexDigits 2 n
  else if n < 0x10000 then '\\' :: 'u' :: hexDigits 4 n
  else '\\' :: 'U' :: hexDigits 8 n

/-- 一文字をリテラルの中での書き方にする。 -/
def escapeChar (c : Char) : List Char :=
  if c = '"' then ['\\', '"']
  else if c = '\\' then ['\\', '\\']
  else if c = '\x07' then ['\\', 'a']
  else if c = '\x08' then ['\\', 'b']
  else if c = '\x0c' then ['\\', 'f']
  else if c = '\n' then ['\\', 'n']
  else if c = '\r' then ['\\', 'r']
  else if c = '\t' then ['\\', 't']
  else if c = '\x0b' then ['\\', 'v']
  else if Unicode.isPrintableIn .v16 c then [c]
  else numericEscape c

/-- 文字列を解釈付きリテラルとして書く。 -/
def quote (s : String) : String :=
  String.ofList ('"' :: s.toList.flatMap escapeChar ++ ['"'])

end LogLint.Go.StringLit
