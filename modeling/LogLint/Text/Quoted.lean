import LogLint.Unicode.Graphic
import LogLint.Unicode.GraphemeExtend

/-!
# 診断の中で見せる文字列

誤りのメッセージが入力の文字列を引くときの書き方。二重引用符で囲み、次の文字を escape する。

* `\0 \t \r \n` と `\\`、`\"` — 名前のある escape
* 書記素を延ばす文字（`Unicode.isGraphemeExtend`）、表示できない文字、ハングルの埋め草
  （`isHangulFiller`）— `\u{…}`（小文字の 16 進、先頭の 0 は書かない）

単引用符は escape しない。path も同じ書き方で見せる。
-/

namespace LogLint.Text

/-- 符号点を先頭の 0 なしの小文字の 16 進で書く。 -/
def hexMinimal (n : Nat) : List Char :=
  Nat.toDigits 16 n

/-- ハングルの埋め草：HANGUL CHOSEONG FILLER U+115F、HANGUL JUNGSEONG FILLER U+1160、
HANGUL FILLER U+3164、HALFWIDTH HANGUL FILLER U+FFA0。字形を持たないので、文字列の中では見えない。 -/
def isHangulFiller (c : Char) : Bool :=
  c.toNat = 0x115F || c.toNat = 0x1160 || c.toNat = 0x3164 || c.toNat = 0xFFA0

/-- 一文字の見せ方。 -/
def quotedChar (c : Char) : List Char :=
  if c = '\x00' then ['\\', '0']
  else if c = '\t' then ['\\', 't']
  else if c = '\r' then ['\\', 'r']
  else if c = '\n' then ['\\', 'n']
  else if c = '\\' then ['\\', '\\']
  else if c = '"' then ['\\', '"']
  else if Unicode.isGraphemeExtend c || isHangulFiller c || !Unicode.isPrintableIn .v17 c then
    ['\\', 'u', '\x7b'] ++ hexMinimal c.toNat ++ ['\x7d']
  else [c]

/-- 文字列を二重引用符で囲んで見せる。 -/
def quoted (s : String) : String :=
  String.ofList ('"' :: s.toList.flatMap quotedChar ++ ['"'])

end LogLint.Text
