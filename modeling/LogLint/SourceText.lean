import LogLint.Syntax.Expr

/-!
# ソースのテキスト

Go のソースを行に分けたもの。行は `\n` で区切り、行の末尾の `\r` は行の中身に含めない。
`n` 個の `\n` を含むテキストは `n + 1` 行で、空のテキストも 1 行（空の行）を持つ。

位置（1 から数える行と、バイトで数える桁）をテキストの先頭からのバイト数に直すのが
`offset?` で、桁は行の中身の終わりまでで、文字の境目に来なければならない。
-/

namespace LogLint

/-- 行に分けたソースのテキスト。各行は `\n` を含まず、`\r` は残したまま。 -/
structure SourceText where
  rawLines : List String
  deriving Repr

namespace SourceText

/-- テキストを行に分ける。 -/
def ofString (s : String) : SourceText := ⟨(s.toList.splitOn '\n').map String.ofList⟩

/-- 行の末尾の `\r` を一つ取る。 -/
def stripCr (s : String) : String :=
  match s.toList.reverse with
  | '\r' :: rest => String.ofList rest.reverse
  | _ => s

/-- `n` 行目（1 から数える）の中身。 -/
def line? (t : SourceText) : Nat → Option String
  | 0 => none
  | n + 1 => t.rawLines[n]?.map stripCr

/-- `start` から始まる文字の並びの、文字の境目のバイト位置。終わりも含む。 -/
def boundaries (start : Nat) : List Char → List Nat
  | [] => [start]
  | c :: cs => start :: boundaries (start + c.utf8Size) cs

/-- 位置をテキストの先頭からのバイト数に直す。 -/
def offset? (t : SourceText) (p : Pos) : Option Nat :=
  match p.line, p.col with
  | n + 1, c + 1 => do
    let line ← t.line? (n + 1)
    let start := ((t.rawLines.take n).map (·.utf8ByteSize + 1)).foldr (· + ·) 0
    if (boundaries 0 line.toList).contains c then some (start + c) else none
  | _, _ => none

end SourceText

end LogLint
