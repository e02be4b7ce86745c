import LogLint.Workspace

/-!
# 鍵の名前を直す

`fix` は、鍵の書き方の問題に付いた書き換え（`TextEdit`）を Go のソースに当てる。

## 見せ方

書き換えごとに場所を書き、行の中だけで済む書き換えなら前と後の行を、そうでなければ新しい
テキストだけを書く。行の中の書き換えは、問題の桁から、範囲の桁の差だけの長さを置き換える。

## 当て方

ソースごとに、書き換えの範囲をテキストの先頭からのバイト位置に直す。位置に直せない範囲と、
範囲の中身が Go の文字列リテラルとして読めない範囲は捨てる（ソースが書き出しの後で変わった）。
残りを始まりの遅い順（同じなら終わりの遅い順）に並べ、続けて同じものは一つにし、後ろから当てる。
前に当てた範囲に重なるものは飛ばす。一つでも当てたソースだけを書き戻す。
-/

namespace LogLint

namespace Fix

/-- 先頭から `n` バイトのところで文字を分ける。文字の境目でなければ `none`。 -/
def splitBytes? : Nat → List Char → Option (List Char × List Char)
  | 0, cs => some ([], cs)
  | _ + 1, [] => none
  | n + 1, c :: cs =>
    if c.utf8Size ≤ n + 1 then
      (splitBytes? (n + 1 - c.utf8Size) cs).map fun (a, b) => (c :: a, b)
    else none

/-- 行の中の書き換え：前の行と後の行。 -/
def replaceInLine (line : String) (col : Nat) (edit : TextEdit) : Option (String × String) := do
  if edit.span.pos.line != edit.span.stop.line then none
  if col = 0 || edit.span.stop.col < edit.span.pos.col then none
  let start := col - 1
  let stop := start + (edit.span.stop.col - edit.span.pos.col)
  let (before, _) ← splitBytes? start line.toList
  let (_, after) ← splitBytes? stop line.toList
  return (line, String.ofList before ++ edit.newText ++ String.ofList after)

/-- 一つの書き換えの見せ方。 -/
def preview (ctx : SourceContext) (edit : TextEdit) : String :=
  let head := "  --> " ++ ctx.file ++ ":" ++ toString ctx.line ++ ":" ++ toString ctx.col ++ "\n"
  let body := match ctx.sourceLine.bind (replaceInLine · ctx.col edit) with
    | some (before, after) => "  - " ++ before ++ "\n" ++ "  + " ++ after ++ "\n"
    | none => "  + " ++ edit.newText ++ "\n"
  head ++ body ++ "\n"

/-- 当てる範囲：始まりと終わりのバイト位置と、新しいテキスト。 -/
abbrev Range := Nat × Nat × String

/-- 範囲の始まりと終わりのバイト位置と、その間の文字。位置に直せなければ `none`。 -/
def spanText? (source : SourceText) (text : List Char) (span : Span) :
    Option (Nat × Nat × List Char) := do
  let start ← source.offset? span.pos
  let stop ← source.offset? span.stop
  if stop < start then none
  let (_, rest) ← splitBytes? start text
  let (inner, _) ← splitBytes? (stop - start) rest
  return (start, stop, inner)

/-- 書き換えを、当てられる範囲に直す。範囲の中身が文字列リテラルとして読めなければ `none`。 -/
def range? (source : SourceText) (text : List Char) (edit : TextEdit) : Option Range := do
  let (start, stop, inner) ← spanText? source text edit.span
  let _ ← Go.StringLit.unquote? (String.ofList inner)
  return (start, stop, edit.newText)

/-- 当てる順：始まりの遅いものが先、始まりが同じなら終わりの遅いものが先。 -/
def appliesBefore (a b : Range) : Bool := a.1 > b.1 || (a.1 == b.1 && a.2.1 ≥ b.2.1)

/-- 続けて同じものを一つにする。 -/
def dedupAdjacent : List Range → List Range
  | a :: b :: rest => if a = b then dedupAdjacent (b :: rest) else a :: dedupAdjacent (b :: rest)
  | xs => xs

/-- 後ろから範囲を当てる。`pre` はまだ触れていない元のテキストの頭、`done` は当て終えた後ろ。
終わりが `pre` の外にある範囲（前に当てた範囲に重なるもの）は飛ばす。当てた数も返す。 -/
def applyRanges : List Char → List Char → List Range → List Char × Nat
  | pre, done, [] => (pre ++ done, 0)
  | pre, done, (start, stop, newText) :: rest =>
    match splitBytes? start pre, splitBytes? stop pre with
    | some (before, _), some (_, after) =>
      let (out, n) := applyRanges before (newText.toList ++ after ++ done) rest
      (out, n + 1)
    | _, _ => applyRanges pre done rest

/-- ソースのテキストに書き換えを当てる。新しいテキストと、当てた数。 -/
def applyEdits (text : String) (edits : List TextEdit) : String × Nat :=
  let source := SourceText.ofString text
  let cs := text.toList
  let ranges := edits.filterMap (range? source cs)
  let sorted := ranges.mergeSort appliesBefore
  let (out, n) := applyRanges cs [] (dedupAdjacent sorted)
  (String.ofList out, n)

/-- 当てた結果の数。 -/
structure Stats where
  processed : Nat := 0
  skipped : Nat := 0
  applied : Nat := 0
  filesModified : Nat := 0
  deriving DecidableEq, Repr

/-- 書き換えをソースごとにまとめる。ソースは綴りの順。 -/
def byFile (edits : List (String × TextEdit)) : List (String × List TextEdit) :=
  (sortedUnique (edits.map (·.1))).map fun f =>
    (f, (edits.filter (·.1 == f)).map (·.2))

variable {m : Type → Type} [Monad m] [MonadDisk m]

/-- 書き換えをソースに当てて書き戻す。 -/
def apply (edits : List (String × TextEdit)) : Session m Stats := do
  let mut stats : Stats := { processed := edits.length }
  for (file, fileEdits) in byFile edits do
    let text ← match ← MonadDisk.read file with
      | .ok t => pure t
      | .error e => throw ("Failed to read " ++ file ++ ": " ++ e.text)
    let (out, n) := applyEdits text fileEdits
    stats := { stats with skipped := stats.skipped + (fileEdits.length - n) }
    if 0 < n then
      match ← MonadDisk.write file out with
      | .ok () => pure ()
      | .error e => throw ("Failed to write " ++ file ++ ": " ++ e.text)
      stats := { stats with applied := stats.applied + n, filesModified := stats.filesModified + 1 }
  return stats

end Fix

end LogLint
