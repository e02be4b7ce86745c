import LogLint.Issue
import LogLint.Unicode.Width

/-!
# 問題の報告

見つけた問題を人が読むテキストにする。問題はファイルの path、行、桁の順に並べ直す（同じ場所の
問題は見つけた順のまま）。一つの問題は

```text
error: message should be a string literal or a constant  static-msg
  --> main.go:4:14
  |
4 |     logger.Info(msg)
  |                 ^
  = help: ...

```

の形で、`|` の前の幅は報告の中で一番大きい行番号の桁数。`^` の前の空白は、行の中身の桁より前の
文字の表示幅の分で、タブはタブのまま置く。最後に問題の数をまとめる。問題がなければ空のテキスト。
-/

namespace LogLint.Report

/-- `n` 個の空白。 -/
def blank (n : Nat) : String := String.ofList (List.replicate n ' ')

/-- 幅 `width` に右寄せする。 -/
def padLeft (width : Nat) (s : String) : String := blank (width - s.length) ++ s

/-- 先頭の `limit` バイトに収まる文字。 -/
def prefixChars (limit : Nat) : List Char → List Char
  | [] => []
  | c :: cs => if c.utf8Size ≤ limit then c :: prefixChars (limit - c.utf8Size) cs else []

/-- `^` を桁 `col` の下に置くための、行の中身に合わせた空白。 -/
def caretPadding (line : String) (col : Nat) : String :=
  let before := prefixChars (col - 1) line.toList
  String.join (before.map fun c =>
    if c = '\t' then "\t" else blank (Unicode.displayWidth c))

/-- 数と、一つか複数かで変わる名詞。 -/
def counted (n : Nat) (one many : String) : String :=
  toString n ++ " " ++ (if n = 1 then one else many)

/-- 一つの問題の報告。`width` は行番号の幅。 -/
def issueText (width : Nat) (i : Issue) : String :=
  let p := i.problem
  let head := p.severity.name ++ ": " ++ p.message ++ "  " ++ p.rule.name ++ "\n"
  let place := match i.location with
    | .source ctx =>
      let arrow := "  --> " ++ ctx.file ++ ":" ++ toString ctx.line ++ ":" ++ toString ctx.col ++ "\n"
      match ctx.sourceLine with
      | some src =>
        arrow ++ blank width ++ " |\n" ++ padLeft width (toString ctx.line) ++ " | " ++ src ++ "\n" ++
          blank width ++ " | " ++ caretPadding src ctx.col ++ "^\n"
      | none => arrow
    | .file path => "  --> " ++ path ++ "\n"
  let note := match p.details? with
    | some d => blank width ++ " = note: " ++ d ++ "\n"
    | none => ""
  let help := match p.fix? with
    | some f => blank width ++ " = help: " ++ f.message ++ "\n"
    | none => ""
  head ++ place ++ note ++ help ++ "\n"

/-- 問題の数のまとめ。 -/
def summary (issues : List Issue) : String :=
  let errors := (issues.filter (·.problem.severity == .error)).length
  let warnings := (issues.filter (·.problem.severity == .warning)).length
  let total := errors + warnings
  if total = 0 then ""
  else
    "✘ " ++ counted total "problem" "problems" ++ " (" ++ counted errors "error" "errors" ++
      ", " ++ counted warnings "warning" "warnings" ++ ")\n"

/-- 行番号の幅：ソースの中の問題の一番大きい行番号の桁数。なければ 1。 -/
def lineWidth (issues : List Issue) : Nat :=
  let lines := issues.filterMap fun i => match i.location with
    | .source ctx => some ctx.line
    | .file _ => none
  match lines.max? with
  | some n => (toString n).length
  | none => 1

/-- 問題を並べ直して報告する。 -/
def render (issues : List Issue) : String :=
  if issues.isEmpty then ""
  else
    let sorted := issues.mergeSort Issue.le
    let width := lineWidth sorted
    String.join (sorted.map (issueText width)) ++ summary sorted

end LogLint.Report
