import LogLint.Glob.Pattern

/-!
# glob のパターンを当てる

パターンの字句の列を、文字列の頭から当てる。大文字と小文字は区別し、`*` も `?` も `/` に
当たる（区切りを特別に扱わない）。`.` で始まる名前も特別に扱わない。

## 当て方

* 一文字の字句（`?`、文字、集まり）は一文字を読む。読む文字がなければ、パターン全体が
  当たらない（`entireMismatch`）：これより後ろで当て直しても当たらないので、探索をやめる
* `*` と `**` は、まず空に当て、だめなら一文字ずつ読み進めて残りを当て直す。`**` は `/` の直後
  でだけ当て直す。最後まで読んでも当たらなければ、文字の尽きたところから残りの字句へ進む
* 字句が尽きたとき、文字も尽きていれば当たり

## 停止性

`matchFrom` は字句の列について、`scan` は文字の列について、それぞれ構造的に減る。
-/

namespace LogLint.Glob

/-- 当てた結果。 -/
inductive MatchResult where
  | matched
  | subMismatch
  | entireMismatch
  deriving DecidableEq, Repr

/-- 文字が集まりに入るか。 -/
def inSpecs (specs : List CharSpec) (c : Char) : Bool :=
  specs.any fun
    | .single s => s == c
    | .range lo hi => lo ≤ c && c ≤ hi

/-- `*` か `**` の後、一文字ずつ読み進めて残りを当て直す。 -/
def scan (recursive : Bool) (next : Bool → List Char → MatchResult) :
    Bool → List Char → MatchResult
  | sep, [] => next sep []
  | _, c :: cs =>
    let sep := c == '/'
    if recursive && !sep then scan recursive next sep cs
    else
      match next sep cs with
      | .subMismatch => scan recursive next sep cs
      | r => r

/-- 字句の列を文字の列に当てる。`sep` は直前の文字が区切りだったか。 -/
def matchFrom : List Token → Bool → List Char → MatchResult
  | [], _, cs => if cs.isEmpty then .matched else .subMismatch
  | t :: rest, sep, cs =>
    match t with
    | .anySequence =>
      match matchFrom rest sep cs with
      | .subMismatch => scan false (matchFrom rest) sep cs
      | r => r
    | .anyRecursiveSequence =>
      match matchFrom rest sep cs with
      | .subMismatch => scan true (matchFrom rest) sep cs
      | r => r
    | _ =>
      match cs with
      | [] => .entireMismatch
      | c :: tl =>
        let ok := match t with
          | .anyChar => true
          | .anyWithin specs => inSpecs specs c
          | .anyExcept specs => !inSpecs specs c
          | .char d => c == d
          | _ => false
        if ok then matchFrom rest (c == '/') tl else .subMismatch

/-- パターンが文字列全体に当たるか。 -/
def Pattern.matches (p : Pattern) (s : String) : Bool :=
  matchFrom p.tokens true s.toList == .matched

end LogLint.Glob
