/-!
# glob のパターン

パス名に当てる glob のパターンを、字句（`Token`）の列に読む。

* `?` — 任意の一文字（区切りを除く）
* `*` — 任意の文字列（区切りを除く）
* `**` — 任意の数のディレクトリ。パスの一つの部分をまるごと占めなければならない：
  前が始まりか `/`、後が `/` か終わり。後の `/` は字句に含める
* `[...]` と `[!...]` — 文字の集まりとその補集合。`a-b` は範囲。最初の文字は `]` でもよい
* それ以外の文字はその文字自身。`\` に特別な意味はない

`*` が三つ以上続くこと、部分をまるごと占めない `**`、閉じない `[` は誤りで、誤りの位置は
文字で数える。

## 停止性

読み手は一歩ごとに一文字以上読むので、残りの長さが減る。
-/

namespace LogLint.Glob

/-- 文字の集まりの一項。 -/
inductive CharSpec where
  | single (c : Char)
  | range (lo hi : Char)
  deriving DecidableEq, Repr

/-- パターンの字句。 -/
inductive Token where
  | char (c : Char)
  | anyChar
  | anySequence
  | anyRecursiveSequence
  | anyWithin (specs : List CharSpec)
  | anyExcept (specs : List CharSpec)
  deriving DecidableEq, Repr

/-- 読んだパターン。 -/
structure Pattern where
  tokens : List Token
  text : String
  isRecursive : Bool
  deriving Repr

/-- パターンの誤りの原因。 -/
inductive PatternFault where
  /-- `*` が三つ以上続く。 -/
  | wildcards
  /-- `**` がパスの一つの部分をまるごと占めていない。 -/
  | recursiveWildcards
  /-- `[` が閉じていない。 -/
  | invalidRange
  deriving DecidableEq, Repr

/-- 誤りの原因の説明。 -/
def PatternFault.text : PatternFault → String
  | .wildcards => "wildcards are either regular \x60*\x60 or recursive \x60**\x60"
  | .recursiveWildcards => "recursive wildcards must form a single path component"
  | .invalidRange => "invalid range pattern"

/-- パターンの誤り。`pos` は文字で数えた位置。 -/
structure PatternError where
  pos : Nat
  fault : PatternFault
  deriving DecidableEq, Repr

/-- 誤りの文。 -/
def PatternError.message (e : PatternError) : String :=
  "Pattern syntax error near position " ++ toString e.pos ++ ": " ++ e.fault.text

/-- 文字の集まりの中身を項に分ける。`a-b` は範囲。 -/
def charSpecs : List Char → List CharSpec
  | a :: '-' :: b :: rest => .range a b :: charSpecs rest
  | a :: rest => .single a :: charSpecs rest
  | [] => []

/-- 先頭の `*` の連なりの長さと、その後の残り。 -/
def starRun : List Char → Nat × List Char
  | [] => (0, [])
  | c :: tl => if c = '*' then ((starRun tl).1 + 1, (starRun tl).2) else (0, c :: tl)

theorem starRun_rest_length : ∀ cs : List Char, (starRun cs).2.length ≤ cs.length
  | [] => by simp [starRun]
  | c :: tl => by
    have ih := starRun_rest_length tl
    unfold starRun
    split
    · simp only [List.length_cons]
      omega
    · exact Nat.le_refl _

/-- 集まりの中身と、閉じる `]` の後の残り。`first` は最初の文字で、`]` でもよい。 -/
def closeRange (first : Char) (more : List Char) : Option (List Char × List Char) :=
  match more.findIdx? (· = ']') with
  | some j => some (first :: more.take j, more.drop (j + 1))
  | none => none

theorem closeRange_rest_length {first : Char} {more inner rest : List Char}
    (h : closeRange first more = some (inner, rest)) : rest.length < more.length + 1 := by
  unfold closeRange at h
  split at h
  · simp only [Option.some.injEq, Prod.mk.injEq] at h
    rw [← h.2, List.length_drop]
    omega
  · simp at h

/-- 残りの文字を字句に読む。`prev` は直前の文字、`pos` は今の文字の位置。 -/
def tokenize (prev : Option Char) (pos : Nat) (cs : List Char) (acc : List Token) :
    Except PatternError (List Token) :=
  match cs with
  | [] => .ok acc.reverse
  | '?' :: tl => tokenize (some '?') (pos + 1) tl (.anyChar :: acc)
  | '*' :: tl =>
    match starRun tl, starRun_rest_length tl with
    | (more, rest), hr =>
      let count := more + 1
      if count > 2 then .error ⟨pos + 2, .wildcards⟩
      else if count = 2 then
        if prev.isNone || prev = some '/' then
          -- 直前も `**` なら一つにまとめる（ただし字句が一つだけのときはまとめない）
          let acc' := match acc with
            | .anyRecursiveSequence :: _ :: _ => acc
            | _ => .anyRecursiveSequence :: acc
          match h : rest with
          | '/' :: rest' => tokenize (some '/') (pos + 3) rest' acc'
          | [] => .ok acc'.reverse
          | _ :: _ => .error ⟨pos + 2, .recursiveWildcards⟩
        else .error ⟨pos - 1, .recursiveWildcards⟩
      else tokenize (some '*') (pos + 1) rest (.anySequence :: acc)
  | '[' :: tl =>
    match tl with
    | '!' :: x :: y :: more =>
      match h : closeRange x (y :: more) with
      | some (inner, rest) =>
        have hr := closeRange_rest_length h
        tokenize (some ']') (pos + inner.length + 3) rest (.anyExcept (charSpecs inner) :: acc)
      | none => .error ⟨pos, .invalidRange⟩
    | x :: y :: more =>
      if x = '!' then .error ⟨pos, .invalidRange⟩
      else
        match h : closeRange x (y :: more) with
        | some (inner, rest) =>
          have hr := closeRange_rest_length h
          tokenize (some ']') (pos + inner.length + 2) rest (.anyWithin (charSpecs inner) :: acc)
        | none => .error ⟨pos, .invalidRange⟩
    | _ => .error ⟨pos, .invalidRange⟩
  | c :: tl => tokenize (some c) (pos + 1) tl (.char c :: acc)
termination_by cs.length
decreasing_by all_goals (subst_vars; simp only [List.length_cons] at *; omega)

/-- テキストをパターンとして読む。 -/
def Pattern.parse (text : String) : Except PatternError Pattern := do
  let tokens ← tokenize none 0 text.toList []
  return ⟨tokens, text, tokens.contains .anyRecursiveSequence⟩

end LogLint.Glob
