import LogLint.Options
import LogLint.Key.Case
import LogLint.Message.Style

/-!
# 規則の方針

確かめた設定（`Policy`）。`Options.validate` が名前を読み、空の文字列と `null` は「なし」にする。
`msgStyle` を先に確かめる。禁じるキーは重複を除き、バイトの順に並べる。
-/

namespace LogLint

/-- 確かめた設定。 -/
structure Policy where
  noGlobal : Bool
  noSugar : Bool
  staticMsg : Bool
  msgStyle : Option MessageStyle
  noRawKeys : Bool
  keyCase : Option KeyCase
  /-- 禁じるキー。重複がなく、バイトの順。 -/
  forbiddenKeys : List String
  argsOnSepLines : Bool
  deriving Repr

/-- 設定の値の誤り。 -/
inductive OptionError where
  | msgStyle (value : String)
  | keyNamingCase (value : String)
  deriving DecidableEq, Repr

/-- 誤りの文。 -/
def OptionError.message : OptionError → String
  | .msgStyle v =>
    "invalid value for msgStyle: \"" ++ v ++ "\" (expected \"lowercased\" or \"capitalized\")"
  | .keyNamingCase v =>
    "invalid value for keyNamingCase: \"" ++ v ++
      "\" (expected \"snake\", \"kebab\", \"camel\" or \"pascal\")"

/-- 並んだ列から、隣り合う重複を除く。 -/
def dedupSorted : List String → List String
  | a :: b :: rest => if a = b then dedupSorted (b :: rest) else a :: dedupSorted (b :: rest)
  | l => l

/-- 文字列の集まりを、重複を除いてバイトの順に並べる。 -/
def sortedKeys (keys : List String) : List String :=
  dedupSorted (keys.mergeSort fun a b => decide (a ≤ b))

/-- 空の文字列は「なし」。 -/
def nonEmpty : Option String → Option String
  | some "" => none
  | v => v

namespace Options

/-- 値の名前を読み、方針にする。 -/
def validate (o : Options) : Except OptionError Policy := do
  let msgStyle ← match nonEmpty o.msgStyle with
    | none => pure none
    | some v =>
      match MessageStyle.ofName? v with
      | some s => pure (some s)
      | none => throw (.msgStyle v)
  let keyCase ← match nonEmpty o.keyNamingCase with
    | none => pure none
    | some v =>
      match KeyCase.ofName? v with
      | some k => pure (some k)
      | none => throw (.keyNamingCase v)
  return {
    noGlobal := o.noGlobal
    noSugar := o.noSugar
    staticMsg := o.staticMsg
    msgStyle := msgStyle
    noRawKeys := o.noRawKeys
    keyCase := keyCase
    forbiddenKeys := sortedKeys o.forbiddenKeys
    argsOnSepLines := o.argsOnSepLines }

end Options

namespace Policy

/-- キーを見る規則があるか。 -/
def checksKeys (p : Policy) : Bool :=
  p.noRawKeys || !p.forbiddenKeys.isEmpty || p.keyCase.isSome

/-- キーが禁じられているか。 -/
def forbids (p : Policy) (key : String) : Bool := p.forbiddenKeys.contains key

end Policy

end LogLint
