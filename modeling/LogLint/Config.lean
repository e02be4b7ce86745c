import LogLint.Policy
import LogLint.Glob.Pattern
import LogLint.Json.Print

/-!
# 設定ファイル

設定ファイル `.zaplintrc.json` の中身：規則の項目（`Options`、同じ object に平たく並ぶ）と、
調べるディレクトリ（`includes`、既定は `["."]`）と、除く path の glob パターン（`ignores`）。

## 確かめる順

1. `ignores` のパターンをすべて
2. `includes` のうち `*` か `?` を含むものを
3. 規則の項目（`Options.validate`）

最初の誤りで止める。
-/

namespace LogLint

/-- 設定ファイルの中身。 -/
structure Config where
  options : Options := {}
  includes : List String := ["."]
  ignores : List String := []
  deriving Repr

/-- 設定ファイルの誤り。 -/
inductive ConfigError where
  /-- `field` のパターン `pattern` が glob として読めない。 -/
  | pattern (field : String) (pattern : String) (error : Glob.PatternError)
  | option (error : OptionError)
  deriving Repr

/-- 誤りの文。 -/
def ConfigError.message : ConfigError → String
  | .pattern field p e =>
    "Invalid glob pattern in '" ++ field ++ "': \"" ++ p ++ "\": " ++ e.message
  | .option e => e.message

namespace Config

/-- パターンが glob として読めることを確かめる。 -/
def checkPattern (field p : String) : Except ConfigError Unit :=
  match Glob.Pattern.parse p with
  | .ok _ => .ok ()
  | .error e => .error (.pattern field p e)

/-- 設定を確かめ、規則の方針を返す。 -/
def validate (c : Config) : Except ConfigError Policy := do
  c.ignores.forM (checkPattern "ignores")
  (c.includes.filter fun p => p.contains '*' || p.contains '?').forM (checkPattern "includes")
  match c.options.validate with
  | .ok p => return p
  | .error e => throw (.option e)

/-- 文字列か `null`。 -/
def optionText : Option String → Json
  | some s => .string s
  | none => .null

/-- 設定を JSON にする。項目、`includes`、`ignores` の順。 -/
def toJson (c : Config) : Json :=
  let o := c.options
  let strings (xs : List String) : Json := .array (xs.map .string)
  .object [("noGlobal", .bool o.noGlobal), ("noSugar", .bool o.noSugar),
    ("staticMsg", .bool o.staticMsg), ("msgStyle", optionText o.msgStyle),
    ("noRawKeys", .bool o.noRawKeys), ("keyNamingCase", optionText o.keyNamingCase),
    ("forbiddenKeys", strings o.forbiddenKeys), ("argsOnSepLines", .bool o.argsOnSepLines),
    ("includes", strings c.includes), ("ignores", strings c.ignores)]

/-- 既定の設定ファイルの中身。字下げした JSON。 -/
def defaultText : String := Json.pretty (toJson {})

end Config

end LogLint
