import LogLint.Syntax.Expr
import LogLint.Key.Case
import LogLint.Message.Style
import LogLint.Go.StringLit

/-!
# 見つけた問題

規則が見つけた問題（`Issue`）は、何が見つかったか（`Problem`）と、どこで見つかったか
（`Location`）の組。規則の名前、重さ、文、直し方はどれも `Problem` から決まる。

| 問題 | 規則 | 重さ |
|---|---|---|
| global な logger | `no-global` | error |
| sugar の logger | `no-sugar` | error |
| 静的でないメッセージ | `static-msg` | error |
| メッセージの書き出し | `msg-style` | warning |
| 生のキー | `no-raw-keys` | error |
| 禁じられたキー | `forbidden-keys` | error |
| キーの書き方 | `key-naming-case` | warning |
| 引数の並べ方 | `args-on-sep-lines` | warning |
| 読めない書き出し | `parse-error` | error |
-/

namespace LogLint

/-- 規則。 -/
inductive Rule where
  | noGlobal
  | noSugar
  | staticMsg
  | msgStyle
  | noRawKeys
  | forbiddenKeys
  | keyNamingCase
  | argsOnSepLines
  | parseError
  deriving DecidableEq, Repr

/-- 規則の名前。 -/
def Rule.name : Rule → String
  | .noGlobal => "no-global"
  | .noSugar => "no-sugar"
  | .staticMsg => "static-msg"
  | .msgStyle => "msg-style"
  | .noRawKeys => "no-raw-keys"
  | .forbiddenKeys => "forbidden-keys"
  | .keyNamingCase => "key-naming-case"
  | .argsOnSepLines => "args-on-sep-lines"
  | .parseError => "parse-error"

/-- 問題の重さ。 -/
inductive Severity where
  | error
  | warning
  deriving DecidableEq, Repr

/-- 重さの名前。 -/
def Severity.name : Severity → String
  | .error => "error"
  | .warning => "warning"

/-- ソースの書き換え：範囲を新しいテキストで置き換える。 -/
structure TextEdit where
  span : Span
  newText : String
  deriving DecidableEq, Repr

/-- 直し方の提案。 -/
structure SuggestedFix where
  message : String
  edit : TextEdit
  deriving DecidableEq, Repr

/-- ソースの中の場所と、その行の中身。 -/
structure SourceContext where
  file : String
  line : Nat
  col : Nat
  sourceLine : Option String
  deriving DecidableEq, Repr

/-- 問題の場所：ソースの中か、ファイルそのもの。 -/
inductive Location where
  | source (ctx : SourceContext)
  | file (path : String)
  deriving DecidableEq, Repr

/-- 見つかったもの。 -/
inductive Problem where
  | globalLogger
  | sugaredLogger
  | dynamicMessage
  | messageStyle (style : MessageStyle)
  | rawKey
  | forbiddenKey (key : String)
  | keyNaming (keyCase : KeyCase) (fix : SuggestedFix)
  | argsLayout
  /-- 書き出しが読めなかった。`error` はその理由。 -/
  | unreadableDump (error : String)
  deriving DecidableEq, Repr

namespace Problem

/-- 問題の規則。 -/
def rule : Problem → Rule
  | .globalLogger => .noGlobal
  | .sugaredLogger => .noSugar
  | .dynamicMessage => .staticMsg
  | .messageStyle _ => .msgStyle
  | .rawKey => .noRawKeys
  | .forbiddenKey _ => .forbiddenKeys
  | .keyNaming .. => .keyNamingCase
  | .argsLayout => .argsOnSepLines
  | .unreadableDump _ => .parseError

/-- 問題の重さ。 -/
def severity : Problem → Severity
  | .messageStyle _ => .warning
  | .keyNaming .. => .warning
  | .argsLayout => .warning
  | _ => .error

/-- 問題の文。 -/
def message : Problem → String
  | .globalLogger => "global logger should not be used"
  | .sugaredLogger => "sugared logger should not be used"
  | .dynamicMessage => "message should be a string literal or a constant"
  | .messageStyle style => "message should be " ++ style.name
  | .rawKey => "raw keys should not be used"
  | .forbiddenKey key => Go.StringLit.quote key ++ " key is forbidden and should not be used"
  | .keyNaming k _ => "keys should be written in " ++ k.displayName
  | .argsLayout => "arguments should be put on separate lines"
  | .unreadableDump _ => "syntax dump could not be parsed"

/-- 直し方の提案。 -/
def fix? : Problem → Option SuggestedFix
  | .keyNaming _ f => some f
  | _ => none

/-- 補足。 -/
def details? : Problem → Option String
  | .unreadableDump e => some e
  | _ => none

end Problem

/-- 見つけた問題。 -/
structure Issue where
  problem : Problem
  location : Location
  deriving DecidableEq, Repr

namespace Issue

/-- 問題のあるファイルの path。 -/
def filePath (i : Issue) : String :=
  match i.location with
  | .source ctx => ctx.file
  | .file path => path

/-- 行と桁。ファイルそのものの問題は `(0, 0)`。 -/
def position (i : Issue) : Nat × Nat :=
  match i.location with
  | .source ctx => (ctx.line, ctx.col)
  | .file _ => (0, 0)

/-- 報告の順：ファイルの path、行、桁の順に比べて、前に来るか同じ。 -/
def le (a b : Issue) : Bool :=
  a.filePath < b.filePath ||
    (a.filePath == b.filePath &&
      (a.position.1 < b.position.1 ||
        (a.position.1 == b.position.1 && a.position.2 ≤ b.position.2)))

end Issue

end LogLint
