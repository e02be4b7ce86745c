/-!
# コマンド行の文法

コマンド行の選択肢と引数の形。プログラムは根のコマンドと、その下の名前の付いたコマンドを持つ。
どのコマンドも、名前の付いた選択肢（`--long`、一部は `-s`）と、多くとも一つの位置の引数の列を
受ける。

## 選択肢の値

* `flag` — 値を取らない。現れれば `true`。二度は書けない
* `help`、`version` — 値を取らない。使い方か版を見せて終わる
* `single` — 値をちょうど一つ。`--long=値` か、次の引数。二度は書けない
* `attached` — `--long=値` で値を一つ付けてもよい。付けなければ `missing` を値とする。次の引数を
  値として取ることはない。二度は書けない
* `many` — 値を一つずつ、何度でも。値はそれぞれ区切りの文字で分ける

値の読み方（`ValueKind`）は三つ：空でない path、どんな文字列でも、`true` か `false`。
短い名前（`-s`）は値を取らない選択肢にだけ付ける。
-/

namespace LogLint.Cli

/-- 値の読み方。 -/
inductive ValueKind where
  /-- 空でない path。 -/
  | path
  /-- どんな文字列でも。 -/
  | text
  /-- `true` か `false`。 -/
  | bool
  deriving DecidableEq, Repr

/-- 選択肢が値をどう受けるか。 -/
inductive Action where
  | flag
  | help
  | version
  | single (valueName : String) (kind : ValueKind)
  | attached (valueName : String) (kind : ValueKind) (missing : String)
  | many (valueName : String) (kind : ValueKind) (delimiter : Char)
  deriving DecidableEq, Repr

/-- 名前の付いた選択肢。 -/
structure Opt where
  /-- 読んだ値を引くときの名前。 -/
  id : String
  /-- `--` の後の名前。 -/
  long : String
  /-- `-` の後の一文字。値を取らない選択肢にだけ付ける。 -/
  short : Option Char := none
  action : Action
  /-- 使い方に出す一行の説明。 -/
  help : String
  deriving DecidableEq, Repr

/-- 位置の引数の列。省いてもよく、いくつでも並べられる。 -/
structure Positional where
  id : String
  valueName : String
  kind : ValueKind
  help : String
  deriving DecidableEq, Repr

/-- 一つのコマンド。 -/
structure Command where
  /-- コマンドを選ぶ名前。 -/
  name : String
  /-- 使い方の行の頭に書く名前、たとえば `zaplint check`。 -/
  usageName : String
  about : String
  options : List Opt
  positional : Option Positional := none
  /-- 下にコマンドを選ぶか（使い方に `[COMMAND]` と書く）。 -/
  takesCommand : Bool := false
  /-- 誤りの後に薦める、使い方を見る選択肢。 -/
  helpFlag : Option String := some "--help"
  deriving DecidableEq, Repr

/-- プログラム：根のコマンドと、その下のコマンド。 -/
structure Program where
  root : Command
  version : String
  /-- 根の下のコマンド。 -/
  commands : List Command
  /-- 他のコマンドの使い方を見せるコマンド。`commands` の後に並ぶ。 -/
  helpCommand : Command
  deriving DecidableEq, Repr

namespace Opt

/-- 値を取るか。 -/
def takesValues (o : Opt) : Bool :=
  match o.action with
  | .single .. | .attached .. | .many .. => true
  | _ => false

/-- 値の読み方。値を取らなければ `none`。 -/
def valueKind? (o : Opt) : Option ValueKind :=
  match o.action with
  | .single _ k | .attached _ k _ | .many _ k _ => some k
  | _ => none

/-- 一度に要る値の数の下限。 -/
def minValues (o : Opt) : Nat :=
  match o.action with
  | .single .. | .many .. => 1
  | _ => 0

/-- 選択肢の書き方、たとえば `--msg-style <STYLE>`、`--no-global[=<BOOL>]`。 -/
def display (o : Opt) : String :=
  "--" ++ o.long ++
    match o.action with
    | .single v _ | .many v _ _ => " <" ++ v ++ ">"
    | .attached v _ _ => "[=<" ++ v ++ ">]"
    | _ => ""

end Opt

/-- 位置の引数の書き方、たとえば `[PATHS]...`。 -/
def Positional.display (p : Positional) : String := "[" ++ p.valueName ++ "]..."

/-- 値を渡した位置の引数の書き方。 -/
def Positional.givenDisplay (p : Positional) : String := "<" ++ p.valueName ++ ">..."

/-- 読み方が受ける値の一覧。一覧がなければ空。 -/
def ValueKind.possible : ValueKind → List String
  | .bool => ["true", "false"]
  | _ => []

namespace Command

/-- 長い名前の選択肢。 -/
def findLong (c : Command) (name : String) : Option Opt := c.options.find? (·.long == name)

/-- 短い名前の選択肢。 -/
def findShort (c : Command) (ch : Char) : Option Opt := c.options.find? (·.short == some ch)

/-- id の選択肢。 -/
def findId (c : Command) (id : String) : Option Opt := c.options.find? (·.id == id)

/-- 長い名前の一覧。 -/
def longs (c : Command) : List String := c.options.map (·.long)

end Command

namespace Program

/-- 根の下で選べるコマンドの全部。使い方を見せるコマンドが最後。 -/
def allCommands (p : Program) : List Command := p.commands ++ [p.helpCommand]

/-- 名前で選ぶコマンド。 -/
def findCommand (p : Program) (name : String) : Option Command :=
  p.allCommands.find? (·.name == name)

end Program

end LogLint.Cli
