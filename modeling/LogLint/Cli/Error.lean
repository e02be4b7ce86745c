import LogLint.Cli.Grammar

/-!
# コマンド行の誤り

コマンド行が読めなかったときの文。次の順に並べる。

1. `error: ` と誤りの文
2. 近い名前があれば、空行の後に `  tip: a similar … exists: '…'`
3. ほかの助言があれば、それぞれ `  tip: …`（近い名前がなければ、その前に空行）
4. 使い方の行があれば、空行の後に `Usage: …`
5. 使い方を見る選択肢があれば、空行の後に `For more information, try '--help'.`

文は改行で終わる。
-/

namespace LogLint.Cli

/-- 読めなかった理由。 -/
inductive Fault where
  /-- 知らない選択肢か、置けない引数。 -/
  | unknownArgument (arg : String)
  /-- 知らないコマンドの名前。 -/
  | unrecognizedSubcommand (name : String)
  /-- 選択肢が受けない値。`value` が空なら、値がなかった。`possible` は受ける値の一覧。 -/
  | invalidValue (arg value : String) (possible : List String)
  /-- 値を取らない選択肢に付けた値。 -/
  | unexpectedValue (arg value : String)
  /-- 二度書いた選択肢。 -/
  | repeated (arg : String)
  deriving DecidableEq, Repr

/-- 誤りの文。 -/
def Fault.message : Fault → String
  | .unknownArgument arg => "unexpected argument '" ++ arg ++ "' found"
  | .unrecognizedSubcommand name => "unrecognized subcommand '" ++ name ++ "'"
  | .invalidValue arg value possible =>
    (if value.isEmpty then "a value is required for '" ++ arg ++ "' but none was supplied"
     else "invalid value '" ++ value ++ "' for '" ++ arg ++ "'") ++
    (if possible.isEmpty then ""
     else "\n  [possible values: " ++ ", ".intercalate possible ++ "]")
  | .unexpectedValue arg value =>
    "unexpected value '" ++ value ++ "' for '" ++ arg ++ "' found; no more were expected"
  | .repeated arg => "the argument '" ++ arg ++ "' cannot be used multiple times"

/-- 薦める近い名前。 -/
inductive Similar where
  | argument (name : String)
  | value (name : String)
  | subcommands (names : List String)
  deriving DecidableEq, Repr

/-- 薦める文。 -/
def Similar.text : Similar → String
  | .argument name => "a similar argument exists: '" ++ name ++ "'"
  | .value name => "a similar value exists: '" ++ name ++ "'"
  | .subcommands [name] => "a similar subcommand exists: '" ++ name ++ "'"
  | .subcommands names =>
    "some similar subcommands exist: " ++ ", ".intercalate (names.map fun n => "'" ++ n ++ "'")

/-- コマンド行の誤り。 -/
structure Error where
  fault : Fault
  similar : Option Similar := none
  tips : List String := []
  usage : Option String := none
  helpFlag : Option String := some "--help"
  deriving DecidableEq, Repr

/-- 誤りの全文。 -/
def Error.render (e : Error) : String :=
  "error: " ++ e.fault.message ++
    (match e.similar with
     | some s => "\n\n  tip: " ++ s.text
     | none => "") ++
    (if e.tips.isEmpty then ""
     else (if e.similar.isSome then "" else "\n") ++
       String.join (e.tips.map ("\n  tip: " ++ ·))) ++
    (match e.usage with
     | some u => "\n\nUsage: " ++ u
     | none => "") ++
    (match e.helpFlag with
     | some h => "\n\nFor more information, try '" ++ h ++ "'.\n"
     | none => "\n")

end LogLint.Cli
