import LogLint.Cli.Grammar

/-!
# 使い方の文

コマンドの使い方の行と、使い方の全文。

## 使い方の行

* 何も使っていないとき — 名前、選択肢があれば `[OPTIONS]`、位置の引数、下のコマンドがあれば
  `[COMMAND]`
* 使った選択肢があるとき — 名前、使った選択肢を初めて使った順に、位置の引数（値を渡していれば
  `<PATHS>...`、渡していなければ `[PATHS]...` の形）

使い方と版を見せる選択肢は `[OPTIONS]` に数えない。

## 全文

説明、使い方の行、そして節を空行で区切って並べる：下のコマンド（`Commands:`）、位置の引数
（`Arguments:`）、選択肢（`Options:`）。節の中の説明は、その節で一番長い書き方にそろえ、二つの
空白を置いて始める。選択肢の書き方の前には短い名前（`-v, `）か四つの空白を置く。値の一覧がある
選択肢は、説明の後に `[possible values: …]` と書く。
-/

namespace LogLint.Cli

/-- `n` 個の空白。 -/
def spaces (n : Nat) : String := String.ofList (List.replicate n ' ')

/-- 使い方と版を見せる選択肢か。 -/
def Opt.isInformational (o : Opt) : Bool :=
  match o.action with
  | .help | .version => true
  | _ => false

namespace Command

/-- 何も使っていないときの使い方の行。 -/
def helpUsage (c : Command) : String :=
  c.usageName ++
    (if c.options.any (!·.isInformational) then " [OPTIONS]" else "") ++
    (match c.positional with
     | some p => " " ++ p.display
     | none => "") ++
    (if c.takesCommand then " [COMMAND]" else "")

/-- 使った選択肢と位置の引数の id に合わせた使い方の行。 -/
def usage (c : Command) (used : List String) : String :=
  if used.isEmpty then c.helpUsage
  else
    c.usageName ++
      String.join ((used.eraseDups.filterMap c.findId).map (" " ++ ·.display)) ++
      (match c.positional with
       | some p => " " ++ (if used.contains p.id then p.givenDisplay else p.display)
       | none => "")

/-- 選択肢の節の行。 -/
def optionLines (opts : List Opt) : List String :=
  let width (o : Opt) := o.display.length + 4
  let longest := opts.foldl (fun n o => max n (width o)) 2
  opts.map fun o =>
    let lead := match o.short with
      | some ch => "-" ++ String.singleton ch ++ ", "
      | none => "    "
    let values := (o.valueKind?.map ValueKind.possible).getD []
    let extra := if values.isEmpty then "" else " [possible values: " ++ ", ".intercalate values ++ "]"
    "  " ++ lead ++ o.display ++ spaces (longest - width o + 2) ++ o.help ++ extra

/-- 名前と説明を並べた節の行。 -/
def entryLines (entries : List (String × String)) : List String :=
  let longest := entries.foldl (fun n e => max n e.1.length) 2
  entries.map fun (name, text) => "  " ++ name ++ spaces (longest - name.length + 2) ++ text

/-- 使い方の全文。`commands` は下のコマンド。 -/
def helpText (c : Command) (commands : List Command) : String :=
  let block (title : String) (lines : List String) : List String :=
    if lines.isEmpty then [] else [title ++ ":\n" ++ "\n".intercalate lines]
  let sections :=
    block "Commands" (entryLines (commands.map fun s => (s.name, s.about))) ++
    block "Arguments" (entryLines (c.positional.toList.map fun p => (p.display, p.help))) ++
    block "Options" (optionLines c.options)
  c.about ++ "\n\nUsage: " ++ c.helpUsage ++ String.join (sections.map ("\n\n" ++ ·)) ++ "\n"

end Command

namespace Program

/-- 根の使い方の全文。 -/
def rootHelp (p : Program) : String := p.root.helpText p.allCommands

/-- 下のコマンドの使い方の全文。 -/
def commandHelp (_ : Program) (c : Command) : String := c.helpText []

/-- 版の文。 -/
def versionText (p : Program) : String := p.root.usageName ++ " " ++ p.version ++ "\n"

end Program

end LogLint.Cli
