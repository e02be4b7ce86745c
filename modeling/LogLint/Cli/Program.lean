import LogLint.Cli.Parse
import LogLint.Workspace

/-!
# zaplint のコマンド行

`zaplint` は三つのコマンドを持つ。

* `check [OPTIONS] [PATHS]...` — 書き出しを調べて問題を報告する
* `fix [OPTIONS] [PATHS]...` — 鍵の名前の書き換えを見せる。`--apply` なら Go のソースに当てる
* `init` — 既定の設定ファイルを書く

`check` と `fix` は同じ選択肢を受ける：ソースの根、詳しく書くか、規則の切り替え。真偽の切り替えは
`--no-global` だけなら `true`、`--no-global=false` のように `=` で値を付ける。
-/

namespace LogLint.Cli

/-- 使い方を見せる選択肢。 -/
def helpOption : Opt :=
  { id := "help", long := "help", short := some 'h', action := .help, help := "Print help" }

/-- 版を見せる選択肢。 -/
def versionOption : Opt :=
  { id := "version", long := "version", short := some 'V', action := .version, help := "Print version" }

/-- 真偽の切り替え。値を付けなければ `true`。 -/
def switchOption (id long help : String) : Opt :=
  { id := id, long := long, action := .attached "BOOL" .bool "true", help := help }

/-- `check` と `fix` に共通の選択肢。 -/
def scopeOptions : List Opt :=
  [ { id := "source_root", long := "source-root", action := .single "SOURCE_ROOT" .path
      help := "Root the dumps' Go file paths are relative to; the config file is searched from here" },
    { id := "verbose", long := "verbose", short := some 'v', action := .flag
      help := "Enable verbose output" },
    switchOption "no_global" "no-global" "Forbid the global loggers zap.L() and zap.S()",
    switchOption "no_sugar" "no-sugar" "Forbid SugaredLogger",
    switchOption "static_msg" "static-msg" "Require messages to be string literals or constants",
    { id := "msg_style", long := "msg-style", action := .single "STYLE" .text
      help := "Message style: lowercased or capitalized (empty to disable)" },
    switchOption "no_raw_keys" "no-raw-keys" "Forbid keys written as string literals",
    { id := "key_naming_case", long := "key-naming-case", action := .single "CASE" .text
      help := "Key naming case: snake, kebab, camel or pascal (empty to disable)" },
    { id := "forbidden_keys", long := "forbidden-keys", action := .many "KEYS" .text ','
      help := "Comma-separated keys to forbid, added to the configured ones" },
    switchOption "args_on_sep_lines" "args-on-sep-lines"
      "Require trailing arguments to be put on separate lines" ]

/-- 調べる書き出しの位置の引数。 -/
def pathsArgument (verb : String) : Positional :=
  { id := "paths", valueName := "PATHS", kind := .path
    help := "Syntax dumps or directories to " ++ verb ++ " (default: configured includes)" }

/-- zaplint のコマンド行の文法。 -/
def program : Program where
  root :=
    { name := "zaplint", usageName := "zaplint"
      about := "A fast CLI tool for checking go.uber.org/zap logging conventions"
      options := [helpOption, versionOption], takesCommand := true }
  version := "0.1.0"
  commands :=
    [ { name := "check", usageName := "zaplint check"
        about := "Check zap logging calls for style issues"
        options := scopeOptions ++ [helpOption], positional := some (pathsArgument "check") },
      { name := "fix", usageName := "zaplint fix"
        about := "Apply suggested key renames to the Go sources"
        options := scopeOptions ++
          [{ id := "apply", long := "apply", action := .flag
             help := "Actually rewrite the Go sources (default is dry-run)" }, helpOption]
        positional := some (pathsArgument "fix") },
      { name := "init", usageName := "zaplint init"
        about := "Initialize a new .zaplintrc.json configuration file"
        options := [helpOption] } ]
  helpCommand :=
    { name := "help", usageName := "zaplint help"
      about := "Print this message or the help of the given subcommand(s)"
      options := []
      positional := some { id := "command", valueName := "COMMAND", kind := .text
                           help := "Print help for the subcommand(s)" }
      helpFlag := none }

/-- コマンド行が求めること。 -/
inductive Invocation where
  | check (scope : Scope)
  | fix (scope : Scope) (apply : Bool)
  | init
  deriving DecidableEq, Repr

/-- 真偽の値。 -/
def Matches.switch? (m : Matches) (id : String) : Option Bool := (m.last? id).map (· == "true")

/-- 読んだ値から、調べる範囲。 -/
def Matches.scope (m : Matches) : Scope :=
  { sourceRoot := m.last? "source_root"
    verbose := m.has "verbose"
    rules :=
      { noGlobal := m.switch? "no_global"
        noSugar := m.switch? "no_sugar"
        staticMsg := m.switch? "static_msg"
        msgStyle := m.last? "msg_style"
        noRawKeys := m.switch? "no_raw_keys"
        keyNamingCase := m.last? "key_naming_case"
        forbiddenKeys := m.values "forbidden_keys"
        argsOnSepLines := m.switch? "args_on_sep_lines" }
    paths := m.values "paths" }

/-- 選んだコマンドと読んだ値から、求めること。 -/
def Invocation.of? (c : Command) (m : Matches) : Option Invocation :=
  if c.name == "check" then some (.check m.scope)
  else if c.name == "fix" then some (.fix m.scope (m.has "apply"))
  else if c.name == "init" then some .init
  else none

end LogLint.Cli
