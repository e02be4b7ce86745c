import LogLint.Cli.Program
import LogLint.Fix
import LogLint.Report

/-!
# コマンドを実行する

* `check` — 見つかった問題と読めなかった書き出しを報告する。何もなければ調べた数を書く
* `fix` — 鍵の書き方の問題を、`--apply` なら当て、そうでなければ見せる
* `init` — 設定ファイルがなければ既定の中身で書く。あれば書かずに状態 1

読めなかった書き出しがあり、詳しく書かないときは、その数を標準エラーに書く。

コマンド行が読めなければ、誤りを標準エラーに書いて状態 2。使い方や版を見せるときは標準出力に
書いて状態 0。コマンドを選ばなければ根の使い方を見せる。
-/

namespace LogLint.Cli

variable {m : Type → Type} [Monad m] [MonadDisk m]

/-- 読めなかった書き出しの数の警告。 -/
def unreadableWarning (count : Nat) (verbose : Bool) : Session m Unit :=
  if 0 < count && !verbose then
    Session.warn ("warning: " ++ toString count ++ " file(s) could not be parsed (use -v for details)")
  else pure ()

/-- 書き出しを調べて報告する。 -/
def runCheck (scope : Scope) : Session m ExitStatus := do
  let w ← Workspace.ofScope scope
  let a ← w.analyze
  let all := a.issues ++ a.unreadable.map UnreadableDump.toIssue
  if all.isEmpty then
    Session.say ("✓ Checked " ++ Report.counted w.files.length "file" "files" ++ " - no issues found")
  else Session.print (Report.render all)
  unreadableWarning a.unreadable.length scope.verbose
  return ExitStatus.ofOutcome a.unreadable.length !a.issues.isEmpty

/-- 鍵の書き方の問題に付いた書き換え。 -/
def keyFixes (issues : List Issue) : List (SourceContext × TextEdit) :=
  issues.filterMap fun i =>
    match i.problem, i.location with
    | .keyNaming _ f, .source ctx => some (ctx, f.edit)
    | _, _ => none

/-- 鍵の名前を直すか、直し方を見せる。 -/
def runFix (scope : Scope) (apply : Bool) : Session m ExitStatus := do
  let w ← Workspace.ofScope scope
  let a ← w.analyze
  let fixes := keyFixes a.issues
  if fixes.isEmpty then
    Session.say ("✓ Checked " ++ toString w.files.length ++ " file(s) - nothing to fix")
  else if apply then
    let stats ← Fix.apply (fixes.map fun (ctx, e) => (ctx.file, e))
    Session.say ("Fixed " ++ toString stats.applied ++ " key(s) in " ++ toString stats.filesModified ++
      " file(s) (processed " ++ toString stats.processed ++ " issue(s)).")
    if 0 < stats.skipped then
      Session.say ("  - skipped: " ++ toString stats.skipped ++
        " edit(s) that overlap or no longer match the source")
  else
    Session.print (String.join (fixes.map fun (ctx, e) => Fix.preview ctx e))
    let files := (fixes.map (·.1.file)).eraseDups
    Session.say ("Would fix " ++ toString fixes.length ++ " key(s) in " ++ toString files.length ++
      " file(s).")
    Session.say "Run with --apply to rewrite these keys."
  unreadableWarning a.unreadable.length scope.verbose
  return ExitStatus.ofOutcome a.unreadable.length (!fixes.isEmpty && !apply)

/-- 既定の設定ファイルを書く。 -/
def runInit : Session m ExitStatus := do
  if ← MonadDisk.exists? configFileName then
    Session.warn ("Error: " ++ configFileName ++
      " already exists, remove it first to regenerate the defaults")
    return .failure
  match ← MonadDisk.write configFileName Config.defaultText with
  | .ok () => pure ()
  | .error e => throw ("Failed to write " ++ configFileName ++ ": " ++ e.text)
  Session.say ("✓ Created " ++ configFileName ++ " with the default rule preset")
  return .success

/-- 求めることを実行する。 -/
def Invocation.run : Invocation → Session m ExitStatus
  | .check scope => runCheck scope
  | .fix scope apply => runFix scope apply
  | .init => runInit

/-- コマンド行の引数（プログラムの名前を除く）で一回実行する。 -/
def run (args : List String) : m Outcome :=
  match program.parse args with
  | .error (.display text) => pure ⟨0, text, ""⟩
  | .error (.fail e) => pure ⟨2, "", e.render⟩
  | .ok (c, found) =>
    match Invocation.of? c found with
    | some inv => Session.finish inv.run
    | none => pure ⟨0, program.rootHelp, ""⟩

end LogLint.Cli
