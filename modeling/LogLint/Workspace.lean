import LogLint.Config.Load
import LogLint.Scan
import LogLint.Syntax.Read
import LogLint.Analyzer
import LogLint.Text.Blank

/-!
# 調べる範囲と、その解析

一回の `check` や `fix` が調べるもの：ソースの根、設定から決まる規則の方針、集めた書き出し。

## 開き方

1. ソースの根（与えなければ `.`）から設定ファイルを探して読む（`Config.load`）
2. コマンド行の規則の切り替えで設定を上書きし、方針を確かめる
3. path を与えなければ設定の `includes` から根を決め、書き出しを集める（`Scan`）。辿れなかった
   ところがあれば、その数を標準エラーに書く

## 解析

書き出しを綴りの順に一つずつ読み、書き出しが指す Go のソースを読んで解析する。ソースの path は、
書き出しの `file` が根から始まるか、ソースの根が今のディレクトリなら `file` のまま、そうでなければ
ソースの根につないだもの。ソースが読めなくても解析はする（行の中身が付かないだけ）。

見つかった問題は、ファイルの path と位置の順に並べる（同じ位置なら見つけた順）。読めなかった
書き出しは別に並べる。
-/

namespace LogLint

/-- コマンド行で設定を上書きする規則の切り替え。与えなかったものは `none`。 -/
structure RuleSwitches where
  noGlobal : Option Bool := none
  noSugar : Option Bool := none
  staticMsg : Option Bool := none
  msgStyle : Option String := none
  noRawKeys : Option Bool := none
  keyNamingCase : Option String := none
  /-- 足す禁止の鍵。両端の空白を落とし、空のものは捨てる。 -/
  forbiddenKeys : List String := []
  argsOnSepLines : Option Bool := none
  deriving DecidableEq, Repr

/-- 切り替えで設定の項目を上書きする。 -/
def RuleSwitches.applyTo (r : RuleSwitches) (o : Options) : Options :=
  { noGlobal := r.noGlobal.getD o.noGlobal
    noSugar := r.noSugar.getD o.noSugar
    staticMsg := r.staticMsg.getD o.staticMsg
    msgStyle := r.msgStyle.orElse fun _ => o.msgStyle
    noRawKeys := r.noRawKeys.getD o.noRawKeys
    keyNamingCase := r.keyNamingCase.orElse fun _ => o.keyNamingCase
    forbiddenKeys := o.forbiddenKeys ++ (r.forbiddenKeys.map Text.trim).filter (!·.isEmpty)
    argsOnSepLines := r.argsOnSepLines.getD o.argsOnSepLines }

/-- どこを、どう調べるか。 -/
structure Scope where
  sourceRoot : Option String := none
  verbose : Bool := false
  rules : RuleSwitches := {}
  /-- 調べる書き出しかディレクトリ。空なら設定の `includes`。 -/
  paths : List String := []
  deriving DecidableEq, Repr

/-- 調べる範囲。 -/
structure Workspace where
  rootDir : String
  files : List String
  policy : Policy
  verbose : Bool
  deriving Repr

/-- 読めなかった書き出し。 -/
structure UnreadableDump where
  path : String
  error : String
  deriving DecidableEq, Repr

/-- 読めなかった書き出しを問題にする。 -/
def UnreadableDump.toIssue (u : UnreadableDump) : Issue := ⟨.unreadableDump u.error, .file u.path⟩

/-- 解析の結果。 -/
structure Analysis where
  issues : List Issue
  unreadable : List UnreadableDump
  deriving DecidableEq, Repr

/-- 書き出しの `file` から、読む Go のソースの path。 -/
def sourcePath (root file : String) : String :=
  if Path.isAbsolute file || Path.isCurrentDir root then file else Path.join root file

namespace Workspace

variable {m : Type → Type} [Monad m] [MonadDisk m]

/-- 範囲を開く。 -/
def ofScope (s : Scope) : Session m Workspace := do
  let root := s.sourceRoot.getD "."
  let (config, fromFile) ← Config.load root
  if !fromFile && s.verbose then
    Session.warn "Note: No .zaplintrc.json found, using default configuration"
  let options := s.rules.applyTo config.options
  let policy ← match options.validate with
    | .ok p => pure p
    | .error e => throw e.message
  let roots ← if s.paths.isEmpty then Scan.roots root config.includes s.verbose else pure s.paths
  let scan ← Scan.files roots root config.ignores s.verbose
  if 0 < scan.skipped then
    Session.warn ("warning: " ++ toString scan.skipped ++ " path(s) could not be accessed" ++
      (if s.verbose then "" else " (use -v for details)"))
  return ⟨root, scan.files, policy, s.verbose⟩

/-- 書き出しを一つ解析する。読めなければ理由。 -/
def analyzeDump (w : Workspace) (dump : String) : Session m (Except String (List Issue)) := do
  match ← MonadDisk.read dump with
  | .error e => return .error ("Failed to read " ++ dump ++ ": " ++ e.text)
  | .ok text =>
    match Syntax.FileDump.read text with
    | .error e => return .error ("Invalid syntax dump: " ++ e.message)
    | .ok d =>
      let file := sourcePath w.rootDir d.file
      let source ← match ← MonadDisk.read file with
        | .ok t => pure (some (SourceText.ofString t))
        | .error e =>
          if w.verbose then Session.warn ("Note: Cannot read Go source " ++ file ++ ": " ++ e.text)
          pure none
      return .ok (Analyzer.run ⟨w.policy, file, source⟩ d)

/-- 集めた書き出しを全部解析する。 -/
def analyze (w : Workspace) : Session m Analysis := do
  let mut issues := []
  let mut unreadable := []
  for dump in w.files do
    match ← w.analyzeDump dump with
    | .ok found => issues := issues ++ found
    | .error e => unreadable := unreadable ++ [⟨dump, e⟩]
  if w.verbose then
    for u in unreadable do
      Session.warn ("warning: Failed to parse " ++ u.path ++ ": " ++ u.error)
  return ⟨issues.mergeSort Issue.le, unreadable⟩

end Workspace

end LogLint
