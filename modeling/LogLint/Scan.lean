import LogLint.Glob.Search
import LogLint.Fs.Walk
import LogLint.Session

/-!
# 書き出しを集める

調べる書き出しのファイルを、根の path の下から集める。

## 根

path を与えなければ、設定の `includes` から根を決める。`base` はソースの根。

* `includes` が空なら `base` 一つ
* `.` は `base` そのもの
* `*` か `?` を含むものは glob として `base` の下で探し、見つかったディレクトリだけ
* ほかは `base` の下の path。なければ飛ばす

## 集め方

根ごとに下を辿り（`walk`）、次のものを除いて、ファイルのうち根そのものか名前が `.ast.json` で
終わるものを集める。

* `ignores` のうち `*` か `?` を含むものは glob で、path の綴り全体が当たるもの
* ほかは `base` の下の path で、その下にあるもの（部分ごとに比べる）

辿れなかったところは数える。集めたファイルは綴りの順に、重なりなく並べる。
-/

namespace LogLint

/-- 書き出しのファイルの名前の終わり。 -/
def dumpSuffix : String := ".ast.json"

/-- glob として読む綴りか。 -/
def isGlobPattern (p : String) : Bool := p.contains '*' || p.contains '?'

/-- 綴りの順に並べて重なりを除く。 -/
def sortedUnique (xs : List String) : List String :=
  (xs.mergeSort fun a b => decide (a ≤ b)).eraseDups

/-- 集めた結果。 -/
structure ScanResult where
  files : List String
  /-- 辿れなかったところの数。 -/
  skipped : Nat
  deriving DecidableEq, Repr

namespace Scan

variable {m : Type → Type} [Monad m] [MonadDisk m]

/-- `includes` から根を決める。 -/
def roots (base : String) (includes : List String) (verbose : Bool) : Session m (List String) := do
  if includes.isEmpty then return [base]
  let mut found := []
  for inc in includes do
    if isGlobPattern inc then
      match ← (Glob.glob (Path.join base inc) : m _) with
      | .ok paths =>
        for p in paths do
          if ← MonadDisk.isDir p then found := found ++ [p]
      | .error e =>
        if verbose then Session.warn ("warning: Invalid glob pattern '" ++ inc ++ "': " ++ e.message)
    else
      let p := if inc = "." then base else Path.join base inc
      if ← MonadDisk.exists? p then found := found ++ [p]
      else if verbose then Session.warn ("warning: Include path does not exist: " ++ p)
  return found

/-- 除くものの綴りを、glob と path に分ける。 -/
def ignoreRules (base : String) (ignores : List String) (verbose : Bool) :
    Session m (List Glob.Pattern × List String) := do
  let mut globs := []
  let mut paths := []
  for p in ignores do
    if isGlobPattern p then
      match Glob.Pattern.parse p with
      | .ok g => globs := globs ++ [g]
      | .error e =>
        if verbose then Session.warn ("warning: Invalid ignore pattern '" ++ p ++ "': " ++ e.message)
    else paths := paths ++ [Path.join base p]
  return (globs, paths)

/-- 根の下から書き出しを集める。 -/
def files (roots : List String) (base : String) (ignores : List String) (verbose : Bool) :
    Session m ScanResult := do
  let (globs, ignored) ← ignoreRules base ignores verbose
  let mut found := []
  let mut skipped := 0
  for root in roots do
    for item in ← (walk root : m _) do
      match item with
      | .failure path e =>
        skipped := skipped + 1
        if verbose then Session.warn ("warning: Cannot access path: " ++ WalkItem.failureText path e)
      | .entry e =>
        let skip := ignored.any (Path.startsWith e.path ·) || globs.any (·.matches e.path)
        let isDump := ((Path.fileName? e.path).map (·.endsWith dumpSuffix)).getD false
        if !skip && e.kind == .file && (e.depth == 0 || isDump) then found := found ++ [e.path]
  return ⟨sortedUnique found, skipped⟩

end Scan

end LogLint
