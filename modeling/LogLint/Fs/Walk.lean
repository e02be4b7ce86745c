import LogLint.Fs.Disk

/-!
# ディレクトリを辿る

根の path から下のものを、ディレクトリを中身より先に（preorder で）並べる。根そのものも
深さ 0 の項目として並ぶ。根がファイルなら、その一つだけ。

項目の path は根の綴りに名前を `Path.join` でつないだもの。ディスクが答えられなかったところは
誤りの項目になり、そこから下は辿らない。

## 停止性

ディレクトリを一段下りるごとに `fuel` を一つ減らす。`fuel` はディスクにあるものの数の上限
（`MonadDisk.budget`）から取る。
-/

namespace LogLint

/-- 辿って見つけたもの。 -/
structure WalkEntry where
  path : String
  depth : Nat
  kind : NodeKind
  deriving DecidableEq, Repr

/-- 辿った結果の一つ：見つけたものか、答えられなかった path。 -/
inductive WalkItem where
  | entry (e : WalkEntry)
  | failure (path : String) (error : IoError)
  deriving DecidableEq, Repr

/-- 辿れなかったことの説明。 -/
def WalkItem.failureText (path : String) (e : IoError) : String :=
  "IO error for operation on " ++ path ++ ": " ++ e.text

namespace Walk

variable {m : Type → Type} [Monad m] [MonadDisk m]

mutual

/-- ディレクトリの中を辿る。 -/
def below : Nat → String → Nat → m (List WalkItem)
  | 0, _, _ => return []
  | fuel + 1, dir, depth => do
    match ← MonadDisk.list dir with
    | .error e => return [.failure dir e]
    | .ok names => children fuel depth (names.map (Path.join dir))

/-- 名前の並びを順に辿る。 -/
def children : Nat → Nat → List String → m (List WalkItem)
  | _, _, [] => return []
  | fuel, depth, p :: rest => do
    let here ← match ← MonadDisk.kind p with
      | .error e => pure [.failure p e]
      | .ok .file => pure [.entry ⟨p, depth, .file⟩]
      | .ok .dir => do
        let inner ← below fuel p (depth + 1)
        pure (.entry ⟨p, depth, .dir⟩ :: inner)
    return here ++ (← children fuel depth rest)

end

end Walk

/-- 根から下を辿る。 -/
def walk {m : Type → Type} [Monad m] [MonadDisk m] (root : String) : m (List WalkItem) := do
  let fuel ← MonadDisk.budget
  match ← MonadDisk.kind root with
  | .error e => return [.failure root e]
  | .ok .file => return [.entry ⟨root, 0, .file⟩]
  | .ok .dir => return .entry ⟨root, 0, .dir⟩ :: (← Walk.below fuel root 1)

end LogLint
