import LogLint.Fs.Path

/-!
# ディスクへの問い合わせ

規則の外側（設定ファイルを探す、書き出しを集める、直したソースを書く）がディスクに尋ねる
ことを、型クラス `MonadDisk` の操作に限る。操作はどれも path の綴りを受け取り、失敗は
`IoError` で返す。

* `kind` — その path にあるものの種類（ファイルかディレクトリか）
* `read` / `write` — テキストとして読む・書く
* `list` — ディレクトリの中の名前
* `budget` — ディスクにあるものの数の上限。ディレクトリを辿る繰り返しの `fuel` に使う

同じ計算を、JSON で与えたファイルの木（`FileTree`）の上でも本物のディスクの上でも走らせる。
-/

namespace LogLint

/-- ディスクの操作の失敗。 -/
inductive IoError where
  | notFound
  | notADirectory
  | isADirectory
  | other (message : String)
  deriving DecidableEq, Repr

/-- 失敗の説明。 -/
def IoError.text : IoError → String
  | .notFound => "No such file or directory (os error 2)"
  | .notADirectory => "Not a directory (os error 20)"
  | .isADirectory => "Is a directory (os error 21)"
  | .other message => message

/-- ディスクにあるものの種類。 -/
inductive NodeKind where
  | file
  | dir
  deriving DecidableEq, Repr

/-- ディスクへの問い合わせ。 -/
class MonadDisk (m : Type → Type) where
  kind : String → m (Except IoError NodeKind)
  read : String → m (Except IoError String)
  write : String → String → m (Except IoError Unit)
  list : String → m (Except IoError (List String))
  budget : m Nat

namespace MonadDisk

variable {m : Type → Type} [Monad m] [MonadDisk m]

/-- その path に何かあるか。 -/
def exists? (p : String) : m Bool := do
  return (← kind p).toOption.isSome

/-- その path がファイルか。 -/
def isFile (p : String) : m Bool := do
  return (← kind p).toOption == some .file

/-- その path がディレクトリか。 -/
def isDir (p : String) : m Bool := do
  return (← kind p).toOption == some .dir

end MonadDisk

/-- 状態を足した monad からも、下の monad のディスクに問い合わせる。 -/
instance {σ : Type} {m : Type → Type} [Monad m] [MonadDisk m] : MonadDisk (StateT σ m) where
  kind p := liftM (MonadDisk.kind p : m _)
  read p := liftM (MonadDisk.read p : m _)
  write p c := liftM (MonadDisk.write p c : m _)
  list p := liftM (MonadDisk.list p : m _)
  budget := liftM (MonadDisk.budget : m _)

/-- 途中で止まれる monad からも、下の monad のディスクに問い合わせる。 -/
instance {ε : Type} {m : Type → Type} [Monad m] [MonadDisk m] : MonadDisk (ExceptT ε m) where
  kind p := liftM (MonadDisk.kind p : m _)
  read p := liftM (MonadDisk.read p : m _)
  write p c := liftM (MonadDisk.write p c : m _)
  list p := liftM (MonadDisk.list p : m _)
  budget := liftM (MonadDisk.budget : m _)

end LogLint
