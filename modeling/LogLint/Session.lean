import LogLint.Fs.Disk

/-!
# プログラムの一回の実行

実行は、ディスクに問い合わせながら標準出力と標準エラーに行を書き、終わりの状態を返す。
途中で止まる誤りも起こりうる。そのときはそれまでに書いたものを残し、標準エラーに
`Error: <理由>` を書いて、状態 2 で終わる。

終わりの状態は三つ。

* `success`（0）— どの書き出しも読め、直すところもない
* `failure`（1）— 問題が見つかったか、直すべき鍵が残っている
* `error`（2）— 読めない書き出しがあったか、設定やディスクの誤りで止まった

読めない書き出しは、問題が見つかったことより先に数える。
-/

namespace LogLint

/-- 書いたもの。 -/
structure Transcript where
  stdout : String := ""
  stderr : String := ""
  deriving DecidableEq, Repr

/-- 一回の実行の monad：書いたものを持ち、止まる誤りを起こせる。 -/
abbrev Session (m : Type → Type) := ExceptT String (StateT Transcript m)

/-- 終わりの状態。 -/
inductive ExitStatus where
  | success
  | failure
  | error
  deriving DecidableEq, Repr

namespace ExitStatus

/-- 状態の番号。 -/
def code : ExitStatus → Nat
  | .success => 0
  | .failure => 1
  | .error => 2

/-- 読めない書き出しの数と、問題があったかから決まる状態。 -/
def ofOutcome (unreadable : Nat) (findings : Bool) : ExitStatus :=
  if 0 < unreadable then .error else if findings then .failure else .success

end ExitStatus

/-- 実行の結果。 -/
structure Outcome where
  exit : Nat
  stdout : String
  stderr : String
  deriving DecidableEq, Repr

namespace Session

variable {m : Type → Type} [Monad m]

/-- 標準出力にそのまま書く。 -/
def print (text : String) : Session m Unit :=
  modify fun t => { t with stdout := t.stdout ++ text }

/-- 標準出力に一行書く。 -/
def say (line : String) : Session m Unit := print (line ++ "\n")

/-- 標準エラーに一行書く。 -/
def warn (line : String) : Session m Unit :=
  modify fun t => { t with stderr := t.stderr ++ line ++ "\n" }

/-- 実行を終えて結果にする。 -/
def finish (s : Session m ExitStatus) : m Outcome := do
  let (r, t) ← (ExceptT.run s).run {}
  match r with
  | .ok status => return ⟨status.code, t.stdout, t.stderr⟩
  | .error e => return ⟨ExitStatus.error.code, t.stdout, t.stderr ++ "Error: " ++ e ++ "\n"⟩

end Session

end LogLint
