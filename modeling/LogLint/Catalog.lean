/-!
# 呼び出しの形の目録

`go.uber.org/zap` の関数とメソッドのうち、規則が見るものを完全修飾名で引く目録。
目録にない呼び出しはログの呼び出しではないので無視される。

呼び出しの形（`Shape`）は引数の並び方を表す。

* `zap.L()` と `zap.S()` — 大域の logger を返す。引数は見ない
* `Logger` の各 level（`Info` など）— 0 番目がメッセージ、その後ろが `zap.Field`
* `SugaredLogger` の各 level — 引数はすべて値で、メッセージはない
* `SugaredLogger` の `…f` — 0 番目が書式、その後ろが値
* `SugaredLogger` の `…w` — 0 番目がメッセージ、その後ろがキーと値の交互の並び
* `Logger.With`、`Logger.Sugar`、`SugaredLogger.With` — メッセージはない

全部で 2 + 7 × 4 + 3 = 33 の形がある。
-/

namespace LogLint

/-- ログのパッケージの import path。 -/
def zapPackage : String := "go.uber.org/zap"

/-- 呼び出しの引数の並び方。 -/
structure Shape where
  /-- `zap.L()` か `zap.S()`。 -/
  isGlobal : Bool
  /-- `SugaredLogger` のメソッド。 -/
  isSugar : Bool
  /-- 後ろの引数がキーと値の交互の並び（`Infow` など）。 -/
  isKv : Bool
  /-- メッセージの引数の位置。 -/
  msgPos : Option Nat
  /-- 後ろの（可変長の）引数が始まる位置。 -/
  argsStart : Nat
  deriving DecidableEq, Repr

namespace Shape

/-- 大域の logger を返す関数の形。 -/
def global : Shape := ⟨true, false, false, none, 0⟩

/-- メソッドの形。メッセージがあれば 0 番目で、後ろの引数は 1 番目から始まる。 -/
def method (sugar kv hasMsg : Bool) : Shape :=
  ⟨false, sugar, kv, if hasMsg then some 0 else none, if hasMsg then 1 else 0⟩

/-- メッセージの引数。形にメッセージがあり、呼び出しがその位置まで引数を渡しているとき。 -/
def message? {α : Type} (s : Shape) (args : List α) : Option α :=
  s.msgPos.bind fun i => args[i]?

/-- 後ろの引数。足りなければ空。 -/
def variadic {α : Type} (s : Shape) (args : List α) : List α :=
  args.drop s.argsStart

end Shape

namespace Catalog

/-- `Logger` と `SugaredLogger` に共通の level。 -/
def levels : List String := ["Debug", "Info", "Warn", "Error", "DPanic", "Panic", "Fatal"]

/-- `Logger` のメソッドの修飾名の頭。 -/
def loggerPrefix : String := "(*" ++ zapPackage ++ ".Logger)."

/-- `SugaredLogger` のメソッドの修飾名の頭。 -/
def sugaredPrefix : String := "(*" ++ zapPackage ++ ".SugaredLogger)."

/-- 一つの level に属する四つの形。 -/
def levelEntries (level : String) : List (String × Shape) :=
  [(loggerPrefix ++ level, Shape.method false false true),
   (sugaredPrefix ++ level, Shape.method true false false),
   (sugaredPrefix ++ level ++ "f", Shape.method true false true),
   (sugaredPrefix ++ level ++ "w", Shape.method true true true)]

/-- 目録の全体。 -/
def entries : List (String × Shape) :=
  [(zapPackage ++ ".L", Shape.global), (zapPackage ++ ".S", Shape.global)] ++
  levels.flatMap levelEntries ++
  [(loggerPrefix ++ "With", Shape.method false false false),
   (loggerPrefix ++ "Sugar", Shape.method false false false),
   (sugaredPrefix ++ "With", Shape.method true false false)]

/-- 修飾名（vendor を取り除いた後のもの）で形を引く。 -/
def lookup? (name : String) : Option Shape :=
  entries.lookup name

end Catalog

end LogLint
