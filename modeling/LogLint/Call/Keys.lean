import LogLint.Catalog
import LogLint.Syntax.Expr

/-!
# 呼び出しの形とフィールドのキー

呼び先の完全修飾名（vendor を取り除いたもの）を表で引くと、ログの呼び出しの形（`Shape`）が
分かる。形が分かれば、メッセージの引数と、可変個の引数の並びに置かれたキーが取り出せる。

## キーの並び

* sugar でない呼び出し — 可変個の引数のうち、`go.uber.org/zap` の関数の呼び出しで引数を
  一つ以上持つもの（`zap.String("k", v)` など）の最初の引数
* sugar で key/value を取る呼び出しと `With` — 引数を二つずつ組にした各組の最初。
  組にならない最後の一つは数えない
* それ以外の sugar の呼び出し — キーはない

## 反復子

キーは、後ろの引数の上を動く反復子（`KeyIter`）が一つずつ返す。状態はキーの置かれ方、後ろの引数、
次に見る位置の三つで、`next?` が次のキーと進んだ状態を返す。

* フィールドの並び — 次に見る位置から、フィールドを作る呼び出しに当たるまで進み、そのキーを返して
  その次の位置に止まる
* キーと値の交互の並び — 次に見る位置とその次がともにあれば、その位置のキーを返して二つ進む
* キーを取らない — 何も返さない

## 停止性

`nextField` は後ろの引数の数から位置を引いた値で止まる。キーを返すたびに位置は進み、引数の数を
超えないので（`next?_index`）、尽きるまで返す `KeyIter.toList` も同じ値で止まる。
-/

namespace LogLint

namespace Call

/-- 呼び先の名前と、ログの呼び出しとしての形。 -/
def resolve? (c : Call) : Option (String × Shape) := do
  let symbol ← c.symbol?
  let shape ← Catalog.lookup? symbol
  return (symbol, shape)

/-- メッセージの引数。 -/
def message? (c : Call) (s : Shape) : Option Expr := s.message? c.args

end Call

/-- キーの置かれ方。 -/
inductive KeyLayout where
  /-- フィールドを作る関数の呼び出しが並ぶ。 -/
  | fields
  /-- キーと値が交互に並ぶ。 -/
  | pairs
  /-- キーを取らない。 -/
  | empty
  deriving DecidableEq, Repr

/-- 呼び出しと形から、キーの置かれ方を決める。 -/
def KeyLayout.of (c : Call) (s : Shape) : KeyLayout :=
  if !s.isSugar then .fields
  else if s.isKv || c.callee.any (·.name == "With") then .pairs
  else .empty

/-- フィールドを作る呼び出しのキー：`go.uber.org/zap` の関数の最初の引数。 -/
def Expr.fieldKey? (e : Expr) : Option Expr := do
  let c ← e.asCall?
  let pkg ← c.pkgPath?
  if pkg = zapPackage then c.args.head? else none

/-- キーを一つずつ返す反復子。 -/
structure KeyIter where
  layout : KeyLayout
  /-- 後ろの引数。 -/
  args : List Expr
  /-- 次に見る位置。 -/
  index : Nat
  deriving Repr

namespace KeyIter

/-- 呼び出しの後ろの引数の始めに置いた反復子。 -/
def new (c : Call) (s : Shape) : KeyIter := ⟨KeyLayout.of c s, s.variadic c.args, 0⟩

/-- `i` 番目から、フィールドを作る呼び出しを探す。見つかればそのキーと、その次の位置。 -/
def nextField (args : List Expr) (i : Nat) : Option (Expr × Nat) :=
  if h : i < args.length then
    match args[i].fieldKey? with
    | some key => some (key, i + 1)
    | none => nextField args (i + 1)
  else none
termination_by args.length - i

/-- 次のキーと、それを返した後の反復子。 -/
def next? (it : KeyIter) : Option (Expr × KeyIter) :=
  match it.layout with
  | .fields => (nextField it.args it.index).map fun (key, i) => (key, { it with index := i })
  | .pairs =>
    -- 組にならない最後の一つは、キーの位置でない
    if h : it.index + 1 < it.args.length then
      some (it.args[it.index], { it with index := it.index + 2 })
    else none
  | .empty => none

theorem nextField_index {args : List Expr} {i j : Nat} {key : Expr}
    (h : nextField args i = some (key, j)) : i < j ∧ j ≤ args.length := by
  fun_induction nextField args i with
  | case1 i hi key' hkey => cases h; omega
  | case2 i hi hkey ih => have := ih h; omega
  | case3 => cases h

/-- キーを返すたびに、位置は引数の数を超えずに進む。 -/
theorem next?_index {it it' : KeyIter} {key : Expr} (h : it.next? = some (key, it')) :
    it'.args = it.args ∧ it.index < it'.index ∧ it'.index ≤ it.args.length := by
  unfold next? at h
  split at h
  · obtain ⟨⟨key', j⟩, hj, he⟩ := Option.map_eq_some_iff.1 h
    cases he
    have := nextField_index hj
    exact ⟨rfl, this.1, this.2⟩
  · split at h
    · cases h
      exact ⟨rfl, by simp, by simp; omega⟩
    · cases h
  · cases h

/-- 反復子が尽きるまでに返すキーを順に並べる。 -/
def toList (it : KeyIter) : List Expr :=
  match it.next?.attach with
  | none => []
  | some ⟨(key, it'), _hmem⟩ => key :: it'.toList
termination_by it.args.length - it.index
decreasing_by
  have := next?_index _hmem
  rw [this.1]
  omega

end KeyIter

/-- 呼び出しの中のキーを、反復子が返す順に並べる。 -/
def Call.keys (c : Call) (s : Shape) : List Expr := (KeyIter.new c s).toList

end LogLint
