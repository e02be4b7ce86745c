/-!
# JSON の値

読んだ JSON をそのまま表す木。object は読んだ順のキーと値の組の列で、同じキーが二度現れれば
二度とも残す。構造体として読むときは、同じフィールドが二度あることを誤りにできる。

JSON の値の表（キーの重複がない object）として使うときは `collapse` を通す。重複したキーは
最初に現れた位置に、最後に現れた値で残る。

数は読んだときの形で持つ：64 ビットに収まる非負整数、64 ビットに収まる負の整数、浮動小数点数。
整数の範囲を超える数と、小数点か指数を持つ数は浮動小数点数になる。
-/

namespace LogLint

/-- 読んだ JSON の数。 -/
inductive Json.Number where
  /-- 2^64 未満の非負整数。 -/
  | unsigned (n : Nat)
  /-- -2^63 以上の負の整数。 -/
  | negative (n : Int)
  /-- 浮動小数点数。 -/
  | float (x : Float)

/-- JSON の木。object のキーの並びと重複を保つ。 -/
inductive Json where
  | null
  | bool (b : Bool)
  | number (n : Json.Number)
  | string (s : String)
  | array (items : List Json)
  | object (entries : List (String × Json))

namespace Json

/-- 組の列に組を足す。キーがすでにあればその位置の値を置き換える。 -/
def upsert (entries : List (String × Json)) (key : String) (value : Json) :
    List (String × Json) :=
  if entries.any (·.1 == key) then
    entries.map fun e => if e.1 == key then (key, value) else e
  else entries ++ [(key, value)]

mutual

/-- キーの重複を除いた値の表にする：最初の位置に最後の値を残す。 -/
def collapse : Json → Json
  | .array items => .array (collapseItems items)
  | .object entries => .object (collapseEntries [] entries)
  | j => j

/-- 配列の要素ごとに `collapse` する。 -/
def collapseItems : List Json → List Json
  | [] => []
  | j :: rest => collapse j :: collapseItems rest

/-- object の組を順に表へ入れる。 -/
def collapseEntries (acc : List (String × Json)) : List (String × Json) → List (String × Json)
  | [] => acc
  | (k, v) :: rest => collapseEntries (upsert acc k (collapse v)) rest

end

/-- object のキーで値を引く。同じキーが複数あれば最初のもの。 -/
def field? (j : Json) (key : String) : Option Json :=
  match j with
  | .object entries => entries.lookup key
  | _ => none

end Json

end LogLint
