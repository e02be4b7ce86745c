/-!
# Unicode の表の形

文字の性質（一般カテゴリ、大文字・小文字、表示幅など）は Unicode Character Database
から引いた表で決まる。表は符号点の数の配列として書く。

* `RangeSet` — 昇順で重ならない閉区間の並び。`contains` は二分探索
* `CaseMap` — 一定の差で写る符号点の連なりと、複数文字に写る符号点の表

表は数の配列なので、表を引く計算は `decide` でも評価できる。

## 停止性

二分探索は窓 `[lo, hi)` の幅 `hi - lo` が減る。
-/

namespace LogLint.Unicode

/-! ## 区間の集合 -/

/-- 閉区間 `[lo, hi]` の並び。表の生成側が区間を昇順に、重ならないように並べる。 -/
structure RangeSet where
  ranges : Array (Nat × Nat)

namespace RangeSet

/-- 窓 `[lo, hi)` の中で `c` を含む区間を探す。区間が昇順であることだけを使う。 -/
def search (rs : Array (Nat × Nat)) (c lo hi : Nat) : Bool :=
  if lo < hi then
    let mid := (lo + hi) / 2
    match rs[mid]? with
    | none => false
    | some (a, b) =>
      if c < a then search rs c lo mid
      else if b < c then search rs c (mid + 1) hi
      else true
  else false
termination_by hi - lo

/-- `c` がどれかの区間に入っているか。 -/
def contains (t : RangeSet) (c : Nat) : Bool :=
  search t.ranges c 0 t.ranges.size

end RangeSet

/-! ## 大文字・小文字の写像 -/

/-- 一定の差で写る連なり：`lo` から `hi` まで `stride` おきの符号点が `delta` だけずれる。 -/
structure CaseRun where
  lo : Nat
  hi : Nat
  stride : Nat
  delta : Int

/-- 大文字化や小文字化の表。`runs` は一文字に、`multi` は複数文字に写る符号点。 -/
structure CaseMap where
  runs : Array CaseRun
  multi : Array (Nat × List Nat)

namespace CaseMap

/-- 窓 `[lo, hi)` の中で `c` を覆う連なりを探し、写った先を返す。 -/
def searchRun (rs : Array CaseRun) (c lo hi : Nat) : Option Nat :=
  if lo < hi then
    let mid := (lo + hi) / 2
    match rs[mid]? with
    | none => none
    | some r =>
      if c < r.lo then searchRun rs c lo mid
      else if r.hi < c then searchRun rs c (mid + 1) hi
      else if (c - r.lo) % r.stride = 0 then some (c + r.delta).toNat
      else none
  else none
termination_by hi - lo

/-- 窓 `[lo, hi)` の中で複数文字の行を探す。 -/
def searchMulti (ms : Array (Nat × List Nat)) (c lo hi : Nat) : Option (List Nat) :=
  if lo < hi then
    let mid := (lo + hi) / 2
    match ms[mid]? with
    | none => none
    | some (k, v) =>
      if c < k then searchMulti ms c lo mid
      else if k < c then searchMulti ms c (mid + 1) hi
      else some v
  else none
termination_by hi - lo

/-- 符号点の写る先。表になければ自分自身に写る。 -/
def apply (m : CaseMap) (c : Nat) : List Nat :=
  match searchMulti m.multi c 0 m.multi.size with
  | some v => v
  | none =>
    match searchRun m.runs c 0 m.runs.size with
    | some d => [d]
    | none => [c]

end CaseMap

end LogLint.Unicode
