import LogLint.Decimal.Binary64

/-!
# 最短の十進表記

有限で 0 でない binary64 の値 `v` に対し、読み戻すと `v` に丸まる十進数 `d · 10^k` のうち、
桁数が最も少なく、その中で `v` に最も近いものを求める（ちょうど中間なら `d` が偶数の方）。

## 仕組み

`v` に丸まる実数の区間は、`v` と上下の隣の値との中点で挟まれる。端を含むのは `v` の仮数が
偶数のとき（最近接・偶数丸めで `v` に戻るため）。区間の端と候補の比較は、`2^p` と `10^q` の
負の指数を反対側へ移した自然数の比較で正確に行う。

桁数 `n = 1, 2, …, 17` の順に、`10^k` の格子（`k` は `v` の先頭の桁の指数から決まる）の上で
`v` を挟む二つの点を調べる。格子の点が区間に入るなら、その二点のどちらかも入るので、
最初に当たった桁数が最短で、当たった点のうち近い方が答えになる。17 桁あれば必ず当たる。
-/

namespace LogLint.Decimal

/-- `a · 2^p` と `b · 10^q` を比べる。 -/
def compareScaled (a : Nat) (p : Int) (b : Nat) (q : Int) : Ordering :=
  compare (a * Nat.pow 2 p.toNat * Nat.pow 10 (-q).toNat) (b * Nat.pow 10 q.toNat * Nat.pow 2 (-p).toNat)

namespace Binary64

/-- `10^t ≤ v` か。 -/
def tenPowLe (x : Binary64) (t : Int) : Bool :=
  compareScaled x.mantissa x.exponent 1 t != .lt

/-- 先頭の桁の指数：`10^t ≤ v < 10^(t+1)` となる `t`。二進の桁数からの見積もりを直す。 -/
def leadingExponent (x : Binary64) : Int :=
  let b : Int := (Binary64.bitLength x.mantissa : Int) - 1 + x.exponent
  let t0 := Int.fdiv (b * 30103) 100000
  let t1 := if x.tenPowLe (t0 + 1) then t0 + 1 else t0
  let t2 := if x.tenPowLe (t1 + 1) then t1 + 1 else t1
  if x.tenPowLe t2 then t2 else t2 - 1

/-- `d · 10^k` が `v` に丸まる区間に入るか。 -/
def inInterval (x : Binary64) (d : Nat) (k : Int) : Bool :=
  let lo := 4 * x.mantissa - (if x.lowerGapHalf then 1 else 2)
  let hi := 4 * x.mantissa + 2
  let inclusive := x.mantissa % 2 = 0
  let c1 := compareScaled lo (x.exponent - 2) d k
  let c2 := compareScaled hi (x.exponent - 2) d k
  (if inclusive then c1 != .gt else c1 == .lt) && (if inclusive then c2 != .lt else c2 == .gt)

/-- `⌊v / 10^k⌋`。 -/
def floorScaled (x : Binary64) (k : Int) : Nat :=
  x.mantissa * Nat.pow 2 x.exponent.toNat * Nat.pow 10 (-k).toNat /
    (Nat.pow 2 (-x.exponent).toNat * Nat.pow 10 k.toNat)

/-- `n` 桁の格子で区間に入る点のうち `v` に最も近いもの。 -/
def candidate (x : Binary64) (n : Nat) : Option (Nat × Int) :=
  let k := x.leadingExponent - n + 1
  let q := x.floorScaled k
  match x.inInterval q k, x.inInterval (q + 1) k with
  | true, true =>
    match compareScaled (2 * x.mantissa) x.exponent (2 * q + 1) k with
    | .lt => some (q, k)
    | .gt => some (q + 1, k)
    | .eq => some (if q % 2 = 0 then q else q + 1, k)
  | true, false => some (q, k)
  | false, true => some (q + 1, k)
  | false, false => none

/-- 末尾の 0 を指数へ移す。 -/
def trimZeros : Nat → Nat × Int → Nat × Int
  | 0, p => p
  | fuel + 1, (d, k) => if d % 10 = 0 && d > 0 then trimZeros fuel (d / 10, k + 1) else (d, k)

/-- 最短の十進表記 `(d, k)`：`v` に丸まる `d · 10^k` のうち桁数が最少で最も近いもの。 -/
def shortest (x : Binary64) : Nat × Int :=
  let found := (List.range 17).findSome? fun i => x.candidate (i + 1)
  trimZeros 20 (found.getD (x.floorScaled (x.leadingExponent - 16), x.leadingExponent - 16))

end Binary64

end LogLint.Decimal
