/-!
# binary64 の値

IEEE 754 の binary64 を、符号と `m · 2^e`（`m`, `e` は整数）の形で読む。最短の十進表記を
求めるにはこの形が要る。逆向きに、正の整数を最も近い binary64 に丸める（`ofNat`）。丸めは
最近接、ちょうど中間なら仮数が偶数の方へ。

* `Binary64.decode` — ビット列から符号、`m`、`e` と、下の隣との間隔が半分かを読む
* `Binary64.ofNat` — 整数を丸めたビット列。表せる最大値を超えれば無限大
-/

namespace LogLint.Decimal

/-- 有限の binary64 の値 `(-1)^negative · mantissa · 2^exponent`。 -/
structure Binary64 where
  negative : Bool
  mantissa : Nat
  exponent : Int
  /-- 下の隣の値との間隔が上の隣との間隔の半分であること（仮数が 2^52 ちょうどの正規数）。 -/
  lowerGapHalf : Bool

namespace Binary64

/-- ビット列を読む。無限大と NaN は `none`。 -/
def decode (bits : UInt64) : Option Binary64 :=
  let n : Nat := bits.toNat
  let negative : Bool := n / Nat.pow 2 63 % 2 == 1
  let biased : Nat := n / Nat.pow 2 52 % 2048
  let fraction : Nat := n % Nat.pow 2 52
  if biased = 2047 then none
  else if biased = 0 then some ⟨negative, fraction, -1074, false⟩
  else some ⟨negative, fraction + Nat.pow 2 52, Int.ofNat biased - 1075, fraction == 0 && biased > 1⟩

/-- `n` の二進の桁数（`n > 0` のとき `2^(bits n - 1) ≤ n < 2^(bits n)`）。 -/
def bitLength (n : Nat) : Nat :=
  if n = 0 then 0 else Nat.log2 n + 1

/-- 正の整数を最も近い binary64 に丸めたビット列。 -/
def ofNat (n : Nat) : UInt64 :=
  if n = 0 then 0
  else
    let len := bitLength n
    if len ≤ 53 then
      -- 正確に表せる。仮数を 53 ビットにそろえて書く
      let m := n * Nat.pow 2 (53 - len)
      let biased := len - 1 + 1023
      (biased * Nat.pow 2 52 + (m - Nat.pow 2 52)).toUInt64
    else
      let shift := len - 53
      let q := n / Nat.pow 2 shift
      let r := n % Nat.pow 2 shift
      let half := Nat.pow 2 (shift - 1)
      let up := r > half || (r = half && q % 2 = 1)
      let q := if up then q + 1 else q
      -- 繰り上がって 2^53 になれば桁が一つ増える
      let (q, len) := if q = Nat.pow 2 53 then (Nat.pow 2 52, len + 1) else (q, len)
      let biased := len - 1 + 1023
      if biased ≥ 2047 then (2047 * Nat.pow 2 52 : Nat).toUInt64
      else (biased * Nat.pow 2 52 + (q - Nat.pow 2 52)).toUInt64

end Binary64

end LogLint.Decimal
