import LogLint.Decimal.Shortest
import LogLint.Json.Value

/-!
# JSON の数の読み書き

## 読む

十進の数は、仮数（64 ビットに収まるまでの桁）と十の指数に分けて読み、`floatOfParts` で
binary64 にする。仮数をまず binary64 に丸め、`10^|e|`（正しく丸めた定数の表）を掛けるか
割る。指数が表を超えるときは 10^308 で割りながら近づける。掛けて無限大になれば範囲外。
この手順は一回ごとに丸めるので、正しく丸めた値と最後の一桁がずれることがある。

## 書く

浮動小数点数は最短の十進表記（`Decimal.Binary64.shortest`）の桁を `FloatLayout` に従って
並べる。既定の `FloatLayout.standard` では、

* 整数で 16 桁以内 — 位取りで書き `.0` を付ける（`3.0`, `12340000000.0`）
* 先頭の桁が 10^15 から 10^0 の位 — 小数点を入れる（`12.34`）
* 10^-1 から 10^-5 の位 — `0.` の後に 0 を補う（`0.001234`）
* それ以外 — 指数で書き、指数には符号を付ける（`1e+30`, `1.8446744073709552e+19`, `5e-324`）

0 は `0.0`、負の 0 は `-0.0`。
-/

namespace LogLint.Json

open LogLint.Decimal

/-! ## 読む -/

/-- 正しく丸めた `10^k` の表（`k = 0, …, 308`）。 -/
def pow10Table : Array Float :=
  (List.range 309).toArray.map fun k => Float.ofBits (Binary64.ofNat (Nat.pow 10 k))

/-- `10^k`。表の外は `none`。 -/
def pow10? (k : Nat) : Option Float := pow10Table[k]?

/-- 無限大か。 -/
def isInfinite (x : Float) : Bool := x.isInf

/-- 仮数と十の指数から binary64 を作る。掛けて無限大になるときは `none`（範囲外）。 -/
def floatOfParts (positive : Bool) (significand : Nat) (exponent : Int) : Option Float :=
  let f := significand.toUInt64.toFloat
  let rec go : Nat → Float → Int → Option Float
    | 0, f, _ => some f
    | fuel + 1, f, e =>
      match pow10? e.natAbs with
      | some p =>
        if e ≥ 0 then
          let g := f * p
          if isInfinite g then none else some g
        else some (f / p)
      | none =>
        if f == 0.0 then some f
        else if e ≥ 0 then none
        else go fuel (f / (pow10? 308).getD 1) (e + 308)
  (go 8 f exponent).map fun g => if positive then g else -g

/-! ## 書く -/

/-- 浮動小数点数の書き方の決まり。 -/
structure FloatLayout where
  /-- 位取りで書く最大の桁数（先頭の桁の位 + 1）。 -/
  maxPositional : Nat
  /-- 小数で書く最小の位：先頭の桁が 10^-`minFraction` の位まで。 -/
  minFraction : Nat
  /-- 指数の前の文字。 -/
  exponentMark : Char
  /-- 正の指数に `+` を付けるか。 -/
  plusSign : Bool

/-- 既定の書き方：16 桁まで位取り、10^-5 の位まで小数、指数は `e+N`、`e-N`。 -/
def FloatLayout.standard : FloatLayout := ⟨16, 5, 'e', true⟩

/-- 十進の桁 `ds`（先頭は 0 でない）と指数 `k`（値は `ds · 10^k`）を並べる。 -/
def FloatLayout.render (l : FloatLayout) (ds : List Char) (k : Int) : String :=
  let len : Int := ds.length
  let kk := len + k
  let zeros (n : Nat) : List Char := List.replicate n '0'
  let expText (t : Int) : List Char :=
    l.exponentMark :: ((if t < 0 then ['-'] else if l.plusSign then ['+'] else []) ++
      (Nat.toDigits 10 t.natAbs))
  let cs :=
    if 0 ≤ k ∧ kk ≤ l.maxPositional then ds ++ zeros k.toNat ++ ['.', '0']
    else if 0 < kk ∧ kk ≤ l.maxPositional then
      ds.take kk.toNat ++ ['.'] ++ ds.drop kk.toNat
    else if -(l.minFraction : Int) < kk ∧ kk ≤ 0 then
      ['0', '.'] ++ zeros (-kk).toNat ++ ds
    else
      match ds with
      | [d] => d :: expText (kk - 1)
      | d :: rest => d :: '.' :: rest ++ expText (kk - 1)
      | [] => expText (kk - 1)
  String.ofList cs

/-- 有限の浮動小数点数の最短の表記。無限大と NaN は `null` と書く。 -/
def floatText (x : Float) : String :=
  match Binary64.decode x.toBits with
  | none => "null"
  | some b =>
    let sign := if b.negative then "-" else ""
    if b.mantissa = 0 then sign ++ "0.0"
    else
      let (d, k) := b.shortest
      sign ++ FloatLayout.standard.render (Nat.toDigits 10 d) k

/-- 整数の十進表記。 -/
def intText (n : Int) : String :=
  (if n < 0 then "-" else "") ++ String.ofList (Nat.toDigits 10 n.natAbs)

/-- 数の表記。 -/
def Number.text : Number → String
  | .unsigned n => intText n
  | .negative n => intText n
  | .float x => floatText x

end LogLint.Json
