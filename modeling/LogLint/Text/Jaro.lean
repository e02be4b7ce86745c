/-!
# 綴りの近さ

二つの文字列の Jaro の近さ。誤った名前に近い名前を薦めるのに使う。

## 仕組み

`a` の文字を左から順に、`b` の中のまだ使っていない同じ文字で、位置の差が
`max |a| |b| / 2 - 1` 以内の一番左のものと組にする。組の数を `m`、組にした文字を
それぞれの順に並べたとき食い違う位置の数の半分を `t` とすると、近さは

  `(m / |a| + m / |b| + (m - t) / m) / 3`

で、組がなければ 0、両方空なら 1。割り算と足し算は倍精度の浮動小数点数で、この順に行う。
-/

namespace LogLint.Text

/-- `a` の文字と組になる `b` の位置。`used` は `b` の中で使った位置の印。 -/
def jaroPairs (ys : Array Char) (range : Nat) :
    Nat → List Char → Array Bool → List Nat × Array Bool
  | _, [], used => ([], used)
  | i, x :: xs, used =>
    let lo := i - range
    let hi := min ys.size (i + range + 1)
    let hit := (List.range' lo (hi - lo)).find? fun j =>
      ys[j]? == some x && !(used[j]?.getD true)
    match hit with
    | some j =>
      let (rest, used') := jaroPairs ys range (i + 1) xs (used.set! j true)
      (i :: rest, used')
    | none => jaroPairs ys range (i + 1) xs used

/-- Jaro の近さ。 -/
def jaro (a b : String) : Float :=
  let xs := a.toList
  let ys := b.toList.toArray
  if xs.isEmpty && ys.isEmpty then 1
  else if xs.isEmpty || ys.isEmpty then 0
  else
    let range := max xs.length ys.size / 2 - 1
    let (fromA, used) := jaroPairs ys range 0 xs (Array.replicate ys.size false)
    let m := fromA.length
    if m = 0 then 0
    else
      let left := fromA.filterMap fun i => xs[i]?
      let right := (List.range ys.size).filterMap fun j =>
        if used[j]?.getD false then ys[j]? else none
      let t := ((left.zip right).filter fun (p, q) => p != q).length / 2
      let mf := Float.ofNat m
      (mf / Float.ofNat xs.length + mf / Float.ofNat ys.size + Float.ofNat (m - t) / mf) / 3

end LogLint.Text
