/-!
# UTF-8

文字とバイト列の間の符号化（RFC 3629）。Go の文字列リテラルは `\x` と八進の escape で
任意のバイトを書けるので、読んだ結果はまずバイト列になり、正しい UTF-8 のときだけ文字列になる。

* `encodeChar` — 一文字を 1 から 4 バイトにする
* `decode?` — バイト列を文字の列にする。RFC 3629 §4 の文法に合わない列（長すぎる符号化、
  サロゲート、U+10FFFF を超える値、途中で切れた列）は `none`

## 停止性

`decode?` はバイト列の上の構造的な再帰で、一度に一文字分のバイトを読む。
-/

namespace LogLint.Text.Utf8

/-- 継続バイト `10xxxxxx` の下位 6 ビット。 -/
def tailBits (b : UInt8) : Option Nat :=
  if 0x80 ≤ b.toNat ∧ b.toNat ≤ 0xBF then some (b.toNat - 0x80) else none

/-- 一文字の UTF-8 符号化。 -/
def encodeChar (c : Char) : List UInt8 :=
  let n := c.toNat
  if n < 0x80 then [n.toUInt8]
  else if n < 0x800 then [(0xC0 + n / 64).toUInt8, (0x80 + n % 64).toUInt8]
  else if n < 0x10000 then
    [(0xE0 + n / 4096).toUInt8, (0x80 + n / 64 % 64).toUInt8, (0x80 + n % 64).toUInt8]
  else
    [(0xF0 + n / 262144).toUInt8, (0x80 + n / 4096 % 64).toUInt8,
      (0x80 + n / 64 % 64).toUInt8, (0x80 + n % 64).toUInt8]

/-- 文字の列の UTF-8 符号化。 -/
def encode (cs : List Char) : List UInt8 := cs.flatMap encodeChar

/-- 二バイト目の範囲。先頭バイトが E0, ED, F0, F4 のときだけ狭い（RFC 3629 §4）。 -/
def secondInRange (lead b : Nat) : Bool :=
  if lead = 0xE0 then 0xA0 ≤ b && b ≤ 0xBF
  else if lead = 0xED then 0x80 ≤ b && b ≤ 0x9F
  else if lead = 0xF0 then 0x90 ≤ b && b ≤ 0xBF
  else if lead = 0xF4 then 0x80 ≤ b && b ≤ 0x8F
  else 0x80 ≤ b && b ≤ 0xBF

/-- バイト列を文字の列として読む。正しい UTF-8 でなければ `none`。 -/
def decode? : List UInt8 → Option (List Char)
  | [] => some []
  | a :: rest =>
    let lead := a.toNat
    if lead < 0x80 then (decode? rest).map (Char.ofNat lead :: ·)
    else if 0xC2 ≤ lead ∧ lead ≤ 0xDF then
      match rest with
      | b :: rest =>
        match tailBits b with
        | some t => (decode? rest).map (Char.ofNat ((lead - 0xC0) * 64 + t) :: ·)
        | none => none
      | [] => none
    else if 0xE0 ≤ lead ∧ lead ≤ 0xEF then
      match rest with
      | b :: c :: rest =>
        match tailBits b, tailBits c with
        | some t1, some t2 =>
          if secondInRange lead b.toNat then
            (decode? rest).map (Char.ofNat ((lead - 0xE0) * 4096 + t1 * 64 + t2) :: ·)
          else none
        | _, _ => none
      | _ => none
    else if 0xF0 ≤ lead ∧ lead ≤ 0xF4 then
      match rest with
      | b :: c :: d :: rest =>
        match tailBits b, tailBits c, tailBits d with
        | some t1, some t2, some t3 =>
          if secondInRange lead b.toNat then
            (decode? rest).map
              (Char.ofNat ((lead - 0xF0) * 262144 + t1 * 4096 + t2 * 64 + t3) :: ·)
          else none
        | _, _, _ => none
      | _ => none
    else none

/-- バイト列を文字列として読む。 -/
def toString? (bytes : List UInt8) : Option String :=
  (decode? bytes).map String.ofList

end LogLint.Text.Utf8
