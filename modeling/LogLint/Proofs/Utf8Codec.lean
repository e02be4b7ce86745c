import Mathlib
import LogLint.Text.Utf8

/-!
# UTF-8 の読み書きが互いに逆であること

`Utf8.encodeChar` は Lean の `String.utf8EncodeChar` と同じバイト列を作る
（`encodeChar_eq_utf8EncodeChar`）。`Utf8.decode?` はその逆で、読めるのはちょうど文字の列を
符号化したバイト列であり、読んだ結果はその文字の列である（`decode?_eq_some_iff`）。

## 仕組み

`decode?` は先頭バイトで一文字のバイト数を決める。成功する分岐ごとに、

* `decode?_cons_one` などの等式 — その分岐で一文字を読んで残りに進む
* `encodeChar_ofNat_two` などの等式 — その分岐で組み立てた符号点を書くと、読んだバイトに戻る

を一つずつ置く。書いたものを読む向きは前者を、読めたものを書く向きは後者を使い、
どちらも数の範囲の計算は `omega` に任せる。
-/

namespace LogLint.Text.Utf8

/-! ## 符号点の範囲 -/

/-- 文字の符号点はサロゲートでなく、U+10FFFF 以下。 -/
theorem toNat_valid (c : Char) : c.toNat < 0xD800 ∨ (0xDFFF < c.toNat ∧ c.toNat ≤ 0x10FFFF) := by
  have := c.valid
  simp only [UInt32.isValidChar, Nat.isValidChar] at this
  simp only [Char.toNat]
  omega

/-- scalar value の範囲の数は、その符号点の文字になる。 -/
theorem toNat_ofNat {n : Nat} (h : n < 0xD800 ∨ (0xDFFF < n ∧ n ≤ 0x10FFFF)) :
    (Char.ofNat n).toNat = n := by
  rw [Char.toNat_ofNat, if_pos (by simp only [Nat.isValidChar]; omega)]

theorem tailBits_eq_some_iff {b : UInt8} {t : Nat} :
    tailBits b = some t ↔ 0x80 ≤ b.toNat ∧ b.toNat ≤ 0xBF ∧ t = b.toNat - 0x80 := by
  unfold tailBits
  split_ifs with h
  · simp [h, eq_comm]
  · simp only [false_iff]
    omega

/-- 値 `n` のバイト。 -/
theorem toUInt8_eq_of_toNat {a : UInt8} {n : Nat} (h : n = a.toNat) : n.toUInt8 = a := by
  rw [h, Nat.toUInt8_eq, UInt8.ofNat_toNat]

/-! ## 一文字を書く -/

/-- 書き方は Lean の `String.utf8EncodeChar` と同じ。 -/
theorem encodeChar_eq_utf8EncodeChar (c : Char) : encodeChar c = String.utf8EncodeChar c := by
  have hc := toNat_valid c
  unfold encodeChar String.utf8EncodeChar
  simp only [Char.toNat] at hc ⊢
  split_ifs <;>
    simp only [List.cons.injEq, and_true, Nat.toUInt8_eq, UInt8.ext_iff, UInt8.toNat_ofNat'] <;>
    omega

theorem encode_eq_flatMap_utf8EncodeChar (cs : List Char) :
    encode cs = cs.flatMap String.utf8EncodeChar := by
  rw [encode, funext encodeChar_eq_utf8EncodeChar]

@[simp] theorem encode_nil : encode [] = [] := rfl

@[simp] theorem encode_cons (c : Char) (cs : List Char) :
    encode (c :: cs) = encodeChar c ++ encode cs := List.flatMap_cons

/-! ## 一文字を読む

`decode?` の成功する四つの分岐。先頭バイト `a` の範囲が一文字のバイト数を決める。 -/

section Decode

variable {a b c d : UInt8} {rest : List UInt8}

theorem decode?_cons_one (ha : a.toNat < 0x80) :
    decode? (a :: rest) = (decode? rest).map (Char.ofNat a.toNat :: ·) := by
  cases rest <;> simp [decode?, ha]

theorem decode?_cons_two (ha : 0xC2 ≤ a.toNat ∧ a.toNat ≤ 0xDF) {t : Nat} (hb : tailBits b = some t) :
    decode? (a :: b :: rest) = (decode? rest).map (Char.ofNat ((a.toNat - 0xC0) * 64 + t) :: ·) := by
  rw [decode?.eq_2, if_neg (by omega), if_pos ha, hb]

theorem decode?_cons_three (ha : 0xE0 ≤ a.toNat ∧ a.toNat ≤ 0xEF) {t₁ t₂ : Nat}
    (hb : tailBits b = some t₁) (hc : tailBits c = some t₂) (hs : secondInRange a.toNat b.toNat) :
    decode? (a :: b :: c :: rest) =
      (decode? rest).map (Char.ofNat ((a.toNat - 0xE0) * 4096 + t₁ * 64 + t₂) :: ·) := by
  rw [decode?.eq_2, if_neg (by omega), if_neg (by omega), if_pos ha]
  simp only [hb, hc, hs, if_true]

theorem decode?_cons_four (ha : 0xF0 ≤ a.toNat ∧ a.toNat ≤ 0xF4) {t₁ t₂ t₃ : Nat}
    (hb : tailBits b = some t₁) (hc : tailBits c = some t₂) (hd : tailBits d = some t₃)
    (hs : secondInRange a.toNat b.toNat) :
    decode? (a :: b :: c :: d :: rest) =
      (decode? rest).map
        (Char.ofNat ((a.toNat - 0xF0) * 262144 + t₁ * 4096 + t₂ * 64 + t₃) :: ·) := by
  rw [decode?.eq_2, if_neg (by omega), if_neg (by omega), if_neg (by omega), if_pos ha]
  simp only [hb, hc, hd, hs, if_true]

end Decode

/-- 二バイト目の範囲を数の不等式で。 -/
theorem secondInRange_iff {lead b : Nat} :
    secondInRange lead b = true ↔ 0x80 ≤ b ∧ b ≤ 0xBF ∧ (lead = 0xE0 → 0xA0 ≤ b) ∧
      (lead = 0xED → b ≤ 0x9F) ∧ (lead = 0xF0 → 0x90 ≤ b) ∧ (lead = 0xF4 → b ≤ 0x8F) := by
  unfold secondInRange
  split_ifs <;> simp only [Bool.and_eq_true, decide_eq_true_eq] <;> omega

theorem ofNat_eq_of_toNat {c : Char} {n : Nat} (h : n = c.toNat) : Char.ofNat n = c := by
  rw [h, Char.ofNat_toNat]

/-- **一文字の書き方は、読むとその文字になり、ちょうどその分だけ進む。** -/
theorem decode?_encodeChar_append (c : Char) (rest : List UInt8) :
    decode? (encodeChar c ++ rest) = (decode? rest).map (c :: ·) := by
  have hc := toNat_valid c
  -- 書いたバイトの値は 256 未満なので、そのまま読める
  have hb : ∀ n, n < 256 → (n.toUInt8).toNat = n := fun n hn => by
    rw [Nat.toUInt8_eq, UInt8.toNat_ofNat', Nat.mod_eq_of_lt hn]
  have htail : ∀ n, (Nat.toUInt8 (0x80 + n % 64)).toNat = 0x80 + n % 64 := fun n =>
    hb _ (by omega)
  have ht : ∀ n, tailBits (Nat.toUInt8 (0x80 + n % 64)) = some (n % 64) := fun n =>
    tailBits_eq_some_iff.2 ⟨by rw [htail]; omega, by rw [htail]; omega, by rw [htail]; omega⟩
  unfold encodeChar
  dsimp only
  split_ifs with h₁ h₂ h₃
  · rw [List.singleton_append, decode?_cons_one (by rw [hb _ (by omega)]; omega),
      ofNat_eq_of_toNat (c := c) (hb _ (by omega))]
  · have ha := hb (0xC0 + c.toNat / 64) (by omega)
    rw [List.cons_append, List.singleton_append,
      decode?_cons_two (by rw [ha]; omega) (ht c.toNat), ofNat_eq_of_toNat (c := c) (by rw [ha]; omega)]
  · have ha := hb (0xE0 + c.toNat / 4096) (by omega)
    have hs : secondInRange (0xE0 + c.toNat / 4096) (0x80 + c.toNat / 64 % 64) = true := by
      unfold secondInRange
      split_ifs <;> simp only [Bool.and_eq_true, decide_eq_true_eq] <;> omega
    rw [List.cons_append, List.cons_append, List.singleton_append,
      decode?_cons_three (by rw [ha]; omega) (ht (c.toNat / 64)) (ht c.toNat)
        (by rw [ha, htail]; exact hs),
      ofNat_eq_of_toNat (c := c) (by rw [ha]; omega)]
  · have ha := hb (0xF0 + c.toNat / 262144) (by omega)
    have hs : secondInRange (0xF0 + c.toNat / 262144) (0x80 + c.toNat / 4096 % 64) = true := by
      unfold secondInRange
      split_ifs <;> simp only [Bool.and_eq_true, decide_eq_true_eq] <;> omega
    rw [List.cons_append, List.cons_append, List.cons_append, List.singleton_append,
      decode?_cons_four (by rw [ha]; omega) (ht (c.toNat / 4096)) (ht (c.toNat / 64)) (ht c.toNat)
        (by rw [ha, htail]; exact hs),
      ofNat_eq_of_toNat (c := c) (by rw [ha]; omega)]

/-! ## 読んだ文字を書く

`decode?` の成功する分岐ごとに、組み立てた符号点は scalar value で、書くと読んだバイトに戻る。 -/

section Encode

variable {a b c d : UInt8}

theorem encodeChar_ofNat_one (ha : a.toNat < 0x80) : encodeChar (Char.ofNat a.toNat) = [a] := by
  have hv := toNat_ofNat (n := a.toNat) (by omega)
  unfold encodeChar
  simp only [hv, if_pos ha, List.cons.injEq, and_true]
  exact toUInt8_eq_of_toNat rfl

theorem encodeChar_ofNat_two (ha : 0xC2 ≤ a.toNat ∧ a.toNat ≤ 0xDF) {t : Nat}
    (hb : tailBits b = some t) : encodeChar (Char.ofNat ((a.toNat - 0xC0) * 64 + t)) = [a, b] := by
  -- 符号点を `t` のまま扱う。`t` を代入すると、文字の妥当性の判定を数の再帰で解こうとして止まらない
  obtain ⟨hb₁, hb₂, ht⟩ := tailBits_eq_some_iff.1 hb
  have hv := toNat_ofNat (n := (a.toNat - 0xC0) * 64 + t) (by omega)
  unfold encodeChar
  simp only [hv]
  rw [if_neg (by omega), if_pos (by omega)]
  simp only [List.cons.injEq, and_true]
  exact ⟨toUInt8_eq_of_toNat (by omega), toUInt8_eq_of_toNat (by omega)⟩

theorem encodeChar_ofNat_three (ha : 0xE0 ≤ a.toNat ∧ a.toNat ≤ 0xEF) {t₁ t₂ : Nat}
    (hb : tailBits b = some t₁) (hc : tailBits c = some t₂) (hs : secondInRange a.toNat b.toNat) :
    encodeChar (Char.ofNat ((a.toNat - 0xE0) * 4096 + t₁ * 64 + t₂)) = [a, b, c] := by
  obtain ⟨hb₁, hb₂, ht₁⟩ := tailBits_eq_some_iff.1 hb
  obtain ⟨hc₁, hc₂, ht₂⟩ := tailBits_eq_some_iff.1 hc
  have hs' := secondInRange_iff.1 hs
  -- E0 の後ろは長すぎる符号化を、ED の後ろはサロゲートを除く
  have hv := toNat_ofNat (n := (a.toNat - 0xE0) * 4096 + t₁ * 64 + t₂) (by omega)
  unfold encodeChar
  simp only [hv]
  rw [if_neg (by omega), if_neg (by omega), if_pos (by omega)]
  simp only [List.cons.injEq, and_true]
  exact ⟨toUInt8_eq_of_toNat (by omega), toUInt8_eq_of_toNat (by omega),
    toUInt8_eq_of_toNat (by omega)⟩

theorem encodeChar_ofNat_four (ha : 0xF0 ≤ a.toNat ∧ a.toNat ≤ 0xF4) {t₁ t₂ t₃ : Nat}
    (hb : tailBits b = some t₁) (hc : tailBits c = some t₂) (hd : tailBits d = some t₃)
    (hs : secondInRange a.toNat b.toNat) :
    encodeChar (Char.ofNat ((a.toNat - 0xF0) * 262144 + t₁ * 4096 + t₂ * 64 + t₃)) = [a, b, c, d] := by
  obtain ⟨hb₁, hb₂, ht₁⟩ := tailBits_eq_some_iff.1 hb
  obtain ⟨hc₁, hc₂, ht₂⟩ := tailBits_eq_some_iff.1 hc
  obtain ⟨hd₁, hd₂, ht₃⟩ := tailBits_eq_some_iff.1 hd
  have hs' := secondInRange_iff.1 hs
  -- F0 の後ろは長すぎる符号化を、F4 の後ろは U+10FFFF を超える値を除く
  have hv := toNat_ofNat (n := (a.toNat - 0xF0) * 262144 + t₁ * 4096 + t₂ * 64 + t₃) (by omega)
  unfold encodeChar
  simp only [hv]
  rw [if_neg (by omega), if_neg (by omega), if_neg (by omega)]
  simp only [List.cons.injEq, and_true]
  exact ⟨toUInt8_eq_of_toNat (by omega), toUInt8_eq_of_toNat (by omega),
    toUInt8_eq_of_toNat (by omega), toUInt8_eq_of_toNat (by omega)⟩

end Encode

/-- **読めたバイト列は、読んだ文字の列を書いたもの。** -/
theorem encode_of_decode? {bs : List UInt8} {cs : List Char} (h : decode? bs = some cs) :
    encode cs = bs := by
  -- `decode?` の分岐に沿う。読めない分岐では `h` が `none = some cs` になる
  fun_induction decode? bs generalizing cs
  case case1 => cases h; rfl
  case case2 a rest lead ha ih =>
    obtain ⟨cs, hcs, rfl⟩ := Option.map_eq_some_iff.1 h
    rw [encode_cons, encodeChar_ofNat_one ha, ih hcs, List.singleton_append]
  case case3 a lead _ ha b rest t hb ih =>
    obtain ⟨cs, hcs, rfl⟩ := Option.map_eq_some_iff.1 h
    rw [encode_cons, encodeChar_ofNat_two ha hb, ih hcs]
    rfl
  case case6 a lead _ _ ha b c rest t₁ t₂ hc hb hs ih =>
    obtain ⟨cs, hcs, rfl⟩ := Option.map_eq_some_iff.1 h
    rw [encode_cons, encodeChar_ofNat_three ha hb hc hs, ih hcs]
    rfl
  case case10 a lead _ _ _ ha b c d rest t₁ t₂ t₃ hd hc hb hs ih =>
    obtain ⟨cs, hcs, rfl⟩ := Option.map_eq_some_iff.1 h
    rw [encode_cons, encodeChar_ofNat_four ha hb hc hd hs, ih hcs]
    rfl
  all_goals cases h

/-- 書いた文字の列を読むと、元の列に戻る。 -/
theorem decode?_encode_append : ∀ (cs : List Char) (rest : List UInt8),
    decode? (encode cs ++ rest) = (decode? rest).map (cs ++ ·)
  | [], rest => by simp
  | c :: cs, rest => by
    rw [encode_cons, List.append_assoc, decode?_encodeChar_append, decode?_encode_append cs rest,
      Option.map_map]
    rfl

theorem decode?_encode (cs : List Char) : decode? (encode cs) = some cs := by
  simpa [decode?] using decode?_encode_append cs []

/-- **読めるのはちょうど文字の列を書いたバイト列で、読んだ結果はその列。** -/
theorem decode?_eq_some_iff {bs : List UInt8} {cs : List Char} :
    decode? bs = some cs ↔ encode cs = bs :=
  ⟨encode_of_decode?, fun h => h ▸ decode?_encode cs⟩

/-- 文字列として読めるのは、その文字列の UTF-8 のバイト列だけ。 -/
theorem toString?_eq_some_iff {bs : List UInt8} {s : String} :
    toString? bs = some s ↔ bs = s.toList.flatMap String.utf8EncodeChar := by
  rw [← encode_eq_flatMap_utf8EncodeChar, toString?, Option.map_eq_some_iff]
  constructor
  · rintro ⟨cs, hcs, rfl⟩
    rw [String.toList_ofList, decode?_eq_some_iff.1 hcs]
  · rintro rfl
    exact ⟨s.toList, decode?_encode _, String.ofList_toList⟩

end LogLint.Text.Utf8
