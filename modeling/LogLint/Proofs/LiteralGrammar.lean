import Mathlib
import LogLint.Proofs.QuotedLiteral

/-!
# 文字列リテラルの文法

`unquote?` が受け取るリテラルを、読み方の規則から直接に書いた文法で言い当てる。生のリテラル
は backquote で挟まれ、中に backquote を持たない。解釈付きのリテラルは `"` で挟まれ、中身は
`BodyDenotes` の規則で並んだ文字と escape の列で、表すバイト列が値の UTF-8 に一致する。

`decodeBody` の一つの分岐が `BodyDenotes` の一つの規則に当たる。規則から読めることは規則に
ついての帰納法で、読めたものが規則に従うことは `decodeBody` の分岐に沿った帰納法で示す。
-/

namespace LogLint.Go.StringLit

/-! ## 数字 -/

/-- `c` は値 `d` の 16 進の数字。大文字も小文字も読む。 -/
def IsHexDigit (c : Char) (d : Nat) : Prop :=
  d < 16 ∧ (c = Nat.digitChar d ∨ c = (Nat.digitChar d).toUpper)

/-- `c` は値 `d` の 8 進の数字。 -/
def IsOctalDigit (c : Char) (d : Nat) : Prop := d < 8 ∧ c = Nat.digitChar d

instance (c : Char) (d : Nat) : Decidable (IsHexDigit c d) := inferInstanceAs (Decidable (_ ∧ _))
instance (c : Char) (d : Nat) : Decidable (IsOctalDigit c d) := inferInstanceAs (Decidable (_ ∧ _))

/-- 数字の列 `ds` が、上の桁から読んで `base` 進の値 `n` を表す。 -/
def Numeral (digit : Char → Nat → Prop) (base : Nat) (ds : List Char) (n : Nat) : Prop :=
  ∃ vs, List.Forall₂ digit ds vs ∧ n = Nat.ofDigits base vs.reverse

/-- 文字の大小は符号点の大小。 -/
theorem char_le_iff {a b : Char} : a ≤ b ↔ a.toNat ≤ b.toNat := UInt32.le_iff_toNat_le

/-- ASCII の外では何も読まない読み方 `f` について、ASCII の表で確かめたことは、どの文字についても
成り立つ。 -/
theorem of_asciiTable {f : Char → Option Nat} {P : Char → Nat → Prop} [∀ c d, Decidable (P c d)]
    (htab : ∀ k < 0x80, (f (Char.ofNat k)).all (fun d => decide (P (Char.ofNat k) d)) = true)
    {c : Char} {d : Nat} (hc : c.toNat < 0x80) (h : f c = some d) : P c d := by
  have hall := htab _ hc
  rw [Char.ofNat_toNat, h] at hall
  simpa using hall

/-- 16 進の数字は ASCII にある。 -/
theorem toNat_lt_of_hexValue? {c : Char} {d : Nat} (h : hexValue? c = some d) : c.toNat < 0x80 := by
  unfold hexValue? at h
  split_ifs at h with h₁ h₂ h₃
  · exact lt_of_le_of_lt (char_le_iff.1 h₁.2) (by decide)
  · exact lt_of_le_of_lt (char_le_iff.1 h₂.2) (by decide)
  · exact lt_of_le_of_lt (char_le_iff.1 h₃.2) (by decide)

/-- `hexValue?` は 16 進の数字を読む。ASCII の外は読まないので、ASCII の表で確かめる。 -/
theorem hexValue?_eq_some_iff {c : Char} {d : Nat} : hexValue? c = some d ↔ IsHexDigit c d := by
  constructor
  · intro h
    exact of_asciiTable (f := hexValue?) (by decide) (toNat_lt_of_hexValue? h) h
  · rintro ⟨hd, rfl | rfl⟩
    · exact (by decide : ∀ d < 16, hexValue? (Nat.digitChar d) = some d) d hd
    · exact (by decide : ∀ d < 16, hexValue? (Nat.digitChar d).toUpper = some d) d hd

/-- 8 進の数字は ASCII にある。 -/
theorem toNat_lt_of_octalValue? {c : Char} {d : Nat} (h : octalValue? c = some d) : c.toNat < 0x80 := by
  unfold octalValue? at h
  split_ifs at h with h₁
  exact lt_of_le_of_lt (char_le_iff.1 h₁.2) (by decide)

/-- `octalValue?` は 8 進の数字を読む。 -/
theorem octalValue?_eq_some_iff {c : Char} {d : Nat} : octalValue? c = some d ↔ IsOctalDigit c d := by
  constructor
  · intro h
    exact of_asciiTable (f := octalValue?) (by decide) (toNat_lt_of_octalValue? h) h
  · rintro ⟨hd, rfl⟩
    exact (by decide : ∀ d < 8, octalValue? (Nat.digitChar d) = some d) d hd

/-- 数字を一つずつ読み足す畳み込み。読めたものは、初めの値を桁の数だけ上げて列の値を足したもの。 -/
theorem foldlM_hexValue?_eq_some_iff : ∀ {ds : List Char} {acc n : Nat},
    ds.foldlM (fun n c => (hexValue? c).map (n * 16 + ·)) acc = some n ↔
      ∃ vs, List.Forall₂ IsHexDigit ds vs ∧ n = acc * 16 ^ ds.length + Nat.ofDigits 16 vs.reverse
  | [], acc, n => by simp [eq_comm]
  | c :: ds, acc, n => by
    -- 先頭の数字で値を一桁上げ、残りは帰納法の仮定で読む
    rw [List.foldlM_cons, Option.bind_eq_bind, Option.bind_eq_some_iff]
    constructor
    · rintro ⟨a, ha, h⟩
      obtain ⟨d, hd, rfl⟩ := Option.map_eq_some_iff.1 ha
      obtain ⟨vs, hvs, rfl⟩ := foldlM_hexValue?_eq_some_iff.1 h
      refine ⟨d :: vs, .cons (hexValue?_eq_some_iff.1 hd) hvs, ?_⟩
      rw [List.reverse_cons, Nat.ofDigits_append, Nat.ofDigits_singleton, List.length_reverse,
        ← hvs.length_eq, List.length_cons, pow_succ]
      ring
    · rintro ⟨_ | ⟨d, vs⟩, hvs, rfl⟩
      · cases hvs
      · obtain ⟨hd, hvs⟩ := List.forall₂_cons.1 hvs
        refine ⟨acc * 16 + d, by rw [hexValue?_eq_some_iff.2 hd]; rfl,
          foldlM_hexValue?_eq_some_iff.2 ⟨vs, hvs, ?_⟩⟩
        rw [List.reverse_cons, Nat.ofDigits_append, Nat.ofDigits_singleton, List.length_reverse,
          ← hvs.length_eq, List.length_cons, pow_succ]
        ring

/-- `hexNumber?` は 16 進の数字の列を読む。 -/
theorem hexNumber?_eq_some_iff {ds : List Char} {n : Nat} :
    hexNumber? ds = some n ↔ Numeral IsHexDigit 16 ds n := by
  rw [hexNumber?, foldlM_hexValue?_eq_some_iff]
  simp only [Nat.zero_mul, Nat.zero_add, Numeral]

/-! ## 中身の文法 -/

/-- 解釈付きリテラルの中身 `body` がバイト列 `bytes` を表す。`\x` と 8 進は一バイトを、
`\u` と `\U` は Unicode の scalar 値の UTF-8 を、ほかの文字はその文字の UTF-8 を表す。 -/
inductive BodyDenotes : List Char → List UInt8 → Prop
  /-- 空の中身は空のバイト列。 -/
  | nil : BodyDenotes [] []
  /-- 閉じ記号、改行、backslash でない文字はそのまま。 -/
  | char {c : Char} {rest : List Char} {bytes : List UInt8} :
      c ≠ '"' → c ≠ '\n' → c ≠ '\\' → BodyDenotes rest bytes →
      BodyDenotes (c :: rest) (String.utf8EncodeChar c ++ bytes)
  /-- 一文字の escape。 -/
  | named {e c : Char} {rest : List Char} {bytes : List UInt8} :
      (e, c) ∈ namedEscapes → BodyDenotes rest bytes →
      BodyDenotes ('\\' :: e :: rest) (String.utf8EncodeChar c ++ bytes)
  /-- `\x` と 16 進二桁で一バイト。 -/
  | hexByte {ds rest : List Char} {n : Nat} {bytes : List UInt8} :
      ds.length = 2 → Numeral IsHexDigit 16 ds n → BodyDenotes rest bytes →
      BodyDenotes ('\\' :: 'x' :: (ds ++ rest)) (n.toUInt8 :: bytes)
  /-- 8 進三桁で一バイト。値は `0o377` まで。 -/
  | octalByte {ds rest : List Char} {n : Nat} {bytes : List UInt8} :
      ds.length = 3 → Numeral IsOctalDigit 8 ds n → n ≤ 0o377 → BodyDenotes rest bytes →
      BodyDenotes ('\\' :: (ds ++ rest)) (n.toUInt8 :: bytes)
  /-- `\u` と 16 進四桁で一つの scalar 値。 -/
  | unicode {ds rest : List Char} {n : Nat} {bytes : List UInt8} :
      ds.length = 4 → Numeral IsHexDigit 16 ds n → n.isValidChar → BodyDenotes rest bytes →
      BodyDenotes ('\\' :: 'u' :: (ds ++ rest)) (String.utf8EncodeChar (Char.ofNat n) ++ bytes)
  /-- `\U` と 16 進八桁で一つの scalar 値。 -/
  | unicodeLong {ds rest : List Char} {n : Nat} {bytes : List UInt8} :
      ds.length = 8 → Numeral IsHexDigit 16 ds n → n.isValidChar → BodyDenotes rest bytes →
      BodyDenotes ('\\' :: 'U' :: (ds ++ rest)) (String.utf8EncodeChar (Char.ofNat n) ++ bytes)

/-- `isScalar` は surrogate でなく `0x10FFFF` 以下であること。 -/
theorem isScalar_iff_isValidChar {n : Nat} : isScalar n = true ↔ n.isValidChar := by
  simp only [isScalar, Bool.or_eq_true, decide_eq_true_eq, Bool.and_eq_true, Nat.isValidChar]
  omega

/-- `scalarBytes?` は scalar 値をその文字の UTF-8 にする。 -/
theorem scalarBytes?_eq_some_iff {n : Nat} {bytes : List UInt8} :
    scalarBytes? n = some bytes ↔ n.isValidChar ∧ bytes = String.utf8EncodeChar (Char.ofNat n) := by
  rw [scalarBytes?, ← isScalar_iff_isValidChar, ← Text.Utf8.encodeChar_eq_utf8EncodeChar]
  split_ifs with h <;> simp [h, eq_comm]

/-- 三桁の数字の値。 -/
theorem numeral_three {digit : Char → Nat → Prop} {base : Nat} {x y z : Char} {n : Nat} :
    Numeral digit base [x, y, z] n ↔
      ∃ a b c, digit x a ∧ digit y b ∧ digit z c ∧ n = a * base ^ 2 + b * base + c := by
  constructor
  · rintro ⟨vs, hvs, rfl⟩
    obtain ⟨a, vs₁, ha, hvs₁, rfl⟩ := List.forall₂_cons_left_iff.1 hvs
    obtain ⟨b, vs₂, hb, hvs₂, rfl⟩ := List.forall₂_cons_left_iff.1 hvs₁
    obtain ⟨c, vs₃, hc, hvs₃, rfl⟩ := List.forall₂_cons_left_iff.1 hvs₂
    obtain rfl := List.forall₂_nil_left_iff.1 hvs₃
    refine ⟨a, b, c, ha, hb, hc, ?_⟩
    simp [Nat.ofDigits]
    ring
  · rintro ⟨a, b, c, ha, hb, hc, rfl⟩
    refine ⟨[a, b, c], .cons ha (.cons hb (.cons hc .nil)), ?_⟩
    simp [Nat.ofDigits]
    ring

/-- 長さ 4 の列は四つの文字を並べたもの。 -/
theorem eq_four_of_length {ds : List Char} (h : ds.length = 4) : ∃ a b c d, ds = [a, b, c, d] := by
  rcases ds with _ | ⟨a, _ | ⟨b, _ | ⟨c, _ | ⟨d, _ | ⟨_, _⟩⟩⟩⟩⟩ <;> simp at h
  exact ⟨a, b, c, d, rfl⟩

/-- 長さ 8 の列は八つの文字を並べたもの。 -/
theorem eq_eight_of_length {ds : List Char} (h : ds.length = 8) :
    ∃ a b c d e f g k, ds = [a, b, c, d, e, f, g, k] := by
  rcases ds with _ | ⟨a, _ | ⟨b, _ | ⟨c, _ | ⟨d, _ | ⟨e, _ | ⟨f, _ | ⟨g, _ | ⟨k, _ | ⟨_, _⟩⟩⟩⟩⟩⟩⟩⟩⟩ <;>
    simp at h
  exact ⟨a, b, c, d, e, f, g, k, rfl⟩

/-! ## 読むことと文法 -/

/-- 文法に従う中身は、それが表すバイト列に読める。 -/
theorem decodeBody_of_bodyDenotes {body : List Char} {bytes : List UInt8}
    (h : BodyDenotes body bytes) : decodeBody body = some bytes := by
  -- 規則ごとに、その規則に当たる `decodeBody` の分岐を開く
  induction h with
  | nil => rfl
  | char h₁ h₂ h₃ _ ih =>
    rw [decodeBody_cons_of_ne h₁ h₂ h₃, ih, Text.Utf8.encodeChar_eq_utf8EncodeChar]
    rfl
  | named hp _ ih =>
    rw [(namedEscape_spec hp).2, ih, Text.Utf8.encodeChar_eq_utf8EncodeChar]
    rfl
  | hexByte hl hn _ ih =>
    obtain ⟨h₁, h₂, rfl⟩ : ∃ a b, _ = [a, b] := List.length_eq_two.1 hl
    rw [List.cons_append, List.cons_append, List.nil_append, decodeBody.eq_13,
      hexNumber?_eq_some_iff.2 hn]
    simp only [ih, Option.map_some]
  | octalByte hl hn hle _ ih =>
    obtain ⟨o₁, o₂, o₃, rfl⟩ : ∃ a b c, _ = [a, b, c] := List.length_eq_three.1 hl
    obtain ⟨a, b, c, ha, hb, hc, rfl⟩ := numeral_three.1 hn
    -- 最初の数字は `0` から `7` で、ほかの escape の文字のどれでもない
    have ho₁ : 48 ≤ o₁.toNat ∧ o₁.toNat < 56 := by
      obtain ⟨ha, rfl⟩ := ha
      exact (by decide : ∀ a < 8, 48 ≤ (Nat.digitChar a).toNat ∧ (Nat.digitChar a).toNat < 56) a ha
    have hne : ∀ x : Char, x.toNat < 48 ∨ 56 ≤ x.toNat → o₁ ≠ x := by
      rintro x hx rfl
      omega
    rw [List.cons_append, List.cons_append, List.cons_append, List.nil_append,
      decodeBody.eq_16 _ _ _ _ (hne 'a' (by decide)) (hne 'b' (by decide)) (hne 'f' (by decide))
        (hne 'n' (by decide)) (hne 'r' (by decide)) (hne 't' (by decide)) (hne 'v' (by decide))
        (hne '\\' (by decide)) (hne '"' (by decide)) (hne 'x' (by decide))
        (fun _ _ _ h _ => hne 'u' (by decide) h) (fun _ _ _ _ _ _ _ h _ => hne 'U' (by decide) h),
      octalValue?_eq_some_iff.2 ha, octalValue?_eq_some_iff.2 hb, octalValue?_eq_some_iff.2 hc]
    simp only
    rw [if_pos (by omega), ih]
    simp only [Option.map_some]
    norm_num
  | unicode hl hn hv _ ih =>
    obtain ⟨h₁, h₂, h₃, h₄, rfl⟩ := eq_four_of_length hl
    simp only [List.cons_append, List.nil_append]
    rw [decodeBody.eq_14, hexNumber?_eq_some_iff.2 hn, Option.bind_some,
      scalarBytes?_eq_some_iff.2 ⟨hv, rfl⟩]
    simp only [ih, Option.map_some]
  | unicodeLong hl hn hv _ ih =>
    obtain ⟨h₁, h₂, h₃, h₄, h₅, h₆, h₇, h₈, rfl⟩ := eq_eight_of_length hl
    simp only [List.cons_append, List.nil_append]
    rw [decodeBody.eq_15, hexNumber?_eq_some_iff.2 hn, Option.bind_some,
      scalarBytes?_eq_some_iff.2 ⟨hv, rfl⟩]
    simp only [ih, Option.map_some]

/-- 一文字の escape を読んだ分岐：残りが読めれば、表す文字の一バイトに続く。 -/
theorem BodyDenotes.named_of_map {e c : Char} {rest : List Char} {bytes : List UInt8}
    (hp : (e, c) ∈ namedEscapes) (ih : ∀ {bs}, decodeBody rest = some bs → BodyDenotes rest bs)
    (h : (decodeBody rest).map (String.utf8EncodeChar c ++ ·) = some bytes) :
    BodyDenotes ('\\' :: e :: rest) bytes := by
  obtain ⟨bs, hbs, rfl⟩ := Option.map_eq_some_iff.1 h
  exact .named hp (ih hbs)

/-- 読めた中身は文法に従う。 -/
theorem bodyDenotes_of_decodeBody {body : List Char} {bytes : List UInt8}
    (h : decodeBody body = some bytes) : BodyDenotes body bytes := by
  -- `decodeBody` の分岐に沿う。読めない分岐では `h` が `none = some bytes` になる
  fun_induction decodeBody body generalizing bytes
  case case1 => cases h; exact .nil
  case case4 rest ih => exact .named_of_map (c := '\x07') (by decide) ih h
  case case5 rest ih => exact .named_of_map (c := '\x08') (by decide) ih h
  case case6 rest ih => exact .named_of_map (c := '\x0c') (by decide) ih h
  case case7 rest ih => exact .named_of_map (c := '\n') (by decide) ih h
  case case8 rest ih => exact .named_of_map (c := '\r') (by decide) ih h
  case case9 rest ih => exact .named_of_map (c := '\t') (by decide) ih h
  case case10 rest ih => exact .named_of_map (c := '\x0b') (by decide) ih h
  case case11 rest ih => exact .named_of_map (c := '\\') (by decide) ih h
  case case12 rest ih => exact .named_of_map (c := '"') (by decide) ih h
  case case13 h₁ h₂ rest n hn ih =>
    obtain ⟨bs, hbs, rfl⟩ := Option.map_eq_some_iff.1 h
    show BodyDenotes ('\\' :: 'x' :: ([h₁, h₂] ++ rest)) _
    exact .hexByte rfl (hexNumber?_eq_some_iff.1 hn) (ih hbs)
  case case15 h₁ h₂ h₃ h₄ rest bs' hs ih =>
    obtain ⟨n, hn, hs⟩ := Option.bind_eq_some_iff.1 hs
    obtain ⟨hv, rfl⟩ := scalarBytes?_eq_some_iff.1 hs
    obtain ⟨bs, hbs, rfl⟩ := Option.map_eq_some_iff.1 h
    show BodyDenotes ('\\' :: 'u' :: ([h₁, h₂, h₃, h₄] ++ rest)) _
    exact .unicode rfl (hexNumber?_eq_some_iff.1 hn) hv (ih hbs)
  case case17 h₁ h₂ h₃ h₄ h₅ h₆ h₇ h₈ rest bs' hs ih =>
    obtain ⟨n, hn, hs⟩ := Option.bind_eq_some_iff.1 hs
    obtain ⟨hv, rfl⟩ := scalarBytes?_eq_some_iff.1 hs
    obtain ⟨bs, hbs, rfl⟩ := Option.map_eq_some_iff.1 h
    show BodyDenotes ('\\' :: 'U' :: ([h₁, h₂, h₃, h₄, h₅, h₆, h₇, h₈] ++ rest)) _
    exact .unicodeLong rfl (hexNumber?_eq_some_iff.1 hn) hv (ih hbs)
  case case19 o₁ o₂ o₃ rest _ _ _ _ _ _ _ _ _ _ _ _ a b c h₃ h₂ h₁ n hle ih =>
    obtain ⟨bs, hbs, rfl⟩ := Option.map_eq_some_iff.1 h
    show BodyDenotes ('\\' :: ([o₁, o₂, o₃] ++ rest)) _
    exact .octalByte rfl
      (numeral_three.2 ⟨a, b, c, octalValue?_eq_some_iff.1 h₁, octalValue?_eq_some_iff.1 h₂,
        octalValue?_eq_some_iff.1 h₃, by omega⟩) hle (ih hbs)
  case case23 c rest h₁ h₂ _ _ _ _ _ _ _ _ _ _ _ _ _ h₃ ih =>
    obtain ⟨bs, hbs, rfl⟩ := Option.map_eq_some_iff.1 h
    rw [Text.Utf8.encodeChar_eq_utf8EncodeChar]
    exact .char h₁ h₂ h₃ (ih hbs)
  all_goals cases h

/-- `decodeBody` は文法 `BodyDenotes` をちょうど読む。 -/
theorem decodeBody_eq_some_iff {body : List Char} {bytes : List UInt8} :
    decodeBody body = some bytes ↔ BodyDenotes body bytes :=
  ⟨bodyDenotes_of_decodeBody, decodeBody_of_bodyDenotes⟩

/-! ## リテラル -/

/-- 生のリテラルの中身は、backquote を含まなければ `\r` を捨てたものを表す。 -/
theorem rawValue?_eq_some_iff {body : List Char} {s : String} :
    rawValue? body = some s ↔ '\x60' ∉ body ∧ s.toList = body.filter (· != '\r') := by
  unfold rawValue?
  split_ifs with h
  · simp only [false_iff, not_and]
    exact fun hn => absurd (List.contains_iff_mem.1 h) hn
  · have hn : '\x60' ∉ body := fun hm => h (List.contains_iff_mem.2 hm)
    simp [hn, String.ext_iff, eq_comm]

/-- 開き記号 `q` のあとに空でない列が続くとき、`q` で閉じていることは、その列の最後の文字が `q`
であること。閉じ記号の内側が中身になる。 -/
theorem exists_enclosed_iff {q : Char} {rest : List Char} {P : List Char → Prop} :
    (∃ b, q :: rest = q :: b ++ [q] ∧ P b) ↔ rest.getLast? = some q ∧ P rest.dropLast := by
  simp only [List.cons_append, List.cons.injEq, true_and]
  constructor
  · rintro ⟨b, rfl, hp⟩
    rw [List.getLast?_concat, List.dropLast_concat]
    exact ⟨rfl, hp⟩
  · rintro ⟨hl, hp⟩
    obtain ⟨b, rfl⟩ := List.getLast?_eq_some_iff.1 hl
    rw [List.dropLast_concat] at hp
    exact ⟨b, rfl, hp⟩

/-- 開き記号が `q` の列は、別の記号 `q'` では挟まれていない。 -/
theorem not_exists_enclosed_of_ne {l rest : List Char} {q q' : Char} {P : List Char → Prop}
    (hne : q ≠ q') (hl : l = q :: rest) : ¬∃ b, l = q' :: b ++ [q'] ∧ P b := by
  rintro ⟨b, hb, -⟩
  rw [hl, List.cons_append, List.cons.injEq] at hb
  exact hne hb.1

/-- 開き記号 `q` と閉じ記号 `q` に挟まれた列は、開き記号のあとが空でない。 -/
theorem eq_cons_cons_of_enclosed {l b : List Char} {q : Char} (h : l = q :: b ++ [q]) :
    ∃ x t, l = q :: x :: t := by
  cases b with
  | nil => exact ⟨q, [], h⟩
  | cons x t => exact ⟨x, t ++ [q], h⟩

/-- `unquote?` はちょうど Go の文字列リテラルを読む。生のリテラルなら中身から `\r` を捨てた
もの、解釈付きのリテラルなら中身の表すバイト列が値の UTF-8 になるものが値。ほかは読まない。 -/
theorem unquote?_eq_some_iff {l s : String} :
    unquote? l = some s ↔
      (∃ b, l.toList = '\x60' :: b ++ ['\x60'] ∧ '\x60' ∉ b ∧ s.toList = b.filter (· != '\r')) ∨
      (∃ body, l.toList = '"' :: body ++ ['"'] ∧
        BodyDenotes body (s.toList.flatMap String.utf8EncodeChar)) := by
  unfold unquote?
  split
  next x t hl =>
    -- 生のリテラル：開き記号が違うので解釈付きの側は成り立たない
    rw [or_iff_left (not_exists_enclosed_of_ne (by decide) hl), hl, exists_enclosed_iff,
      Option.ite_none_right_eq_some, rawValue?_eq_some_iff]
  next x t hl =>
    rw [or_iff_right (not_exists_enclosed_of_ne (by decide) hl), hl, exists_enclosed_iff,
      Option.ite_none_right_eq_some, Option.bind_eq_some_iff]
    simp only [Text.Utf8.toString?_eq_some_iff, exists_eq_right, decodeBody_eq_some_iff]
  next hraw hquoted =>
    -- どちらの形でもない：開き記号のあとに空でない列が続けば、上の二つの分岐に入っていた
    simp only [reduceCtorEq, false_iff, not_or, not_exists, not_and]
    constructor
    · intro b hb
      obtain ⟨x, t, h⟩ := eq_cons_cons_of_enclosed hb
      exact absurd h (hraw x t)
    · intro body hb
      obtain ⟨x, t, h⟩ := eq_cons_cons_of_enclosed hb
      exact absurd h (hquoted x t)

end LogLint.Go.StringLit
