import Mathlib
import LogLint.Go.StringLit
import LogLint.Proofs.Utf8Codec

/-!
# 書いたリテラルを読む

`quote` が書く解釈付きリテラル `"…"` は、読むと元の文字列に戻り、どの文字も表示できる
（`unquote?_quote_printable`）。読んだ本体のバイト列は元の文字列の UTF-8 そのものである。

また、書いたリテラルの中では `"` はどれも `\"` と escape される。そのため、書いたリテラルの頭や、
後ろに何かを続けた列のうち、リテラルとして読めるのは書いたものそのものだけである
（`eq_quote_of_unquote?`）。

* `escapeChar_cases` — 一文字の書き方は、一文字の escape、その文字自身、数での escape の三通り
* `decodeBody_escapeChar_append` — 一文字の書き方は、読むとその文字の UTF-8 になり、ちょうど
  その分だけ進む
* `mem_escapeChar` — 一文字の書き方は改行を含まず、`"` を含むのは `\"` だけ
-/

namespace LogLint.Go.StringLit

/-! ## 16 進の数字 -/

theorem hexValue?_hexDigitChar {d : Nat} (h : d < 16) : hexValue? (hexDigitChar d) = some d :=
  (by decide : ∀ d, d < 16 → hexValue? (hexDigitChar d) = some d) d h

/-- 16 進の数字は、改行でも `"` でもない。 -/
theorem hexDigitChar_ne {d : Nat} (h : d < 16) : hexDigitChar d ≠ '\n' ∧ hexDigitChar d ≠ '"' :=
  (by decide : ∀ d, d < 16 → hexDigitChar d ≠ '\n' ∧ hexDigitChar d ≠ '"') d h

theorem mem_hexDigits : ∀ {w n : Nat} {x : Char}, x ∈ hexDigits w n → ∃ m, x = hexDigitChar (m % 16)
  | 0, _, _, h => by simp [hexDigits] at h
  | w + 1, n, x, h => by
    rw [hexDigits, List.mem_append, List.mem_singleton] at h
    rcases h with h | rfl
    · exact mem_hexDigits h
    · exact ⟨n, rfl⟩

/-- `w` 桁の 16 進で書いた数を読むと、下の `w` 桁が戻る。 -/
theorem hexNumber?_hexDigits : ∀ w n : Nat, hexNumber? (hexDigits w n) = some (n % 16 ^ w)
  | 0, n => by simp [hexDigits, hexNumber?, Nat.mod_one]
  | w + 1, n => by
    have ih := hexNumber?_hexDigits w (n / 16)
    unfold hexNumber? at ih ⊢
    rw [hexDigits, List.foldlM_append, ih]
    simp only [Option.bind_eq_bind, Option.bind_some, List.foldlM_cons, List.foldlM_nil,
      hexValue?_hexDigitChar (Nat.mod_lt n (by decide : 16 > 0)), Option.map_some]
    simp only [Option.pure_def, Option.some.injEq]
    rw [Nat.pow_succ', Nat.mod_mul]
    omega

/-- 文字の符号点は scalar value。 -/
theorem isScalar_toNat (c : Char) : isScalar c.toNat = true := by
  have hv := c.valid
  simp only [UInt32.isValidChar, Nat.isValidChar] at hv
  simp only [isScalar, Char.toNat, Bool.or_eq_true, decide_eq_true_eq, Bool.and_eq_true]
  omega

/-! ## 一文字を読む -/

/-- 三つの特別な文字の外の文字は、そのまま UTF-8 のバイトになる。 -/
theorem decodeBody_cons_of_ne {c : Char} (h₁ : c ≠ '"') (h₂ : c ≠ '\n') (h₃ : c ≠ '\\')
    (rest : List Char) : decodeBody (c :: rest) = (decodeBody rest).map (Text.Utf8.encodeChar c ++ ·) := by
  -- 最後の場合の等式：`\` で始まる場合の条件は、どれも `h₃` で外れる
  rw [decodeBody.eq_18 c rest h₁ h₂] <;> (intros; contradiction)

/-- 数での escape は、読むとその文字の UTF-8 になり、ちょうどその分だけ進む。 -/
theorem decodeBody_numericEscape_append (c : Char) (rest : List Char) :
    decodeBody (numericEscape c ++ rest) = (decodeBody rest).map (Text.Utf8.encodeChar c ++ ·) := by
  have hc := isScalar_toNat c
  unfold numericEscape
  dsimp only
  split_ifs with h₁ h₂
  · -- `\xHH` は一バイトで、ASCII の文字の UTF-8 はその一バイト
    obtain ⟨a, b, hd⟩ : ∃ a b, hexDigits 2 c.toNat = [a, b] := ⟨_, _, rfl⟩
    have hx := hexNumber?_hexDigits 2 c.toNat
    rw [hd, Nat.mod_eq_of_lt (by omega)] at hx
    have henc : Text.Utf8.encodeChar c = [c.toNat.toUInt8] := by
      simp [Text.Utf8.encodeChar, h₁]
    rw [hd, henc]
    simp only [List.cons_append, List.nil_append, decodeBody, hx]
  · obtain ⟨a, b, d, e, hd⟩ : ∃ a b d e, hexDigits 4 c.toNat = [a, b, d, e] := ⟨_, _, _, _, rfl⟩
    have hx := hexNumber?_hexDigits 4 c.toNat
    rw [hd, Nat.mod_eq_of_lt (by omega)] at hx
    rw [hd]
    simp [decodeBody, hx, scalarBytes?, hc]
  · obtain ⟨a, b, d, e, f, g, i, j, hd⟩ :
        ∃ a b d e f g i j, hexDigits 8 c.toNat = [a, b, d, e, f, g, i, j] :=
      ⟨_, _, _, _, _, _, _, _, rfl⟩
    have hx := hexNumber?_hexDigits 8 c.toNat
    have hlt : c.toNat < 16 ^ 8 := by
      have h := hc
      simp only [isScalar, Bool.or_eq_true, decide_eq_true_eq, Bool.and_eq_true] at h
      omega
    rw [hd, Nat.mod_eq_of_lt hlt] at hx
    rw [hd]
    simp [decodeBody, hx, scalarBytes?, hc]

/-- 一文字の escape：escape の文字と、それが表す文字。Go の九つの一文字の escape である。 -/
def namedEscapes : List (Char × Char) :=
  [('a', '\x07'), ('b', '\x08'), ('f', '\x0c'), ('n', '\n'), ('r', '\r'), ('t', '\t'),
    ('v', '\x0b'), ('\\', '\\'), ('"', '"')]

/-- 一文字の書き方は三通り：`\\` と一文字の escape、その文字自身、数での escape。 -/
theorem escapeChar_cases (c : Char) :
    (∃ p ∈ namedEscapes, p.2 = c ∧ escapeChar c = ['\\', p.1]) ∨
      (escapeChar c = [c] ∧ c ≠ '"' ∧ c ≠ '\\' ∧ c ≠ '\n' ∧ Unicode.isPrintableIn .v16 c) ∨
      escapeChar c = numericEscape c := by
  -- `split_ifs` は残りの条件をすべて簡約しようとして遅いので、条件を一つずつ外す
  unfold escapeChar
  by_cases h₁ : c = '"'
  · exact Or.inl ⟨('"', '"'), by simp [namedEscapes], h₁.symm, if_pos h₁⟩
  rw [if_neg h₁]
  by_cases h₂ : c = '\\'
  · exact Or.inl ⟨('\\', '\\'), by simp [namedEscapes], h₂.symm, if_pos h₂⟩
  rw [if_neg h₂]
  by_cases h₃ : c = '\x07'
  · exact Or.inl ⟨('a', '\x07'), by simp [namedEscapes], h₃.symm, if_pos h₃⟩
  rw [if_neg h₃]
  by_cases h₄ : c = '\x08'
  · exact Or.inl ⟨('b', '\x08'), by simp [namedEscapes], h₄.symm, if_pos h₄⟩
  rw [if_neg h₄]
  by_cases h₅ : c = '\x0c'
  · exact Or.inl ⟨('f', '\x0c'), by simp [namedEscapes], h₅.symm, if_pos h₅⟩
  rw [if_neg h₅]
  by_cases h₆ : c = '\n'
  · exact Or.inl ⟨('n', '\n'), by simp [namedEscapes], h₆.symm, if_pos h₆⟩
  rw [if_neg h₆]
  by_cases h₇ : c = '\r'
  · exact Or.inl ⟨('r', '\r'), by simp [namedEscapes], h₇.symm, if_pos h₇⟩
  rw [if_neg h₇]
  by_cases h₈ : c = '\t'
  · exact Or.inl ⟨('t', '\t'), by simp [namedEscapes], h₈.symm, if_pos h₈⟩
  rw [if_neg h₈]
  by_cases h₉ : c = '\x0b'
  · exact Or.inl ⟨('v', '\x0b'), by simp [namedEscapes], h₉.symm, if_pos h₉⟩
  rw [if_neg h₉]
  by_cases h₁₀ : Unicode.isPrintableIn .v16 c = true
  · exact Or.inr (Or.inl ⟨if_pos h₁₀, h₁, h₂, h₆, h₁₀⟩)
  · exact Or.inr (Or.inr (if_neg h₁₀))

/-- 一文字の escape の文字は改行でなく、`\\` とその文字を読むと、表す文字の一バイトになる。 -/
theorem namedEscape_spec {p : Char × Char} (hp : p ∈ namedEscapes) :
    p.1 ≠ '\n' ∧ ∀ rest, decodeBody ('\\' :: p.1 :: rest) =
      (decodeBody rest).map (Text.Utf8.encodeChar p.2 ++ ·) := by
  simp only [namedEscapes, List.mem_cons, List.not_mem_nil, or_false] at hp
  rcases hp with rfl | rfl | rfl | rfl | rfl | rfl | rfl | rfl | rfl <;>
    exact ⟨by decide, fun _ => rfl⟩

/-- **一文字の書き方は、読むとその文字の UTF-8 になり、ちょうどその分だけ進む。** -/
theorem decodeBody_escapeChar_append (c : Char) (rest : List Char) :
    decodeBody (escapeChar c ++ rest) = (decodeBody rest).map (Text.Utf8.encodeChar c ++ ·) := by
  rcases escapeChar_cases c with ⟨p, hp, rfl, hc⟩ | ⟨hc, h₁, h₂, h₃, -⟩ | hc <;> rw [hc]
  · exact (namedEscape_spec hp).2 rest
  · exact decodeBody_cons_of_ne h₁ h₃ h₂ rest
  · exact decodeBody_numericEscape_append c rest

/-- 一文字の書き方は改行を含まず、`"` を含むのは `"` 自身の書き方 `\\"` だけ。 -/
theorem mem_escapeChar {c x : Char} (hx : x ∈ escapeChar c) :
    x ≠ '\n' ∧ (x = '"' → escapeChar c = ['\\', '"']) := by
  rcases escapeChar_cases c with ⟨p, hp, -, hc⟩ | ⟨hc, h₁, -, h₃, -⟩ | hc <;> rw [hc] at hx ⊢
  · simp only [List.mem_cons, List.not_mem_nil, or_false] at hx
    rcases hx with rfl | rfl
    · exact ⟨by decide, fun h => absurd h (by decide)⟩
    · exact ⟨(namedEscape_spec hp).1, fun h => by rw [h]⟩
  · rw [List.mem_singleton] at hx
    subst hx
    exact ⟨h₃, fun h => absurd h h₁⟩
  · unfold numericEscape at hx
    dsimp only at hx
    -- `\\`、`x`/`u`/`U` と 16 進の数字だけ
    have hdigit : ∀ w n, x ∈ hexDigits w n → x ≠ '\n' ∧ x ≠ '"' := fun w n h => by
      obtain ⟨m, rfl⟩ := mem_hexDigits h
      exact hexDigitChar_ne (Nat.mod_lt m (by decide))
    split_ifs at hx <;>
      · simp only [List.mem_cons] at hx
        rcases hx with rfl | rfl | hx
        · exact ⟨by decide, fun h => absurd h (by decide)⟩
        · exact ⟨by decide, fun h => absurd h (by decide)⟩
        · exact ⟨(hdigit _ _ hx).1, fun h => absurd h (hdigit _ _ hx).2⟩

/-- 一文字の書き方の最初の文字は `"` でない。 -/
theorem exists_escapeChar_eq_cons (c : Char) : ∃ x t, escapeChar c = x :: t ∧ x ≠ '"' := by
  rcases escapeChar_cases c with ⟨p, -, -, hc⟩ | ⟨hc, h₁, -⟩ | hc
  · exact ⟨'\\', [p.1], hc, by decide⟩
  · exact ⟨c, [], hc, h₁⟩
  · rw [hc]
    unfold numericEscape
    dsimp only
    split_ifs <;> exact ⟨'\\', _, rfl, by decide⟩

/-! ## 書いたリテラル -/

/-- 書いたリテラルは、`"`、各文字の書き方、`"` の順。 -/
theorem quote_toList (s : String) :
    (quote s).toList = '"' :: s.toList.flatMap escapeChar ++ ['"'] := by
  simp [quote, String.toList_ofList]

/-- 書いたリテラルは改行を含まない。 -/
theorem newline_not_mem_quote (s : String) : '\n' ∉ (quote s).toList := by
  rw [quote_toList]
  intro h
  rcases List.mem_cons.1 h with h | h
  · exact absurd h (by decide)
  · rcases List.mem_append.1 h with h | h
    · obtain ⟨c, -, hc⟩ := List.mem_flatMap.1 h
      exact (mem_escapeChar hc).1 rfl
    · exact absurd (List.mem_singleton.1 h) (by decide)

/-- 書いたリテラルは `"` で終わる。 -/
theorem quote_getLast? (s : String) : (quote s).toList.getLast? = some '"' := by
  rw [quote_toList, List.getLast?_append_of_ne_nil _ (List.cons_ne_nil _ _)]
  rfl

/-- 書き方をつないだ本体は、読むと元の文字の列の UTF-8 になり、ちょうどその分だけ進む。 -/
theorem decodeBody_flatMap_escapeChar_append : ∀ (l rest : List Char),
    decodeBody (l.flatMap escapeChar ++ rest) = (decodeBody rest).map (Text.Utf8.encode l ++ ·)
  | [], rest => by simp [Text.Utf8.encode]
  | c :: l, rest => by
    rw [List.flatMap_cons, List.append_assoc, decodeBody_escapeChar_append,
      decodeBody_flatMap_escapeChar_append l rest, Option.map_map]
    congr 1
    funext x
    simp [Text.Utf8.encode]

/-- 本体の中の `"` は、どれも `\` の後ろにある：本体の `"` の前までは読めない。 -/
theorem decodeBody_eq_none_of_flatMap_escapeChar : ∀ {l m r : List Char},
    l.flatMap escapeChar = m ++ '"' :: r → decodeBody m = none
  | [], m, r, h => by simp at h
  | c :: l, m, r, h => by
    rw [List.flatMap_cons] at h
    rcases List.append_eq_append_iff.1 h with ⟨a', rfl, ha'⟩ | ⟨c', hc', hr⟩
    · -- `"` は後ろの書き方の中にある
      rw [decodeBody_escapeChar_append, decodeBody_eq_none_of_flatMap_escapeChar ha']
      rfl
    · cases c' with
      | nil =>
        -- 後ろの書き方が `"` で始まることになる
        cases l with
        | nil => simp at hr
        | cons d l =>
          obtain ⟨x, t, hd, hx⟩ := exists_escapeChar_eq_cons d
          rw [List.nil_append, List.flatMap_cons, hd, List.cons_append, List.cons.injEq] at hr
          exact absurd hr.1.symm hx
      | cons y c'' =>
        -- `"` はこの文字の書き方の中にあるので、書き方は `\"`
        obtain ⟨rfl, -⟩ := List.cons.inj hr
        have hq := (mem_escapeChar (x := '"') (by rw [hc']; simp)).2 rfl
        rw [hq] at hc'
        match m, hc' with
        | [x], hc' =>
          obtain ⟨rfl, -⟩ := List.cons.inj hc'
          rfl
        | [], hc' => simp at hc'
        | _ :: _ :: _, hc' => simp at hc'

/-- 本体の後ろに `"` を続けた列は読めない。 -/
theorem decodeBody_flatMap_escapeChar_quote (l r : List Char) :
    decodeBody (l.flatMap escapeChar ++ '"' :: r) = none := by
  rw [decodeBody_flatMap_escapeChar_append]
  rfl

/-- **書いたリテラルの頭や、その後ろに何かを続けた列のうち、リテラルとして読めるのは、書いた
ものそのものだけ。** -/
theorem eq_quote_of_unquote? {s : String} {w z : List Char} (hw : w <+: (quote s).toList ++ z)
    (h : (unquote? (String.ofList w)).isSome) : w = (quote s).toList := by
  obtain ⟨t, ht⟩ := hw
  rw [quote_toList] at ht ⊢
  -- 読めるのは `"` で始まり `"` で終わる列
  obtain ⟨m, rfl, hm⟩ : ∃ m, w = '"' :: m ++ ['"'] ∧ (decodeBody m).isSome := by
    cases w with
    | nil => simp [unquote?] at h
    | cons x w =>
      have hx : x = '"' := by simpa using congrArg List.head? ht
      subst hx
      cases w with
      | nil => simp [unquote?] at h
      | cons y w =>
        simp only [unquote?, String.toList_ofList] at h
        split_ifs at h with hlast
        · refine ⟨(y :: w).dropLast, ?_, ?_⟩
          · have hl : (y :: w).getLast (List.cons_ne_nil y w) = '"' := by
              rw [List.getLast?_eq_some_getLast (List.cons_ne_nil y w)] at hlast
              exact Option.some.inj hlast
            have hcat := List.dropLast_concat_getLast (List.cons_ne_nil y w)
            rw [hl] at hcat
            rw [List.cons_append, hcat]
          · cases hd : decodeBody (y :: w).dropLast with
            | none => simp [hd] at h
            | some _ => rfl
        · simp at h
  simp only [List.cons_append, List.append_assoc, List.cons.injEq, true_and] at ht
  -- `m` と本体の長さを比べる
  rcases List.append_eq_append_iff.1 ht with ⟨a', hbody, ha'⟩ | ⟨c', hm', hz⟩
  · cases a' with
    | nil => rw [hbody, List.append_nil]
    | cons y a'' =>
      obtain ⟨rfl, -⟩ := List.cons.inj ha'
      rw [decodeBody_eq_none_of_flatMap_escapeChar hbody] at hm
      cases hm
  · cases c' with
    | nil => simp [hm']
    | cons y c'' =>
      obtain ⟨rfl, -⟩ := List.cons.inj hz
      rw [hm', decodeBody_flatMap_escapeChar_quote] at hm
      cases hm

/-! ## 書いて読む -/

/-- 書いたリテラルを読むと、元の文字列に戻る。 -/
theorem unquote?_quote (s : String) : unquote? (quote s) = some s := by
  have hbody : decodeBody (s.toList.flatMap escapeChar) = some (Text.Utf8.encode s.toList) := by
    simpa [decodeBody] using decodeBody_flatMap_escapeChar_append s.toList []
  -- 本体の後ろに閉じる `"` があるので、読むのは本体だけ
  obtain ⟨x, t, hne⟩ : ∃ x t, s.toList.flatMap escapeChar ++ ['"'] = x :: t := by
    cases h : s.toList.flatMap escapeChar with
    | nil => exact ⟨'"', [], rfl⟩
    | cons x t => exact ⟨x, t ++ ['"'], rfl⟩
  simp only [unquote?, quote_toList, List.cons_append, hne]
  rw [← hne, List.getLast?_concat, if_pos rfl, List.dropLast_concat, hbody, Option.bind_some,
    Text.Utf8.toString?, Text.Utf8.decode?_encode, Option.map_some, String.ofList_toList]

/-- 書き方の中の文字は、どれも表示できる。escape に使う文字は表示できる ASCII で、escape せずに
書くのは表示できる文字だけである。 -/
theorem isPrintableIn_of_mem_escapeChar {c x : Char} (hx : x ∈ escapeChar c) :
    Unicode.isPrintableIn .v16 x = true := by
  rcases escapeChar_cases c with ⟨p, hp, -, hc⟩ | ⟨hc, -, -, -, hpr⟩ | hc <;> rw [hc] at hx
  · simp only [List.mem_cons, List.not_mem_nil, or_false] at hx
    rcases hx with rfl | rfl
    · decide
    · exact (by decide : ∀ p ∈ namedEscapes, Unicode.isPrintableIn .v16 p.1 = true) p hp
  · rw [List.mem_singleton] at hx
    exact hx ▸ hpr
  · unfold numericEscape at hx
    dsimp only at hx
    have hdigit : ∀ w n, x ∈ hexDigits w n → Unicode.isPrintableIn .v16 x = true := fun w n h => by
      obtain ⟨m, rfl⟩ := mem_hexDigits h
      exact (by decide : ∀ d, d < 16 → Unicode.isPrintableIn .v16 (hexDigitChar d) = true) _
        (Nat.mod_lt m (by decide))
    split_ifs at hx <;>
      · simp only [List.mem_cons] at hx
        rcases hx with rfl | rfl | hx
        · decide
        · decide
        · exact hdigit _ _ hx

/-- **書いたリテラルは読むと元の文字列に戻り、その中のどの文字も表示できる。** 制御文字、書式文字、
区切り、私用文字、未割り当ての符号点は、どれも escape されて残らない。 -/
theorem unquote?_quote_printable (s : String) :
    unquote? (quote s) = some s ∧ ∀ x ∈ (quote s).toList, Unicode.isPrintableIn .v16 x = true := by
  refine ⟨unquote?_quote s, fun x hx => ?_⟩
  -- 両端の `"` と、各文字の書き方
  rw [quote_toList, List.mem_append, List.mem_cons, List.mem_singleton] at hx
  rcases hx with (rfl | hx) | rfl
  · decide
  · obtain ⟨c, -, hc⟩ := List.mem_flatMap.1 hx
    exact isPrintableIn_of_mem_escapeChar hc
  · decide

end LogLint.Go.StringLit
