import Mathlib
import LogLint.Fix

/-!
# テキストの中の位置

ソースの位置（1 から数える行と、バイトで数える桁）は、`SourceText.offset?` でテキストの先頭から
のバイト数に直る。ここでは文字の列の上でその意味を言い直す：位置 `p` がバイト数 `o` に直るのは、
テキストを `X ++ Y` と分けて、`X` のバイト数が `o` で、`X` の終わりが位置 `p` にあり、そこが行末の
`\r` より前にあるときに限る（`offset?_eq_some_iff`）。

* `SplitsAt X Y p` — `X` は完全な行の並び `Q` と改行を含まない `P` に分かれ、`Q` の改行の数が
  `p.line - 1`、`P` のバイト数が `p.col - 1`
* `Fix.splitBytes?_eq_some_iff` — バイト数で分けることは、頭のバイト数を決めること

証明は行の番号についての帰納法である。最初の行を取り除くと、位置は一行上がる
（`offset?_append_newline`）。
-/

namespace LogLint

open String (utf8Len)

/-! ## バイト数で比べる頭 -/

theorem newline_utf8Size : '\n'.utf8Size = 1 := rfl

/-- 同じ列の二つの頭は、バイト数の小さい方がもう一方の頭。 -/
theorem prefix_of_utf8Len_le {l p q : List Char} (hp : p <+: l) (hq : q <+: l)
    (h : utf8Len p ≤ utf8Len q) : p <+: q := by
  rcases List.prefix_or_prefix_of_prefix hp hq with hpq | hqp
  · exact hpq
  · obtain ⟨d, rfl⟩ := hqp
    have hd : utf8Len d = 0 := by
      simp only [String.utf8Len_append] at h
      omega
    rw [String.utf8Len_eq_zero.1 hd]
    simp

/-- 同じ列の二つの頭は、バイト数が同じなら等しい。 -/
theorem eq_of_prefix_of_utf8Len_eq {l p q : List Char} (hp : p <+: l) (hq : q <+: l)
    (h : utf8Len p = utf8Len q) : p = q :=
  List.IsPrefix.eq_of_length (prefix_of_utf8Len_le hp hq (Nat.le_of_eq h))
    (Nat.le_antisymm (prefix_of_utf8Len_le hp hq (Nat.le_of_eq h)).length_le
      (prefix_of_utf8Len_le hq hp (Nat.le_of_eq h.symm)).length_le)

theorem utf8Len_le_of_prefix {p q : List Char} (h : p <+: q) : utf8Len p ≤ utf8Len q := by
  obtain ⟨s, rfl⟩ := h
  simp

/-! ## 改行の数で比べる頭 -/

/-- 同じ列の二つの頭は、改行の少ない方がもう一方の頭。 -/
theorem prefix_of_count_lt {l p q : List Char} {a : Char} (hp : p <+: l) (hq : q <+: l)
    (h : p.count a < q.count a) : p <+: q := by
  rcases List.prefix_or_prefix_of_prefix hp hq with hpq | hqp
  · exact hpq
  · have := hqp.sublist.count_le a
    omega

/-- 行を並べた `Q'`（空か改行で終わる）の頭で、改行の数が同じものは `Q'` 自身。 -/
theorem eq_of_prefix_of_lines {Q Q' : List Char} (h : Q <+: Q')
    (hQ' : Q' = [] ∨ Q'.getLast? = some '\n') (hc : Q.count '\n' = Q'.count '\n') : Q = Q' := by
  obtain ⟨R, rfl⟩ := h
  have hR : '\n' ∉ R := by
    rw [List.count_append] at hc
    exact List.count_eq_zero.1 (by omega)
  rcases List.eq_nil_or_concat R with rfl | ⟨R', c, rfl⟩
  · rw [List.append_nil]
  · -- 最後の文字は `R` の中にあるので改行でない
    have hc' : c ≠ '\n' := fun h => hR (by simp [h])
    simp [List.concat_eq_append] at hQ'
    exact absurd hQ' hc'

/-- 同じ列の頭で、行を並べたもの（空か改行で終わる）は、改行の数で決まる。 -/
theorem eq_of_lines_prefix {l Q Q' : List Char} (hQ : Q <+: l) (hQ' : Q' <+: l)
    (hl : Q = [] ∨ Q.getLast? = some '\n') (hl' : Q' = [] ∨ Q'.getLast? = some '\n')
    (hc : Q.count '\n' = Q'.count '\n') : Q = Q' := by
  rcases List.prefix_or_prefix_of_prefix hQ hQ' with h | h
  · exact eq_of_prefix_of_lines h hl' hc
  · exact (eq_of_prefix_of_lines h hl hc.symm).symm

/-- 同じ列の頭で、同じ行の同じ桁で終わるものは一つ。行は前の行の並び `Q` の改行の数で、桁は
残り `P` のバイト数で数える。 -/
theorem eq_of_lines_append {l Q P Q' P' : List Char} (h : Q ++ P <+: l) (h' : Q' ++ P' <+: l)
    (hl : Q = [] ∨ Q.getLast? = some '\n') (hl' : Q' = [] ∨ Q'.getLast? = some '\n')
    (hc : Q.count '\n' = Q'.count '\n') (hP : utf8Len P = utf8Len P') : Q ++ P = Q' ++ P' := by
  have hQ : Q = Q' :=
    eq_of_lines_prefix ((List.prefix_append Q P).trans h) ((List.prefix_append Q' P').trans h') hl hl' hc
  exact eq_of_prefix_of_utf8Len_eq h h' (by simp [hQ, hP])

/-- 文字 `a` で終わる頭 `Q0 ++ [a]` について、`a` の数が `Q0` 以下の頭は `Q0` の頭。 -/
theorem prefix_of_count_le {l Z Q0 : List Char} {a : Char} (hZ : Z <+: l) (hQ : Q0 ++ [a] <+: l)
    (h : Z.count a ≤ Q0.count a) : Z <+: Q0 := by
  rcases List.prefix_or_prefix_of_prefix hZ ((List.prefix_append Q0 [a]).trans hQ) with hZQ | hQZ
  · exact hZQ
  · obtain ⟨R, rfl⟩ := hQZ
    cases R with
    | nil => simp
    | cons c R =>
      -- `Q0` の次の文字は `a` なので、`Z` は `a` を一つ余計に持つ
      have hpre : Q0 ++ [c] <+: l := List.IsPrefix.trans ⟨R, by simp⟩ hZ
      have hlen : (Q0 ++ [c]).length ≤ (Q0 ++ [a]).length := by simp
      have hca : Q0 ++ [c] = Q0 ++ [a] :=
        (List.prefix_of_prefix_length_le hpre hQ hlen).eq_of_length (by simp)
      simp only [List.append_cancel_left_eq, List.cons.injEq, and_true] at hca
      subst hca
      simp [List.count_append] at h

namespace Fix

/-! ## バイト数で分ける -/

theorem splitBytes?_utf8Len_append : ∀ a b : List Char, splitBytes? (utf8Len a) (a ++ b) = some (a, b)
  | [], b => by simp [splitBytes?]
  | c :: a, b => by
    have hc := c.utf8Size_pos
    obtain ⟨n, hn⟩ : ∃ n, utf8Len (c :: a) = n + 1 := ⟨utf8Len a + c.utf8Size - 1, by simp; omega⟩
    simp only [String.utf8Len_cons] at hn
    rw [String.utf8Len_cons, hn, List.cons_append, splitBytes?, if_pos (by omega),
      show n + 1 - c.utf8Size = utf8Len a by omega, splitBytes?_utf8Len_append a b]
    rfl

theorem eq_append_of_splitBytes? : ∀ {k : Nat} {l a b : List Char},
    splitBytes? k l = some (a, b) → l = a ++ b ∧ utf8Len a = k
  | 0, l, a, b, h => by
    simp only [splitBytes?, Option.some.injEq, Prod.mk.injEq] at h
    obtain ⟨rfl, rfl⟩ := h
    exact ⟨rfl, rfl⟩
  | _ + 1, [], _, _, h => by simp [splitBytes?] at h
  | n + 1, c :: l, a, b, h => by
    unfold splitBytes? at h
    split at h
    · next hc =>
      obtain ⟨⟨a', b'⟩, h', hab⟩ := Option.map_eq_some_iff.1 h
      simp only [Prod.mk.injEq] at hab
      obtain ⟨rfl, rfl⟩ := hab
      obtain ⟨rfl, hk⟩ := eq_append_of_splitBytes? h'
      refine ⟨rfl, ?_⟩
      simp only [String.utf8Len_cons]
      omega
    · cases h

/-- 先頭から `k` バイトで分けることは、バイト数が `k` の頭を取ること。 -/
theorem splitBytes?_eq_some_iff {k : Nat} {l a b : List Char} :
    splitBytes? k l = some (a, b) ↔ l = a ++ b ∧ utf8Len a = k := by
  refine ⟨eq_append_of_splitBytes?, ?_⟩
  rintro ⟨rfl, rfl⟩
  exact splitBytes?_utf8Len_append a b

/-- 後ろに何を足しても、前の部分の中で分けた結果は変わらない。 -/
theorem splitBytes?_append_of_le {k : Nat} {Q D : List Char} (h : k ≤ utf8Len Q) :
    splitBytes? k (Q ++ D) = (splitBytes? k Q).map fun (a, b) => (a, b ++ D) := by
  cases hs : splitBytes? k Q with
  | some ab =>
    obtain ⟨a, b⟩ := ab
    obtain ⟨rfl, rfl⟩ := splitBytes?_eq_some_iff.1 hs
    rw [List.append_assoc, splitBytes?_utf8Len_append]
    rfl
  | none =>
    cases hs' : splitBytes? k (Q ++ D) with
    | none => rfl
    | some ab =>
      obtain ⟨a, b⟩ := ab
      obtain ⟨hQD, rfl⟩ := splitBytes?_eq_some_iff.1 hs'
      -- バイト数が `Q` 以下の頭は `Q` の頭なので、`Q` でも分けられる
      have hpre : a <+: Q ++ D := ⟨b, hQD.symm⟩
      obtain ⟨c, rfl⟩ := prefix_of_utf8Len_le hpre (List.prefix_append Q D) h
      rw [splitBytes?_utf8Len_append] at hs
      cases hs

end Fix

/-! ## 文字の境目 -/

/-- `start` から数えた文字の境目は、頭のバイト数。 -/
theorem SourceText.contains_boundaries_iff {start k : Nat} :
    ∀ {L : List Char},
      (SourceText.boundaries start L).contains k = true ↔ ∃ P, P <+: L ∧ k = start + utf8Len P
  | [] => by simp [SourceText.boundaries]
  | c :: L => by
    simp only [SourceText.boundaries, List.contains_cons, Bool.or_eq_true, beq_iff_eq,
      contains_boundaries_iff, List.prefix_cons_iff]
    constructor
    · rintro (rfl | ⟨P, hP, rfl⟩)
      · exact ⟨[], Or.inl rfl, rfl⟩
      · refine ⟨c :: P, Or.inr ⟨P, rfl, hP⟩, ?_⟩
        simp only [String.utf8Len_cons]
        omega
    · rintro ⟨P, rfl | ⟨P', rfl, hP'⟩, rfl⟩
      · exact Or.inl rfl
      · refine Or.inr ⟨P', hP', ?_⟩
        simp only [String.utf8Len_cons]
        omega

/-! ## 行 -/

/-- テキスト `X ++ Y` を位置 `p` で分けている：`X` は完全な行の並び `Q`（空か、改行で終わる）と、
改行を含まない `P` に分かれ、`Q` の改行の数が `p.line - 1`、`P` のバイト数が `p.col - 1` で、
`P` はその行の行末の `\r` より前で終わる。 -/
def SplitsAt (X Y : List Char) (p : Pos) : Prop :=
  ∃ Q P, X = Q ++ P ∧ (Q = [] ∨ Q.getLast? = some '\n') ∧ '\n' ∉ P ∧
    Q.count '\n' + 1 = p.line ∧ utf8Len P + 1 = p.col ∧
    P <+: (SourceText.stripCr (String.ofList (P ++ Y.takeWhile (· != '\n')))).toList

namespace SourceText

theorem stripCr_ofList_prefix (L : List Char) : (stripCr (String.ofList L)).toList <+: L := by
  unfold stripCr
  rw [String.toList_ofList]
  split
  · next rest h =>
    rw [String.toList_ofList]
    have hL : L = rest.reverse ++ ['\r'] := by
      rw [← List.reverse_reverse L, h]
      simp
    rw [hL]
    exact List.prefix_append _ _
  · simp [String.toList_ofList]

/-! ## 位置を直す計算 -/

/-- 文字の列から作ったテキストの行は、改行で切った列。 -/
theorem rawLines_ofString (T : List Char) :
    (ofString (String.ofList T)).rawLines = (T.splitOn '\n').map String.ofList := by
  simp [ofString, String.toList_ofList]

theorem offset?_zero_col (t : SourceText) (l : Nat) : t.offset? ⟨l, 0⟩ = none := by
  cases l <;> rfl

/-- 位置を直す計算を、行の列の上で書いたもの。 -/
theorem offset?_succ_succ (t : SourceText) (n c : Nat) :
    t.offset? ⟨n + 1, c + 1⟩ = t.rawLines[n]?.bind fun L =>
      if (boundaries 0 (stripCr L).toList).contains c then
        some (((t.rawLines.take n).map (·.utf8ByteSize + 1)).foldr (· + ·) 0 + c)
      else none := by
  cases h : t.rawLines[n]? <;> simp [offset?, line?, h]

/-- 改行で切った最初の行は、最初の改行の前まで。 -/
theorem getElem?_zero_splitOn_newline :
    ∀ T : List Char, (T.splitOn '\n')[0]? = some (T.takeWhile (· != '\n'))
  | [] => rfl
  | c :: T => by
    have ih := getElem?_zero_splitOn_newline T
    obtain ⟨rest, hrest⟩ : ∃ rest, T.splitOn '\n' = T.takeWhile (· != '\n') :: rest := by
      cases h : T.splitOn '\n' with
      | nil => exact absurd h (List.splitOn_ne_nil _ _)
      | cons L rest =>
        rw [h] at ih
        simp only [List.getElem?_cons_zero, Option.some.injEq] at ih
        exact ⟨rest, by rw [ih]⟩
    rw [List.splitOn_cons_eq_if_modifyHead, hrest]
    by_cases hc : c = '\n' <;> simp [hc]

/-- 改行を含まない頭は、最初の改行の前までに丸ごと入る。 -/
theorem takeWhile_append_of_newline_not_mem {L : List Char} (hL : '\n' ∉ L) (Z : List Char) :
    (L ++ Z).takeWhile (· != '\n') = L ++ Z.takeWhile (· != '\n') :=
  List.takeWhile_append_of_pos fun a ha => by
    simp only [bne_iff_ne, ne_eq]
    exact fun h => hL (h ▸ ha)

/-- 改行を含まない頭 `L` は、最初の改行の前まで。 -/
theorem exists_first_newline : ∀ {T : List Char}, '\n' ∈ T → ∃ L T', T = L ++ '\n' :: T' ∧ '\n' ∉ L
  | c :: T, h => by
    by_cases hc : c = '\n'
    · exact ⟨[], T, by rw [hc]; rfl, List.not_mem_nil⟩
    · have hT : '\n' ∈ T := by
        rcases List.mem_cons.1 h with h' | h'
        · exact absurd h'.symm hc
        · exact h'
      obtain ⟨L, T', rfl, hL⟩ := exists_first_newline hT
      refine ⟨c :: L, T', rfl, ?_⟩
      simp only [List.mem_cons, not_or]
      exact ⟨Ne.symm hc, hL⟩

/-- 最初の行の中の位置は、行の中身の中の文字の境目。 -/
theorem offset?_one (T : List Char) (c : Nat) :
    (ofString (String.ofList T)).offset? ⟨1, c + 1⟩ =
      if (boundaries 0 (stripCr (String.ofList (T.takeWhile (· != '\n')))).toList).contains c then
        some c
      else none := by
  rw [offset?_succ_succ, rawLines_ofString, List.getElem?_map, getElem?_zero_splitOn_newline]
  simp

/-- 最初の行と改行を取り除くと、位置は一行上がり、バイト数はその分だけ減る。 -/
theorem offset?_append_newline {L : List Char} (hL : '\n' ∉ L) (T : List Char) (n c : Nat) :
    (ofString (String.ofList (L ++ '\n' :: T))).offset? ⟨n + 2, c⟩ =
      ((ofString (String.ofList T)).offset? ⟨n + 1, c⟩).map (utf8Len L + 1 + ·) := by
  cases c with
  | zero => rfl
  | succ c =>
    rw [offset?_succ_succ, offset?_succ_succ, rawLines_ofString, rawLines_ofString,
      List.splitOn_append_cons_self_of_not_mem hL]
    cases h : ((T.splitOn '\n').map String.ofList)[n]? with
    | none => simp [h]
    | some L' =>
      simp only [List.map_cons, List.getElem?_cons_succ, h, Option.bind_some, List.take_succ_cons,
        List.foldr_cons, String.utf8ByteSize_ofList]
      split <;> simp only [Option.map_some, Option.map_none]
      congr 1
      omega

/-- 改行のないテキストには、二行目からの位置はない。 -/
theorem offset?_of_not_mem {T : List Char} (hT : '\n' ∉ T) (n c : Nat) :
    (ofString (String.ofList T)).offset? ⟨n + 2, c⟩ = none := by
  cases c with
  | zero => rfl
  | succ c => simp [offset?_succ_succ, rawLines_ofString, List.splitOn_eq_singleton hT]

/-- 行末の `\r` を除いても、`\r` でない文字までは残る。 -/
theorem prefix_stripCr_ofList {P w : List Char} {d : Char} (hd : d ≠ '\r') :
    P ++ [d] <+: (stripCr (String.ofList (P ++ d :: w))).toList := by
  unfold stripCr
  rw [String.toList_ofList]
  split
  · next rest h =>
    rw [String.toList_ofList]
    have hL : P ++ d :: w = rest.reverse ++ ['\r'] := by
      rw [← List.reverse_reverse (P ++ d :: w), h]
      simp
    rcases List.eq_nil_or_concat w with rfl | ⟨w', x, rfl⟩
    · -- `d` が最後の文字なら、それが `\r` のはず
      have hd' := (List.append_inj' hL rfl).2
      simp only [List.cons.injEq, and_true] at hd'
      exact absurd hd' hd
    · -- 最後の `\r` は `w` の最後の文字
      have hL' : (P ++ d :: w') ++ [x] = rest.reverse ++ ['\r'] := by simpa using hL
      rw [← (List.append_inj' hL' rfl).1]
      exact ⟨w', by simp⟩
  · rw [String.toList_ofList]
    exact ⟨w, by simp⟩

end SourceText

/-! ## 位置で分ける -/

/-- 一行目で分けるのは、改行を含まない頭で分けること。 -/
theorem splitsAt_one_iff {X Y : List Char} {c : Nat} :
    SplitsAt X Y ⟨1, c⟩ ↔ '\n' ∉ X ∧ utf8Len X + 1 = c ∧
      X <+: (SourceText.stripCr (String.ofList (X ++ Y.takeWhile (· != '\n')))).toList := by
  constructor
  · rintro ⟨Q, P, rfl, hQ, hP, hcount, hcol, hin⟩
    -- 改行の数が 0 なので、完全な行の並びは空
    have hQnil : Q = [] := by
      rcases hQ with hQ | hQ
      · exact hQ
      · have hpos := List.count_pos_iff.2 (List.mem_of_getLast? hQ)
        simp only [Nat.add_eq_right] at hcount
        omega
    subst hQnil
    exact ⟨hP, hcol, hin⟩
  · rintro ⟨hX, hcol, hin⟩
    exact ⟨[], X, rfl, Or.inl rfl, hX, rfl, hcol, hin⟩

/-- 最初の行と改行の後ろで分けることは、残りのテキストを一行上の位置で分けること。 -/
theorem splitsAt_append_newline_iff {L X Y : List Char} (hL : '\n' ∉ L) {n c : Nat} :
    SplitsAt (L ++ '\n' :: X) Y ⟨n + 2, c⟩ ↔ SplitsAt X Y ⟨n + 1, c⟩ := by
  constructor
  · rintro ⟨Q, P, hQP, hQ, hP, hcount, hcol, hin⟩
    rcases List.append_eq_append_iff.1 hQP with ⟨a', rfl, ha'⟩ | ⟨c', -, hc'⟩
    · cases a' with
      | nil =>
        -- 改行が `P` に入ってしまう
        exact absurd (by rw [← List.nil_append P, ← ha']; exact List.mem_cons_self) hP
      | cons x Q' =>
        obtain ⟨rfl, rfl⟩ := List.cons.inj ha'
        refine ⟨Q', P, rfl, ?_, hP, ?_, hcol, hin⟩
        · cases Q' with
          | nil => exact Or.inl rfl
          | cons y ys =>
            right
            rcases hQ with hQ | hQ
            · simp at hQ
            · simpa using hQ
        · simp only [List.count_append, List.count_eq_zero.2 hL, List.count_cons_self] at hcount ⊢
          omega
    · exact absurd (by rw [hc']; simp) hP
  · rintro ⟨Q, P, rfl, hQ, hP, hcount, hcol, hin⟩
    refine ⟨L ++ '\n' :: Q, P, by simp, Or.inr ?_, hP, ?_, hcol, hin⟩
    · rcases hQ with rfl | hQ
      · simp
      · simp [List.getLast?_cons, hQ]
    · simp only [List.count_append, List.count_eq_zero.2 hL, List.count_cons_self] at hcount ⊢
      omega

/-- 二行目から後の位置の前には、改行がある。 -/
theorem newline_mem_of_splitsAt {X Y : List Char} {n c : Nat} (h : SplitsAt X Y ⟨n + 2, c⟩) :
    '\n' ∈ X := by
  obtain ⟨Q, P, rfl, -, -, hcount, -⟩ := h
  have hQ : '\n' ∈ Q := List.count_pos_iff.1 (by simp only at hcount; omega)
  exact List.mem_append_left P hQ

/-- 行の番号についての帰納法。 -/
theorem offset?_succ_eq_some_iff : ∀ (n : Nat) {T : List Char} {c o : Nat},
    (SourceText.ofString (String.ofList T)).offset? ⟨n + 1, c⟩ = some o ↔
      ∃ X Y, T = X ++ Y ∧ utf8Len X = o ∧ SplitsAt X Y ⟨n + 1, c⟩
  | 0, T, 0, o => by
    rw [SourceText.offset?_zero_col]
    refine ⟨fun h => ?_, ?_⟩
    · cases h
    · rintro ⟨X, Y, -, -, h⟩
      have := (splitsAt_one_iff.1 h).2.1
      omega
  | 0, T, c + 1, o => by
    rw [SourceText.offset?_one]
    constructor
    · intro h
      split at h
      · next hc =>
        obtain ⟨P, hP, hcP⟩ := SourceText.contains_boundaries_iff.1 hc
        cases h
        -- `P` は一行目の中身の頭
        have hPL := hP.trans (SourceText.stripCr_ofList_prefix _)
        obtain ⟨Y, hY⟩ := hPL.trans (List.takeWhile_prefix _)
        have hPnl : '\n' ∉ P := fun hm => by
          have := List.mem_takeWhile_imp (hPL.subset hm)
          simp at this
        refine ⟨P, Y, hY.symm, by omega, splitsAt_one_iff.2 ⟨hPnl, by omega, ?_⟩⟩
        rwa [← SourceText.takeWhile_append_of_newline_not_mem hPnl Y, hY]
      · cases h
    · rintro ⟨X, Y, rfl, rfl, h⟩
      obtain ⟨hX, hcol, hin⟩ := splitsAt_one_iff.1 h
      rw [SourceText.takeWhile_append_of_newline_not_mem hX,
        if_pos (SourceText.contains_boundaries_iff.2 ⟨X, hin, by omega⟩)]
      congr 1
      omega
  | n + 1, T, c, o => by
    by_cases hT : '\n' ∈ T
    · obtain ⟨L, T', rfl, hL⟩ := SourceText.exists_first_newline hT
      rw [show n + 1 + 1 = n + 2 from rfl, SourceText.offset?_append_newline hL, Option.map_eq_some_iff]
      constructor
      · rintro ⟨o', ho', rfl⟩
        obtain ⟨X', Y, rfl, rfl, h⟩ := (offset?_succ_eq_some_iff n).1 ho'
        refine ⟨L ++ '\n' :: X', Y, by simp, ?_, (splitsAt_append_newline_iff hL).2 h⟩
        simp only [String.utf8Len_append, String.utf8Len_cons, newline_utf8Size]
        omega
      · rintro ⟨X, Y, hT', rfl, h⟩
        -- 分け目より前に改行があるので、`X` は最初の行と改行で始まる
        have hX := newline_mem_of_splitsAt h
        rcases List.append_eq_append_iff.1 hT' with ⟨a', rfl, ha'⟩ | ⟨c', hc', -⟩
        · cases a' with
          | nil => exact absurd (by simpa using hX) hL
          | cons x X' =>
            obtain ⟨rfl, rfl⟩ := List.cons.inj ha'
            refine ⟨utf8Len X', (offset?_succ_eq_some_iff n).2
              ⟨X', Y, rfl, rfl, (splitsAt_append_newline_iff hL).1 h⟩, ?_⟩
            simp only [String.utf8Len_append, String.utf8Len_cons, newline_utf8Size]
            omega
        · exact absurd (hc' ▸ List.mem_append_left c' hX) hL
    · rw [SourceText.offset?_of_not_mem hT]
      refine ⟨fun h => ?_, ?_⟩
      · cases h
      · rintro ⟨X, Y, rfl, -, h⟩
        exact absurd (List.mem_append_left Y (newline_mem_of_splitsAt h)) hT

/-- **位置がバイト数 `o` に直るのは、テキストをその位置で `X ++ Y` に分けられ、`X` のバイト数が
`o` のときに限る。** -/
theorem offset?_eq_some_iff {T : List Char} {p : Pos} {o : Nat} :
    (SourceText.ofString (String.ofList T)).offset? p = some o ↔
      ∃ X Y, T = X ++ Y ∧ utf8Len X = o ∧ SplitsAt X Y p := by
  obtain ⟨l, c⟩ := p
  cases l with
  | zero =>
    refine ⟨fun h => ?_, ?_⟩
    · cases h
    · rintro ⟨X, Y, -, -, Q, P, -, -, -, hcount, -⟩
      simp at hcount
  | succ n => exact offset?_succ_eq_some_iff n

end LogLint
