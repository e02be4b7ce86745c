import Mathlib
import LogLint.Proofs.SourcePositions

/-!
# 行の索引

`SourceText.ofString t` は `t` を改行で切った片を行として持つ。ここでは行と位置の計算を、
テキストの文字の列の言葉で言い直す（`ofString_index_exact`）。

* `n` 行目は、`n` が `1` から「改行の数 `+ 1`」までのとき、`n - 1` 番目の片から行末の `\r` を
  高々一つ除いたもの（`dropCr`）。それ以外の `n` に行はない
* 位置 `p` がバイト数 `o` に直るのは、`p.line` 行目があり、桁が `1` からその行の中身のバイト数
  `+ 1` までで、`o` がその行の始まり `lineStart t p.line` に `p.col - 1` を足したもので、
  `o` が `t` の文字の境目（`String.Pos.Raw.IsValid`）のときに限る
* 直ったバイト数は、位置の辞書式の順（`Pos.lt`）に狭義に増える

証明の要は、`n` 番目の片の前にそれより前の片が改行付きで並ぶこと（`exists_eq_append_piece`）と、
同じテキストの二つの頭がバイト数で比べられること（`prefix_of_utf8Len_le`）である。
-/

namespace LogLint.SourceText

open String (utf8Len)

/-! ## 片と行 -/

/-- 行の片から、行末の `\r` を高々一つ除いたもの。 -/
def dropCr (piece : List Char) : List Char :=
  if piece.getLast? = some '\r' then piece.dropLast else piece

/-- `n` 行目（1 から数える）の始まりのバイト位置：前の各行のバイト数に改行一つずつを足した和。 -/
def lineStart (t : String) (n : Nat) : Nat :=
  (((t.toList.splitOn '\n').take (n - 1)).map fun piece => utf8Len piece + 1).sum

theorem dropCr_prefix_self (piece : List Char) : dropCr piece <+: piece := by
  unfold dropCr
  split
  · exact List.dropLast_prefix piece
  · exact List.prefix_refl piece

theorem stripCr_ofList (L : List Char) : stripCr (String.ofList L) = String.ofList (dropCr L) := by
  unfold stripCr dropCr
  rw [String.toList_ofList]
  rcases List.eq_nil_or_concat L with rfl | ⟨L', c, rfl⟩
  · rfl
  · by_cases hc : c = '\r'
    · subst hc
      simp
    · simp only [List.concat_eq_append, List.reverse_append, List.reverse_cons, List.reverse_nil,
        List.nil_append, List.singleton_append, List.getLast?_append, List.getLast?_singleton,
        Option.some_or, Option.some.injEq, hc, if_false]
      split
      · next rest h => exact absurd (List.cons.inj h).1 hc
      · rfl

/-- テキストは改行の数より一つ多い片に切れる。 -/
theorem length_splitOn_newline (T : List Char) :
    (T.splitOn '\n').length = T.count '\n' + 1 := by
  induction hn : T.count '\n' generalizing T with
  | zero => rw [List.splitOn_eq_singleton (List.count_eq_zero.1 hn), List.length_singleton]
  | succ n ih =>
    obtain ⟨L, T', rfl, hL⟩ := exists_first_newline (T := T) (List.count_pos_iff.1 (by omega))
    have hT' : T'.count '\n' = n := by
      simp only [List.count_append, List.count_eq_zero.2 hL, List.count_cons_self] at hn
      omega
    rw [List.splitOn_append_cons_self_of_not_mem hL, List.length_cons, ih T' hT']

/-- **`n` 番目の片の前には、それより前の片がそれぞれ改行を後ろに付けて並ぶ。** -/
theorem exists_eq_append_piece : ∀ (n : Nat) {T piece : List Char},
    (T.splitOn '\n')[n]? = some piece →
      ∃ Q R, T = Q ++ piece ++ R ∧
        utf8Len Q = (((T.splitOn '\n').take n).map fun L => utf8Len L + 1).sum
  | 0, T, piece, h => by
    rw [getElem?_zero_splitOn_newline, Option.some.injEq] at h
    subst h
    exact ⟨[], T.dropWhile (· != '\n'), by simp, by simp⟩
  | n + 1, T, piece, h => by
    by_cases hT : '\n' ∈ T
    · obtain ⟨L, T', rfl, hL⟩ := exists_first_newline hT
      rw [List.splitOn_append_cons_self_of_not_mem hL, List.getElem?_cons_succ] at h
      obtain ⟨Q', R, rfl, hQ'⟩ := exists_eq_append_piece n h
      refine ⟨L ++ '\n' :: Q', R, by simp, ?_⟩
      rw [List.splitOn_append_cons_self_of_not_mem hL, List.take_succ_cons, List.map_cons,
        List.sum_cons, ← hQ']
      simp only [String.utf8Len_append, String.utf8Len_cons, newline_utf8Size]
      omega
    · -- 改行がなければ片は一つだけ
      rw [List.splitOn_eq_singleton hT] at h
      cases h

/-- `n + 1` 行目は、`n` 番目の片から行末の `\r` を除いたもの。 -/
theorem line?_ofString_succ (t : String) (n : Nat) :
    (ofString t).line? (n + 1) =
      ((t.toList.splitOn '\n')[n]?).map fun piece => String.ofList (dropCr piece) := by
  simp only [line?, ofString, List.getElem?_map, Option.map_map]
  congr 1
  funext piece
  exact stripCr_ofList piece

/-- 行があるのは、番号が `1` から「改行の数 `+ 1`」までのときに限る。 -/
theorem line?_ofString_isSome_iff (t : String) (n : Nat) :
    ((ofString t).line? n).isSome ↔ 1 ≤ n ∧ n ≤ t.toList.count '\n' + 1 := by
  cases n with
  | zero => simp [line?]
  | succ n =>
    rw [line?_ofString_succ, Option.isSome_map, Option.isSome_iff_ne_none, ne_eq,
      List.getElem?_eq_none_iff, length_splitOn_newline]
    omega

theorem line?_ofString_eq_some_iff {t : String} {n : Nat} {line : String} :
    (ofString t).line? n = some line ↔
      1 ≤ n ∧ ∃ piece, (t.toList.splitOn '\n')[n - 1]? = some piece ∧ line = String.ofList (dropCr piece) := by
  cases n with
  | zero => simp [line?]
  | succ n =>
    rw [line?_ofString_succ, Option.map_eq_some_iff]
    simp only [Nat.add_sub_cancel, Nat.le_add_left, true_and]
    exact exists_congr fun piece => and_congr_right fun _ => eq_comm

/-! ## 文字の境目 -/

/-- 行の中の文字の境目は、行の頭のバイト数。 -/
theorem contains_boundaries_zero_iff {L : List Char} {c : Nat} :
    (boundaries 0 L).contains c = true ↔ ∃ P, P <+: L ∧ c = utf8Len P := by
  rw [contains_boundaries_iff]
  simp only [Nat.zero_add]

/-- バイト数 `o` が文字の境目であるのは、バイト数が `o` の頭があるとき。 -/
theorem isValid_iff_exists_prefix_utf8Len {t : String} {o : Nat} :
    (⟨o⟩ : String.Pos.Raw).IsValid t ↔ ∃ X, X <+: t.toList ∧ utf8Len X = o := by
  rw [String.Pos.Raw.isValid_iff_exists_take_toList]
  constructor
  · rintro ⟨i, hi⟩
    exact ⟨t.toList.take i, List.take_prefix i _, by simpa [String.utf8ByteSize_ofList] using hi.symm⟩
  · rintro ⟨X, hX, rfl⟩
    refine ⟨X.length, ?_⟩
    rw [← List.prefix_iff_eq_take.1 hX]
    simp [String.utf8ByteSize_ofList]

/-- 行の中身 `line` がテキストの頭 `Q ++ line` の終わりにあれば、行の中の文字の境目は、
テキストの文字の境目のうち行の中にあるもの。 -/
theorem exists_prefix_line_iff {T Q line : List Char} (h : Q ++ line <+: T) {c : Nat} :
    (∃ P, P <+: line ∧ c = utf8Len P) ↔
      c ≤ utf8Len line ∧ ∃ X, X <+: T ∧ utf8Len X = utf8Len Q + c := by
  constructor
  · rintro ⟨P, hP, rfl⟩
    have hle := utf8Len_le_of_prefix hP
    refine ⟨hle, Q ++ P, ?_, by simp⟩
    exact ((List.prefix_append_right_inj Q).2 hP).trans h
  · rintro ⟨hc, X, hX, hXc⟩
    -- `X` は `Q` より長く `Q ++ line` より短いので、`Q` に行の頭を続けたもの
    have hQX : Q <+: X :=
      prefix_of_utf8Len_le ((List.prefix_append Q line).trans h) hX (by omega)
    have hXQ : X <+: Q ++ line :=
      prefix_of_utf8Len_le hX h (by simp only [String.utf8Len_append]; omega)
    obtain ⟨P, rfl⟩ := hQX
    refine ⟨P, (List.prefix_append_right_inj Q).1 hXQ, ?_⟩
    simp only [String.utf8Len_append] at hXc
    omega

/-! ## 位置 -/

/-- 行の始まりは、前の行のバイト数の和。 -/
theorem lineStart_succ (t : String) (n : Nat) :
    lineStart t (n + 1) = (((t.toList.splitOn '\n').take n).map fun piece => utf8Len piece + 1).sum :=
  rfl

/-- 位置を直す計算を、片の上で書いたもの。 -/
theorem offset?_ofString_succ_succ (t : String) (n c : Nat) :
    (ofString t).offset? ⟨n + 1, c + 1⟩ = ((t.toList.splitOn '\n')[n]?).bind fun piece =>
      if (boundaries 0 (dropCr piece)).contains c then some (lineStart t (n + 1) + c) else none := by
  have hf : ((fun s : String => s.utf8ByteSize + 1) ∘ String.ofList) =
      fun piece => utf8Len piece + 1 := by
    funext s
    simp [String.utf8ByteSize_ofList]
  rw [offset?_succ_succ]
  simp only [ofString, List.getElem?_map, List.map_map, Option.bind_map, hf, ← List.map_take,
    ← List.sum_eq_foldr, ← lineStart_succ]
  refine congrArg (Option.bind _) (funext fun piece => ?_)
  rw [Function.comp_apply, stripCr_ofList, String.toList_ofList]

/-- `n` 番目の片の中の桁 `c` が行の中身の文字の境目であるのは、`c` が中身の中にあり、行の始まりに
`c` を足したバイト数がテキストの文字の境目であるとき。 -/
theorem contains_boundaries_dropCr_iff {t : String} {n : Nat} {piece : List Char}
    (hpiece : (t.toList.splitOn '\n')[n]? = some piece) {c : Nat} :
    (boundaries 0 (dropCr piece)).contains c = true ↔
      c ≤ utf8Len (dropCr piece) ∧ (⟨lineStart t (n + 1) + c⟩ : String.Pos.Raw).IsValid t := by
  obtain ⟨Q, R, hT, hQ⟩ := exists_eq_append_piece n hpiece
  rw [← lineStart_succ] at hQ
  have hline : Q ++ dropCr piece <+: t.toList := by
    rw [hT, List.append_assoc]
    exact (List.prefix_append_right_inj Q).2 ((dropCr_prefix_self piece).trans (List.prefix_append _ _))
  rw [contains_boundaries_zero_iff, exists_prefix_line_iff hline, isValid_iff_exists_prefix_utf8Len, hQ]

/-- **位置がバイト数 `o` に直るのは、その行があって桁がその中身の中かすぐ後ろにあり、`o` が行の
始まりに桁を足したもので、文字の境目にあるときに限る。** -/
theorem offset?_eq_some_iff_lineStart {t : String} {p : Pos} {o : Nat} :
    (ofString t).offset? p = some o ↔
      ∃ line, (ofString t).line? p.line = some line ∧ 1 ≤ p.col ∧
        p.col ≤ line.utf8ByteSize + 1 ∧ o = lineStart t p.line + p.col - 1 ∧
        (⟨o⟩ : String.Pos.Raw).IsValid t := by
  obtain ⟨l, c⟩ := p
  cases l with
  | zero => simp [offset?, line?]
  | succ n =>
    cases c with
    | zero => simp [offset?_zero_col]
    | succ c =>
      rw [offset?_ofString_succ_succ, line?_ofString_succ]
      cases hpiece : (t.toList.splitOn '\n')[n]? with
      | none => simp
      | some piece =>
        simp only [Option.bind_some, Option.map_some, Option.some.injEq, exists_eq_left',
          String.utf8ByteSize_ofList]
        by_cases hc : (boundaries 0 (dropCr piece)).contains c = true
        · obtain ⟨hcle, hvalid⟩ := (contains_boundaries_dropCr_iff hpiece).1 hc
          rw [if_pos hc, Option.some.injEq]
          constructor
          · rintro rfl
            exact ⟨by omega, by omega, rfl, hvalid⟩
          · rintro ⟨-, -, rfl, -⟩
            rfl
        · -- 桁が中身の外か文字の途中なら、直らない
          rw [if_neg hc]
          refine ⟨(fun h => by cases h), ?_⟩
          rintro ⟨-, hcle, rfl, hvalid⟩
          exact absurd ((contains_boundaries_dropCr_iff hpiece).2 ⟨by omega, hvalid⟩) hc

/-! ## 位置の順 -/

/-- 行の始まりは、行の番号とともに増える。 -/
theorem lineStart_mono (t : String) {m n : Nat} (h : m ≤ n) : lineStart t m ≤ lineStart t n := by
  unfold lineStart
  refine List.Sublist.sum_le_sum ?_ fun _ _ => Nat.zero_le _
  exact ((List.take_prefix_take_left (by omega)).map _).sublist

/-- 次の行は、この行の片と改行の後ろから始まる。 -/
theorem lineStart_add_two {t : String} {n : Nat} {piece : List Char}
    (h : (t.toList.splitOn '\n')[n]? = some piece) :
    lineStart t (n + 2) = lineStart t (n + 1) + utf8Len piece + 1 := by
  rw [lineStart_succ, lineStart_succ, List.take_add_one, h]
  simp only [Option.toList_some, List.map_append, List.map_cons, List.map_nil, List.sum_append,
    List.sum_cons, List.sum_nil]
  omega

/-- 直ったバイト数は、行の始まりからその行の片の終わりまでにある。 -/
theorem offset?_mem_line {t : String} {p : Pos} {o : Nat} (h : (ofString t).offset? p = some o) :
    ∃ n piece, p.line = n + 1 ∧ (t.toList.splitOn '\n')[n]? = some piece ∧ 1 ≤ p.col ∧
      o + 1 = lineStart t (n + 1) + p.col ∧ o ≤ lineStart t (n + 1) + utf8Len piece := by
  obtain ⟨line, hl, hc1, hcle, rfl, -⟩ := offset?_eq_some_iff_lineStart.1 h
  obtain ⟨h1, piece, hpiece, rfl⟩ := line?_ofString_eq_some_iff.1 hl
  have hdrop := utf8Len_le_of_prefix (dropCr_prefix_self piece)
  rw [String.utf8ByteSize_ofList] at hcle
  refine ⟨p.line - 1, piece, by omega, hpiece, hc1, ?_, ?_⟩ <;> rw [Nat.sub_add_cancel h1] <;> omega

/-- **直ったバイト数は、位置の辞書式の順に狭義に増える。** -/
theorem offset?_lt_offset? {t : String} {p p' : Pos} {o o' : Nat}
    (h : (ofString t).offset? p = some o) (h' : (ofString t).offset? p' = some o')
    (hlt : p.lt p' = true) : o < o' := by
  obtain ⟨n, piece, hn, hpiece, -, ho, hole⟩ := offset?_mem_line h
  obtain ⟨n', piece', hn', -, hc', ho', -⟩ := offset?_mem_line h'
  simp only [Pos.lt, Bool.or_eq_true, decide_eq_true_eq, Bool.and_eq_true, beq_iff_eq] at hlt
  rcases hlt with hlt | ⟨heq, hcol⟩
  · -- 後ろの行は、この行の片と改行の後ろから始まる
    have hnext := lineStart_add_two hpiece
    have hmono := lineStart_mono t (show n + 2 ≤ n' + 1 by omega)
    omega
  · -- 同じ行なら、桁の順
    have : n = n' := by omega
    subst this
    omega

/-- 直ったバイト数から、位置は一つに決まる。 -/
theorem offset?_injective {t : String} {p p' : Pos} {o : Nat}
    (h : (ofString t).offset? p = some o) (h' : (ofString t).offset? p' = some o) : p = p' := by
  by_contra hne
  have hlt : p.lt p' = true ∨ p'.lt p = true := by
    obtain ⟨l, c⟩ := p
    obtain ⟨l', c'⟩ := p'
    simp only [Pos.lt, Bool.or_eq_true, decide_eq_true_eq, Bool.and_eq_true, beq_iff_eq]
    simp only [Pos.mk.injEq, not_and_or] at hne
    omega
  rcases hlt with hlt | hlt
  · exact absurd (offset?_lt_offset? h h' hlt) (Nat.lt_irrefl o)
  · exact absurd (offset?_lt_offset? h' h hlt) (Nat.lt_irrefl o)

/-- **行と位置の索引は、テキストをそのとおりに読む。**

* 行は `1` から「改行の数 `+ 1`」まであり、`n` 行目は `n - 1` 番目の片から行末の `\r` を
  高々一つ除いたもの
* 位置がバイト数に直るのは、行があり、桁がその中身の中かすぐ後ろにあり、行の始まりに桁を
  足したバイト数が文字の境目にあるときに限り、直ったバイト数はそれ
* 直ったバイト数は位置の辞書式の順に狭義に増え、位置は直ったバイト数から一つに決まる -/
theorem ofString_index_exact (t : String) :
    ((ofString t).line? 0 = none ∧
      (∀ n, t.toList.count '\n' + 1 < n → (ofString t).line? n = none) ∧
      ∀ n, 1 ≤ n → n ≤ t.toList.count '\n' + 1 →
        ∃ piece, (t.toList.splitOn '\n')[n - 1]? = some piece ∧
          (ofString t).line? n = some (String.ofList (dropCr piece))) ∧
    (∀ p o, (ofString t).offset? p = some o ↔
      1 ≤ p.line ∧ p.line ≤ t.toList.count '\n' + 1 ∧
        ∃ line, (ofString t).line? p.line = some line ∧ 1 ≤ p.col ∧
          p.col ≤ line.utf8ByteSize + 1 ∧ o = lineStart t p.line + p.col - 1 ∧
          (⟨o⟩ : String.Pos.Raw).IsValid t) ∧
    (∀ p p' o o', (ofString t).offset? p = some o → (ofString t).offset? p' = some o' →
      p.lt p' = true → o < o') ∧
    (∀ p p' o, (ofString t).offset? p = some o → (ofString t).offset? p' = some o → p = p') := by
  refine ⟨⟨rfl, fun n hn => ?_, fun n h1 hN => ?_⟩, fun p o => ?_,
    fun _ _ _ _ h h' => offset?_lt_offset? h h', fun _ _ _ h h' => offset?_injective h h'⟩
  · -- 最後の行より後ろに行はない
    have := (line?_ofString_isSome_iff t n).not.2 (by omega)
    simpa using this
  · obtain ⟨line, hline⟩ := Option.isSome_iff_exists.1 ((line?_ofString_isSome_iff t n).2 ⟨h1, hN⟩)
    obtain ⟨-, piece, hpiece, rfl⟩ := line?_ofString_eq_some_iff.1 hline
    exact ⟨piece, hpiece, hline⟩
  · rw [offset?_eq_some_iff_lineStart]
    constructor
    · rintro ⟨line, hline, hcol⟩
      have := (line?_ofString_isSome_iff t p.line).1 (Option.isSome_iff_exists.2 ⟨line, hline⟩)
      exact ⟨this.1, this.2, line, hline, hcol⟩
    · rintro ⟨-, -, hrest⟩
      exact hrest

end LogLint.SourceText
