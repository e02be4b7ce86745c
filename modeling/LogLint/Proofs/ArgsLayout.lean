import Mathlib
import LogLint.Analyzer

/-!
# 引数の並べ方の規則

後ろの引数が行を共有するかの判定を、引数の位置の言葉で言い直す（`layoutIssue?_iff_breaksLayout`）。

* `hasDuplicateLine` は見た行を集合に入れながら進み、入れる前にすでにあった行で止まる。集合には
  それまでに見た行がちょうど入っている、という不変条件で、止まるのは行の並びに重複があるときに
  限る（`hasDuplicateLine_go_iff`）
* key/value を取る呼び出しでは偶数番目の引数だけを比べる。偶数番目を並べた `evenItems` の `k` 番目
  は元の `2k` 番目である（`getElem?_evenItems`）
-/

namespace LogLint.Analyzer

/-! ## 重複の探索 -/

theorem hasDuplicateLine_go_nil (seen : Std.HashSet Nat) : hasDuplicateLine.go seen [] = false := rfl

/-- 一行見るごとに、その行がすでにあったかを調べ、集合に入れて進む。 -/
theorem hasDuplicateLine_go_cons (seen : Std.HashSet Nat) (line : Nat) (rest : List Nat) :
    hasDuplicateLine.go seen (line :: rest) =
      (seen.contains line || hasDuplicateLine.go (seen.insert line) rest) := by
  show ((seen.containsThenInsert line).1 ||
    hasDuplicateLine.go (seen.containsThenInsert line).2 rest) = _
  rw [Std.HashSet.containsThenInsert_fst, Std.HashSet.containsThenInsert_snd]

/-- **集合 `seen` から始めた探索が重複を見つけるのは、残りの行のどれかがすでに `seen` にあるか、
残りの行に重複があるとき。** -/
theorem hasDuplicateLine_go_iff (seen : Std.HashSet Nat) (lines : List Nat) :
    hasDuplicateLine.go seen lines = true ↔ (∃ l ∈ lines, l ∈ seen) ∨ ¬ lines.Nodup := by
  induction lines generalizing seen with
  | nil => simp [hasDuplicateLine_go_nil]
  | cons line rest ih =>
    rw [hasDuplicateLine_go_cons, Bool.or_eq_true, ih, ← Std.HashSet.mem_iff_contains]
    simp only [Std.HashSet.mem_insert, beq_iff_eq]
    constructor
    · rintro (h | ⟨x, hx, rfl | hxs⟩ | hn)
      · exact .inl ⟨line, List.mem_cons_self, h⟩
      · -- 同じ行が後ろにもう一度ある
        exact .inr fun hnd => (List.nodup_cons.1 hnd).1 hx
      · exact .inl ⟨x, List.mem_cons_of_mem _ hx, hxs⟩
      · exact .inr fun hnd => hn (List.nodup_cons.1 hnd).2
    · rintro (⟨x, hx, hxs⟩ | hn)
      · rcases List.mem_cons.1 hx with rfl | hx
        · exact .inl hxs
        · exact .inr (.inl ⟨x, hx, .inr hxs⟩)
      · rw [List.nodup_cons, not_and_or, not_not] at hn
        rcases hn with hl | hn
        · exact .inr (.inl ⟨line, hl, .inl rfl⟩)
        · exact .inr (.inr hn)

/-- **重複の探索は、行の並びに同じ行が二度現れるときに限り重複を見つける。** -/
theorem hasDuplicateLine_iff (lines : List Nat) : hasDuplicateLine lines = true ↔ ¬ lines.Nodup := by
  rw [hasDuplicateLine, hasDuplicateLine_go_iff]
  simp [Std.HashSet.not_mem_empty]

/-! ## 位置で言う行の共有 -/

/-- 並び `A` の `i` 番目と `j` 番目が同じ行から始まる。 -/
def SameLine (A : List Expr) (i j : Nat) : Prop :=
  ∃ x y, A[i]? = some x ∧ A[j]? = some y ∧ x.pos.line = y.pos.line

/-- 引数の始まりの行に重複があるのは、相異なる二つの引数が同じ行から始まるとき。 -/
theorem not_nodup_lines_iff (A : List Expr) :
    ¬ (A.map (·.pos.line)).Nodup ↔ ∃ i j, i < j ∧ SameLine A i j := by
  rw [List.nodup_iff_getElem?_ne_getElem?]
  simp only [List.length_map, List.getElem?_map, not_forall, not_not, exists_prop]
  constructor
  · rintro ⟨i, j, hij, hj, heq⟩
    obtain ⟨y, hy⟩ : ∃ y, A[j]? = some y := ⟨A[j], List.getElem?_eq_getElem hj⟩
    obtain ⟨x, hx⟩ : ∃ x, A[i]? = some x := ⟨A[i], List.getElem?_eq_getElem (by omega)⟩
    rw [hx, hy, Option.map_some, Option.map_some, Option.some.injEq] at heq
    exact ⟨i, j, hij, x, y, hx, hy, heq⟩
  · rintro ⟨i, j, hij, x, y, hx, hy, heq⟩
    refine ⟨i, j, hij, (List.getElem?_eq_some_iff.1 hy).1, ?_⟩
    rw [hx, hy, Option.map_some, Option.map_some, heq]

/-- 偶数番目を並べたものの `k` 番目は、元の `2k` 番目。 -/
theorem getElem?_evenItems {α : Type} : ∀ (A : List α) (k : Nat), (evenItems A)[k]? = A[2 * k]?
  | a :: _ :: _, 0 => rfl
  | _ :: _ :: rest, k + 1 => by
    rw [evenItems, List.getElem?_cons_succ, getElem?_evenItems rest k,
      show 2 * (k + 1) = 2 * k + 1 + 1 by omega, List.getElem?_cons_succ, List.getElem?_cons_succ]
  | [_], 0 => rfl
  | [_], k + 1 => by simp [evenItems]
  | [], k => by simp [evenItems]

/-- 偶数番目の始まりの行に重複があるのは、偶数番目の相異なる二つが同じ行から始まるとき。 -/
theorem not_nodup_evenLines_iff (A : List Expr) :
    ¬ ((evenItems A).map (·.pos.line)).Nodup ↔
      ∃ i j, i < j ∧ i % 2 = 0 ∧ j % 2 = 0 ∧ SameLine A i j := by
  rw [not_nodup_lines_iff]
  simp only [SameLine, getElem?_evenItems]
  constructor
  · rintro ⟨k, k', hk, hsame⟩
    exact ⟨2 * k, 2 * k', by omega, by omega, by omega, hsame⟩
  · rintro ⟨i, j, hij, hi, hj, hsame⟩
    refine ⟨i / 2, j / 2, by omega, ?_⟩
    rwa [Nat.mul_div_cancel' (Nat.dvd_of_mod_eq_zero hi), Nat.mul_div_cancel' (Nat.dvd_of_mod_eq_zero hj)]

/-! ## 規則 -/

/-- 後ろの引数 `A` が並べ方の決まりを破る。key/value の並びでは、引数の数が偶数で二つ以上あり、
偶数番目の相異なる二つが同じ行から始まるとき。それ以外では、相異なる二つが同じ行から始まるとき。 -/
def BreaksLayout (A : List Expr) (isKv : Bool) : Prop :=
  if isKv then A.length % 2 = 0 ∧ 2 ≤ A.length ∧ ∃ i j, i < j ∧ i % 2 = 0 ∧ j % 2 = 0 ∧ SameLine A i j
  else ∃ i j, i < j ∧ SameLine A i j

/-- 二つ目の引数がなければ、同じ行から始まる二つはない。 -/
theorem not_sameLine_of_length_le {A : List Expr} (h : A.length ≤ 1) {i j : Nat} (hij : i < j) :
    ¬ SameLine A i j := by
  rintro ⟨x, y, -, hy, -⟩
  have := (List.getElem?_eq_some_iff.1 hy).1
  omega

theorem shareALine_iff (A : List Expr) (isKv : Bool) : shareALine A isKv = true ↔ BreaksLayout A isKv := by
  unfold shareALine BreaksLayout
  by_cases hlen : A.length ≤ 1
  · rw [if_pos hlen]
    cases isKv with
    | true =>
      simp only [if_true, Bool.false_eq_true, false_iff]
      rintro ⟨-, h2, -⟩
      omega
    | false =>
      simp only [Bool.false_eq_true, if_false, false_iff, not_exists, not_and]
      exact fun i j hij => not_sameLine_of_length_le hlen hij
  · rw [if_neg hlen]
    cases isKv with
    | true =>
      simp only [if_true]
      by_cases hodd : A.length % 2 = 0
      · rw [if_neg (by simp [hodd]), hasDuplicateLine_iff, not_nodup_evenLines_iff]
        exact ⟨fun h => ⟨hodd, by omega, h⟩, fun h => h.2.2⟩
      · rw [if_pos (by simpa using hodd)]
        simp [hodd]
    | false =>
      simp only [Bool.false_eq_true, if_false]
      rw [hasDuplicateLine_iff, not_nodup_lines_iff]

/-- **並べ方の規則が報告するのは、後ろの引数が決まりを破るときに限り、場所は呼び出しの始まり。**
重複の探索は、行の並びに同じ行が二度現れるときに限り重複を見つける。 -/
theorem layoutIssue?_iff_breaksLayout (a : Analyzer) (c : Call) (s : Shape) :
    (∀ issue, a.layoutIssue? c s = some issue ↔
      BreaksLayout (s.variadic c.args) s.isKv ∧ issue = a.issueAt .argsLayout c.span.pos) ∧
    ∀ lines, hasDuplicateLine lines = true ↔ ¬ lines.Nodup := by
  refine ⟨fun issue => ?_, hasDuplicateLine_iff⟩
  unfold layoutIssue?
  rw [← shareALine_iff]
  split
  · next h => simp [h, eq_comm]
  · next h => simp [h]

end LogLint.Analyzer
