import Mathlib
import LogLint.Proofs.FixIdempotence

/-!
# 書き換えを同時に当てる

`applyEdits` は、書き換えの範囲を始まりの遅い順に並べて後ろから当て、前に当てた範囲に重なる
ものを飛ばす。こうして後ろから一つずつ当てた結果が、当てた範囲を元のテキストの上で同時に
置き換えたもの（`Replaces`）になることを示す。

* 当てた範囲はどの二つも重ならず、当てなかった範囲は当てた範囲のどれかに重なる
  （`applyEdits_replaces`）。
* 当てた数は書き換えの数を超えない（`applyEdits_snd_le_length`）。
* 同じ範囲に同じ新しいテキストしかなければ、書き換えの並びは結果を変えない（`applyEdits_perm`）。
* ソースごとに当てる `apply` は、誤りで止まらなければ、数えた書き換えを当てたものと飛ばした
  ものに分ける（`apply_processed_eq`）。

## 仕組み

後ろから当てる繰り返しは、まだ触れていない元のテキストの頭 `pre` と、当て終えた後ろを持つ。
範囲を当てると `pre` はその範囲の始まりの前に縮む。次の範囲はそれより前で始まるので、`pre` の
外で終わるなら、いま当てた範囲に重なる（`applyRanges_replaces`）。
-/

set_option mvcgen.warning false

namespace LogLint

open String (utf8Len)
open Std.Do

namespace Fix

/-! ## 置き換えの仕様 -/

/-- 範囲 `r` と `s` が重なる：どちらも相手の終わりより前で始まる。 -/
def Overlaps (r s : Range) : Prop := r.1 < s.2.1 ∧ s.1 < r.2.1

/-- `T'` は、`T` の範囲の列 `S` をそれぞれの新しいテキストに替えたもの。`S` は後ろの範囲から
並ぶ。先頭の範囲 `r` の覆う `seg` を新しいテキストに替え、その前の `x` に残りの範囲を当て、
後ろの `y` はそのまま残す。 -/
inductive Replaces : List Char → List Range → List Char → Prop
  /-- 範囲がなければ何も替えない。 -/
  | nil (T : List Char) : Replaces T [] T
  /-- 一番後ろの範囲を替え、残りの範囲はみなその前に収まる。 -/
  | cons {T x seg y x' : List Char} {r : Range} {S : List Range} :
      Covers T r x seg y → (∀ s ∈ S, s.2.1 ≤ r.1) → Replaces x S x' →
      Replaces T (r :: S) (x' ++ r.2.2.toList ++ y)

namespace Replaces

variable {T T' : List Char} {S : List Range}

/-- 替える範囲はどれも `T` の中で終わる。 -/
theorem stop_le (h : Replaces T S T') : ∀ s ∈ S, s.2.1 ≤ utf8Len T := by
  induction h with
  | nil => simp
  | @cons T x seg y x' r S hc hS _ _ =>
    obtain ⟨rfl, hx, hxs⟩ := hc
    intro s hs
    rcases List.mem_cons.1 hs with rfl | hs
    · simp only [String.utf8Len_append]
      omega
    · have := hS s hs
      simp only [String.utf8Len_append]
      omega

/-- 替える範囲は、後ろのものから順に、前のものの始まりまでに終わる。 -/
theorem pairwise (h : Replaces T S T') : S.Pairwise fun a b => b.2.1 ≤ a.1 := by
  induction h with
  | nil => exact List.Pairwise.nil
  | cons _ hS _ ih => exact List.Pairwise.cons hS ih

/-- 替える範囲はどの二つも重ならない。 -/
theorem pairwise_not_overlaps (h : Replaces T S T') : S.Pairwise fun a b => ¬Overlaps a b :=
  h.pairwise.imp fun hba hab => absurd hab.1 (Nat.not_lt.2 hba)

end Replaces

/-! ## 後ろから当てる -/

/-- **後ろから当てると、当てた範囲を同時に置き換えたものになる。** `T` の空でない部分を覆う範囲を、
始まりの遅い順に `T` の頭 `pre` に当てる。当てた範囲 `S` は並びの部分列で、結果は `pre` の `S` を
置き換えたもの。当てなかった範囲は、当てた範囲に重なるか、`pre` の外で終わる。 -/
theorem applyRanges_replaces {T : List Char} :
    ∀ {L : List Range} {pre : List Char} (done : List Char),
      (∀ r ∈ L, r.1 < r.2.1 ∧ ∃ x seg y, Covers T r x seg y) →
      L.Pairwise (fun a b => b.1 ≤ a.1) → pre <+: T →
      ∃ S pre', S.Sublist L ∧ Replaces pre S pre' ∧
        applyRanges pre done L = (pre' ++ done, S.length) ∧
        ∀ r ∈ L, r ∈ S ∨ (∃ s ∈ S, Overlaps r s) ∨ utf8Len pre < r.2.1
  | [], pre, done, _, _, _ =>
    ⟨[], pre, List.Sublist.slnil, .nil pre, rfl, by simp⟩
  | r :: L, pre, done, hL, hsort, hpre => by
    have hL' : ∀ r ∈ L, r.1 < r.2.1 ∧ ∃ x seg y, Covers T r x seg y :=
      fun r' hr' => hL r' (List.mem_cons_of_mem _ hr')
    obtain ⟨hbefore, hsort'⟩ := List.pairwise_cons.1 hsort
    obtain ⟨hne, x, seg, y, hc⟩ := hL r List.mem_cons_self
    by_cases hle : r.2.1 ≤ utf8Len pre
    · -- 当てる：`pre` は `x ++ seg ++ after` に分かれ、残りは `x` に当てる
      obtain ⟨after, hsplit, happ⟩ := applyRanges_cons_of_covers hc hpre hle
      have hx : x <+: T := by
        obtain ⟨rfl, -, -⟩ := hc
        exact (List.prefix_append _ _).trans (List.prefix_append _ _)
      obtain ⟨S, x', hsub, hrep, heq, hcov⟩ :=
        applyRanges_replaces (L := L) (r.2.2.toList ++ after ++ done) hL' hsort' hx
      have hxl : utf8Len x = r.1 := hc.2.1
      refine ⟨r :: S, x' ++ r.2.2.toList ++ after, hsub.cons_cons r, ?_, ?_, ?_⟩
      · refine .cons ⟨hsplit, hc.2.1, hc.2.2⟩ (fun s hs => ?_) hrep
        rw [← hxl]
        exact hrep.stop_le s hs
      · rw [happ, heq]
        simp
      · intro r' hr'
        rcases List.mem_cons.1 hr' with rfl | hr'
        · exact .inl List.mem_cons_self
        rcases hcov r' hr' with hs | ⟨s, hs, ho⟩ | hlt
        · exact .inl (List.mem_cons_of_mem _ hs)
        · exact .inr (.inl ⟨s, List.mem_cons_of_mem _ hs, ho⟩)
        · -- `x` の外で終わる範囲は、`r` より前で始まるので `r` に重なる
          have := hbefore r' hr'
          exact .inr (.inl ⟨r, List.mem_cons_self, by omega, by omega⟩)
    · -- 飛ばす：`r` は `pre` の外で終わる
      rw [Nat.not_le] at hle
      obtain ⟨S, pre', hsub, hrep, heq, hcov⟩ := applyRanges_replaces (L := L) done hL' hsort' hpre
      refine ⟨S, pre', hsub.cons r, hrep, by rw [applyRanges_cons_of_lt L hle, heq], ?_⟩
      intro r' hr'
      rcases List.mem_cons.1 hr' with rfl | hr'
      · exact .inr (.inr hle)
      · exact hcov r' hr'

/-! ## 書き換えの範囲 -/

/-- 書き換えの列 `E` がテキスト `t` の中に指す範囲。両端がバイト位置に直り、間の文字が
文字列リテラルとして読めるものだけが残る。 -/
def editRanges (t : String) (E : List TextEdit) : List Range :=
  E.filterMap (range? (SourceText.ofString t) t.toList)

/-- 書き換えの範囲は、書き換えのどれかの両端がバイト位置に直り、その間の文字が文字列リテラルと
して読めるもの。新しいテキストはその書き換えのもの。 -/
theorem mem_editRanges {t : String} {E : List TextEdit} {r : Range} :
    r ∈ editRanges t E ↔ ∃ e ∈ E, (SourceText.ofString t).offset? e.span.pos = some r.1 ∧
      (SourceText.ofString t).offset? e.span.stop = some r.2.1 ∧
      (∃ x inner y, t.toList = x ++ inner ++ y ∧ utf8Len x = r.1 ∧
        utf8Len x + utf8Len inner = r.2.1 ∧ (Go.StringLit.unquote? (String.ofList inner)).isSome) ∧
      r.2.2 = e.newText := by
  simp only [editRanges, List.mem_filterMap, range?_eq_some_iff, spanText?_eq_some_iff]
  constructor
  · rintro ⟨e, he, inner, ⟨hpos, hstop, x, y, ht, hx, hxi⟩, hu, hn⟩
    exact ⟨e, he, hpos, hstop, ⟨x, inner, y, ht, hx, hxi, hu⟩, hn⟩
  · rintro ⟨e, he, hpos, hstop, ⟨x, inner, y, ht, hx, hxi, hu⟩, hn⟩
    exact ⟨e, he, inner, ⟨hpos, hstop, x, y, ht, hx, hxi⟩, hu, hn⟩

/-- 空の文字列は文字列リテラルとして読めない。 -/
theorem unquote?_empty : Go.StringLit.unquote? "" = none := rfl

/-- 書き換えの範囲は、テキストの空でない部分を覆う。中身のリテラルは空でないから。 -/
theorem range?_covers {source : SourceText} {text : List Char} {e : TextEdit} {r : Range}
    (h : range? source text e = some r) : r.1 < r.2.1 ∧ ∃ x seg y, Covers text r x seg y := by
  obtain ⟨inner, hspan, hu, -⟩ := range?_eq_some_iff.1 h
  obtain ⟨-, -, x, y, htext, hx, hxi⟩ := spanText?_eq_some_iff.1 hspan
  refine ⟨?_, x, inner, y, htext, hx, hxi⟩
  cases inner with
  | nil => simp [unquote?_empty] at hu
  | cons c cs =>
    have := Char.utf8Size_pos c
    simp only [String.utf8Len_cons] at hxi
    omega

/-- 続けて同じものを一つにした列は、元の列の部分列。 -/
theorem dedupAdjacent_sublist : ∀ l : List Range, (dedupAdjacent l).Sublist l
  | [] => List.Sublist.slnil
  | [_] => List.Sublist.refl _
  | a :: b :: rest => by
    have ih := dedupAdjacent_sublist (b :: rest)
    by_cases hab : a = b
    · rw [dedupAdjacent, if_pos hab]
      exact ih.cons a
    · rw [dedupAdjacent, if_neg hab]
      exact ih.cons_cons a

/-- **`applyEdits` は書き換えの範囲の一部を同時に置き換える。** 当てた範囲 `S` は当てる順の
部分列で、当てた数はその長さ。当てなかった範囲は、当てた範囲のどれかに重なる。 -/
theorem applyEdits_replaces (t : String) (E : List TextEdit) :
    ∃ S, S.Sublist (dedupAdjacent ((editRanges t E).mergeSort appliesBefore)) ∧
      Replaces t.toList S (applyEdits t E).1.toList ∧ (applyEdits t E).2 = S.length ∧
      ∀ r ∈ editRanges t E, r ∈ S ∨ ∃ s ∈ S, Overlaps r s := by
  have hmem : ∀ {r}, r ∈ dedupAdjacent ((editRanges t E).mergeSort appliesBefore) ↔
      r ∈ editRanges t E := by
    intro r
    rw [mem_dedupAdjacent, List.mem_mergeSort]
  have hcov : ∀ r ∈ editRanges t E, r.1 < r.2.1 ∧ ∃ x seg y, Covers t.toList r x seg y := by
    intro r hr
    obtain ⟨e, -, he⟩ := List.mem_filterMap.1 hr
    exact range?_covers he
  obtain ⟨S, out, hsub, hrep, heq, hS⟩ := applyRanges_replaces []
    (fun r hr => hcov r (hmem.1 hr))
    ((pairwise_mergeSort_appliesBefore _).sublist (dedupAdjacent_sublist _))
    (List.prefix_refl t.toList)
  have happ : applyEdits t E = (String.ofList out, S.length) := by
    rw [editRanges] at heq
    simp only [applyEdits, heq, List.append_nil]
  refine ⟨S, hsub, by rw [happ, String.toList_ofList]; exact hrep, by rw [happ], fun r hr => ?_⟩
  -- 範囲はみなテキストの中で終わるので、当てたか、当てた範囲に重なる
  rcases hS r (hmem.2 hr) with hs | ho | hlt
  · exact .inl hs
  · exact .inr ho
  · obtain ⟨-, x, seg, y, ht, -, hxs⟩ := hcov r hr
    rw [ht] at hlt
    simp only [String.utf8Len_append] at hlt
    omega

/-- 当てた数は書き換えの数を超えない。 -/
theorem applyEdits_snd_le_length (t : String) (E : List TextEdit) :
    (applyEdits t E).2 ≤ E.length := by
  obtain ⟨S, hsub, -, hn, -⟩ := applyEdits_replaces t E
  calc (applyEdits t E).2 = S.length := hn
    _ ≤ (dedupAdjacent ((editRanges t E).mergeSort appliesBefore)).length := hsub.length_le
    _ ≤ ((editRanges t E).mergeSort appliesBefore).length := (dedupAdjacent_sublist _).length_le
    _ = (editRanges t E).length := List.length_mergeSort _
    _ ≤ E.length := List.length_filterMap_le _ _

/-! ## 書き換えの順 -/

/-- 同じ範囲に同じ新しいテキストしかなければ、当てる順に並べたものは元の並びによらない。 -/
theorem mergeSort_eq_of_perm {R R' : List Range} (hp : R'.Perm R)
    (hkey : ∀ a ∈ R, ∀ b ∈ R, a.1 = b.1 → a.2.1 = b.2.1 → a.2.2 = b.2.2) :
    R'.mergeSort appliesBefore = R.mergeSort appliesBefore := by
  refine List.Perm.eq_of_pairwise (fun a b ha hb hab hba => ?_)
    (List.pairwise_mergeSort appliesBefore_trans appliesBefore_total R')
    (List.pairwise_mergeSort appliesBefore_trans appliesBefore_total R)
    (((List.mergeSort_perm R' _).trans hp).trans (List.mergeSort_perm R _).symm)
  -- 互いに先に当たる二つの範囲は、始まりも終わりも同じ
  have ha' : a ∈ R := hp.subset (List.mem_mergeSort.1 ha)
  have hb' : b ∈ R := List.mem_mergeSort.1 hb
  simp only [appliesBefore, Bool.or_eq_true, decide_eq_true_eq, Bool.and_eq_true,
    beq_iff_eq] at hab hba
  have h1 : a.1 = b.1 := by omega
  have h2 : a.2.1 = b.2.1 := by omega
  exact Prod.ext h1 (Prod.ext h2 (hkey a ha' b hb' h1 h2))

/-- 同じ範囲に同じ新しいテキストしかなければ、`applyEdits` は書き換えの並びによらない。 -/
theorem applyEdits_perm {t : String} {E E' : List TextEdit} (hp : E'.Perm E)
    (hkey : ∀ a ∈ editRanges t E, ∀ b ∈ editRanges t E, a.1 = b.1 → a.2.1 = b.2.1 →
      a.2.2 = b.2.2) :
    applyEdits t E' = applyEdits t E := by
  have h : (editRanges t E').mergeSort appliesBefore = (editRanges t E).mergeSort appliesBefore :=
    mergeSort_eq_of_perm (hp.filterMap _) hkey
  unfold editRanges at h
  simp only [applyEdits, h]

/-! ## ソースごとに当てる -/

/-- 相異なる値ごとに数を足すと、列の長さになる。 -/
theorem sum_count_eraseDups : ∀ l : List String, (l.eraseDups.map l.count).sum = l.length
  | [] => rfl
  | a :: as => by
    have ih := sum_count_eraseDups (as.filter fun b => !b == a)
    -- `a` でない値は、`a` を除いた列でも同じ数だけある
    have hrest : ∀ f ∈ (as.filter fun b => !b == a).eraseDups,
        (a :: as).count f = (as.filter fun b => !b == a).count f := by
      intro f hf
      have hfa : f ≠ a := by
        have := List.mem_eraseDups.1 hf
        simpa using (List.mem_filter.1 this).2
      rw [List.count_cons_of_ne (Ne.symm hfa), List.count_filter (by simpa using hfa)]
    rw [List.eraseDups_cons, List.map_cons, List.sum_cons, List.map_congr_left hrest, ih,
      List.count_cons_self, List.length_cons, ← List.countP_eq_length_filter,
      List.length_eq_countP_add_countP (· == a) (l := as)]
    simp only [List.count, Bool.not_eq_true, Bool.decide_eq_false]
    omega
termination_by l => l.length
decreasing_by exact Nat.lt_succ_of_le (List.length_filter_le _ _)

/-- ソースごとに分けた書き換えの数を足すと、書き換えの数になる。 -/
theorem sum_length_byFile (edits : List (String × TextEdit)) :
    ((byFile edits).map (·.2.length)).sum = edits.length := by
  have hcount : ∀ f, ((edits.filter (·.1 == f)).map (·.2)).length = (edits.map (·.1)).count f := by
    intro f
    rw [List.length_map, List.count, List.countP_map, List.countP_eq_length_filter]
    rfl
  have hperm := List.mergeSort_perm (edits.map (·.1)) fun a b => decide (a ≤ b)
  calc ((byFile edits).map (·.2.length)).sum
      = ((sortedUnique (edits.map (·.1))).map (edits.map (·.1)).count).sum := by
        simp only [byFile, List.map_map, Function.comp_def, hcount]
    _ = (((edits.map (·.1)).mergeSort fun a b => decide (a ≤ b)).eraseDups.map
          ((edits.map (·.1)).mergeSort fun a b => decide (a ≤ b)).count).sum := by
        rw [sortedUnique]
        congr 2
        funext f
        exact hperm.count_eq f |>.symm
    _ = edits.length := by
        rw [sum_count_eraseDups, List.length_mergeSort, List.length_map]

/-! `apply` はディスクを読み書きするので、ディスクを状態 `σ` に持つ計算の上で述べる。ディスクの
答えについては何も仮定しない。 -/

section Disk

variable {σ : Type}

/-- 状態を持つ計算は、何を返しどの状態に移っても、状態によらない事実を保つ。 -/
theorem StateM.triple_true {α : Type} (x : StateM σ α) : ⦃⌜True⌝⦄ x ⦃⇓ _ => ⌜True⌝⦄ := by
  intro s _
  simp only [wp, PredTrans.apply_pushArg]
  trivial

variable [MonadDisk (StateM σ)]

/-- ディスクから読むことについては何も仮定しない。 -/
@[spec] theorem read_spec (p : String) :
    ⦃⌜True⌝⦄ (MonadDisk.read p : StateM σ _) ⦃⇓ _ => ⌜True⌝⦄ :=
  StateM.triple_true _

/-- ディスクに書くことについては何も仮定しない。 -/
@[spec] theorem write_spec (p c : String) :
    ⦃⌜True⌝⦄ (MonadDisk.write p c : StateM σ _) ⦃⇓ _ => ⌜True⌝⦄ :=
  StateM.triple_true _

/-- **誤りで止まらなければ、数えた書き換えは、当てたものと飛ばしたものに分かれる。**
ソースごとに、当てた数は書き換えの数を超えないので、飛ばした数の引き算は切り捨てられない。 -/
theorem apply_processed_eq (edits : List (String × TextEdit)) :
    ⦃⌜True⌝⦄ Fix.apply (m := StateM σ) edits
      ⦃⇓? stats => ⌜stats.processed = stats.applied + stats.skipped⌝⦄ := by
  unfold Fix.apply
  simp only [MonadDisk.read, MonadDisk.write]
  -- まだ当てていないソースの書き換えの数を足すと、数えた数になる
  mvcgen invariants
  | inv1 => ⇓?⟨cursor, stats⟩ => ⌜stats.processed =
      stats.applied + stats.skipped + (cursor.suffix.map (·.2.length)).sum⌝
  with grind [applyEdits_snd_le_length, sum_length_byFile]

end Disk

/-! ## 同時に置き換える -/

/-- **書き換えは、重ならないものを同時に置き換える。** テキスト `t` に書き換え `E` を当てると、
書き換えの範囲（`editRanges`）のうち互いに重ならない `S` を、それぞれの新しいテキストに同時に
置き換えたものになり、当てた数は `S` の長さで `E` の長さを超えない。当てなかった範囲は `S` の
どれかに重なる。同じ範囲に同じ新しいテキストしかなければ、書き換えの並びは結果を変えない。
書き換えをソースごとに当てる `apply` は、ディスクがどう答えても、誤りで止まらなければ、数えた
書き換えを当てたものと飛ばしたものに分ける。 -/
theorem applyEdits_simultaneous :
    (∀ (t : String) (E : List TextEdit),
      (∃ S : List Range, S.length = (applyEdits t E).2 ∧ (∀ s ∈ S, s ∈ editRanges t E) ∧
        S.Pairwise (fun a b => ¬Overlaps a b) ∧ Replaces t.toList S (applyEdits t E).1.toList ∧
        ∀ r ∈ editRanges t E, r ∈ S ∨ ∃ s ∈ S, Overlaps r s) ∧
      (applyEdits t E).2 ≤ E.length ∧
      ∀ E' : List TextEdit, E'.Perm E →
        (∀ a ∈ editRanges t E, ∀ b ∈ editRanges t E, a.1 = b.1 → a.2.1 = b.2.1 →
          a.2.2 = b.2.2) →
        applyEdits t E' = applyEdits t E) ∧
    ∀ {σ : Type} [MonadDisk (StateM σ)] (edits : List (String × TextEdit)),
      ⦃⌜True⌝⦄ Fix.apply (m := StateM σ) edits
        ⦃⇓? stats => ⌜stats.processed = stats.applied + stats.skipped⌝⦄ := by
  refine ⟨fun t E => ?_, fun edits => apply_processed_eq edits⟩
  obtain ⟨S, hsub, hrep, hn, hcov⟩ := applyEdits_replaces t E
  have hmem : ∀ s ∈ S, s ∈ editRanges t E := fun s hs => by
    have := hsub.subset hs
    rwa [mem_dedupAdjacent, List.mem_mergeSort] at this
  exact ⟨⟨S, hn.symm, hmem, hrep.pairwise_not_overlaps, hrep, hcov⟩, applyEdits_snd_le_length t E,
    fun E' hp hkey => applyEdits_perm hp hkey⟩

/-- 生のリテラルと、その中の解釈付きリテラルに、それぞれ書き換えがある。二つの範囲は重なり、
並びを逆にしても結果は変わらない。 -/
theorem applyEdits_simultaneous_nested :
    let t := "\x60\"a\"\x60"
    let E : List TextEdit := [⟨⟨⟨1, 1⟩, ⟨1, 6⟩⟩, "\"b\""⟩, ⟨⟨⟨1, 2⟩, ⟨1, 5⟩⟩, "\"c\""⟩]
    E.reverse.Perm E ∧
      (∀ a ∈ editRanges t E, ∀ b ∈ editRanges t E, a.1 = b.1 → a.2.1 = b.2.1 → a.2.2 = b.2.2) ∧
      applyEdits t E.reverse = applyEdits t E := by
  intro t E
  have hp : E.reverse.Perm E := List.reverse_perm E
  have hkey : ∀ a ∈ editRanges t E, ∀ b ∈ editRanges t E, a.1 = b.1 → a.2.1 = b.2.1 →
      a.2.2 = b.2.2 := by
    decide +kernel
  exact ⟨hp, hkey, (applyEdits_simultaneous.1 t E).2.2 E.reverse hp hkey⟩

end Fix

end LogLint
