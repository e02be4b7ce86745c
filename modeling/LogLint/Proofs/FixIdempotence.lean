import LogLint.Proofs.SourcePositions
import LogLint.Proofs.QuotedLiteral

/-!
# 鍵の直しを二度当てる

`fix` は書き出しから得た書き換えをソースに当てる。書き出しは直す前のソースのものなので、二度目に
同じ書き換えを当てると、範囲は直した後のテキストを指す。範囲の中身がまだ文字列リテラルとして
読めるときだけ当てるのが、古くなった範囲への唯一の備えである。

鍵の直しが一行に一つまでなら、二度目は何も変えない（`applyEdits_idempotent`）。一度目に直した
鍵は、その範囲の始まりの位置に新しいテキストとして残る。それより前の行は直しても行の数を
変えないからである（`applyEdits_site`）。二度目の範囲はその新しいテキストから始まり、新しい
テキストの頭で読めるリテラルはそれ自身しかないので（`Go.StringLit.eq_quote_of_unquote?`）、
範囲はみな自分の新しいテキストを覆い、当てても変わらない。

同じ行に鍵が二つあると、前の鍵の長さが変わって後ろの範囲がずれ、ずれた先に別のリテラルが
あればそれを書き換える（`applyEdits_twice_moves_later_key`）。
-/

namespace LogLint

open String (utf8Len)

namespace Fix

/-! ## 範囲が覆う部分 -/

/-- 範囲 `r` は、テキスト `T = x ++ seg ++ y` の `seg` を覆う。 -/
def Covers (T : List Char) (r : Range) (x seg y : List Char) : Prop :=
  T = x ++ seg ++ y ∧ utf8Len x = r.1 ∧ utf8Len x + utf8Len seg = r.2.1

/-- `T` の頭 `pre` を範囲の始まりと終わりで分けると、覆う部分の前と、覆う部分と、後ろに分かれる。 -/
theorem Covers.split {T x seg y pre before z after : List Char} {r : Range}
    (hc : Covers T r x seg y) (hpre : pre <+: T) (hb : before <+: pre)
    (hbl : utf8Len before = r.1) (hz : pre = z ++ after) (hzl : utf8Len z = r.2.1) :
    before = x ∧ pre = x ++ seg ++ after := by
  obtain ⟨rfl, hx, hxs⟩ := hc
  have hbx : before = x :=
    eq_of_prefix_of_utf8Len_eq (hb.trans hpre) (by simp) (by rw [hbl, hx])
  have hzT : z <+: x ++ seg ++ y := by
    rw [hz] at hpre
    exact (List.prefix_append z after).trans hpre
  have hzx : z = x ++ seg :=
    eq_of_prefix_of_utf8Len_eq hzT (by simp) (by simp [hzl, ← hxs])
  exact ⟨hbx, by rw [hz, hzx]⟩

/-! ## 範囲を一つ当てる -/

/-- **一つ目の範囲は、飛ばされるか、当てられるか。** どちらになるかは `pre` と範囲だけで決まる。
当てるときは、`pre` を始まりの前 `before` と終わりの後ろ `after` で切り、間を新しいテキストに
替えて残りを当てる。 -/
theorem applyRanges_cons_cases (pre : List Char) (r : Range) :
    (∀ done rs, applyRanges pre done (r :: rs) = applyRanges pre done rs) ∨
      ∃ before z after, before <+: pre ∧ utf8Len before = r.1 ∧ pre = z ++ after ∧
        utf8Len z = r.2.1 ∧ ∀ done rs,
          applyRanges pre done (r :: rs) =
            ((applyRanges before (r.2.2.toList ++ after ++ done) rs).1,
              (applyRanges before (r.2.2.toList ++ after ++ done) rs).2 + 1) := by
  obtain ⟨start, stop, newText⟩ := r
  cases h1 : splitBytes? start pre with
  | none => left; intro done rs; simp [applyRanges, h1]
  | some bm =>
    cases h2 : splitBytes? stop pre with
    | none => left; intro done rs; simp [applyRanges, h1, h2]
    | some za =>
      obtain ⟨before, m⟩ := bm
      obtain ⟨z, after⟩ := za
      obtain ⟨hpre, hb⟩ := splitBytes?_eq_some_iff.1 h1
      obtain ⟨hz, hzl⟩ := splitBytes?_eq_some_iff.1 h2
      right
      refine ⟨before, z, after, ⟨m, hpre.symm⟩, hb, hz, hzl, fun done rs => ?_⟩
      simp [applyRanges, h1, h2]

/-- 終わりが `pre` の外にある範囲は飛ばす。 -/
theorem applyRanges_cons_of_lt {pre done : List Char} {r : Range} (rs : List Range)
    (hlt : utf8Len pre < r.2.1) : applyRanges pre done (r :: rs) = applyRanges pre done rs := by
  rcases applyRanges_cons_cases pre r with h | ⟨before, z, after, -, -, hz, hzl, -⟩
  · exact h done rs
  · have : utf8Len z ≤ utf8Len pre := utf8Len_le_of_prefix ⟨after, hz.symm⟩
    omega

/-- `T` の一部を覆う範囲は、終わりが `pre` の中にあれば当たる。 -/
theorem applyRanges_cons_of_covers {T x seg y pre : List Char} {r : Range}
    (hc : Covers T r x seg y) (hpre : pre <+: T) (hle : r.2.1 ≤ utf8Len pre) :
    ∃ after, pre = x ++ seg ++ after ∧ ∀ done rs,
      applyRanges pre done (r :: rs) =
        ((applyRanges x (r.2.2.toList ++ after ++ done) rs).1,
          (applyRanges x (r.2.2.toList ++ after ++ done) rs).2 + 1) := by
  obtain ⟨hT, hx, hxs⟩ := hc
  -- `x ++ seg` は `pre` より長くない `T` の頭なので、`pre` の頭
  have hxp : x ++ seg <+: pre :=
    prefix_of_utf8Len_le (by rw [hT]; exact List.prefix_append _ _) hpre (by simp; omega)
  obtain ⟨after, rfl⟩ := hxp
  have h1 : splitBytes? r.1 (x ++ seg ++ after) = some (x, seg ++ after) := by
    rw [← hx, List.append_assoc]
    exact splitBytes?_utf8Len_append x (seg ++ after)
  have h2 : splitBytes? r.2.1 (x ++ seg ++ after) = some (x ++ seg, after) := by
    rw [← hxs, ← String.utf8Len_append]
    exact splitBytes?_utf8Len_append (x ++ seg) after
  refine ⟨after, rfl, fun done rs => ?_⟩
  obtain ⟨start, stop, newText⟩ := r
  simp only at h1 h2
  simp only [applyRanges, h1, h2]

/-! ## 範囲の列を当てる -/

/-- 当て終えた後ろは、そのまま結果の後ろに付く。 -/
theorem applyRanges_fst_done (pre done : List Char) (rs : List Range) :
    (applyRanges pre done rs).1 = (applyRanges pre [] rs).1 ++ done := by
  induction rs generalizing pre done with
  | nil => simp [applyRanges]
  | cons r rs ih =>
    obtain ⟨start, stop, newText⟩ := r
    simp only [applyRanges]
    split
    · rw [ih _ (newText.toList ++ _ ++ done), ih _ (newText.toList ++ _ ++ [])]
      simp
    · exact ih pre done

/-- 範囲がみな `Q` の中にあれば、`Q` の後ろ `D` には触れず、当て終えた後ろと同じに扱われる。 -/
theorem applyRanges_append_of_le {Q D : List Char} (done : List Char) {rs : List Range}
    (h : ∀ r ∈ rs, r.1 ≤ utf8Len Q ∧ r.2.1 ≤ utf8Len Q) :
    applyRanges (Q ++ D) done rs = applyRanges Q (D ++ done) rs := by
  induction rs with
  | nil => simp [applyRanges]
  | cons r rs ih =>
    obtain ⟨start, stop, newText⟩ := r
    obtain ⟨hstart, hstop⟩ := h _ List.mem_cons_self
    simp only [applyRanges, splitBytes?_append_of_le hstart, splitBytes?_append_of_le hstop]
    -- 分け方は `Q` だけで決まる。当てれば同じ状態に、飛ばせば帰納法の仮定に行き着く
    cases splitBytes? start Q with
    | none => exact ih fun r hr => h r (List.mem_cons_of_mem _ hr)
    | some bm =>
      cases splitBytes? stop Q with
      | none => exact ih fun r hr => h r (List.mem_cons_of_mem _ hr)
      | some za => simp

/-- 始まりが `b` 以上の範囲 `A` を当て終えても、`pre` はバイト数 `b` 以上の頭までしか縮まない。
残りの範囲は、そこから当てることになる。 -/
theorem exists_applyRanges_append {b : Nat} :
    ∀ {A : List Range} (pre done : List Char), (∀ r ∈ A, b ≤ r.1) → b ≤ utf8Len pre →
      ∃ pre' done', pre' <+: pre ∧ b ≤ utf8Len pre' ∧
        ∀ rest, (applyRanges pre done (A ++ rest)).1 = (applyRanges pre' done' rest).1
  | [], pre, done, _, hb => ⟨pre, done, List.prefix_refl pre, hb, fun _ => rfl⟩
  | r :: A, pre, done, hA, hb => by
    have hA' : ∀ r ∈ A, b ≤ r.1 := fun r' hr' => hA r' (List.mem_cons_of_mem _ hr')
    rcases applyRanges_cons_cases pre r with h | ⟨before, z, after, hbp, hbl, -, -, h⟩
    · obtain ⟨pre', done', hp, hl, heq⟩ := exists_applyRanges_append pre done hA' hb
      exact ⟨pre', done', hp, hl, fun rest => by rw [List.cons_append, h, heq]⟩
    · -- 当てると、`pre` は範囲の始まりの前に縮む
      have hb' : b ≤ utf8Len before := by
        rw [hbl]
        exact hA r List.mem_cons_self
      obtain ⟨pre', done', hp, hl, heq⟩ :=
        exists_applyRanges_append before (r.2.2.toList ++ after ++ done) hA' hb'
      exact ⟨pre', done', hp.trans hbp, hl, fun rest => by rw [List.cons_append, h, heq]⟩

/-- **範囲がどれも自分の新しいテキストをすでに覆っていれば、当てても何も変わらない。** -/
theorem applyRanges_of_covers_self {T : List Char} :
    ∀ {rs : List Range} {pre done : List Char}, (∀ r ∈ rs, ∃ x y, Covers T r x r.2.2.toList y) →
      pre ++ done = T → (applyRanges pre done rs).1 = T
  | [], pre, done, _, hT => by simpa [applyRanges] using hT
  | r :: rs, pre, done, h, hT => by
    have h' : ∀ r ∈ rs, ∃ x y, Covers T r x r.2.2.toList y :=
      fun r' hr' => h r' (List.mem_cons_of_mem _ hr')
    obtain ⟨x, y, hc⟩ := h r List.mem_cons_self
    rcases applyRanges_cons_cases pre r with hs | ⟨before, z, after, hb, hbl, hz, hzl, ha⟩
    · rw [hs]
      exact applyRanges_of_covers_self h' hT
    · obtain ⟨rfl, hpre⟩ := hc.split ⟨done, hT⟩ hb hbl hz hzl
      rw [ha]
      -- 新しいテキストは覆っていた部分そのものなので、つなぐと `T` のまま
      exact applyRanges_of_covers_self h' (by rw [← hT, hpre]; simp)

/-- 改行のない部分を改行のないテキストに替えても、改行の数は変わらない。 -/
theorem count_newline_applyRanges {T : List Char} :
    ∀ {rs : List Range} {pre done : List Char},
      (∀ r ∈ rs, ∃ x seg y, Covers T r x seg y ∧ '\n' ∉ seg ∧ '\n' ∉ r.2.2.toList) →
      pre <+: T → (applyRanges pre done rs).1.count '\n' = (pre ++ done).count '\n'
  | [], pre, done, _, _ => by simp [applyRanges]
  | r :: rs, pre, done, h, hpre => by
    have h' : ∀ r ∈ rs, ∃ x seg y, Covers T r x seg y ∧ '\n' ∉ seg ∧ '\n' ∉ r.2.2.toList :=
      fun r' hr' => h r' (List.mem_cons_of_mem _ hr')
    obtain ⟨x, seg, y, hc, hseg, hnew⟩ := h r List.mem_cons_self
    rcases applyRanges_cons_cases pre r with hs | ⟨before, z, after, hb, hbl, hz, hzl, ha⟩
    · rw [hs]
      exact count_newline_applyRanges h' hpre
    · obtain ⟨rfl, hsplit⟩ := hc.split hpre hb hbl hz hzl
      rw [ha, count_newline_applyRanges h' (hb.trans hpre), hsplit]
      simp [List.count_append, List.count_eq_zero.2 hseg, List.count_eq_zero.2 hnew]

/-- 行を並べた `Q`（空か改行で終わる）の、最後の改行より前に終わる範囲だけを当てても、
行を並べたもののまま。 -/
theorem lines_applyRanges {Q : List Char} {rs : List Range}
    (hQ : Q = [] ∨ Q.getLast? = some '\n') (h : ∀ r ∈ rs, r.1 ≤ r.2.1 ∧ r.2.1 < utf8Len Q) :
    (applyRanges Q [] rs).1 = [] ∨ (applyRanges Q [] rs).1.getLast? = some '\n' := by
  rcases hQ with rfl | hlast
  · -- 空のテキストの中で終わる範囲はない
    cases rs with
    | nil => exact Or.inl rfl
    | cons r rs => exact absurd (h r List.mem_cons_self).2 (by simp)
  · right
    obtain ⟨Q0, rfl⟩ := List.getLast?_eq_some_iff.1 hlast
    have hin : ∀ r ∈ rs, r.1 ≤ utf8Len Q0 ∧ r.2.1 ≤ utf8Len Q0 := by
      intro r hr
      have := h r hr
      simp only [String.utf8Len_append, String.utf8Len_cons, String.utf8Len_nil,
        newline_utf8Size] at this
      omega
    rw [applyRanges_append_of_le [] hin, applyRanges_fst_done]
    simp

/-- **範囲を始まりの遅い順に当てると、どの範囲も当たる。** 先に当てる範囲 `A` がみな `r` の
終わりより後ろで始まり、後で当てる範囲 `B` がみな `r` の前の行 `Q` に収まれば、`r` の覆う部分は
`r` の新しいテキストに替わり、その前には、`Q` に `B` を当てたものと、`Q` と `r` の間の `P` が来る。 -/
theorem applyRanges_append_cons {T Q P seg y : List Char} {r : Range} {A B : List Range}
    (hc : Covers T r (Q ++ P) seg y) (hA : ∀ a ∈ A, r.2.1 ≤ a.1)
    (hB : ∀ b ∈ B, b.1 ≤ utf8Len Q ∧ b.2.1 ≤ utf8Len Q) :
    ∃ W, (applyRanges T [] (A ++ r :: B)).1 = (applyRanges Q [] B).1 ++ P ++ r.2.2.toList ++ W := by
  have hT : r.2.1 ≤ utf8Len T := by
    obtain ⟨rfl, -, h⟩ := hc
    simp only [String.utf8Len_append] at h ⊢
    omega
  obtain ⟨pre, done, hpre, hlen, heq⟩ := exists_applyRanges_append T [] hA hT
  obtain ⟨after, -, happ⟩ := applyRanges_cons_of_covers hc hpre hlen
  refine ⟨after ++ done, ?_⟩
  rw [heq, happ, applyRanges_append_of_le _ hB, applyRanges_fst_done]
  simp

/-! ## 当てる順 -/

theorem mem_dedupAdjacent {x : Range} : ∀ {l : List Range}, x ∈ dedupAdjacent l ↔ x ∈ l
  | [] => Iff.rfl
  | [_] => Iff.rfl
  | a :: b :: rest => by
    have ih := mem_dedupAdjacent (x := x) (l := b :: rest)
    by_cases hab : a = b
    · rw [dedupAdjacent, if_pos hab, ih, hab]
      simp
    · simp only [dedupAdjacent, if_neg hab, List.mem_cons, ih]

/-- 始まりの遅い順に並び、始まりが同じなら同じ範囲である列は、続けて同じものを一つにすると、
始まりが真に遅い順に並ぶ。 -/
theorem pairwise_dedupAdjacent :
    ∀ {l : List Range}, l.Pairwise (fun a b => b.1 ≤ a.1) →
      (∀ a ∈ l, ∀ b ∈ l, a.1 = b.1 → a = b) → (dedupAdjacent l).Pairwise fun a b => b.1 < a.1
  | [], _, _ => List.Pairwise.nil
  | [a], _, _ => List.pairwise_singleton _ a
  | a :: b :: rest, hl, hkey => by
    have ih := pairwise_dedupAdjacent (l := b :: rest) (List.pairwise_cons.1 hl).2
      fun x hx y hy => hkey x (List.mem_cons_of_mem _ hx) y (List.mem_cons_of_mem _ hy)
    by_cases hab : a = b
    · rw [dedupAdjacent, if_pos hab]
      exact ih
    · rw [dedupAdjacent, if_neg hab]
      refine List.Pairwise.cons (fun c hc => ?_) ih
      have hc' : c ∈ b :: rest := mem_dedupAdjacent.1 hc
      refine lt_of_le_of_ne (List.rel_of_pairwise_cons hl hc') fun heq => hab ?_
      -- `c` の始まりが `a` と同じなら、間の `b` の始まりも同じで、`b` は `a` 自身
      have hba : b.1 ≤ a.1 := List.rel_of_pairwise_cons hl List.mem_cons_self
      have hcb : c.1 ≤ b.1 := by
        rcases List.mem_cons.1 hc' with rfl | hcr
        · exact le_refl _
        · exact List.rel_of_pairwise_cons (List.pairwise_cons.1 hl).2 hcr
      exact hkey a List.mem_cons_self b (List.mem_cons_of_mem _ List.mem_cons_self) (by omega)

/-- 当てる順は推移的。 -/
theorem appliesBefore_trans (a b c : Range) :
    appliesBefore a b = true → appliesBefore b c = true → appliesBefore a c = true := by
  simp only [appliesBefore, Bool.or_eq_true, decide_eq_true_eq, Bool.and_eq_true, beq_iff_eq]
  omega

/-- どの二つの範囲も、どちらかが先に当たる。 -/
theorem appliesBefore_total (a b : Range) : (appliesBefore a b || appliesBefore b a) = true := by
  simp only [appliesBefore, Bool.or_eq_true, decide_eq_true_eq, Bool.and_eq_true, beq_iff_eq]
  omega

/-- 当てる順に並べると、始まりの遅い順に並ぶ。 -/
theorem pairwise_mergeSort_appliesBefore (l : List Range) :
    (l.mergeSort appliesBefore).Pairwise fun a b => b.1 ≤ a.1 := by
  refine (List.pairwise_mergeSort appliesBefore_trans appliesBefore_total l).imp fun {a b} h => ?_
  simp only [appliesBefore, Bool.or_eq_true, decide_eq_true_eq, Bool.and_eq_true,
    beq_iff_eq] at h
  omega

/-- 始まりで決まる範囲の列は、当てる順に並べて続けて同じものを一つにすると、同じ範囲を持ち、
始まりが真に遅い順に並ぶ。 -/
theorem sortRanges_spec {R : List Range} (hkey : ∀ a ∈ R, ∀ b ∈ R, a.1 = b.1 → a = b) :
    (∀ r, r ∈ dedupAdjacent (R.mergeSort appliesBefore) ↔ r ∈ R) ∧
      (dedupAdjacent (R.mergeSort appliesBefore)).Pairwise fun a b => b.1 < a.1 :=
  ⟨fun r => by rw [mem_dedupAdjacent, List.mem_mergeSort],
    pairwise_dedupAdjacent (pairwise_mergeSort_appliesBefore R) fun a ha b hb =>
      hkey a (List.mem_mergeSort.1 ha) b (List.mem_mergeSort.1 hb)⟩

/-! ## 位置から範囲へ -/

/-- `spanText?` は範囲の両端の位置をバイト位置に直し、その間の文字を返す。 -/
theorem spanText?_eq_some_iff {source : SourceText} {text : List Char} {span : Span}
    {start stop : Nat} {inner : List Char} :
    spanText? source text span = some (start, stop, inner) ↔
      source.offset? span.pos = some start ∧ source.offset? span.stop = some stop ∧
        ∃ x y, text = x ++ inner ++ y ∧ utf8Len x = start ∧ utf8Len x + utf8Len inner = stop := by
  unfold spanText?
  cases h1 : source.offset? span.pos with
  | none => simp
  | some s =>
    cases h2 : source.offset? span.stop with
    | none => simp
    | some s' =>
      simp only [Option.bind_eq_bind, Option.bind_some, Option.bind_none, Option.pure_def,
        Option.some.injEq]
      constructor
      · intro h
        split at h
        · cases h
        · obtain ⟨⟨x, rest⟩, h3, h⟩ := Option.bind_eq_some_iff.1 h
          obtain ⟨⟨inner', y⟩, h4, h⟩ := Option.bind_eq_some_iff.1 h
          simp only [Option.some.injEq, Prod.mk.injEq] at h
          obtain ⟨rfl, rfl, rfl⟩ := h
          obtain ⟨rfl, hx⟩ := splitBytes?_eq_some_iff.1 h3
          obtain ⟨rfl, hi⟩ := splitBytes?_eq_some_iff.1 h4
          exact ⟨rfl, rfl, x, y, by simp, hx, by omega⟩
      · rintro ⟨rfl, rfl, x, y, rfl, rfl, hxi⟩
        have hstop : s' - utf8Len x = utf8Len inner := by omega
        rw [if_neg (by omega), List.append_assoc, splitBytes?_utf8Len_append, Option.bind_some,
          hstop, splitBytes?_utf8Len_append, Option.bind_some]

/-- 書き換えが範囲に直るのは、範囲の間の文字が文字列リテラルとして読めるとき。 -/
theorem range?_eq_some_iff {source : SourceText} {text : List Char} {e : TextEdit} {r : Range} :
    range? source text e = some r ↔
      ∃ inner, spanText? source text e.span = some (r.1, r.2.1, inner) ∧
        (Go.StringLit.unquote? (String.ofList inner)).isSome ∧ r.2.2 = e.newText := by
  unfold range?
  constructor
  · intro h
    obtain ⟨⟨s, s', inner⟩, h1, h⟩ := Option.bind_eq_some_iff.1 h
    obtain ⟨u, hu, h⟩ := Option.bind_eq_some_iff.1 h
    cases h
    exact ⟨inner, h1, by simp [hu], rfl⟩
  · rintro ⟨inner, h1, hu, h3⟩
    obtain ⟨u, hu⟩ := Option.isSome_iff_exists.1 hu
    obtain ⟨s, s', n⟩ := r
    simp only at h1 h3
    simp only [Option.bind_eq_bind, h1, Option.bind_some, hu, Option.pure_def, h3]

/-- `applyEdits` は、範囲に直る書き換えを当てる順に並べ、続けて同じものを一つにして当てる。 -/
theorem applyEdits_fst_toList (text : String) (edits : List TextEdit) :
    (applyEdits text edits).1.toList =
      (applyRanges text.toList [] (dedupAdjacent
        ((edits.filterMap (range? (SourceText.ofString text) text.toList)).mergeSort
          appliesBefore))).1 := by
  simp [applyEdits]

/-! ## 鍵の直しの場所 -/

/-- 書き換え `e` は、テキスト `t` の文字列リテラルの鍵を、読んだ値を書き方 `k` に直して書いた
リテラルに替える。 -/
def IsKeyFix (t : String) (k : KeyCase) (e : TextEdit) : Prop :=
  ∃ start stop lit u, spanText? (SourceText.ofString t) t.toList e.span = some (start, stop, lit) ∧
    Go.StringLit.unquote? (String.ofList lit) = some u ∧ e.newText = Go.StringLit.quote (k.convert u)

/-- 書き換え `e` の範囲は、テキスト `T = Q ++ P ++ lit ++ B` の一つの行の中の `lit` を覆う。
`Q` は `e` の行より前の行を並べたもの、`P` はその行の `lit` より前。 -/
structure KeySite (T : List Char) (e : TextEdit) (Q P lit B : List Char) : Prop where
  split : T = Q ++ P ++ lit ++ B
  lines : Q = [] ∨ Q.getLast? = some '\n'
  line : Q.count '\n' + 1 = e.span.pos.line
  col : utf8Len P + 1 = e.span.pos.col
  inLine : '\n' ∉ P ++ lit

namespace KeySite

variable {T Q P lit B Q' P' lit' B' : List Char} {e e' : TextEdit}

theorem prefix_stop (hs : KeySite T e Q P lit B) : Q ++ P ++ lit <+: T := ⟨B, hs.split.symm⟩

theorem prefix_start (hs : KeySite T e Q P lit B) : Q ++ P <+: T :=
  (List.prefix_append _ _).trans hs.prefix_stop

theorem count_stop (hs : KeySite T e Q P lit B) :
    (Q ++ P ++ lit).count '\n' + 1 = e.span.pos.line := by
  rw [List.append_assoc, List.count_append, List.count_eq_zero.2 hs.inLine, Nat.add_zero, hs.line]

theorem count_start (hs : KeySite T e Q P lit B) : (Q ++ P).count '\n' + 1 = e.span.pos.line := by
  have := (List.prefix_append (Q ++ P) lit).sublist.count_le '\n'
  have := (List.prefix_append Q P).sublist.count_le '\n'
  have := hs.count_stop
  have := hs.line
  omega

theorem covers (hs : KeySite T e Q P lit B) (n : String) :
    Covers T (utf8Len (Q ++ P), utf8Len (Q ++ P ++ lit), n) (Q ++ P) lit B :=
  ⟨hs.split, rfl, by simp only [String.utf8Len_append]⟩

/-- 始まりが前にある鍵は、前か同じ行にある。 -/
theorem line_le_of_start_le (hs : KeySite T e Q P lit B) (hs' : KeySite T e' Q' P' lit' B')
    (hle : utf8Len (Q ++ P) ≤ utf8Len (Q' ++ P')) : e.span.pos.line ≤ e'.span.pos.line := by
  have hpre := prefix_of_utf8Len_le hs.prefix_start hs'.prefix_start hle
  have := hpre.sublist.count_le '\n'
  have := hs.count_start
  have := hs'.count_start
  omega

/-- 同じ位置から始まる鍵は、テキストの同じところから始まる。 -/
theorem start_eq (hs : KeySite T e Q P lit B) (hs' : KeySite T e' Q' P' lit' B')
    (hpos : e.span.pos = e'.span.pos) : Q ++ P = Q' ++ P' := by
  have hl := hs.line
  have hl' := hs'.line
  have hc := hs.col
  have hc' := hs'.col
  rw [hpos] at hl hc
  exact eq_of_lines_append hs.prefix_start hs'.prefix_start hs.lines hs'.lines (by omega) (by omega)

/-- 一行に一つまでの鍵では、始まりの順は行の順。 -/
theorem line_lt_of_start_lt (hs : KeySite T e Q P lit B) (hs' : KeySite T e' Q' P' lit' B')
    (hsame : e.span.pos.line = e'.span.pos.line → e = e')
    (hlt : utf8Len (Q ++ P) < utf8Len (Q' ++ P')) : e.span.pos.line < e'.span.pos.line := by
  rcases Nat.lt_or_eq_of_le (hs.line_le_of_start_le hs' hlt.le) with h | h
  · exact h
  · -- 同じ行なら同じ鍵で、始まりも同じになる
    obtain rfl := hsame h
    rw [hs.start_eq hs' rfl] at hlt
    exact absurd hlt (lt_irrefl _)

/-- 前の行の鍵は、後ろの行の鍵が始まる前に終わる。 -/
theorem stop_le_of_line_lt (hs : KeySite T e Q P lit B) (hs' : KeySite T e' Q' P' lit' B')
    (hlt : e.span.pos.line < e'.span.pos.line) : utf8Len (Q ++ P ++ lit) ≤ utf8Len (Q' ++ P') := by
  have := hs.count_stop
  have := hs'.count_start
  exact utf8Len_le_of_prefix
    (prefix_of_count_lt (a := '\n') hs.prefix_stop hs'.prefix_start (by omega))

/-- 前の行の鍵は、後ろの行の鍵より前の行 `Q'` の、最後の改行より前で終わる。 -/
theorem stop_lt_of_line_lt (hs : KeySite T e Q P lit B) (hs' : KeySite T e' Q' P' lit' B')
    (hlt : e.span.pos.line < e'.span.pos.line) : utf8Len (Q ++ P ++ lit) < utf8Len Q' := by
  have hl := hs.line
  have hl' := hs'.line
  -- 後ろの鍵の前には行があるので、`Q'` は改行で終わる
  have hlast : Q'.getLast? = some '\n' := by
    rcases hs'.lines with rfl | h
    · simp at hl'
      omega
    · exact h
  obtain ⟨Q0, rfl⟩ := List.getLast?_eq_some_iff.1 hlast
  have hQ0 : Q0 ++ ['\n'] <+: T := (List.prefix_append _ P').trans hs'.prefix_start
  have hcount := hs.count_stop
  rw [List.count_append] at hl'
  simp only [List.count_singleton_self] at hl'
  have := utf8Len_le_of_prefix (prefix_of_count_le hs.prefix_stop hQ0 (by omega))
  simp only [String.utf8Len_append, String.utf8Len_cons, String.utf8Len_nil, newline_utf8Size]
    at this ⊢
  omega

end KeySite

/-- 一行に収まる範囲の両端がバイト位置に直れば、範囲は元のテキストのその行の中の `lit` を覆う。
範囲の終わりは、その行の行末の `\r` より前にある。 -/
theorem exists_keySite_of_spanText? {t : String} {e : TextEdit} {start stop : Nat}
    {lit : List Char} (hspan : spanText? (SourceText.ofString t) t.toList e.span = some (start, stop, lit))
    (hline : e.span.stop.line = e.span.pos.line) :
    ∃ Q P B, KeySite t.toList e Q P lit B ∧ start = utf8Len (Q ++ P) ∧
      stop = utf8Len (Q ++ P ++ lit) ∧ utf8Len (P ++ lit) + 1 = e.span.stop.col ∧
      P ++ lit <+: (SourceText.stripCr (String.ofList (P ++ lit ++ B.takeWhile (· != '\n')))).toList := by
  obtain ⟨h1, h2, x, B, hT, hx, hxl⟩ := spanText?_eq_some_iff.1 hspan
  have hoff : ∀ p o, (SourceText.ofString t).offset? p = some o →
      ∃ X Y, t.toList = X ++ Y ∧ utf8Len X = o ∧ SplitsAt X Y p := by
    intro p o h
    have := @offset?_eq_some_iff t.toList p o
    rw [String.ofList_toList] at this
    exact this.1 h
  obtain ⟨X, Y, hXY, hXl, Q, P, rfl, hQ, -, hcount, hcol, -⟩ := hoff _ _ h1
  obtain ⟨X2, Y2, hXY2, hX2l, Q2, P2, rfl, hQ2, hP2, hcount2, hcol2, hin2⟩ := hoff _ _ h2
  -- 範囲の始まりの前は `Q ++ P`、終わりの前は同じ行の `Q ++ P2`
  have hx' : x = Q ++ P :=
    eq_of_prefix_of_utf8Len_eq ⟨lit ++ B, by rw [hT]; simp⟩ ⟨Y, hXY.symm⟩ (by omega)
  subst hx'
  have hQQ : Q2 = Q :=
    eq_of_lines_prefix ((List.prefix_append Q2 P2).trans ⟨Y2, hXY2.symm⟩)
      ((List.prefix_append Q P).trans ⟨Y, hXY.symm⟩) hQ2 hQ (by omega)
  subst hQQ
  have hstop : Q2 ++ P ++ lit = Q2 ++ P2 :=
    eq_of_prefix_of_utf8Len_eq ⟨B, hT.symm⟩ ⟨Y2, hXY2.symm⟩ (by simp only [String.utf8Len_append] at *; omega)
  rw [List.append_assoc, List.append_cancel_left_eq] at hstop
  subst hstop
  -- 終わりの後ろは `B`
  have hY : Y2 = B := by
    have := hXY2.symm.trans hT
    simpa using this
  subst hY
  exact ⟨Q2, P, Y2, ⟨hT, hQ, hcount, hcol, hP2⟩, hx.symm, by rw [← hxl]; simp [Nat.add_assoc], hcol2, hin2⟩

/-- 一行に収まる鍵の直しの範囲は、元のテキストのその行の中のリテラルを覆い、範囲に直る。 -/
theorem IsKeyFix.exists_keySite {t : String} {k : KeyCase} {e : TextEdit} (hfix : IsKeyFix t k e)
    (hline : e.span.stop.line = e.span.pos.line) :
    ∃ Q P lit B, KeySite t.toList e Q P lit B ∧
      range? (SourceText.ofString t) t.toList e =
        some (utf8Len (Q ++ P), utf8Len (Q ++ P ++ lit), e.newText) := by
  obtain ⟨start, stop, lit, u, hspan, hu, -⟩ := hfix
  obtain ⟨Q, P, B, hs, rfl, rfl, -, -⟩ := exists_keySite_of_spanText? hspan hline
  exact ⟨Q, P, lit, B, hs, range?_eq_some_iff.2 ⟨lit, hspan, by simp [hu], rfl⟩⟩

/-! ## 一度目と二度目 -/

section OnePerLine

variable {t : String} {k : KeyCase} {E : List TextEdit}

/-- 鍵の直しの範囲は、どれもその鍵の場所を覆う。 -/
theorem exists_keySite_of_mem_ranges (hfix : ∀ e ∈ E, IsKeyFix t k e)
    (hline : ∀ e ∈ E, e.span.stop.line = e.span.pos.line) {r : Range}
    (hr : r ∈ E.filterMap (range? (SourceText.ofString t) t.toList)) :
    ∃ e ∈ E, range? (SourceText.ofString t) t.toList e = some r ∧ ∃ Q P lit B,
      KeySite t.toList e Q P lit B ∧ r = (utf8Len (Q ++ P), utf8Len (Q ++ P ++ lit), e.newText) := by
  obtain ⟨e, he, hre⟩ := List.mem_filterMap.1 hr
  obtain ⟨Q, P, lit, B, hs, hr'⟩ := (hfix e he).exists_keySite (hline e he)
  exact ⟨e, he, hre, Q, P, lit, B, hs, Option.some.inj (hre.symm.trans hr')⟩

/-- **一度目に当てると、どの鍵の直しも、その範囲の始まりの位置に新しいテキストとして残る。**
前の行の鍵を直しても、行は行のまま、改行の数も変わらないからである。 -/
theorem applyEdits_site (hfix : ∀ e ∈ E, IsKeyFix t k e)
    (hline : ∀ e ∈ E, e.span.stop.line = e.span.pos.line)
    (hsep : ∀ e ∈ E, ∀ e' ∈ E, e.span.pos.line = e'.span.pos.line → e = e') {e : TextEdit}
    (he : e ∈ E) :
    ∃ Q P W, (applyEdits t E).1.toList = Q ++ P ++ e.newText.toList ++ W ∧
      (Q = [] ∨ Q.getLast? = some '\n') ∧ Q.count '\n' + 1 = e.span.pos.line ∧
      utf8Len P + 1 = e.span.pos.col := by
  -- 範囲は始まりで決まる：同じ始まりなら同じ行で、同じ直し
  obtain ⟨hmem, hsorted⟩ := sortRanges_spec (R := E.filterMap (range? (SourceText.ofString t) t.toList))
    fun a ha b hb hab => by
      obtain ⟨e₁, he₁, hr₁, Q₁, P₁, lit₁, B₁, hs₁, rfl⟩ := exists_keySite_of_mem_ranges hfix hline ha
      obtain ⟨e₂, he₂, hr₂, Q₂, P₂, lit₂, B₂, hs₂, rfl⟩ := exists_keySite_of_mem_ranges hfix hline hb
      have hl : e₁.span.pos.line = e₂.span.pos.line :=
        Nat.le_antisymm (hs₁.line_le_of_start_le hs₂ (Nat.le_of_eq hab))
          (hs₂.line_le_of_start_le hs₁ (Nat.le_of_eq hab.symm))
      obtain rfl := hsep e₁ he₁ e₂ he₂ hl
      exact Option.some.inj (hr₁.symm.trans hr₂)
  obtain ⟨Q, P, lit, B, hs, hr⟩ := (hfix e he).exists_keySite (hline e he)
  -- 当てる列を `e` の範囲の前と後ろに分ける
  obtain ⟨A, Bs, hD⟩ := List.append_of_mem ((hmem _).2 (List.mem_filterMap.2 ⟨e, he, hr⟩))
  rw [hD, List.pairwise_append, List.pairwise_cons] at hsorted
  obtain ⟨-, ⟨hafter, -⟩, hbefore⟩ := hsorted
  -- 先に当てる範囲は後ろの行にあり、`e` の範囲の終わりより後ろで始まる
  have hA : ∀ a ∈ A, utf8Len (Q ++ P ++ lit) ≤ a.1 := by
    intro a ha
    obtain ⟨e', he', -, Q', P', lit', B', hs', rfl⟩ :=
      exists_keySite_of_mem_ranges hfix hline ((hmem a).1 (hD ▸ List.mem_append_left _ ha))
    have hlt : utf8Len (Q ++ P) < utf8Len (Q' ++ P') := hbefore _ ha _ List.mem_cons_self
    exact hs.stop_le_of_line_lt hs' (hs.line_lt_of_start_lt hs' (hsep e he e' he') hlt)
  -- 後で当てる範囲は前の行にあり、`Q` の最後の改行より前の、改行のない部分を覆う
  have hB : ∀ b ∈ Bs, (b.1 ≤ b.2.1 ∧ b.2.1 < utf8Len Q) ∧
      ∃ x seg y, Covers t.toList b x seg y ∧ '\n' ∉ seg ∧ '\n' ∉ b.2.2.toList := by
    intro b hb
    obtain ⟨e', he', -, Q', P', lit', B', hs', rfl⟩ := exists_keySite_of_mem_ranges hfix hline
      ((hmem b).1 (hD ▸ List.mem_append_right _ (List.mem_cons_of_mem _ hb)))
    have hl := hs'.line_lt_of_start_lt hs (hsep e' he' e he) (hafter _ hb)
    obtain ⟨-, -, -, u, -, -, hq⟩ := hfix e' he'
    refine ⟨⟨by simp, hs'.stop_lt_of_line_lt hs hl⟩, Q' ++ P', lit', B', hs'.covers _,
      fun h => hs'.inLine (List.mem_append_right _ h), ?_⟩
    rw [hq]
    exact Go.StringLit.newline_not_mem_quote _
  obtain ⟨W, hW⟩ := applyRanges_append_cons (hs.covers e.newText) hA fun b hb => by
    have := (hB b hb).1
    omega
  refine ⟨(applyRanges Q [] Bs).1, P, W, ?_, lines_applyRanges hs.lines fun b hb => (hB b hb).1, ?_,
    hs.col⟩
  · rw [applyEdits_fst_toList, hD, hW]
  · rw [count_newline_applyRanges (fun b hb => (hB b hb).2)
      ((List.prefix_append Q P).trans hs.prefix_start), List.append_nil]
    exact hs.line

/-- テキスト `t'` の、鍵の直し `e` の範囲の始まりの位置に、`e` の新しいテキストが書いてあれば、
`e` の範囲は、範囲に直るならその新しいテキストを覆う。新しいテキストの頭で読めるリテラルは、
それ自身しかないからである。 -/
theorem covers_of_range? {t' : String} {Q P W : List Char} {e : TextEdit} {s : String} {r : Range}
    (hT : t'.toList = Q ++ P ++ e.newText.toList ++ W) (hQ : Q = [] ∨ Q.getLast? = some '\n')
    (hl : Q.count '\n' + 1 = e.span.pos.line) (hc : utf8Len P + 1 = e.span.pos.col)
    (hq : e.newText = Go.StringLit.quote s)
    (hr : range? (SourceText.ofString t') t'.toList e = some r) :
    ∃ x y, Covers t'.toList r x r.2.2.toList y := by
  obtain ⟨inner, hspan, hu, hnew⟩ := range?_eq_some_iff.1 hr
  obtain ⟨h1, -, x, y, hxy, hx, hxi⟩ := spanText?_eq_some_iff.1 hspan
  have hoff := @offset?_eq_some_iff t'.toList e.span.pos r.1
  rw [String.ofList_toList] at hoff
  obtain ⟨X, Y, hXY, hXl, Q', P', rfl, hQ', -, hl', hc', -⟩ := hoff.1 h1
  -- 範囲は `Q ++ P` の終わりから始まる
  have hstart : Q' ++ P' = Q ++ P :=
    eq_of_lines_append (l := t'.toList) ⟨Y, hXY.symm⟩ ⟨e.newText.toList ++ W, by rw [hT]; simp⟩ hQ'
      hQ (by omega) (by omega)
  have hxT : x <+: t'.toList := ⟨inner ++ y, by rw [hxy]; simp⟩
  have hQPT : Q ++ P <+: t'.toList := ⟨e.newText.toList ++ W, by rw [hT]; simp⟩
  have hx' : x = Q ++ P := eq_of_prefix_of_utf8Len_eq hxT hQPT (by rw [hx, ← hXl, hstart])
  -- 範囲の中身は新しいテキストで始まる列の頭で、読めるので新しいテキストそのもの
  have hrest : inner ++ y = e.newText.toList ++ W := by
    have := hxy.symm.trans hT
    rw [hx'] at this
    simpa using this
  have hinner : inner = e.newText.toList := by
    rw [hq]
    exact Go.StringLit.eq_quote_of_unquote? ⟨y, by rw [hrest, hq]⟩ hu
  rw [hnew, ← hinner]
  exact ⟨x, y, hxy, hx, hxi⟩

end OnePerLine

/-! ## 二度当てる -/

/-- **鍵の直しが一行に一つまでなら、二度当てても一度目と変わらない。** 直す鍵はどれも一行に
収まり、同じ行の二つの直しは同じものとする。 -/
theorem applyEdits_idempotent (t : String) (k : KeyCase) (E : List TextEdit)
    (hfix : ∀ e ∈ E, IsKeyFix t k e) (hline : ∀ e ∈ E, e.span.stop.line = e.span.pos.line)
    (hsep : ∀ e ∈ E, ∀ e' ∈ E, e.span.pos.line = e'.span.pos.line → e = e') :
    (applyEdits (applyEdits t E).1 E).1 = (applyEdits t E).1 := by
  apply String.ext
  rw [applyEdits_fst_toList]
  refine applyRanges_of_covers_self (fun r hr => ?_) (List.append_nil _)
  -- 二度目に当てる範囲も、`E` のどれかの直しの範囲
  rw [mem_dedupAdjacent, List.mem_mergeSort, List.mem_filterMap] at hr
  obtain ⟨e, he, hr⟩ := hr
  obtain ⟨Q, P, W, hT, hQ, hl, hc⟩ := applyEdits_site hfix hline hsep he
  obtain ⟨-, -, -, u, -, -, hq⟩ := hfix e he
  exact covers_of_range? hT hQ hl hc hq hr

/-- 二つの行の鍵を一つずつ直すと、二度目は何も変えない。 -/
theorem applyEdits_idempotent_two_lines :
    let t := "s.Infow(\"m\", \"aBc\", 1)\ns.Infow(\"m\", \"dE\", 2)\n"
    let E : List TextEdit :=
      [⟨⟨⟨1, 14⟩, ⟨1, 19⟩⟩, Go.StringLit.quote (KeyCase.snake.convert "aBc")⟩,
        ⟨⟨⟨2, 14⟩, ⟨2, 18⟩⟩, Go.StringLit.quote (KeyCase.snake.convert "dE")⟩]
    (∀ e ∈ E, IsKeyFix t .snake e) ∧ (∀ e ∈ E, e.span.stop.line = e.span.pos.line) ∧
      (∀ e ∈ E, ∀ e' ∈ E, e.span.pos.line = e'.span.pos.line → e = e') ∧
      (applyEdits (applyEdits t E).1 E).1 = (applyEdits t E).1 := by
  intro t E
  have hfix : ∀ e ∈ E, IsKeyFix t .snake e := by
    simp only [E, List.forall_mem_cons, List.not_mem_nil, false_imp_iff, implies_true, and_true]
    exact ⟨⟨13, 18, "\"aBc\"".toList, "aBc", by decide +kernel, by decide +kernel, rfl⟩,
      ⟨36, 40, "\"dE\"".toList, "dE", by decide +kernel, by decide +kernel, rfl⟩⟩
  have hline : ∀ e ∈ E, e.span.stop.line = e.span.pos.line := by decide
  have hsep : ∀ e ∈ E, ∀ e' ∈ E, e.span.pos.line = e'.span.pos.line → e = e' := by decide +kernel
  exact ⟨hfix, hline, hsep, applyEdits_idempotent t .snake E hfix hline hsep⟩

/-- 同じ行に鍵が二つあり、前の鍵が長くなると、二度目は後ろの鍵の範囲がずれて、隣のリテラル
`"xY"` を書き換える。 -/
theorem applyEdits_twice_moves_later_key :
    let t := "s.Infow(\"m\", \"aBcDeFgHiJkL\", \"xY\", \"cD\", 1)\n"
    let E : List TextEdit :=
      [⟨⟨⟨1, 14⟩, ⟨1, 28⟩⟩, Go.StringLit.quote (KeyCase.snake.convert "aBcDeFgHiJkL")⟩,
        ⟨⟨⟨1, 36⟩, ⟨1, 40⟩⟩, Go.StringLit.quote (KeyCase.snake.convert "cD")⟩]
    (∀ e ∈ E, IsKeyFix t .snake e) ∧ (applyEdits (applyEdits t E).1 E).1 ≠ (applyEdits t E).1 := by
  intro t E
  refine ⟨?_, ?_⟩
  · simp only [E, List.forall_mem_cons, List.not_mem_nil, false_imp_iff, implies_true, and_true]
    exact ⟨⟨13, 27, "\"aBcDeFgHiJkL\"".toList, "aBcDeFgHiJkL", by decide +kernel,
      by decide +kernel, rfl⟩, ⟨35, 39, "\"cD\"".toList, "cD", by decide +kernel, by decide +kernel, rfl⟩⟩
  · -- 一度目：二つの範囲を後ろから当てる
    have h1 : (applyEdits t E).1 = "s.Infow(\"m\", \"a_bc_de_fg_hi_jk_l\", \"xY\", \"c_d\", 1)\n" := by
      apply String.ext
      have hR : E.filterMap (range? (SourceText.ofString t) t.toList) =
          [(13, 27, "\"a_bc_de_fg_hi_jk_l\""), (35, 39, "\"c_d\"")] := by decide +kernel
      have hsort : ([(13, 27, "\"a_bc_de_fg_hi_jk_l\""), (35, 39, "\"c_d\"")] : List Range).mergeSort
          appliesBefore = [(35, 39, "\"c_d\""), (13, 27, "\"a_bc_de_fg_hi_jk_l\"")] := by
        simp [List.mergeSort, appliesBefore]
      rw [applyEdits_fst_toList, hR, hsort]
      decide +kernel
    -- 二度目：前の範囲の中身はもう読めず、後ろの範囲は `"xY"` を覆う
    have h2 : (applyEdits (applyEdits t E).1 E).1 =
        "s.Infow(\"m\", \"a_bc_de_fg_hi_jk_l\", \"c_d\", \"c_d\", 1)\n" := by
      rw [h1]
      apply String.ext
      have hR : E.filterMap (range?
          (SourceText.ofString "s.Infow(\"m\", \"a_bc_de_fg_hi_jk_l\", \"xY\", \"c_d\", 1)\n")
          "s.Infow(\"m\", \"a_bc_de_fg_hi_jk_l\", \"xY\", \"c_d\", 1)\n".toList) =
          [(35, 39, "\"c_d\"")] := by decide +kernel
      rw [applyEdits_fst_toList, hR, List.mergeSort_singleton]
      decide +kernel
    rw [h2, h1]
    decide

end Fix

end LogLint
