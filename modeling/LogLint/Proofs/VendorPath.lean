import Mathlib
import LogLint.Go.Vendor

/-!
# vendor を取り除くことと修飾名の組み立て

型検査器の報告する修飾名は、import path `p` の前に頭 `q`（空か `(*`）を、後ろに `.Logger).Info`
のような名前の残り `r` を付けたものである。ここでは `strip` がこの組み立てとどう交わるかを述べる
（`strip_qualified`）。証明は二段である。

1. 残り `r` が `.` で始まり `vendor/` を含まなければ、名前の中の目印の位置は `p` の中の目印の位置を
   `q` の長さだけずらしたものに限る。よって最後の目印も同じだけずれる（`lastMarker?_qualified`）
2. 取り除く範囲の始まりも同じだけずれる（`cutStart_qualified`）。ただし `q = "(*"` で目印が `p` の
   先頭にあるときは別である。区切りは目印の直前の一文字より前で探すので、その一文字 `*` が
   区切りとして数えられず、`(` は区切りでないので始まりは `0` になり、`(*` ごと取り除かれる

したがって `(*vendor/go.uber.org/zap.Logger).Info` は `go.uber.org/zap.Logger).Info` になり、
同じ package の path `vendor/go.uber.org/zap` は `go.uber.org/zap` になる。
-/

namespace LogLint.Go.Vendor

/-! ## 目印の位置 -/

/-- 目印が `i` 番目の文字から始まる。 -/
def MarkerAt (cs : List Char) (i : Nat) : Prop := marker <+: cs.drop i

theorem marker_eq : marker = ['v', 'e', 'n', 'd', 'o', 'r', '/'] := rfl

/-- 目印は列の中で終わる。 -/
theorem add_length_le_of_markerAt {cs : List Char} {i : Nat} (h : MarkerAt cs i) :
    i + marker.length ≤ cs.length := by
  have := h.length_le
  simp only [marker_eq, List.length_cons, List.length_nil, List.length_drop] at this ⊢
  omega

theorem lt_length_of_markerAt {cs : List Char} {i : Nat} (h : MarkerAt cs i) : i < cs.length := by
  have := add_length_le_of_markerAt h
  simp only [marker_eq, List.length_cons, List.length_nil] at this
  omega

theorem markerAt_iff_beq {cs : List Char} {i : Nat} :
    ((cs.drop i).take marker.length == marker) = true ↔ MarkerAt cs i := by
  rw [beq_iff_eq, MarkerAt, List.prefix_iff_eq_take, eq_comm]

/-- 目印の始まる位置の文字は `v`。 -/
theorem getElem?_of_markerAt {cs : List Char} {i : Nat} (h : MarkerAt cs i) : cs[i]? = some 'v' := by
  obtain ⟨t, ht⟩ := h
  have : (cs.drop i)[0]? = some 'v' := by rw [← ht, marker_eq]; rfl
  simpa using this

/-- 目印があるのは、どこかの位置から目印が始まるとき。 -/
theorem infix_marker_iff {cs : List Char} : marker <:+: cs ↔ ∃ i, MarkerAt cs i := by
  constructor
  · intro h
    obtain ⟨t, ht, hts⟩ := List.infix_iff_prefix_suffix.1 h
    refine ⟨cs.length - t.length, ?_⟩
    unfold MarkerAt
    rwa [← List.suffix_iff_eq_drop.1 hts]
  · rintro ⟨i, hi⟩
    exact hi.isInfix.trans (List.drop_suffix i cs).isInfix

/-! ## 最後の目印 -/

/-- 大きい方から探して最初に見つかる数は、条件を満たす最大の数。 -/
theorem find?_range_reverse_eq_some_iff {P : Nat → Bool} {m : Nat} :
    ∀ {n : Nat}, (List.range n).reverse.find? P = some m ↔
      m < n ∧ P m = true ∧ ∀ j, m < j → j < n → P j = false
  | 0 => by simp
  | n + 1 => by
    rw [List.range_succ, List.reverse_append, List.reverse_singleton, List.singleton_append,
      List.find?_cons]
    cases hn : P n with
    | true =>
      simp only [Option.some.injEq]
      constructor
      · rintro rfl
        exact ⟨by omega, hn, fun j h1 h2 => by omega⟩
      · rintro ⟨h1, -, hj⟩
        -- `n` も条件を満たすので、それより小さい `m` は最大でない
        by_contra hne
        have := hj n (by omega) (by omega)
        rw [hn] at this
        cases this
    | false =>
      rw [find?_range_reverse_eq_some_iff]
      constructor
      · rintro ⟨h1, hm, hj⟩
        refine ⟨by omega, hm, fun j h1' h2 => ?_⟩
        rcases Nat.lt_succ_iff_lt_or_eq.1 h2 with h2 | rfl
        · exact hj j h1' h2
        · exact hn
      · rintro ⟨h1, hm, hj⟩
        have hmn : m ≠ n := fun h => by rw [h, hn] at hm; cases hm
        exact ⟨by omega, hm, fun j h1' h2 => hj j h1' (by omega)⟩

/-- 最後の目印が `m` にあるのは、`m` に目印があり、それより後ろにないとき。 -/
theorem lastMarker?_eq_some_iff {cs : List Char} {m : Nat} :
    lastMarker? cs = some m ↔ MarkerAt cs m ∧ ∀ j, m < j → ¬ MarkerAt cs j := by
  rw [lastMarker?, find?_range_reverse_eq_some_iff, markerAt_iff_beq]
  constructor
  · rintro ⟨-, hm, hj⟩
    refine ⟨hm, fun j hmj hj' => ?_⟩
    have := hj j hmj (lt_length_of_markerAt hj')
    rw [markerAt_iff_beq.2 hj'] at this
    cases this
  · rintro ⟨hm, hj⟩
    refine ⟨lt_length_of_markerAt hm, hm, fun j hmj _ => ?_⟩
    rw [Bool.eq_false_iff, ne_eq, markerAt_iff_beq]
    exact hj j hmj

theorem lastMarker?_eq_none_iff {cs : List Char} : lastMarker? cs = none ↔ ∀ j, ¬ MarkerAt cs j := by
  rw [lastMarker?, List.find?_eq_none]
  simp only [List.mem_reverse, List.mem_range, markerAt_iff_beq]
  exact ⟨fun h j hj => h j (lt_length_of_markerAt hj) hj, fun h j _ => h j⟩

/-- 目印の位置がそろって `k` だけずれれば、最後の目印も `k` だけずれる。 -/
theorem lastMarker?_eq_of_markerAt_iff {cs cs' : List Char} {k : Nat}
    (h : ∀ i, MarkerAt cs' i ↔ k ≤ i ∧ MarkerAt cs (i - k)) :
    lastMarker? cs' = (lastMarker? cs).map (k + ·) := by
  cases hm : lastMarker? cs with
  | none =>
    rw [Option.map_none, lastMarker?_eq_none_iff]
    intro i hi
    exact lastMarker?_eq_none_iff.1 hm _ ((h i).1 hi).2
  | some m =>
    obtain ⟨hm, hj⟩ := lastMarker?_eq_some_iff.1 hm
    rw [Option.map_some, lastMarker?_eq_some_iff]
    refine ⟨(h _).2 ⟨by omega, by simpa using hm⟩, fun j hkj hj' => ?_⟩
    obtain ⟨-, hj''⟩ := (h j).1 hj'
    exact hj (j - k) (by omega) hj''

/-! ## 修飾名の中の目印 -/

section Qualified

variable {q p r : List Char}

/-- `(*` の中からは目印が始まらない。 -/
theorem le_of_markerAt_qualified (hq : q = [] ∨ q = ['(', '*']) {i : Nat}
    (h : MarkerAt (q ++ p ++ r) i) : q.length ≤ i := by
  rcases hq with rfl | rfl
  · simp
  · by_contra hlt
    have hi : i = 0 ∨ i = 1 := by simp at hlt; omega
    rcases hi with rfl | rfl <;> simpa using getElem?_of_markerAt h

/-- `.` で始まり目印を含まない残り `r` の手前で、目印は `p` の中で終わる。 -/
theorem markerAt_of_markerAt_append (hr : r.head? = some '.') (hrm : ¬ marker <:+: r) {j : Nat}
    (h : MarkerAt (p ++ r) j) : MarkerAt p j := by
  unfold MarkerAt at h ⊢
  rw [List.drop_append] at h
  by_cases hj : j < p.length
  · rw [Nat.sub_eq_zero_of_le hj.le, List.drop_zero] at h
    obtain ⟨x, xs, hxs⟩ : ∃ x xs, p.drop j = x :: xs := List.exists_cons_of_ne_nil (by simpa using hj)
    rw [hxs, List.prefix_iff_eq_take] at h ⊢
    by_cases hlen : marker.length ≤ (x :: xs).length
    · rwa [List.take_append_of_le_length hlen] at h
    · -- 目印が `r` の頭の `.` にかかるが、目印は `.` を含まない
      rw [List.take_append] at h
      cases r with
      | nil => cases hr
      | cons c r' =>
        obtain rfl : c = '.' := by simpa using hr
        obtain ⟨k, hk⟩ : ∃ k, marker.length - (x :: xs).length = k + 1 :=
          ⟨marker.length - (x :: xs).length - 1, by omega⟩
        have hdot : '.' ∈ marker := by
          rw [h, hk]
          simp
        exact absurd hdot (by decide)
  · rw [List.drop_eq_nil_of_le (by omega), List.nil_append] at h
    exact absurd (infix_marker_iff.2 ⟨_, h⟩) hrm

/-- **修飾名の中の目印の位置は、`p` の中の目印の位置を `q` の長さだけずらしたものに限る。** -/
theorem markerAt_qualified_iff (hq : q = [] ∨ q = ['(', '*']) (hr : r.head? = some '.')
    (hrm : ¬ marker <:+: r) (i : Nat) :
    MarkerAt (q ++ p ++ r) i ↔ q.length ≤ i ∧ MarkerAt p (i - q.length) := by
  have hdrop : (q ++ p ++ r).drop i = (p ++ r).drop (i - q.length) ∨ i < q.length := by
    by_cases hi : q.length ≤ i
    · left
      rw [List.append_assoc, List.drop_append, List.drop_eq_nil_of_le hi, List.nil_append]
    · exact .inr (by omega)
  constructor
  · intro h
    have hi := le_of_markerAt_qualified hq h
    refine ⟨hi, markerAt_of_markerAt_append hr hrm ?_⟩
    rcases hdrop with hd | hd
    · unfold MarkerAt at h ⊢
      rwa [hd] at h
    · omega
  · rintro ⟨hi, hm⟩
    rcases hdrop with hd | hd
    · unfold MarkerAt at hm ⊢
      rw [hd, List.drop_append_of_le_length (lt_length_of_markerAt hm).le]
      exact hm.trans (List.prefix_append _ _)
    · omega

theorem lastMarker?_qualified (hq : q = [] ∨ q = ['(', '*']) (hr : r.head? = some '.')
    (hrm : ¬ marker <:+: r) : lastMarker? (q ++ p ++ r) = (lastMarker? p).map (q.length + ·) :=
  lastMarker?_eq_of_markerAt_iff (markerAt_qualified_iff hq hr hrm)

end Qualified

/-- 最後の目印が先頭にあるのは、目印で始まり、その後ろに目印がないとき。 -/
theorem lastMarker?_eq_some_zero_iff {cs : List Char} :
    lastMarker? cs = some 0 ↔ marker <+: cs ∧ ¬ marker <:+: cs.drop marker.length := by
  have hshift (j : Nat) : MarkerAt (cs.drop marker.length) j ↔ MarkerAt cs (marker.length + j) := by
    rw [MarkerAt, MarkerAt, List.drop_drop]
  rw [lastMarker?_eq_some_iff, infix_marker_iff]
  constructor
  · rintro ⟨hm0, hj⟩
    refine ⟨by simpa [MarkerAt] using hm0, fun ⟨k, hk⟩ => ?_⟩
    -- 後ろの目印は、先頭の目印より後ろにある
    exact hj (marker.length + k) (by simp [marker_eq]) ((hshift k).1 hk)
  · rintro ⟨hpre, hno⟩
    refine ⟨by simpa [MarkerAt] using hpre, fun j hj hm => ?_⟩
    by_cases hj7 : marker.length ≤ j
    · exact hno ⟨j - marker.length, (hshift _).2 (by rwa [Nat.add_sub_cancel' hj7])⟩
    · -- 目印の二文字目から後ろに `v` はない
      have hv := getElem?_of_markerAt hm
      obtain ⟨t, rfl⟩ := hpre
      have hj' : j < 7 := by simpa [marker_eq] using hj7
      interval_cases j <;> simp [marker_eq] at hv

/-! ## 取り除く範囲の始まり -/

/-- 条件を満たす最後の要素の位置は、後ろの部分にあればそちらで決まる。 -/
theorem lastIndexWhere_append (f : Char → Bool) (xs ys : List Char) :
    lastIndexWhere f (xs ++ ys) =
      ((lastIndexWhere f ys).map (xs.length + ·)).or (lastIndexWhere f xs) := by
  induction xs with
  | nil => cases h : lastIndexWhere f ys <;> simp [lastIndexWhere, h]
  | cons c xs ih =>
    rw [List.cons_append, lastIndexWhere, ih, lastIndexWhere]
    cases lastIndexWhere f ys with
    | some i =>
      simp only [Option.map_some, Option.some_or, List.length_cons, Option.some.injEq]
      omega
    | none => cases lastIndexWhere f xs <;> rfl

theorem lastIndexWhere_lt {f : Char → Bool} : ∀ {xs : List Char} {i : Nat},
    lastIndexWhere f xs = some i → i < xs.length
  | [], _, h => by cases h
  | c :: xs, i, h => by
    unfold lastIndexWhere at h
    split at h
    · next j hj =>
      cases h
      simpa using lastIndexWhere_lt hj
    · split at h <;> cases h
      simp

theorem cutStart_succ (cs : List Char) (m : Nat) :
    cutStart cs (m + 1) = ((lastIndexWhere isDelimiter (cs.take m)).map (· + 1)).getD 0 := rfl

theorem cutStart_le (cs : List Char) (m : Nat) : cutStart cs m ≤ m := by
  cases m with
  | zero => rfl
  | succ m =>
    rw [cutStart_succ]
    cases h : lastIndexWhere isDelimiter (cs.take m) with
    | none => simp
    | some i =>
      have := lastIndexWhere_lt h
      simp only [List.length_take, Option.map_some, Option.getD_some] at this ⊢
      omega

/-- 取り除く範囲の始まりは、目印の直前の一文字より前だけを見る。 -/
theorem cutStart_append {cs ds : List Char} {m : Nat} (h : m ≤ cs.length) :
    cutStart (cs ++ ds) m = cutStart cs m := by
  unfold cutStart
  rw [List.take_append_of_le_length (by omega)]

/-- **修飾名の中では、取り除く範囲の始まりは `q` の長さだけずれる。** ただし `q = "(*"` で
目印が `p` の先頭にあれば、区切りを探す範囲は `(` だけになり、始まりは `0` になる。 -/
theorem cutStart_qualified {q p : List Char} (hq : q = [] ∨ q = ['(', '*']) (m : Nat) :
    cutStart (q ++ p) (q.length + m) =
      if q = ['(', '*'] ∧ m = 0 then 0 else q.length + cutStart p m := by
  rcases hq with rfl | rfl
  · simp
  · cases m with
    | zero => rfl
    | succ m =>
      have htake : (['(', '*'] ++ p).take (m + 2) = ['(', '*'] ++ p.take m := by
        rw [List.take_append, List.take_of_length_le (by simp)]
        simp
      rw [show (['(', '*'] : List Char).length + (m + 1) = m + 2 + 1 from by simp; omega,
        cutStart_succ, cutStart_succ, htake, lastIndexWhere_append]
      cases lastIndexWhere isDelimiter (p.take m) with
      | some i => simp; omega
      | none => simp [lastIndexWhere, isDelimiter]

/-! ## 取り除いた結果 -/

/-- 頭 `Q` と残り `R` に挟まれた `P` の中で切り貼りすることは、`P` だけを切り貼りすること。 -/
theorem splice_qualified {Q P R : List Char} {c m : Nat} (hc : c ≤ m)
    (hm : m + marker.length ≤ P.length) :
    (Q ++ P ++ R).take (Q.length + c) ++ (Q ++ P ++ R).drop (Q.length + m + marker.length) =
      Q ++ (P.take c ++ P.drop (m + marker.length)) ++ R := by
  rw [List.append_assoc, List.take_append, List.drop_append, List.take_of_length_le (by omega),
    List.drop_eq_nil_of_le (by omega), List.take_append_of_le_length (by omega),
    List.drop_append_of_le_length (by omega), Nat.add_assoc, Nat.add_sub_cancel_left,
    Nat.add_sub_cancel_left]
  simp

theorem strip_of_lastMarker?_eq_none {s : String} (h : lastMarker? s.toList = none) : strip s = s := by
  simp [strip, h]

theorem toList_strip_of_lastMarker?_eq_some {s : String} {m : Nat}
    (h : lastMarker? s.toList = some m) :
    (strip s).toList = s.toList.take (cutStart s.toList m) ++ s.toList.drop (m + marker.length) := by
  simp [strip, h]

/-- **vendor を取り除くことは修飾名の組み立てと交わる。** import path `p` の前に `q`（空か `(*`）を、
後ろに `.` で始まり `vendor/` を含まない `r` を付けた名前から vendor を取り除くのは、`p` から取り除いて
`q` と `r` を付けるのと同じである。ただし `q` が `(*` で、`p` の最後の `vendor/` が `p` の先頭にあるとき
は、`(*` も一緒に取り除かれる。 -/
theorem strip_qualified {q p r : String} (hq : q = "" ∨ q = "(*")
    (hr : r.toList.head? = some '.') (hrm : ¬ marker <:+: r.toList) :
    strip (q ++ p ++ r) =
      if q = "(*" ∧ marker <+: p.toList ∧ ¬ marker <:+: p.toList.drop marker.length then strip p ++ r
      else q ++ strip p ++ r := by
  have hQ : q.toList = [] ∨ q.toList = ['(', '*'] := by
    rcases hq with rfl | rfl
    exacts [.inl rfl, .inr rfl]
  have hlast := lastMarker?_qualified (p := p.toList) hQ hr hrm
  rw [← String.toList_append, ← String.toList_append] at hlast
  cases hm : lastMarker? p.toList with
  | none =>
    rw [hm, Option.map_none] at hlast
    rw [strip_of_lastMarker?_eq_none hlast, strip_of_lastMarker?_eq_none hm, if_neg]
    rintro ⟨-, hpre, -⟩
    exact lastMarker?_eq_none_iff.1 hm 0 (by simpa [MarkerAt] using hpre)
  | some m =>
    rw [hm, Option.map_some] at hlast
    have hmp := add_length_le_of_markerAt (lastMarker?_eq_some_iff.1 hm).1
    -- 例外の条件は、`q` が `(*` で最後の目印が `p` の先頭にあること
    have hex : (q = "(*" ∧ marker <+: p.toList ∧ ¬ marker <:+: p.toList.drop marker.length) ↔
        (q.toList = ['(', '*'] ∧ m = 0) := by
      rw [← lastMarker?_eq_some_zero_iff, hm, Option.some.injEq, ← String.toList_inj]
      rfl
    rw [← String.toList_inj, toList_strip_of_lastMarker?_eq_some hlast, String.toList_append,
      String.toList_append, cutStart_append (by simp; omega), cutStart_qualified hQ]
    by_cases hc : q.toList = ['(', '*'] ∧ m = 0
    · obtain ⟨hq', rfl⟩ := hc
      rw [if_pos ⟨hq', rfl⟩, if_pos (hex.2 ⟨hq', rfl⟩), String.toList_append,
        toList_strip_of_lastMarker?_eq_some hm, hq']
      have h7 : 7 ≤ p.toList.length := by simpa [marker_eq] using hmp
      rw [marker_eq]
      simp only [cutStart, List.length_cons, List.length_nil, List.cons_append, List.nil_append]
      simp [List.drop_append_of_le_length h7]
    · rw [if_neg hc, if_neg (mt hex.1 hc), String.toList_append, String.toList_append,
        toList_strip_of_lastMarker?_eq_some hm]
      exact splice_qualified (cutStart_le p.toList m) hmp

/-- `(*vendor/go.uber.org/zap.Logger).Info` では目印が path の先頭にあり、`(*` ごと取り除かれる。
同じ path の `vendor/go.uber.org/zap` は `go.uber.org/zap` になる。 -/
theorem strip_method_of_root_vendor :
    ((("(*" : String) = "" ∨ ("(*" : String) = "(*") ∧ (".Logger).Info" : String).toList.head? = some '.' ∧
      ¬ marker <:+: (".Logger).Info" : String).toList) ∧
    strip ("(*" ++ "vendor/go.uber.org/zap" ++ ".Logger).Info") =
      strip "vendor/go.uber.org/zap" ++ ".Logger).Info" := by
  have hq : ("(*" : String) = "" ∨ ("(*" : String) = "(*" := .inr rfl
  have hr : (".Logger).Info" : String).toList.head? = some '.' := rfl
  have hrm : ¬ marker <:+: (".Logger).Info" : String).toList := by decide
  refine ⟨⟨hq, hr, hrm⟩, ?_⟩
  rw [strip_qualified hq hr hrm, if_pos ⟨rfl, by decide, by decide⟩]

end LogLint.Go.Vendor
