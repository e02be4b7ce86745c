import Mathlib
import LogLint.Proofs.LineIndex
import LogLint.Proofs.EditApplication
import LogLint.Proofs.RuleIndependence
import LogLint.Cli.Run

/-!
# 見せる行と当てた行

`fix` を `--apply` なしで走らせると、鍵の書き方の問題ごとに、問題の行の前と後を見せる
（`Fix.replaceInLine`）。後の行は、問題の桁から範囲の桁の差だけのバイトを新しいテキストに替えた
もの。当てる方（`Fix.applyEdits`）はテキスト全体のバイト位置で替え、行の索引と行末の `\r` は
別に扱う。ここでは二つが合うことを示す：一行に収まる鍵の直しが当たるなら、見せる前の行は当てる
前のテキストのその行で、見せる後の行は当てた後のテキストのその行である
（`Cli.keyFix_preview_eq_applied_lines`）。

* 当たる範囲は一つの行の中のリテラルを覆い、その行の行末の `\r` より前で終わる
  （`Fix.exists_keySite_of_spanText?`）。行の中身は、範囲の前、範囲の中身、範囲の後ろの行末まで
  から `\r` を除いたものに分かれ、`\r` を除くのは範囲の後ろだけ（`SourceText.dropCr_append_of_prefix`）
* 新しいテキストが改行を含まず `\r` でない文字で終われば、替えても行は増えず、`\r` を除くのは
  やはり範囲の後ろだけ（`Fix.replaceInLine_line?_applyEdits`）
* 鍵の書き方の問題は、キーの始まりの場所に付き、新しいテキストは書いたリテラル
  （`Analyzer.exists_namingIssue?_of_mem_run`）
-/

namespace LogLint

open String (utf8Len)

namespace SourceText

/-! ## 行の並びの後ろの行 -/

/-- 行の並び `Q`（空か、改行で終わる）の後ろの片は、`Q` の改行の数を番号とし、後ろの最初の
改行の前まで。 -/
theorem splitOn_getElem?_count_newline {Q : List Char} (hQ : Q = [] ∨ Q.getLast? = some '\n')
    (Z : List Char) : ((Q ++ Z).splitOn '\n')[Q.count '\n']? = some (Z.takeWhile (· != '\n')) := by
  -- `Q` の改行の数についての帰納法。最初の行と改行を取り除くと、番号が一つ減る
  induction hn : Q.count '\n' generalizing Q with
  | zero =>
    have hQnil : Q = [] := by
      rcases hQ with hQ | hQ
      · exact hQ
      · have := List.count_pos_iff.2 (List.mem_of_getLast? hQ)
        omega
    subst hQnil
    exact getElem?_zero_splitOn_newline Z
  | succ n ih =>
    obtain ⟨L, Q', rfl, hL⟩ := exists_first_newline (T := Q) (List.count_pos_iff.1 (by omega))
    have hQ' : Q' = [] ∨ Q'.getLast? = some '\n' := by
      by_cases hne : Q' = []
      · exact Or.inl hne
      · right
        have heq : (L ++ '\n' :: Q').getLast? = Q'.getLast? := by
          rw [← List.singleton_append, ← List.append_assoc, List.getLast?_append_of_ne_nil _ hne]
        rcases hQ with hQ | hQ
        · simp at hQ
        · rwa [heq] at hQ
    have hcount : Q'.count '\n' = n := by
      simp only [List.count_append, List.count_eq_zero.2 hL, List.count_cons_self] at hn
      omega
    rw [List.append_assoc, List.cons_append, List.splitOn_append_cons_self_of_not_mem hL,
      List.getElem?_cons_succ]
    exact ih hQ' hcount

/-- テキストが行の並び `Q` と残り `Z` に分かれれば、`Q` の改行の数 `+ 1` 行目は、`Z` の最初の
改行の前までから行末の `\r` を除いたもの。 -/
theorem line?_ofString_count_newline {t : String} {Q Z : List Char} (ht : t.toList = Q ++ Z)
    (hQ : Q = [] ∨ Q.getLast? = some '\n') :
    (ofString t).line? (Q.count '\n' + 1) =
      some (String.ofList (dropCr (Z.takeWhile (· != '\n')))) := by
  rw [line?_ofString_succ, ht, splitOn_getElem?_count_newline hQ, Option.map_some]

/-! ## 行末の `\r` -/

/-- 後ろが空でなければ、`\r` を除くのは後ろだけ。 -/
theorem dropCr_append_of_ne_nil (A : List Char) {R : List Char} (hR : R ≠ []) :
    dropCr (A ++ R) = A ++ dropCr R := by
  unfold dropCr
  rw [List.getLast?_append_of_ne_nil _ hR]
  split
  · exact List.dropLast_append_of_ne_nil hR
  · rfl

/-- `\r` を除いても `A` が残るなら、`\r` を除くのは後ろの `R` だけ。 -/
theorem dropCr_append_of_prefix {A R : List Char} (h : A <+: dropCr (A ++ R)) :
    dropCr (A ++ R) = A ++ dropCr R := by
  rcases List.eq_nil_or_concat R with rfl | ⟨R', c, rfl⟩
  · -- 後ろが空なら、`A` を頭に持つ `dropCr A` は何も除いていない
    rw [List.append_nil] at h
    rw [List.append_nil, show dropCr ([] : List Char) = [] from rfl, List.append_nil]
    exact (h.eq_of_length (Nat.le_antisymm h.length_le (dropCr_prefix_self A).length_le)).symm
  · exact dropCr_append_of_ne_nil A (by simp)

/-- 真ん中の `N` が `\r` でない文字で終われば、`\r` を除くのは後ろの `R` だけ。 -/
theorem dropCr_append_of_getLast? (A : List Char) {N : List Char} {c : Char}
    (hN : N.getLast? = some c) (hc : c ≠ '\r') (R : List Char) :
    dropCr (A ++ N ++ R) = A ++ N ++ dropCr R := by
  rcases List.eq_nil_or_concat R with rfl | ⟨R', d, rfl⟩
  · have hlast : (A ++ N).getLast? = some c := by
      rw [List.getLast?_append, hN]
      rfl
    simp [dropCr, hlast, hc]
  · exact dropCr_append_of_ne_nil _ (by simp)

end SourceText

namespace Fix

open SourceText (dropCr)

/-! ## 一つの書き換えを当てる -/

/-- 範囲に直る一つの書き換えは、その範囲を新しいテキストに替えて当たる。 -/
theorem applyEdits_singleton_of_covers {t : String} {e : TextEdit} {r : Range}
    {x seg y : List Char} (hr : range? (SourceText.ofString t) t.toList e = some r)
    (hc : Covers t.toList r x seg y) :
    applyEdits t [e] = (String.ofList (x ++ r.2.2.toList ++ y), 1) := by
  have hle : r.2.1 ≤ utf8Len t.toList := by
    rw [hc.1, ← hc.2.2]
    simp
  obtain ⟨after, hsplit, happ⟩ := applyRanges_cons_of_covers hc (List.prefix_refl _) hle
  have hy : after = y := by
    have := hsplit.symm.trans hc.1
    simpa using this
  subst hy
  simp [applyEdits, hr, happ, dedupAdjacent, applyRanges]

/-- 範囲に直らない一つの書き換えは、何も変えない。 -/
theorem applyEdits_singleton_of_none {t : String} {e : TextEdit}
    (hr : range? (SourceText.ofString t) t.toList e = none) : applyEdits t [e] = (t, 0) := by
  simp [applyEdits, hr, dedupAdjacent, applyRanges]

/-- 一つの書き換えが当たるのは、範囲に直るときに限る。 -/
theorem applyEdits_singleton_snd_eq_one_iff {t : String} {e : TextEdit} :
    (applyEdits t [e]).2 = 1 ↔ (range? (SourceText.ofString t) t.toList e).isSome := by
  cases hr : range? (SourceText.ofString t) t.toList e with
  | none => simp [applyEdits_singleton_of_none hr]
  | some r =>
    obtain ⟨-, x, seg, y, hc⟩ := range?_covers hr
    simp [applyEdits_singleton_of_covers hr hc]

/-! ## 行の中で替える -/

/-- 行 `P ++ lit ++ R` の、桁 `utf8Len P + 1` から `lit` のバイト数だけを新しいテキストに替える。 -/
theorem replaceInLine_ofList {P lit R : List Char} {e : TextEdit}
    (hline : e.span.pos.line = e.span.stop.line) (hcol : utf8Len P + 1 = e.span.pos.col)
    (hstop : utf8Len (P ++ lit) + 1 = e.span.stop.col) :
    replaceInLine (String.ofList (P ++ lit ++ R)) e.span.pos.col e =
      some (String.ofList (P ++ lit ++ R), String.ofList P ++ e.newText ++ String.ofList R) := by
  have h1 : splitBytes? (e.span.pos.col - 1) (P ++ lit ++ R) = some (P, lit ++ R) := by
    rw [← hcol, Nat.add_sub_cancel, List.append_assoc]
    exact splitBytes?_utf8Len_append P (lit ++ R)
  have h2 : splitBytes? (e.span.pos.col - 1 + (e.span.stop.col - e.span.pos.col)) (P ++ lit ++ R) =
      some (P ++ lit, R) := by
    rw [show e.span.pos.col - 1 + (e.span.stop.col - e.span.pos.col) = utf8Len (P ++ lit) by
      simp only [String.utf8Len_append] at hstop ⊢
      omega]
    exact splitBytes?_utf8Len_append (P ++ lit) R
  have hsame : (e.span.pos.line != e.span.stop.line) = false := by simp [hline]
  have hcols : (decide (e.span.pos.col = 0) || decide (e.span.stop.col < e.span.pos.col)) = false := by
    simp only [String.utf8Len_append] at hstop
    simp only [Bool.or_eq_false_iff, decide_eq_false_iff_not]
    omega
  simp only [replaceInLine, String.toList_ofList, hsame, hcols, Bool.false_eq_true, if_false, h1, h2]
  rfl

/-- **一行に収まる書き換えが当たれば、行の中で替えた前と後の行は、当てる前と後のテキストのその
行である。** 新しいテキストは改行を含まず、`\r` でない文字で終わるとする。 -/
theorem replaceInLine_line?_applyEdits {t : String} {e : TextEdit}
    (hline : e.span.pos.line = e.span.stop.line) (hnl : '\n' ∉ e.newText.toList) {c : Char}
    (hlast : e.newText.toList.getLast? = some c) (hc : c ≠ '\r') (happ : (applyEdits t [e]).2 = 1) :
    ∃ before after, (SourceText.ofString t).line? e.span.pos.line = some before ∧
      replaceInLine before e.span.pos.col e = some (before, after) ∧
      (SourceText.ofString (applyEdits t [e]).1).line? e.span.pos.line = some after := by
  obtain ⟨⟨start, stop, n⟩, hr⟩ :=
    Option.isSome_iff_exists.1 (applyEdits_singleton_snd_eq_one_iff.1 happ)
  obtain ⟨lit, hspan, -, hn⟩ := range?_eq_some_iff.1 hr
  obtain ⟨Q, P, B, hs, rfl, rfl, hstop, hin⟩ := exists_keySite_of_spanText? hspan hline.symm
  dsimp only at hn
  subst hn
  rw [applyEdits_singleton_of_covers hr (hs.covers e.newText)]
  have hP : '\n' ∉ P := fun h => hs.inLine (List.mem_append_left lit h)
  -- 行の中身は、範囲の前 `P`、範囲の中身、範囲の後ろの行末までの部分から `\r` を除いたもの
  have hbefore : (SourceText.ofString t).line? e.span.pos.line =
      some (String.ofList (P ++ lit ++ dropCr (B.takeWhile (· != '\n')))) := by
    rw [SourceText.stripCr_ofList, String.toList_ofList] at hin
    rw [← hs.line, SourceText.line?_ofString_count_newline (Z := P ++ lit ++ B)
      (by rw [hs.split]; simp) hs.lines, SourceText.takeWhile_append_of_newline_not_mem hs.inLine,
      SourceText.dropCr_append_of_prefix hin]
  -- 当てた後の行は、範囲の中身を新しいテキストに替えたもの
  have hafter : (SourceText.ofString (String.ofList (Q ++ P ++ e.newText.toList ++ B))).line?
      e.span.pos.line =
        some (String.ofList (P ++ e.newText.toList ++ dropCr (B.takeWhile (· != '\n')))) := by
    rw [← hs.line, SourceText.line?_ofString_count_newline (Z := P ++ e.newText.toList ++ B)
      (by simp) hs.lines, SourceText.takeWhile_append_of_newline_not_mem (by simp [hP, hnl]),
      SourceText.dropCr_append_of_getLast? P hlast hc]
  refine ⟨_, _, hbefore, replaceInLine_ofList hline hs.col hstop, ?_⟩
  rw [hafter, String.ofList_append, String.ofList_append, String.ofList_toList]

end Fix

/-! ## 鍵の書き方の問題 -/

namespace Analyzer

variable (a : Analyzer)

/-- 鍵の書き方の問題は、キーの範囲をその値を直して書いたリテラルに替える書き換えを、キーの
始まりの場所に付けたもの。 -/
theorem namingIssue?_eq_some {k : KeyCase} {key : Expr} {i : Issue}
    (h : a.namingIssue? k key = some i) :
    ∃ name, i = a.issueAt (.keyNaming k ⟨"Change to " ++ Go.StringLit.quote (k.convert name),
      ⟨key.span, Go.StringLit.quote (k.convert name)⟩⟩) key.pos := by
  unfold namingIssue? at h
  cases hk : keyName? key with
  | none => simp [hk] at h
  | some name =>
    refine ⟨name, ?_⟩
    by_cases hc : k.convert name = name <;> simp [hk, hc] at h
    exact h.symm

/-- 呼び出しの問題のうち鍵の書き方の規則のものは、どれもどこかのキーの `namingIssue?`。 -/
theorem exists_namingIssue?_of_mem_callIssues {c : Call} {i : Issue} (hi : i ∈ a.callIssues c)
    (hrule : i.problem.rule = .keyNamingCase) : ∃ k key, a.namingIssue? k key = some i := by
  -- ほかの部分の問題は、どれもほかの規則のもの
  unfold callIssues at hi
  split at hi
  · cases hi
  · split at hi
    · exact absurd (rule_of_mem_ite a hi) (by rw [hrule]; simp [Problem.rule])
    · split at hi
      · exact absurd (rule_of_mem_ite_nil a hi) (by rw [hrule]; simp [Problem.rule])
      · simp only [List.mem_append, List.mem_flatMap] at hi
        rcases hi with (hmsg | ⟨key, -, hkey⟩) | hlayout
        · split at hmsg
          · rcases List.mem_append.1 hmsg with h | h
            · exact absurd (rule_of_mem_ite a h) (by rw [hrule]; simp [Problem.rule])
            · split at h
              · exact absurd (rule_of_mem_ite_nil a h) (by rw [hrule]; simp [Problem.rule])
              · cases h
          · cases hmsg
        · rcases List.mem_append.1 hkey with h | h
          · rcases List.mem_append.1 h with h | h
            · exact absurd (rule_of_mem_ite a h) (by rw [hrule]; simp [Problem.rule])
            · split at h
              · exact absurd (rule_of_mem_ite a h) (by rw [hrule]; simp [Problem.rule])
              · cases h
          · split at h
            · exact ⟨_, key, Option.mem_toList.1 h⟩
            · cases h
        · exact absurd (rule_of_mem_ite a hlayout) (by rw [hrule]; simp [Problem.rule])

/-- 書き出しを調べた結果は、呼び出しごとの問題から成る。 -/
theorem mem_run_iff {d : FileDump} {i : Issue} :
    i ∈ a.run d ↔ ∃ c ∈ d.calls, i ∈ a.callIssues c := by
  simp [run, FileDump.calls, visitExprs_toList]

/-- 書き出しを調べて見つけた鍵の書き方の問題は、どれもどこかのキーの `namingIssue?`。 -/
theorem exists_namingIssue?_of_mem_run {d : FileDump} {i : Issue} (hi : i ∈ a.run d)
    (hrule : i.problem.rule = .keyNamingCase) : ∃ k key, a.namingIssue? k key = some i := by
  obtain ⟨c, -, hc⟩ := (a.mem_run_iff).1 hi
  exact a.exists_namingIssue?_of_mem_callIssues hc hrule

end Analyzer

namespace Cli

/-- 鍵の書き換えは、鍵の書き方の問題の書き換えと、その問題の場所。 -/
theorem mem_keyFixes {issues : List Issue} {ctx : SourceContext} {e : TextEdit} :
    (ctx, e) ∈ keyFixes issues ↔
      ∃ k msg, (⟨.keyNaming k ⟨msg, e⟩, .source ctx⟩ : Issue) ∈ issues := by
  simp only [keyFixes, List.mem_filterMap]
  constructor
  · rintro ⟨⟨p, l⟩, hi, h⟩
    split at h
    · next k f ctx' hp hl =>
      simp only [Option.some.injEq, Prod.mk.injEq] at h
      obtain ⟨rfl, rfl⟩ := h
      dsimp only at hp hl
      subst hp hl
      exact ⟨k, f.message, hi⟩
    · cases h
  · rintro ⟨k, msg, hi⟩
    exact ⟨_, hi, rfl⟩

/-! ## 見せる行と当てた行 -/

/-- **鍵の直しを見せる前と後の行は、直しを当てる前と後のテキストのその行である。** テキスト `t` を
読んで書き出しを調べ、見つけた鍵の書き方の問題の書き換えが一行に収まり、`t` に当たるなら。 -/
theorem keyFix_preview_eq_applied_lines {a : Analyzer} {t : String}
    (hsrc : a.source = some (SourceText.ofString t)) {d : FileDump} {ctx : SourceContext}
    {e : TextEdit} (hfix : (ctx, e) ∈ keyFixes (a.run d))
    (hline : e.span.pos.line = e.span.stop.line) (happ : (Fix.applyEdits t [e]).2 = 1) :
    ∃ before after, ctx.sourceLine.bind (Fix.replaceInLine · ctx.col e) = some (before, after) ∧
      (SourceText.ofString t).line? e.span.pos.line = some before ∧
      (SourceText.ofString (Fix.applyEdits t [e]).1).line? e.span.pos.line = some after := by
  obtain ⟨k, msg, hi⟩ := mem_keyFixes.1 hfix
  obtain ⟨k', key, hkey⟩ := a.exists_namingIssue?_of_mem_run hi rfl
  obtain ⟨name, hname⟩ := a.namingIssue?_eq_some hkey
  -- 問題はキーの始まりの場所に付き、書き換えはキーの範囲を書いたリテラルに替える
  simp only [Analyzer.issueAt, Analyzer.context, Issue.mk.injEq, Problem.keyNaming.injEq,
    SuggestedFix.mk.injEq, Location.source.injEq] at hname
  obtain ⟨⟨rfl, -, rfl⟩, rfl⟩ := hname
  obtain ⟨before, after, hb, hr, ha⟩ := Fix.replaceInLine_line?_applyEdits hline
    (Go.StringLit.newline_not_mem_quote _) (Go.StringLit.quote_getLast? _) (by decide) happ
  exact ⟨before, after, by simp [hsrc, Expr.pos, hb, hr], hb, ha⟩

/-- `s.Infow("m", "aBc", 1)` の鍵 `"aBc"` を snake_case に直す書き換えは一行に収まって当たり、見せる
前と後の行は、当てる前と後のテキストの一行目。 -/
theorem keyFix_preview_of_infow_key :
    let t := "s.Infow(\"m\", \"aBc\", 1)\n"
    let sp : Span := ⟨⟨1, 1⟩, ⟨1, 23⟩⟩
    let d : FileDump := ⟨"main.go",
      [.call sp (.selector sp (.ident ⟨sp, "s", some .var⟩) ⟨sp, "Infow", some .func⟩)
        [.lit ⟨⟨1, 9⟩, ⟨1, 12⟩⟩ .string "\"m\"", .lit ⟨⟨1, 14⟩, ⟨1, 19⟩⟩ .string "\"aBc\"",
          .lit ⟨⟨1, 21⟩, ⟨1, 22⟩⟩ .int "1"]
        (some ⟨"(*go.uber.org/zap.SugaredLogger).Infow", some "go.uber.org/zap", "Infow"⟩)]⟩
    let a : Analyzer :=
      ⟨⟨false, false, false, none, false, some .snake, [], false⟩, "main.go", some (SourceText.ofString t)⟩
    let ctx : SourceContext := ⟨"main.go", 1, 14, some "s.Infow(\"m\", \"aBc\", 1)"⟩
    let e : TextEdit := ⟨⟨⟨1, 14⟩, ⟨1, 19⟩⟩, "\"a_bc\""⟩
    a.source = some (SourceText.ofString t) ∧ (ctx, e) ∈ keyFixes (a.run d) ∧
      e.span.pos.line = e.span.stop.line ∧ (Fix.applyEdits t [e]).2 = 1 ∧
      ∃ before after, ctx.sourceLine.bind (Fix.replaceInLine · ctx.col e) = some (before, after) ∧
        (SourceText.ofString t).line? e.span.pos.line = some before ∧
        (SourceText.ofString (Fix.applyEdits t [e]).1).line? e.span.pos.line = some after := by
  intro t sp d a ctx e
  have hsrc : a.source = some (SourceText.ofString t) := rfl
  have hfix : (ctx, e) ∈ keyFixes (a.run d) := by decide +kernel
  have hline : e.span.pos.line = e.span.stop.line := rfl
  have happ : (Fix.applyEdits t [e]).2 = 1 :=
    Fix.applyEdits_singleton_snd_eq_one_iff.2 (by decide +kernel)
  exact ⟨hsrc, hfix, hline, happ, keyFix_preview_eq_applied_lines hsrc hfix hline happ⟩

end Cli

end LogLint
