import LogLint.Proofs.IssueOrder

/-!
# 規則は互いに独立に切り替えられる

二つの方針 `P` と `P'` が `noSugar` と、ある規則 `R` 自身の設定とで一致すれば、同じ書き出しに
規則を当てた結果から `R` の問題だけを選んだ列は、どちらの方針でも同じである
（`ruleIssues_eq_of_agreeOn`）。`noSugar` は sugar の呼び出しで打ち切るかどうかを決めるので、
どの規則にも効く。

`Analyzer.run` は呼び出しごとの問題をつないだもの（`Proofs/IssueOrder.lean`）なので、呼び出し
一つについて言えば足りる。呼び出しの問題はいくつかの部分に分かれ、どの部分も一つの規則の
問題だけを含み、その規則の設定だけを読む（`filter_rule_congr`）。キーを見る規則が一つも
ないときの近道は、`checkCall_toList` がすでに片付けている。
-/

namespace LogLint

/-- 二つの方針が、規則 `R` 自身の設定で一致する。禁じるキーは集まりとして比べる。 -/
def Policy.AgreeOn (P P' : Policy) : Rule → Prop
  | .noGlobal => P.noGlobal = P'.noGlobal
  | .noSugar => P.noSugar = P'.noSugar
  | .staticMsg => P.staticMsg = P'.staticMsg
  | .msgStyle => P.msgStyle = P'.msgStyle
  | .noRawKeys => P.noRawKeys = P'.noRawKeys
  | .forbiddenKeys => ∀ key, P.forbids key = P'.forbids key
  | .keyNamingCase => P.keyCase = P'.keyCase
  | .argsOnSepLines => P.argsOnSepLines = P'.argsOnSepLines
  | .parseError => True

namespace Analyzer

variable (a : Analyzer) {P' : Policy} {R : Rule}

@[simp]
theorem issueAt_problem (p : Problem) (pos : Pos) : (a.issueAt p pos).problem = p := rfl

@[simp]
theorem issueAt_withPolicy (p : Problem) (pos : Pos) :
    ({ a with policy := P' } : Analyzer).issueAt p pos = a.issueAt p pos := rfl

/-! ## 一つの規則の問題だけの列 -/

/-- 問題がみな規則 `R₀` のものなら、規則 `R` で選ぶと全部が残るか、何も残らないか。 -/
theorem filter_rule_of_forall {l : List Issue} {R₀ : Rule} (h : ∀ i ∈ l, i.problem.rule = R₀)
    (R : Rule) : l.filter (·.problem.rule == R) = if R₀ = R then l else [] := by
  split
  · next hR => exact List.filter_eq_self.2 fun i hi => by simp [h i hi, hR]
  · next hR => exact List.filter_eq_nil_iff.2 fun i hi => by simp [h i hi, hR]

/-- 規則 `R₀` の問題だけの二つの列は、`R₀ = R` のとき等しければ、`R` で選んだものが等しい。 -/
theorem filter_rule_congr (R₀ : Rule) {l l' : List Issue} (h : ∀ i ∈ l, i.problem.rule = R₀)
    (h' : ∀ i ∈ l', i.problem.rule = R₀) (heq : R₀ = R → l = l') :
    l.filter (·.problem.rule == R) = l'.filter (·.problem.rule == R) := by
  rw [filter_rule_of_forall h, filter_rule_of_forall h']
  split
  · next hR => exact heq hR
  · rfl

theorem rule_of_mem_ite {b : Bool} {p : Problem} {pos : Pos} {i : Issue}
    (h : i ∈ (if b then [a.issueAt p pos] else [])) : i.problem.rule = p.rule := by
  split at h
  · rw [List.mem_singleton.1 h, issueAt_problem]
  · cases h

theorem rule_of_mem_ite_nil {b : Bool} {p : Problem} {pos : Pos} {i : Issue}
    (h : i ∈ (if b then [] else [a.issueAt p pos])) : i.problem.rule = p.rule := by
  split at h
  · cases h
  · rw [List.mem_singleton.1 h, issueAt_problem]

/-! ## 部分ごとの独立 -/

/-- メッセージの問題のうち規則 `R` のものは、`R` の設定だけで決まる。 -/
theorem messageIssues_filter_congr (hR : a.policy.AgreeOn P' R) (m : Expr) :
    (a.messageIssues m).filter (·.problem.rule == R) =
      (({ a with policy := P' } : Analyzer).messageIssues m).filter (·.problem.rule == R) := by
  simp only [messageIssues, List.filter_append]
  congr 1
  · refine filter_rule_congr .staticMsg (fun i hi => rule_of_mem_ite a hi)
      (fun i hi => rule_of_mem_ite _ hi) fun h => ?_
    subst h
    simp only [Policy.AgreeOn] at hR
    simp [hR]
  · -- 書き方の部分の問題は、どちらの方針でもみな書き方の規則のもの
    refine filter_rule_congr .msgStyle ?_ ?_ fun h => ?_
    · intro i hi
      split at hi
      · exact rule_of_mem_ite_nil a hi
      · cases hi
    · intro i hi
      split at hi
      · exact rule_of_mem_ite_nil _ hi
      · cases hi
    · subst h
      simp only [Policy.AgreeOn] at hR
      simp [hR]

/-- 書き方の規則が返すのは、書き方の問題だけ。 -/
theorem rule_of_mem_namingIssue? {k : KeyCase} {key : Expr} {i : Issue}
    (h : i ∈ (a.namingIssue? k key).toList) : i.problem.rule = .keyNamingCase := by
  simp only [namingIssue?, Option.mem_toList] at h
  cases hk : keyName? key with
  | none => simp [hk] at h
  | some name =>
    by_cases hc : k.convert name = name
    · simp [hk, hc] at h
    · simp [hk, hc] at h
      rw [← h]
      rfl

/-- キーの問題のうち規則 `R` のものは、`R` の設定だけで決まる。 -/
theorem keyIssues_filter_congr (hR : a.policy.AgreeOn P' R) (key : Expr) :
    (a.keyIssues key).filter (·.problem.rule == R) =
      (({ a with policy := P' } : Analyzer).keyIssues key).filter (·.problem.rule == R) := by
  simp only [keyIssues, List.filter_append]
  congr 1
  congr 1
  · refine filter_rule_congr .noRawKeys (fun i hi => rule_of_mem_ite a hi)
      (fun i hi => rule_of_mem_ite _ hi) fun h => ?_
    subst h
    simp only [Policy.AgreeOn] at hR
    simp [hR]
  · -- 禁じるキーの部分の問題は、どちらの方針でもみな禁じるキーの規則のもの
    refine filter_rule_congr .forbiddenKeys ?_ ?_ fun h => ?_
    · intro i hi
      split at hi
      · exact rule_of_mem_ite a hi
      · cases hi
    · intro i hi
      split at hi
      · exact rule_of_mem_ite _ hi
      · cases hi
    · subst h
      simp only [Policy.AgreeOn] at hR
      simp [hR]
  · -- 書き方の部分の問題は、どちらの方針でもみな書き方の規則のもの
    refine filter_rule_congr .keyNamingCase ?_ ?_ fun h => ?_
    · intro i hi
      split at hi
      · exact rule_of_mem_namingIssue? a hi
      · cases hi
    · intro i hi
      split at hi
      · exact rule_of_mem_namingIssue? _ hi
      · cases hi
    · subst h
      simp only [Policy.AgreeOn] at hR
      simp only [hR]
      rfl

/-- 呼び出し一つの問題のうち規則 `R` のものは、`noSugar` と `R` の設定だけで決まる。 -/
theorem callIssues_filter_congr (hs : a.policy.noSugar = P'.noSugar) (hR : a.policy.AgreeOn P' R)
    (c : Call) :
    (a.callIssues c).filter (·.problem.rule == R) =
      (({ a with policy := P' } : Analyzer).callIssues c).filter (·.problem.rule == R) := by
  unfold callIssues
  cases c.resolve? with
  | none => rfl
  | some r =>
    obtain ⟨_, s⟩ := r
    simp only [hs]
    by_cases hg : s.isGlobal
    · simp only [hg, if_true]
      refine filter_rule_congr .noGlobal (fun i hi => rule_of_mem_ite a hi)
        (fun i hi => rule_of_mem_ite _ hi) fun h => ?_
      subst h
      simp only [Policy.AgreeOn] at hR
      simp [hR]
    by_cases hsug : s.isSugar && P'.noSugar
    · simp [hg, hsug]
    -- 打ち切らない呼び出し：メッセージ、キー、並べ方の部分ごとに比べる
    simp only [hg, hsug, Bool.false_eq_true, if_false, List.filter_append, List.filter_flatMap]
    congr 1
    congr 1
    · cases c.message? s with
      | none => rfl
      | some m => exact a.messageIssues_filter_congr hR m
    · congr 1
      funext key
      exact a.keyIssues_filter_congr hR key
    · refine filter_rule_congr .argsOnSepLines (fun i hi => rule_of_mem_ite a hi)
        (fun i hi => rule_of_mem_ite _ hi) fun h => ?_
      subst h
      simp only [Policy.AgreeOn] at hR
      simp [hR]

end Analyzer

/-! ## まとめ -/

/--
**規則は互いに独立に切り替えられる。**

`noSugar` と規則 `R` 自身の設定が一致する二つの方針で同じ書き出しを見ると、`R` の問題の列は
同じである。`R = noSugar` なら、sugar の問題が `noSugar` だけで決まることを言う。キーを見る
規則が一つもない方針では、キーを見ずに済ませるが、それで落ちるキーの問題はない。
-/
theorem ruleIssues_eq_of_agreeOn (d : FileDump) (file : String) (source : Option SourceText)
    {P P' : Policy} (R : Rule) (hs : P.noSugar = P'.noSugar) (hR : P.AgreeOn P' R) :
    (Analyzer.run ⟨P, file, source⟩ d).filter (·.problem.rule == R) =
      (Analyzer.run ⟨P', file, source⟩ d).filter (·.problem.rule == R) := by
  simp only [Analyzer.run, Analyzer.visitExprs_toList, List.nil_append, List.filter_flatMap]
  congr 1
  funext c
  exact Analyzer.callIssues_filter_congr ⟨P, file, source⟩ hs hR c

/-- 生のキーの規則を入れた二つの方針の一方だけに、禁じるキー `"userID"` とキーの書き方の規則を
入れる。生のキー `"userID"` を持つ `s.Infow("m", "userID", 1)` を見ると、二つの方針の問題の列は
違うが、生のキーの問題はどちらもそのキーの位置の一つだけで同じ。 -/
theorem rawKeyIssues_same_with_or_without_key_rules :
    let P : Policy := ⟨true, false, true, none, true, none, [], false⟩
    let P' : Policy := ⟨true, false, true, none, true, some .snake, ["userID"], false⟩
    let sp : Span := ⟨⟨1, 1⟩, ⟨1, 26⟩⟩
    let d : FileDump := ⟨"main.go",
      [.call sp (.selector sp (.ident ⟨sp, "s", some .var⟩) ⟨sp, "Infow", some .func⟩)
        [.lit ⟨⟨1, 9⟩, ⟨1, 12⟩⟩ .string "\"m\"", .lit ⟨⟨1, 14⟩, ⟨1, 22⟩⟩ .string "\"userID\"",
          .lit ⟨⟨1, 24⟩, ⟨1, 25⟩⟩ .int "1"]
        (some ⟨"(*go.uber.org/zap.SugaredLogger).Infow", some "go.uber.org/zap", "Infow"⟩)]⟩
    P.noSugar = P'.noSugar ∧ P.AgreeOn P' .noRawKeys ∧
      (Analyzer.run ⟨P, "main.go", none⟩ d).filter (·.problem.rule == .noRawKeys) =
        (Analyzer.run ⟨P', "main.go", none⟩ d).filter (·.problem.rule == .noRawKeys) ∧
      (Analyzer.run ⟨P, "main.go", none⟩ d).filter (·.problem.rule == .noRawKeys) =
        [⟨.rawKey, .source ⟨"main.go", 1, 14, none⟩⟩] ∧
      Analyzer.run ⟨P, "main.go", none⟩ d ≠ Analyzer.run ⟨P', "main.go", none⟩ d := by
  intro P P' sp d
  have hs : P.noSugar = P'.noSugar := rfl
  have hR : P.AgreeOn P' .noRawKeys := rfl
  -- 生のキーの問題はそのキーの位置に一つ。もう一方の方針は禁じるキーと書き方の問題も見つける
  have hraw : (Analyzer.run ⟨P, "main.go", none⟩ d).filter (·.problem.rule == .noRawKeys) =
      [⟨.rawKey, .source ⟨"main.go", 1, 14, none⟩⟩] := by
    decide +kernel
  have hdiff : Analyzer.run ⟨P, "main.go", none⟩ d ≠ Analyzer.run ⟨P', "main.go", none⟩ d := by
    decide +kernel
  exact ⟨hs, hR, ruleIssues_eq_of_agreeOn d "main.go" none .noRawKeys hs hR, hraw, hdiff⟩

end LogLint
