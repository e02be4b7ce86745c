import LogLint.Analyzer

/-!
# 問題は呼び出しの preorder の順に並ぶ

`Analyzer.run` は木を歩きながら、呼び出しの節点ごとに `checkCall` で問題を積む。ここでは、
その結果が「呼び出しを preorder に並べ（`FileDump.calls`）、呼び出しごとの問題の並び
（`callIssues`）をつないだもの」に等しいことを示す（`run_eq_flatMap_calls`）。

証明は二段である。

1. 呼び出し一つ：`checkCall` が積むものは `callIssues` である（`checkCall_toList`）。
   キーを見る規則が一つもないときにキーを見ずに済ませても、見て何も見つからないのと同じ
   （`keyIssues_eq_nil`）。
2. 木：積んだ配列が「前に積んだもの ++ 木の中の呼び出しの問題」になることを、`visitExpr` と
   `visitExprs` の相互再帰に沿って示す（`visitExpr_toList`）。`checkCall` が途中で打ち切っても、
   中へ降りることは止まらない。
-/

namespace LogLint.Analyzer

variable (a : Analyzer)

/-! ## 積む -/

@[simp]
theorem push_toList (issues : Array Issue) (o : Option Issue) :
    (push issues o).toList = issues.toList ++ o.toList := by
  cases o <;> simp [push]

/-! ## 規則ごとの判定と、問題の並び -/

theorem globalIssue?_toList {c : Call} {s : Shape} (h : s.isGlobal = true) :
    (a.globalIssue? c s).toList = [a.issueAt .globalLogger c.operatorPos] := by
  simp [globalIssue?, h]

theorem sugarIssue?_toList {c : Call} {s : Shape} (h : s.isSugar = true) :
    (a.sugarIssue? c s).toList =
      if hasSugaredReceiver c then [] else [a.issueAt .sugaredLogger c.operatorPos] := by
  by_cases hr : hasSugaredReceiver c <;> simp [sugarIssue?, h, hr]

theorem layoutIssue?_toList (c : Call) (s : Shape) :
    (a.layoutIssue? c s).toList =
      if shareALine (s.variadic c.args) s.isKv then [a.issueAt .argsLayout c.span.pos] else [] := by
  unfold layoutIssue?
  split <;> rfl

/-- メッセージの二つの規則を順に当てると、`messageIssues` を積む。 -/
theorem checkMessage_toList (issues : Array Issue) (msg : Expr) :
    (a.checkMessage issues msg).toList = issues.toList ++ a.messageIssues msg := by
  have hstatic : (if a.policy.staticMsg then push issues (a.staticMsgIssue? msg) else issues).toList =
      issues.toList ++
        (if a.policy.staticMsg && !msg.isStatic then [a.issueAt .dynamicMessage msg.pos] else []) := by
    cases hs : a.policy.staticMsg <;> cases hst : msg.isStatic <;> simp [staticMsgIssue?, hst]
  unfold checkMessage messageIssues
  cases hs : a.policy.msgStyle with
  | none => simp [hstatic]
  | some style =>
    cases hv : msg.stringLit? >>= Go.StringLit.unquote? with
    | none => simp [hstatic, msgStyleIssue?, hv]
    | some value => by_cases hacc : style.accepts value <;> simp [hstatic, msgStyleIssue?, hv, hacc]

/-- 一つのキーを見ると、`keyIssues` を積む。 -/
theorem checkKey_toList (issues : Array Issue) (key : Expr) :
    (a.checkKey issues key).toList = issues.toList ++ a.keyIssues key := by
  have hraw : (if a.policy.noRawKeys then push issues (a.rawKeyIssue? key) else issues).toList =
      issues.toList ++
        (if a.policy.noRawKeys && key.stringLit?.isSome then [a.issueAt .rawKey key.pos] else []) := by
    cases hr : a.policy.noRawKeys <;> cases hk : key.stringLit? <;> simp [rawKeyIssue?, hk]
  unfold checkKey keyIssues
  cases hk : keyName? key with
  | none => cases a.policy.keyCase <;> simp [hraw, forbiddenKeyIssue?, hk]
  | some name =>
    by_cases hf : a.policy.forbids name <;> cases a.policy.keyCase <;>
      simp [hraw, forbiddenKeyIssue?, hk, hf]

/-- キーを順に見ると、キーごとの問題をつないだものを積む。 -/
theorem checkKeys_toList (issues : Array Issue) (c : Call) (s : Shape) :
    (a.checkKeys issues c s).toList = issues.toList ++ (c.keys s).flatMap a.keyIssues := by
  unfold checkKeys
  -- 積みかけの配列を一般にして、キーの列について帰納する
  induction c.keys s generalizing issues with
  | nil => simp
  | cons key keys ih => simp [ih, checkKey_toList]

/-- キーを見る規則が一つもなければ、どのキーにも問題はない。 -/
theorem keyIssues_eq_nil (h : a.policy.checksKeys = false) (key : Expr) : a.keyIssues key = [] := by
  simp only [Policy.checksKeys, Bool.or_eq_false_iff, Bool.not_eq_false',
    List.isEmpty_iff, Option.isSome_eq_false_iff, Option.isNone_iff_eq_none] at h
  obtain ⟨⟨hraw, hforbidden⟩, hcase⟩ := h
  have hforbids (name : String) : a.policy.forbids name = false := by
    simp [Policy.forbids, hforbidden]
  cases hk : keyName? key <;> simp [keyIssues, hraw, hcase, hk, hforbids]

/-! ## 呼び出し一つ -/

/-- **`checkCall` は `callIssues` を積む。** キーを見ずに済ませる近道は問題を落とさない。 -/
theorem checkCall_toList (issues : Array Issue) (c : Call) :
    (a.checkCall issues c).toList = issues.toList ++ a.callIssues c := by
  unfold checkCall callIssues
  cases hr : c.resolve? with
  | none => simp
  | some r =>
    obtain ⟨_, s⟩ := r
    by_cases hg : s.isGlobal
    · cases a.policy.noGlobal <;> simp [hg, globalIssue?_toList]
    by_cases hsug : s.isSugar && a.policy.noSugar
    · simp only [Bool.and_eq_true] at hsug
      simp [hg, hsug, sugarIssue?_toList]
    simp only [hg, hsug, Bool.false_eq_true, if_false]
    -- メッセージ、キー、並べ方の三つに分けて積む
    have hkeys (acc : Array Issue) :
        (if a.policy.checksKeys then a.checkKeys acc c s else acc).toList =
          acc.toList ++ (c.keys s).flatMap a.keyIssues := by
      cases hk : a.policy.checksKeys
      · simp [List.flatMap_eq_nil_iff, a.keyIssues_eq_nil hk]
      · simp [checkKeys_toList]
    cases c.message? s <;> cases a.policy.argsOnSepLines <;>
      simp [hkeys, layoutIssue?_toList, checkMessage_toList]

/-! ## 木 -/

mutual

/-- 式を歩くと、前に積んだものの後ろに、木の中の呼び出しの問題を preorder に積む。 -/
theorem visitExpr_toList (issues : Array Issue) :
    ∀ e : Expr, (a.visitExpr issues e).toList = issues.toList ++ e.calls.flatMap a.callIssues
  | .lit .. => by simp [visitExpr, Expr.calls]
  | .ident _ => by simp [visitExpr, Expr.calls]
  | .selector _ x _ => by simp [visitExpr, Expr.calls, visitExpr_toList issues x]
  | .call s f args c => by
    -- 呼び出しを見てから、呼ぶ関数、引数の順に降りる
    simp [visitExpr, Expr.calls, visitExprs_toList _ args, visitExpr_toList _ f, checkCall_toList]
  | .binary _ _ x y => by
    simp [visitExpr, Expr.calls, visitExpr_toList _ y, visitExpr_toList issues x]
  | .other _ cs => by simp [visitExpr, Expr.calls, visitExprs_toList issues cs]

/-- 式の列を歩くと、各式の呼び出しの問題を左から積む。 -/
theorem visitExprs_toList (issues : Array Issue) :
    ∀ es : List Expr,
      (a.visitExprs issues es).toList = issues.toList ++ (Expr.callsList es).flatMap a.callIssues
  | [] => by simp [visitExprs, Expr.callsList]
  | e :: es => by
    simp [visitExprs, Expr.callsList, visitExprs_toList _ es, visitExpr_toList issues e]

end

/-! ## まとめ -/

/--
**規則を当てた結果は、呼び出しを preorder に並べ、呼び出しごとの問題をつないだものである。**

呼び出しごとの問題（`callIssues`）は呼び出しそのものと、その受け手だけで決まり、global な
logger か sugar の呼び出しで打ち切った後も、その中の呼び出しは見られる。
-/
theorem run_eq_flatMap_calls (d : FileDump) : a.run d = d.calls.flatMap a.callIssues := by
  simp [run, FileDump.calls, visitExprs_toList]

end LogLint.Analyzer
