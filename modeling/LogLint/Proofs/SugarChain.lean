import Mathlib
import LogLint.Proofs.RuleIndependence

/-!
# sugar の連なりは一度だけ報告される

`sugar.With("k", 1).Infow("msg")` のように、sugar の呼び出しが受け手で連なることがある。
`noSugar` のとき、連なりの一つ一つを preorder で見るが、報告するのは受け手が sugar の呼び出しで
ない呼び出し、つまり連なりの最も内側の呼び出しだけである。

* `checkCall_sugared` — sugar の呼び出しを見るときに積むのは、sugar の問題が高々一つだけ
* `sugarIssues_eq_chains` — sugar の問題は、極大な連なり一つにつき一つ、連なりの最も内側の
  呼び出しの名前の位置に出る

## 連なりの切り方

preorder の列では、受け手のある呼び出しのすぐ後ろにその受け手が来る（`receiverFollows_calls`）。
呼び出しが受け手の `x` に降りるのは `fn` の中で最初だからである。そこで、列を「sugar の呼び出しで、
受け手も sugar の呼び出し」のところでつないで切る（`List.splitBy`）と、切れた一つ一つが受け手で
連なる sugar の呼び出しの極大な連なりになる（`sugarChains`）。
-/

namespace LogLint

/-! ## sugar の呼び出しと連なり -/

namespace Call

/-- vendor を取り除いた呼び先が、sugar の形で目録にある。 -/
def isSugared (c : Call) : Bool :=
  match c.resolve? with
  | some (_, s) => s.isSugar
  | none => false

/-- sugar の呼び出しで、受け手も sugar の呼び出し。連なりはここでつながる。 -/
def linksToReceiver (c : Call) : Bool := c.isSugared && Analyzer.hasSugaredReceiver c

end Call

/-- preorder の呼び出しの列を、受け手で連なる sugar の呼び出しの極大な連なりに分ける。
sugar でない呼び出しは捨てる。 -/
def sugarChains (calls : List Call) : List (List Call) :=
  (calls.splitBy fun c _ => c.linksToReceiver).filter fun g => g.head?.any Call.isSugared

theorem Catalog.isSugar_of_lookup? {name : String} {s : Shape} (h : Catalog.lookup? name = some s)
    (hg : s.isGlobal = true) : s.isSugar = false := by
  have hall : ∀ p ∈ Catalog.entries, p.2.isGlobal = true → p.2.isSugar = false := by decide
  obtain ⟨l₁, l₂, hl, -⟩ := List.lookup_eq_some_iff.1 h
  exact hall (name, s) (by rw [hl]; simp) hg

/-- 目録の global な形は sugar でない。 -/
theorem Call.isSugar_of_resolve? {c : Call} {name : String} {s : Shape}
    (h : c.resolve? = some (name, s)) (hg : s.isGlobal = true) : s.isSugar = false := by
  simp only [Call.resolve?, Option.bind_eq_bind, Option.pure_def] at h
  cases hsym : c.symbol? with
  | none => simp [hsym] at h
  | some sym =>
    cases hl : Catalog.lookup? sym with
    | none => simp [hsym, hl] at h
    | some s' =>
      simp only [hsym, hl, Option.bind_some, Option.some.injEq, Prod.mk.injEq] at h
      obtain ⟨-, rfl⟩ := h
      exact Catalog.isSugar_of_lookup? hl hg

theorem Analyzer.hasSugaredReceiver_iff {c : Call} :
    Analyzer.hasSugaredReceiver c = true ↔ ∃ r, c.receiver? = some r ∧ r.isSugared = true := by
  unfold Analyzer.hasSugaredReceiver Call.isSugared
  cases hr : c.receiver? with
  | none => simp
  | some r =>
    cases hres : r.resolve? <;> simp [hres]

/-! ## preorder の列の中の受け手 -/

/-- 受け手のある呼び出しのすぐ後ろに、その受け手が来る。 -/
def ReceiverFollows (calls : List Call) : Prop :=
  ∀ l₁ c l₂ r, calls = l₁ ++ c :: l₂ → c.receiver? = some r → l₂.head? = some r

theorem receiverFollows_nil : ReceiverFollows [] := by
  intro l₁ c l₂ r h
  simp at h

theorem ReceiverFollows.cons {c : Call} {l : List Call}
    (hc : ∀ r, c.receiver? = some r → l.head? = some r) (hl : ReceiverFollows l) :
    ReceiverFollows (c :: l) := by
  intro l₁ c' l₂ r h hr
  cases l₁ with
  | nil =>
    obtain ⟨rfl, rfl⟩ := List.cons.inj h
    exact hc r hr
  | cons x l₁ =>
    exact hl l₁ c' l₂ r (List.cons.inj h).2 hr

theorem ReceiverFollows.append {l m : List Call} (hl : ReceiverFollows l) (hm : ReceiverFollows m) :
    ReceiverFollows (l ++ m) := by
  intro l₁ c l₂ r h hr
  rcases List.append_eq_append_iff.1 h with ⟨a', -, hm'⟩ | ⟨c', hl', hc'⟩
  · exact hm a' c l₂ r hm' hr
  · cases c' with
    | nil => exact hm [] c l₂ r (by simpa using hc'.symm) hr
    | cons x c'' =>
      obtain ⟨rfl, rfl⟩ := List.cons.inj hc'
      have := hl l₁ _ c'' r hl' hr
      cases c'' with
      | nil => simp at this
      | cons y c''' => simpa using this

/-- 受け手のある呼び出しでは、呼ぶ関数の中の最初の呼び出しがその受け手。 -/
theorem head?_calls_fn_of_receiver {c r : Call} (h : c.receiver? = some r) :
    c.fn.calls.head? = some r := by
  obtain ⟨s, fn, args, callee⟩ := c
  cases fn <;> simp only [Call.receiver?, reduceCtorEq] at h
  rename_i x sel
  cases x <;> simp only [Expr.asCall?, reduceCtorEq, Option.some.injEq] at h
  subst h
  simp [Expr.calls]

mutual

theorem receiverFollows_calls : ∀ e : Expr, ReceiverFollows e.calls
  | .lit .. => by simpa [Expr.calls] using receiverFollows_nil
  | .ident _ => by simpa [Expr.calls] using receiverFollows_nil
  | .selector _ x _ => by simpa [Expr.calls] using receiverFollows_calls x
  | .call s f args c => by
    simp only [Expr.calls]
    refine ReceiverFollows.cons (fun r hr => ?_)
      ((receiverFollows_calls f).append (receiverFollows_callsList args))
    have hf := @head?_calls_fn_of_receiver ⟨s, f, args, c⟩ r hr
    simp only at hf
    cases hcf : f.calls with
    | nil => simp [hcf] at hf
    | cons x xs => simpa [hcf] using hf
  | .binary _ _ x y => by
    simpa [Expr.calls] using (receiverFollows_calls x).append (receiverFollows_calls y)
  | .other _ cs => by simpa [Expr.calls] using receiverFollows_callsList cs

theorem receiverFollows_callsList : ∀ es : List Expr, ReceiverFollows (Expr.callsList es)
  | [] => by simpa [Expr.callsList] using receiverFollows_nil
  | e :: es => by
    simpa [Expr.callsList] using (receiverFollows_calls e).append (receiverFollows_callsList es)

end

/-! ## 切れ端の形 -/

/-- 隣り合うものがみな `p` を満たし、最後のものが満たさない列では、`p` を満たさないのは最後の
ものだけ。 -/
theorem filter_not_eq_getLast? {α : Type} {p : α → Bool} :
    ∀ {l : List α}, l.IsChain (fun x _ => p x = true) → (∀ x ∈ l.getLast?, p x = false) →
      l.filter (fun x => !p x) = l.getLast?.toList
  | [], _, _ => rfl
  | [x], _, hl => by simp_all
  | x :: y :: l, hc, hl => by
    rw [List.isChain_cons_cons] at hc
    have ih := filter_not_eq_getLast? hc.2 (by simpa using hl)
    rw [List.filter_cons_of_neg (by simp [hc.1]), ih]
    simp

section Chains

variable {calls : List Call}

/-- 切れ端の中で隣り合う呼び出しは、受け手でつながる sugar の呼び出し。 -/
theorem isChain_receiver_of_mem_splitBy (hf : ReceiverFollows calls) {g : List Call}
    (hg : g ∈ calls.splitBy fun c _ => c.linksToReceiver) :
    g.IsChain fun c c' => c.receiver? = some c' ∧ c.isSugared = true ∧ c'.isSugared = true := by
  have hlink : g.IsChain fun c _ => c.linksToReceiver = true := List.isChain_of_mem_splitBy hg
  have hsub : g <:+: calls := by
    simpa using List.infix_of_mem_flatten hg
  obtain ⟨s, t, rfl⟩ := hsub
  rw [List.isChain_iff_forall_rel_of_append_cons_cons] at hlink ⊢
  intro c c' l₁ l₂ hg'
  have hc := hlink hg'
  simp only [Call.linksToReceiver, Bool.and_eq_true, Analyzer.hasSugaredReceiver_iff] at hc
  obtain ⟨hsug, r, hr, hrs⟩ := hc
  -- 列の中で `c` のすぐ後ろに来るのは `c'` で、それが受け手
  have hnext := hf (s ++ l₁) c (c' :: (l₂ ++ t)) r (by simp [hg']) hr
  simp only [List.head?_cons, Option.some.injEq] at hnext
  subst hnext
  exact ⟨hr, hsug, hrs⟩

/-- 切れ端の最後の呼び出しは、受け手の sugar の呼び出しとつながらない。 -/
theorem linksToReceiver_getLast_of_mem_splitBy (hf : ReceiverFollows calls) {g : List Call}
    (hg : g ∈ calls.splitBy fun c _ => c.linksToReceiver) :
    ∀ c ∈ g.getLast?, c.linksToReceiver = false := by
  intro c hc
  obtain ⟨L₁, L₂, hL⟩ := List.append_of_mem hg
  cases L₂ with
  | nil =>
    -- 最後の切れ端：その最後の呼び出しは列の最後なので、受け手を持たない
    obtain ⟨g₀, rfl⟩ := List.getLast?_eq_some_iff.1 hc
    have hcalls : calls = (L₁.flatten ++ g₀) ++ c :: [] := by
      rw [← List.flatten_splitBy (fun c _ => c.linksToReceiver) calls, hL]
      simp
    have hnone : c.receiver? = none := by
      cases hrc : c.receiver? with
      | none => rfl
      | some r => simpa using hf _ c [] r hcalls hrc
    simp [Call.linksToReceiver, Analyzer.hasSugaredReceiver, hnone]
  | cons g' L₃ =>
    -- 次の切れ端があれば、切れ目で関係が切れている
    have hchain := List.isChain_getLast_head_splitBy (fun c _ => c.linksToReceiver) calls
    rw [hL] at hchain
    have hpair : List.IsChain _ [g, g'] := List.IsChain.infix hchain ⟨L₁, L₃, by simp⟩
    rw [List.isChain_pair] at hpair
    obtain ⟨hne, -, hfalse⟩ := hpair
    rwa [List.getLast_of_mem_getLast? hc] at hfalse

/-- 切れ端は、sugar の呼び出しだけの連なりか、sugar でない呼び出し一つか。 -/
theorem mem_splitBy_cases (hf : ReceiverFollows calls) {g : List Call}
    (hg : g ∈ calls.splitBy fun c _ => c.linksToReceiver) :
    (g.head?.any Call.isSugared = true ∧ ∀ y ∈ g, y.isSugared = true) ∨
      ∃ c, g = [c] ∧ c.isSugared = false := by
  have hchain := isChain_receiver_of_mem_splitBy hf hg
  cases g with
  | nil => exact absurd hg (List.nil_notMem_splitBy _ _)
  | cons c rest =>
    by_cases hc : c.isSugared
    · -- 先頭が sugar なら、受け手でつながる先もみな sugar
      refine Or.inl ⟨by simp [hc], fun y hy => ?_⟩
      rcases List.mem_cons.1 hy with rfl | hy
      · exact hc
      · exact hchain.cons_induction (fun y => y.isSugared = true) _ (fun _ _ h _ => h.2.2) hc y hy
    · -- 先頭が sugar でなければ、つながる先はない
      refine Or.inr ⟨c, ?_, by simpa using hc⟩
      cases rest with
      | nil => rfl
      | cons y rest =>
        rw [List.isChain_cons_cons] at hchain
        exact absurd hchain.1.2.1 hc

/-- 条件を満たすものの分だけをつなぐ。 -/
theorem flatMap_ite_nil {α β : Type} (l : List α) (q : α → Bool) (f : α → List β) :
    l.flatMap (fun c => if q c then f c else []) = (l.filter q).flatMap f := by
  induction l with
  | nil => rfl
  | cons c l ih => cases hq : q c <;> simp [hq, ih]

/-- 条件を満たすものごとに一つずつ並べた列。 -/
theorem flatMap_ite_singleton {α β : Type} (l : List α) (q : α → Bool) (x : α → β) :
    l.flatMap (fun c => if q c then [x c] else []) = (l.filter q).map x := by
  rw [flatMap_ite_nil, List.map_eq_flatMap]

/-- 切れ端の中の問題：sugar の呼び出しで始まる切れ端なら最後の呼び出しの一つ、そうでなければ
何もない。 -/
theorem flatMap_of_mem_splitBy (hf : ReceiverFollows calls) {g : List Call}
    (hg : g ∈ calls.splitBy fun c _ => c.linksToReceiver) {β : Type} (x : Call → β) :
    g.flatMap (fun c => if c.isSugared && !Analyzer.hasSugaredReceiver c then [x c] else []) =
      if g.head?.any Call.isSugared then (g.getLast?.map x).toList else [] := by
  rw [flatMap_ite_singleton]
  rcases mem_splitBy_cases hf hg with ⟨hhead, hall⟩ | ⟨c, rfl, hc⟩
  · -- sugar の連なりでは、受け手とつながらないのは最後の呼び出しだけ
    have hlinks : g.IsChain fun y _ => y.linksToReceiver = true := List.isChain_of_mem_splitBy hg
    have hfilter : g.filter (fun y => y.isSugared && !Analyzer.hasSugaredReceiver y) =
        g.filter (fun y => !y.linksToReceiver) :=
      List.filter_congr fun y hy => by simp [Call.linksToReceiver, hall y hy]
    rw [hfilter, filter_not_eq_getLast? hlinks (linksToReceiver_getLast_of_mem_splitBy hf hg)]
    simp [hhead, Option.toList_map]
  · simp [hc]

/-- 切れ端の中の sugar の呼び出し：sugar の連なりなら全部、そうでなければ何もない。 -/
theorem filter_isSugared_of_mem_splitBy (hf : ReceiverFollows calls) {g : List Call}
    (hg : g ∈ calls.splitBy fun c _ => c.linksToReceiver) :
    g.filter Call.isSugared = if g.head?.any Call.isSugared then g else [] := by
  rcases mem_splitBy_cases hf hg with ⟨hhead, hall⟩ | ⟨c, rfl, hc⟩
  · rw [if_pos hhead]
    exact List.filter_eq_self.2 hall
  · simp [hc]

/-- 連なりは空でなく、受け手でつながる sugar の呼び出しからなり、最も内側の呼び出しの受け手は
sugar の呼び出しでない。 -/
theorem chain_of_mem_sugarChains (hf : ReceiverFollows calls) {g : List Call}
    (hg : g ∈ sugarChains calls) :
    g ≠ [] ∧ (∀ c ∈ g, c.isSugared = true) ∧ g.IsChain (fun c c' => c.receiver? = some c') ∧
      ∀ c ∈ g.getLast?, Analyzer.hasSugaredReceiver c = false := by
  obtain ⟨hg, hhead⟩ := List.mem_filter.1 hg
  have hall : ∀ c ∈ g, c.isSugared = true := by
    rcases mem_splitBy_cases hf hg with ⟨-, hall⟩ | ⟨c, rfl, hc⟩
    · exact hall
    · simp [hc] at hhead
  refine ⟨List.ne_nil_of_mem_splitBy hg, hall,
    (isChain_receiver_of_mem_splitBy hf hg).imp fun _ _ h => h.1, fun c hc => ?_⟩
  have hlinks := linksToReceiver_getLast_of_mem_splitBy hf hg c hc
  simpa [Call.linksToReceiver, hall c (List.mem_of_mem_getLast? hc)] using hlinks

/-- 連なりをつなぐと、sugar の呼び出しが preorder の順にちょうど一度ずつ並ぶ。 -/
theorem flatten_sugarChains (hf : ReceiverFollows calls) :
    (sugarChains calls).flatten = calls.filter Call.isSugared := by
  calc (sugarChains calls).flatten
      = (calls.splitBy fun c _ => c.linksToReceiver).flatMap
          (fun g => if g.head?.any Call.isSugared then g else []) := by
        rw [flatMap_ite_nil, List.flatMap_id']
        rfl
    _ = (calls.splitBy fun c _ => c.linksToReceiver).flatMap (·.filter Call.isSugared) :=
        List.flatMap_congr fun g hg => (filter_isSugared_of_mem_splitBy hf hg).symm
    _ = calls.filter Call.isSugared := by
        conv_rhs => rw [← List.flatten_splitBy (fun c _ => c.linksToReceiver) calls]
        rw [List.filter_flatten, List.flatMap_def]

/-- 受け手が sugar でない sugar の呼び出しごとに一つ並べたものは、連なりごとに、その最も内側の
呼び出しの分を一つ並べたもの。 -/
theorem flatMap_eq_filterMap_sugarChains (hf : ReceiverFollows calls) {β : Type} (x : Call → β) :
    calls.flatMap (fun c => if c.isSugared && !Analyzer.hasSugaredReceiver c then [x c] else []) =
      (sugarChains calls).filterMap fun g => g.getLast?.map x := by
  calc calls.flatMap (fun c => if c.isSugared && !Analyzer.hasSugaredReceiver c then [x c] else [])
      = (calls.splitBy fun c _ => c.linksToReceiver).flatMap (fun g => g.flatMap
          fun c => if c.isSugared && !Analyzer.hasSugaredReceiver c then [x c] else []) := by
        conv_lhs => rw [← List.flatten_splitBy (fun c _ => c.linksToReceiver) calls]
        rw [List.flatten_eq_flatMap, List.flatMap_assoc]
        rfl
    _ = (calls.splitBy fun c _ => c.linksToReceiver).flatMap
          (fun g => if g.head?.any Call.isSugared then (g.getLast?.map x).toList else []) :=
        List.flatMap_congr fun g hg => flatMap_of_mem_splitBy hf hg x
    _ = (sugarChains calls).filterMap fun g => g.getLast?.map x := by
        rw [flatMap_ite_nil, List.filterMap_eq_flatMap_toList]
        rfl

end Chains

/-! ## 呼び出し一つの sugar の問題 -/

namespace Analyzer

variable (a : Analyzer)

/-- `noSugar` のとき、呼び出し一つの sugar の問題は、受け手が sugar でない sugar の呼び出しの、
呼ぶ名前の位置の一つだけ。sugar の問題は `noSugar` だけで決まるので、他の規則をすべて切った
方針で数えてよい。 -/
theorem callIssues_filter_noSugar (h : a.policy.noSugar = true) (c : Call) :
    (a.callIssues c).filter (·.problem.rule == .noSugar) =
      if c.isSugared && !hasSugaredReceiver c then [a.issueAt .sugaredLogger c.operatorPos]
      else [] := by
  rw [@callIssues_filter_congr a ⟨false, true, false, none, false, none, [], false⟩ .noSugar h h c]
  have hkeys : ∀ key, ({ a with policy := ⟨false, true, false, none, false, none, [], false⟩ } :
      Analyzer).keyIssues key = [] := keyIssues_eq_nil _ rfl
  unfold callIssues Call.isSugared
  cases hr : c.resolve? with
  | none => rfl
  | some r =>
    obtain ⟨name, s⟩ := r
    by_cases hg : s.isGlobal
    · simp [hg, Call.isSugar_of_resolve? hr hg]
    · cases hs : s.isSugar
      · cases hm : c.message? s <;> simp [hg, hs, hm, messageIssues, hkeys]
      · by_cases hrec : hasSugaredReceiver c <;> simp [hg, hs, hrec, Problem.rule]

/-- **sugar の呼び出しを見るとき、`checkCall` が積むのは sugar の問題が高々一つだけ。** -/
theorem checkCall_sugared (h : a.policy.noSugar = true) {c : Call} (hc : c.isSugared = true)
    (issues : Array Issue) :
    (a.checkCall issues c).toList = issues.toList ++
      if hasSugaredReceiver c then [] else [a.issueAt .sugaredLogger c.operatorPos] := by
  rw [checkCall_toList]
  congr 1
  unfold Call.isSugared at hc
  unfold callIssues
  cases hr : c.resolve? with
  | none => simp [hr] at hc
  | some r =>
    obtain ⟨name, s⟩ := r
    simp only [hr] at hc
    have hg : s.isGlobal = false := by
      cases hg : s.isGlobal
      · rfl
      · simp [Call.isSugar_of_resolve? hr hg] at hc
    simp [hg, hc, h]

/-- `noSugar` のとき、sugar の問題の列は、受け手が sugar でない sugar の呼び出しごとに、
その呼ぶ名前の位置の問題を preorder に並べたもの。 -/
theorem sugarIssues_eq_flatMap (h : a.policy.noSugar = true) (d : FileDump) :
    (a.run d).filter (·.problem.rule == .noSugar) = d.calls.flatMap fun c =>
      if c.isSugared && !hasSugaredReceiver c then [a.issueAt .sugaredLogger c.operatorPos] else [] := by
  simp only [run, visitExprs_toList, List.nil_append, List.filter_flatMap, FileDump.calls]
  exact List.flatMap_congr fun c _ => a.callIssues_filter_noSugar h c

end Analyzer

/-! ## まとめ -/

/--
**sugar の連なりは一度だけ報告される。**

`noSugar` のとき、

1. sugar の呼び出しを見て積むのは、受け手が sugar の呼び出しでなければ sugar の問題一つ、
   そうでなければ何もなく、他の規則の問題は積まない
2. `sugarChains` の一つ一つは、受け手でつながる sugar の呼び出しの空でない連なりで、最も内側の
   呼び出しの受け手は sugar の呼び出しでない
3. 連なりをつなぐと、sugar の呼び出しがそれぞれちょうど一度ずつ現れる
4. sugar の問題は、連なり一つにつき一つ、その最も内側の呼び出しの名前の位置に出る
5. よって sugar の問題の数は、受け手が sugar の呼び出しでない sugar の呼び出しの数
-/
theorem sugarIssues_one_per_chain (a : Analyzer) (d : FileDump) (h : a.policy.noSugar = true) :
    (∀ c : Call, c.isSugared = true → ∀ issues : Array Issue,
      (a.checkCall issues c).toList = issues.toList ++
        if Analyzer.hasSugaredReceiver c then [] else [a.issueAt .sugaredLogger c.operatorPos]) ∧
    (∀ g ∈ sugarChains d.calls, g ≠ [] ∧ (∀ c ∈ g, c.isSugared = true) ∧
      g.IsChain (fun c c' => c.receiver? = some c') ∧
      ∀ c ∈ g.getLast?, Analyzer.hasSugaredReceiver c = false) ∧
    (sugarChains d.calls).flatten = d.calls.filter Call.isSugared ∧
    (a.run d).filter (·.problem.rule == .noSugar) =
      (sugarChains d.calls).filterMap
        (fun g => g.getLast?.map fun c => a.issueAt .sugaredLogger c.operatorPos) ∧
    ((a.run d).filter (·.problem.rule == .noSugar)).length =
      (d.calls.filter fun c => c.isSugared && !Analyzer.hasSugaredReceiver c).length := by
  -- preorder の列では受け手がすぐ後ろに来る。連なりの性質はみなこれから出る
  have hf : ReceiverFollows d.calls := receiverFollows_callsList d.exprs
  have hissues := a.sugarIssues_eq_flatMap h d
  refine ⟨fun c hc issues => a.checkCall_sugared h hc issues,
    fun g hg => chain_of_mem_sugarChains hf hg, flatten_sugarChains hf, ?_, ?_⟩
  · rw [hissues, flatMap_eq_filterMap_sugarChains hf]
  · rw [hissues, flatMap_ite_singleton, List.length_map]

/-- `noSugar` だけを入れた方針で `s.With("k", 1).Infow("msg")` を見ると、sugar の問題は連なりごとに、
その最も内側の呼び出しの位置に出る。 -/
theorem chainedSugar_reported_once :
    (⟨false, true, false, none, false, none, [], false⟩ : Policy).noSugar = true ∧
      let sp : Span := ⟨⟨3, 2⟩, ⟨3, 30⟩⟩
      let with_ : Expr := .call sp (.selector sp (.ident ⟨sp, "s", some .var⟩) ⟨sp, "With", some .func⟩)
        [.lit sp .string "\"k\"", .lit sp .int "1"]
        (some ⟨"(*go.uber.org/zap.SugaredLogger).With", some "go.uber.org/zap", "With"⟩)
      let d : FileDump := ⟨"main.go", [.call sp (.selector sp with_ ⟨sp, "Infow", some .func⟩)
        [.lit sp .string "\"msg\""]
        (some ⟨"(*go.uber.org/zap.SugaredLogger).Infow", some "go.uber.org/zap", "Infow"⟩)]⟩
      let a : Analyzer := ⟨⟨false, true, false, none, false, none, [], false⟩, "main.go", none⟩
      (a.run d).filter (·.problem.rule == .noSugar) =
        (sugarChains d.calls).filterMap
          (fun g => g.getLast?.map fun c => a.issueAt .sugaredLogger c.operatorPos) :=
  ⟨rfl, (sugarIssues_one_per_chain _ _ rfl).2.2.2.1⟩

end LogLint
