import LogLint.Issue
import LogLint.Policy
import LogLint.SourceText
import LogLint.Call.Keys
import LogLint.Message.Static
import Std.Data.HashSet

/-!
# 規則を当てる

書き出しの中の呼び出しを preorder で順に見て、ログの呼び出しに規則を当てる。一つの呼び出しで
見る順：

1. global な logger（`zap.L()` や `zap.S()`）なら、`noGlobal` のときだけ報告して終わる
2. sugar の呼び出しで `noSugar` なら、受け手がすでに sugar の呼び出しでないときだけ報告して終わる
3. メッセージがあれば、静的か（`staticMsg`）、書き出しが決まりに合うか（`msgStyle`）
4. キーを見る規則があれば、キーごとに生のキー、禁じられたキー、キーの書き方
5. 引数の並べ方（`argsOnSepLines`）

## 引数の並べ方

可変個の引数が二つ以上あり、そのうち二つが同じ行から始まれば報告する。key/value を取る呼び出しでは
キーだけを比べ、引数の数が奇数なら見ない。

## 歩き方

`run` はトップレベルの式を順に歩き（`visitExpr`）、呼び出しの節点に来るたびに、その呼び出しを
見て（`checkCall`）見つけた問題を積んでから、呼ぶ関数と引数の中へ降りる。`checkCall` が途中で
打ち切っても、中へ降りることは止まらない。一つの呼び出しで積まれる問題を宣言的に並べたものが
`callIssues` である。
-/

namespace LogLint

/-- 一つのファイルに規則を当てる者。 -/
structure Analyzer where
  policy : Policy
  /-- 問題の場所として見せるファイルの path。 -/
  file : String
  source : Option SourceText

namespace Analyzer

/-- 位置の場所と、その行の中身。 -/
def context (a : Analyzer) (p : Pos) : SourceContext :=
  ⟨a.file, p.line, p.col, a.source.bind (·.line? p.line)⟩

/-- 位置で見つかった問題。 -/
def issueAt (a : Analyzer) (problem : Problem) (p : Pos) : Issue := ⟨problem, .source (a.context p)⟩

/-- 受け手が sugar の呼び出しか。 -/
def hasSugaredReceiver (c : Call) : Bool :=
  match c.receiver? >>= Call.resolve? with
  | some (_, s) => s.isSugar
  | none => false

/-- 文字列リテラルのキーの値。 -/
def keyName? (key : Expr) : Option String := key.stringLit? >>= Go.StringLit.unquote?

/-! ## 規則ごとの判定

どの規則も、一つの呼び出しかキーを見て、問題を高々一つ返す。 -/

/-- global な logger の呼び出しなら、呼ぶ名前の位置の問題。 -/
def globalIssue? (a : Analyzer) (c : Call) (s : Shape) : Option Issue :=
  if s.isGlobal then some (a.issueAt .globalLogger c.operatorPos) else none

/-- sugar の呼び出しで、受け手が sugar の呼び出しでなければ、呼ぶ名前の位置の問題。 -/
def sugarIssue? (a : Analyzer) (c : Call) (s : Shape) : Option Issue :=
  if !s.isSugar || hasSugaredReceiver c then none
  else some (a.issueAt .sugaredLogger c.operatorPos)

/-- メッセージが静的でなければ、その問題。 -/
def staticMsgIssue? (a : Analyzer) (msg : Expr) : Option Issue :=
  if msg.isStatic then none else some (a.issueAt .dynamicMessage msg.pos)

/-- 読める文字列リテラルのメッセージが書き出しの決まりに合わなければ、その問題。 -/
def msgStyleIssue? (a : Analyzer) (msg : Expr) (style : MessageStyle) : Option Issue := do
  let value ← msg.stringLit? >>= Go.StringLit.unquote?
  if style.accepts value then none
  some (a.issueAt (.messageStyle style) msg.pos)

/-- キーが文字列リテラルなら、その問題。 -/
def rawKeyIssue? (a : Analyzer) (key : Expr) : Option Issue :=
  key.stringLit?.map fun _ => a.issueAt .rawKey key.pos

/-- キーの値が禁じられていれば、その問題。 -/
def forbiddenKeyIssue? (a : Analyzer) (key : Expr) : Option Issue := do
  let name ← keyName? key
  if !a.policy.forbids name then none
  some (a.issueAt (.forbiddenKey name) key.pos)

/-- キーの書き方の規則。 -/
def namingIssue? (a : Analyzer) (k : KeyCase) (key : Expr) : Option Issue := do
  let name ← keyName? key
  let converted := k.convert name
  if converted = name then none
  let newText := Go.StringLit.quote converted
  some (a.issueAt (.keyNaming k ⟨"Change to " ++ newText, ⟨key.span, newText⟩⟩) key.pos)

/-- 行の並びに重複があるか。見た行を集合に入れながら順に見て、入れる前にすでにあった行に当たった
ところで止まる。 -/
def hasDuplicateLine (lines : List Nat) : Bool := go ∅ lines
where
  /-- `seen` はそれまでに見た行。 -/
  go (seen : Std.HashSet Nat) : List Nat → Bool
    | [] => false
    | line :: rest =>
      let (present, seen) := seen.containsThenInsert line
      present || go seen rest

/-- 偶数番目の要素。 -/
def evenItems {α : Type} : List α → List α
  | a :: _ :: rest => a :: evenItems rest
  | [a] => [a]
  | [] => []

/-- 可変個の引数のうち、比べるものが同じ行を共有するか。 -/
def shareALine (args : List Expr) (isKv : Bool) : Bool :=
  if args.length ≤ 1 then false
  else if isKv then
    if args.length % 2 != 0 then false
    else hasDuplicateLine ((evenItems args).map (·.pos.line))
  else hasDuplicateLine (args.map (·.pos.line))

/-- 後ろの引数が行を共有すれば、呼び出しの始まりの問題。 -/
def layoutIssue? (a : Analyzer) (c : Call) (s : Shape) : Option Issue :=
  if shareALine (s.variadic c.args) s.isKv then some (a.issueAt .argsLayout c.span.pos) else none

/-! ## 一つの呼び出しの問題の並び -/

/-- メッセージの規則：静的か、次に書き出し。 -/
def messageIssues (a : Analyzer) (msg : Expr) : List Issue :=
  let static := if a.policy.staticMsg && !msg.isStatic then [a.issueAt .dynamicMessage msg.pos] else []
  let style := match a.policy.msgStyle, msg.stringLit? >>= Go.StringLit.unquote? with
    | some style, some value =>
      if style.accepts value then [] else [a.issueAt (.messageStyle style) msg.pos]
    | _, _ => []
  static ++ style

/-- 一つのキーの規則：生のキー、禁じられたキー、書き方の順。 -/
def keyIssues (a : Analyzer) (key : Expr) : List Issue :=
  let raw := if a.policy.noRawKeys && key.stringLit?.isSome then [a.issueAt .rawKey key.pos] else []
  let forbidden := match keyName? key with
    | some name => if a.policy.forbids name then [a.issueAt (.forbiddenKey name) key.pos] else []
    | none => []
  let naming := match a.policy.keyCase with
    | some k => (a.namingIssue? k key).toList
    | none => []
  raw ++ forbidden ++ naming

/-- 一つの呼び出しで見つかる問題を、規則の順に並べたもの。キーの規則が一つも入っていなくても
キーを見て、何も見つからない。 -/
def callIssues (a : Analyzer) (c : Call) : List Issue :=
  match c.resolve? with
  | none => []
  | some (_, s) =>
    if s.isGlobal then
      if a.policy.noGlobal then [a.issueAt .globalLogger c.operatorPos] else []
    else if s.isSugar && a.policy.noSugar then
      if hasSugaredReceiver c then [] else [a.issueAt .sugaredLogger c.operatorPos]
    else
      let msg := match c.message? s with
        | some m => a.messageIssues m
        | none => []
      let layout :=
        if a.policy.argsOnSepLines && shareALine (s.variadic c.args) s.isKv then
          [a.issueAt .argsLayout c.span.pos]
        else []
      msg ++ (c.keys s).flatMap a.keyIssues ++ layout

/-! ## 見つけた問題を積む

規則を当てる者は、見つけた問題を配列の後ろに積んでいく。 -/

/-- 問題があれば積む。 -/
def push (issues : Array Issue) : Option Issue → Array Issue
  | some i => issues.push i
  | none => issues

/-- 一つのキーを見る。 -/
def checkKey (a : Analyzer) (issues : Array Issue) (key : Expr) : Array Issue :=
  let issues := if a.policy.noRawKeys then push issues (a.rawKeyIssue? key) else issues
  let issues := push issues (a.forbiddenKeyIssue? key)
  match a.policy.keyCase with
  | some k => push issues (a.namingIssue? k key)
  | none => issues

/-- 呼び出しのキーを順に見る。 -/
def checkKeys (a : Analyzer) (issues : Array Issue) (c : Call) (s : Shape) : Array Issue :=
  (c.keys s).foldl a.checkKey issues

/-- メッセージを見る：静的か、次に書き出し。 -/
def checkMessage (a : Analyzer) (issues : Array Issue) (msg : Expr) : Array Issue :=
  let issues := if a.policy.staticMsg then push issues (a.staticMsgIssue? msg) else issues
  match a.policy.msgStyle with
  | some style => push issues (a.msgStyleIssue? msg style)
  | none => issues

/-- 一つの呼び出しを見る。global な logger と、`noSugar` のときの sugar の呼び出しは、
そこで打ち切る。キーを見る規則が一つもなければ、キーは見ない。 -/
def checkCall (a : Analyzer) (issues : Array Issue) (c : Call) : Array Issue :=
  match c.resolve? with
  | none => issues
  | some (_, s) =>
    if s.isGlobal then
      if a.policy.noGlobal then push issues (a.globalIssue? c s) else issues
    else if s.isSugar && a.policy.noSugar then push issues (a.sugarIssue? c s)
    else
      let issues := match c.message? s with
        | some msg => a.checkMessage issues msg
        | none => issues
      let issues := if a.policy.checksKeys then a.checkKeys issues c s else issues
      if a.policy.argsOnSepLines then push issues (a.layoutIssue? c s) else issues

/-! ## 木を歩く -/

mutual

/-- 式を歩く。呼び出しの節点では、まずその呼び出しを見てから、呼ぶ関数、各引数の順に降りる。 -/
def visitExpr (a : Analyzer) : Array Issue → Expr → Array Issue
  | issues, .lit .. => issues
  | issues, .ident _ => issues
  | issues, .selector _ x _ => a.visitExpr issues x
  | issues, .call s f args c => a.visitExprs (a.visitExpr (a.checkCall issues ⟨s, f, args, c⟩) f) args
  | issues, .binary _ _ x y => a.visitExpr (a.visitExpr issues x) y
  | issues, .other _ cs => a.visitExprs issues cs

/-- 式の列を左から歩く。 -/
def visitExprs (a : Analyzer) : Array Issue → List Expr → Array Issue
  | issues, [] => issues
  | issues, e :: es => a.visitExprs (a.visitExpr issues e) es

end

/-- 書き出しのトップレベルの式を順に歩き、見つけた問題を返す。 -/
def run (a : Analyzer) (d : FileDump) : List Issue := (a.visitExprs #[] d.exprs).toList

end Analyzer

end LogLint
