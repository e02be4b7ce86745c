import LogLint.Go.Vendor

/-!
# Go の式の木

型検査を済ませた Go のソースから、各ファイルのトップレベルの式を書き出したもの（syntax dump）の
中身。規則が要る型検査の結果は、すでに節点に付いている。

* 呼び出しには、静的に決まった呼び先（`Callee`）が付く。実行時にしか決まらなければ付かない
* 識別子には、それが指すものの種類（`ObjKind`）が付く
* どの節点にも、1 から数える行と桁（桁はバイトで数える）の範囲（`Span`）が付く

## 呼び出しの並び

`Expr.calls` は木の中の呼び出しを preorder で並べる：呼び出しそのもの、次に呼ぶ関数の中、
次に各引数の中を左から。selector は `x` だけに、二項演算は左、右の順に、その他の節点は子の順に
降りる。リテラルと識別子は呼び出しを含まない。
-/

namespace LogLint

/-- ソースの位置。行も桁も 1 から、桁はバイトで数える。 -/
structure Pos where
  line : Nat
  col : Nat
  deriving DecidableEq, Repr

/-- 位置の辞書式の順。 -/
def Pos.lt (a b : Pos) : Bool := a.line < b.line || (a.line == b.line && a.col < b.col)

/-- 半開区間 `[pos, stop)`。 -/
structure Span where
  pos : Pos
  stop : Pos
  deriving DecidableEq, Repr

/-- リテラルの種類。 -/
inductive LitKind where
  | int
  | float
  | imag
  | char
  | string
  deriving DecidableEq, Repr

/-- 識別子が指すものの種類。 -/
inductive ObjKind where
  | const
  | var
  | func
  | type
  | package
  | nil
  deriving DecidableEq, Repr

/-- 識別子。解決できないもの（空白識別子やラベル）は `obj` を持たない。 -/
structure Ident where
  span : Span
  name : String
  obj : Option ObjKind
  deriving DecidableEq, Repr

/-- 静的に決まった呼び先。 -/
structure Callee where
  /-- 完全修飾名、たとえば `(*go.uber.org/zap.Logger).Info`。 -/
  fullName : String
  /-- 宣言したパッケージの import path。組み込み関数にはない。 -/
  pkgPath : Option String
  /-- 短い名前、たとえば `Info`。 -/
  name : String
  deriving DecidableEq, Repr

/-- Go の式。 -/
inductive Expr where
  /-- リテラル。`value` は引用符も含めたソースのままの綴り。 -/
  | lit (span : Span) (kind : LitKind) (value : String)
  | ident (id : Ident)
  /-- `x.sel` -/
  | selector (span : Span) (x : Expr) (sel : Ident)
  | call (span : Span) (fn : Expr) (args : List Expr) (callee : Option Callee)
  | binary (span : Span) (op : String) (x y : Expr)
  /-- 規則が中を見ない式。呼び出しを含みうる部分式（関数リテラルや複合リテラルなど）を子に持つ。 -/
  | other (span : Span) (children : List Expr)
  deriving Repr

/-- 呼び出しの節点。 -/
structure Call where
  span : Span
  fn : Expr
  args : List Expr
  callee : Option Callee
  deriving Repr

/-- 一つのソースファイルの書き出し。 -/
structure FileDump where
  /-- Go のソースファイルの path。ソースの根からの相対。 -/
  file : String
  /-- トップレベルの式。ソースの順。 -/
  exprs : List Expr
  deriving Repr

namespace Expr

/-- 節点の範囲。 -/
def span : Expr → Span
  | .lit s _ _ => s
  | .ident id => id.span
  | .selector s _ _ => s
  | .call s _ _ _ => s
  | .binary s _ _ _ => s
  | .other s _ => s

/-- 節点の始まり。 -/
def pos (e : Expr) : Pos := e.span.pos

/-- 呼び出しの節点なら、その呼び出し。 -/
def asCall? : Expr → Option Call
  | .call s f a c => some ⟨s, f, a, c⟩
  | _ => none

/-- 文字列リテラル（解釈付きか生か）なら、その綴り。 -/
def stringLit? : Expr → Option String
  | .lit _ .string v => some v
  | _ => none

mutual

/-- 木の中の呼び出しを preorder で並べる。 -/
def calls : Expr → List Call
  | .lit .. => []
  | .ident _ => []
  | .selector _ x _ => calls x
  | .call s f a c => ⟨s, f, a, c⟩ :: (calls f ++ callsList a)
  | .binary _ _ x y => calls x ++ calls y
  | .other _ cs => callsList cs

/-- 式の列の中の呼び出しを順に並べる。 -/
def callsList : List Expr → List Call
  | [] => []
  | e :: rest => calls e ++ callsList rest

end

end Expr

/-- 呼び出しの節点を式に戻す。 -/
def Call.toExpr (c : Call) : Expr := .call c.span c.fn c.args c.callee

namespace Call

/-- `x.With(...).Info(...)` のような連なりで、受け手になっている呼び出し。 -/
def receiver? (c : Call) : Option Call :=
  match c.fn with
  | .selector _ x _ => x.asCall?
  | _ => none

/-- 呼ぶ名前の位置：`x.Info(...)` なら selector の名前、それ以外は呼び出しの始まり。 -/
def operatorPos (c : Call) : Pos :=
  match c.fn with
  | .selector _ _ sel => sel.span.pos
  | _ => c.span.pos

/-- vendor を取り除いた呼び先の完全修飾名。 -/
def symbol? (c : Call) : Option String :=
  c.callee.map fun callee => Go.Vendor.strip callee.fullName

/-- vendor を取り除いた呼び先のパッケージ。 -/
def pkgPath? (c : Call) : Option String :=
  (c.callee.bind (·.pkgPath)).map Go.Vendor.strip

end Call

/-- 書き出しの中の呼び出しを preorder で並べる。 -/
def FileDump.calls (d : FileDump) : List Call := Expr.callsList d.exprs

end LogLint
