import LogLint.Syntax.Expr

/-!
# 静的なメッセージ

ログのメッセージが実行前に決まっているかどうか。決まっているのは

* 文字列リテラル（解釈付きでも生でも）
* 定数を指す識別子
* 静的なもの同士を `+` でつないだもの

だけで、それ以外の式（呼び出し、selector、他の種類のリテラルなど）は静的でない。
-/

namespace LogLint

/-- メッセージが実行前に決まっているか。 -/
def Expr.isStatic : Expr → Bool
  | .lit _ kind _ => kind == .string
  | .ident id => id.obj == some .const
  | .binary _ op x y => op == "+" && x.isStatic && y.isStatic
  | .selector .. => false
  | .call .. => false
  | .other .. => false

end LogLint
