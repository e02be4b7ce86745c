import LogLint.Json.Value
import LogLint.Syntax.Expr

/-!
# 式の木を JSON にする

書き出しと同じ形で、どのフィールドも省かずに書く。フィールドの順：

* lit `node, span, kind, value`、ident `node, span, name, obj`（`obj` はなければ `null`）
* selector `node, span, x, sel`（`sel` は `node` のない識別子 `span, name, obj`）
* call `node, span, fun, args, callee`（`callee` は `full_name, pkg_path, name` か `null`）
* binary `node, span, op, x, y`、other `node, span, children`
* `Span` は `pos, end`、`Pos` は `line, col`
-/

namespace LogLint

/-- 位置を JSON にする。 -/
def Pos.toJson (p : Pos) : Json :=
  .object [("line", .number (.unsigned p.line)), ("col", .number (.unsigned p.col))]

/-- 範囲を JSON にする。 -/
def Span.toJson (s : Span) : Json := .object [("pos", s.pos.toJson), ("end", s.stop.toJson)]

/-- リテラルの種類の名前。 -/
def LitKind.name : LitKind → String
  | .int => "int"
  | .float => "float"
  | .imag => "imag"
  | .char => "char"
  | .string => "string"

/-- 識別子が指すものの種類の名前。 -/
def ObjKind.name : ObjKind → String
  | .const => "const"
  | .var => "var"
  | .func => "func"
  | .type => "type"
  | .package => "package"
  | .nil => "nil"

/-- 文字列か `null`。 -/
def Json.ofOption : Option String → Json
  | some s => .string s
  | none => .null

/-- 識別子のフィールド（`node` を除く）。 -/
def Ident.fields (id : Ident) : List (String × Json) :=
  [("span", id.span.toJson), ("name", .string id.name),
    ("obj", Json.ofOption (id.obj.map ObjKind.name))]

/-- 呼び先を JSON にする。 -/
def Callee.toJson (c : Callee) : Json :=
  .object [("full_name", .string c.fullName), ("pkg_path", Json.ofOption c.pkgPath),
    ("name", .string c.name)]

mutual

/-- 式を JSON にする。 -/
def Expr.toJson : Expr → Json
  | .lit span kind value =>
    .object [("node", .string "lit"), ("span", span.toJson), ("kind", .string kind.name),
      ("value", .string value)]
  | .ident id => .object (("node", .string "ident") :: id.fields)
  | .selector span x sel =>
    .object [("node", .string "selector"), ("span", span.toJson), ("x", x.toJson),
      ("sel", .object sel.fields)]
  | .call span fn args callee =>
    .object [("node", .string "call"), ("span", span.toJson), ("fun", fn.toJson),
      ("args", .array (Expr.listToJson args)),
      ("callee", match callee with | some c => c.toJson | none => .null)]
  | .binary span op x y =>
    .object [("node", .string "binary"), ("span", span.toJson), ("op", .string op),
      ("x", x.toJson), ("y", y.toJson)]
  | .other span children =>
    .object [("node", .string "other"), ("span", span.toJson),
      ("children", .array (Expr.listToJson children))]

/-- 式の列を JSON の列にする。 -/
def Expr.listToJson : List Expr → List Json
  | [] => []
  | e :: rest => e.toJson :: Expr.listToJson rest

end

end LogLint
