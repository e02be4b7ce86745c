import LogLint.Json.Decode
import LogLint.Syntax.Expr

/-!
# 書き出しを JSON の木から読む

syntax dump の形（フィールド名は書き出しのもの）：

* `Pos = {line, col}`、`Span = {pos, end}`
* 式は `node` で種類を示す：`lit {span, kind, value}`、`ident {span, name, obj?}`、
  `selector {span, x, sel}`、`call {span, fun, args?, callee?}`、`binary {span, op, x, y}`、
  `other {span, children?}`
* `Callee = {full_name, pkg_path?, name}`、`FileDump = {file, exprs?}`

`?` の付いたフィールドはなくてよい（`null` と同じ）。知らないフィールドは読み飛ばす。

式を読むときは、まず `node` を探して種類を決め、残りの組を種類ごとの構造体として読む。
`node` の値は値の表からは文字列だけ、取っておいた木（式の中の式）からは種類の番号も受ける。
式を配列で書けば、最初の要素が種類で、残りが構造体のフィールドを順に並べたものになる。

## 停止性

式の入れ子は `fuel` を一つ減らして読む。JSON の入れ子は 128 段までなので、それより大きい
`fuel` で足りる。
-/

namespace LogLint.Syntax

open LogLint.Json LogLint.Json.Decode

/-- 式の種類の名前。 -/
def exprVariants : List String := ["lit", "ident", "selector", "call", "binary", "other"]

/-- リテラルの種類の名前。 -/
def litKinds : List String := ["int", "float", "imag", "char", "string"]

/-- 識別子が指すものの種類の名前。 -/
def objKinds : List String := ["const", "var", "func", "type", "package", "nil"]

/-- 位置。 -/
def posOf (src : Source) : Json → Decoded Pos :=
  structOf "Pos" ["line", "col"]
    (fun s => do
      let mut line := none
      let mut col := none
      for i in s.order do
        if i = 0 then line := some (← usize (s.slot 0)) else col := some (← usize (s.slot 1))
      s.checkDuplicate
      return ⟨← required "line" line, ← required "col" col⟩)
    (fun items => match items with
      | [] => short "Pos" 2 0
      | [a] => do let _ ← usize a; short "Pos" 2 1
      | a :: b :: rest => do
        let line ← usize a
        let col ← usize b
        leftover src 2 rest
        return ⟨line, col⟩)

/-- 範囲。 -/
def spanOf (src : Source) : Json → Decoded Span :=
  structOf "Span" ["pos", "end"]
    (fun s => do
      let mut pos := none
      let mut stop := none
      for i in s.order do
        if i = 0 then pos := some (← posOf .content (s.slot 0))
        else stop := some (← posOf .content (s.slot 1))
      s.checkDuplicate
      return ⟨← required "pos" pos, ← required "end" stop⟩)
    (fun items => match items with
      | [] => short "Span" 2 0
      | [a] => do let _ ← posOf .content a; short "Span" 2 1
      | a :: b :: rest => do
        let pos ← posOf .content a
        let stop ← posOf .content b
        leftover src 2 rest
        return ⟨pos, stop⟩)

/-- リテラルの種類。 -/
def litKindOf (j : Json) : Decoded LitKind := do
  match ← unitVariant litKinds j with
  | 0 => return .int
  | 1 => return .float
  | 2 => return .imag
  | 3 => return .char
  | _ => return .string

/-- 識別子が指すものの種類。 -/
def objKindOf (j : Json) : Decoded ObjKind := do
  match ← unitVariant objKinds j with
  | 0 => return .const
  | 1 => return .var
  | 2 => return .func
  | 3 => return .type
  | 4 => return .package
  | _ => return .nil

/-- 識別子。 -/
def identOf (src : Source) : Json → Decoded Ident :=
  structOf "Ident" ["span", "name", "obj"]
    (fun s => do
      let mut span := none
      let mut name := none
      let mut obj := none
      for i in s.order do
        if i = 0 then span := some (← spanOf .content (s.slot 0))
        else if i = 1 then name := some (← string (s.slot 1))
        else obj := some (← option objKindOf (s.slot 2))
      s.checkDuplicate
      return ⟨← required "span" span, ← required "name" name, obj.join⟩)
    (fun items => match items with
      | [] => short "Ident" 3 0
      | [a] => do let _ ← spanOf .content a; short "Ident" 3 1
      | [a, b] => do
        let span ← spanOf .content a
        let name ← string b
        return ⟨span, name, none⟩
      | a :: b :: c :: rest => do
        let span ← spanOf .content a
        let name ← string b
        let obj ← option objKindOf c
        leftover src 3 rest
        return ⟨span, name, obj⟩)

/-- 呼び先。 -/
def calleeOf (src : Source) : Json → Decoded Callee :=
  structOf "Callee" ["full_name", "pkg_path", "name"]
    (fun s => do
      let mut full := none
      let mut pkg := none
      let mut name := none
      for i in s.order do
        if i = 0 then full := some (← string (s.slot 0))
        else if i = 1 then pkg := some (← option string (s.slot 1))
        else name := some (← string (s.slot 2))
      s.checkDuplicate
      return ⟨← required "full_name" full, pkg.join, ← required "name" name⟩)
    (fun items => match items with
      | [] => short "Callee" 3 0
      | [a] => do let _ ← string a; short "Callee" 3 1
      | [a, b] => do let _ ← string a; let _ ← option string b; short "Callee" 3 2
      | a :: b :: c :: rest => do
        let full ← string a
        let pkg ← option string b
        let name ← string c
        leftover src 3 rest
        return ⟨full, pkg, name⟩)

/-! ## 式の種類ごとの構造体

`sub` は式の中の式を読む関数で、入れ子を一段下りたものを受け取る。 -/

/-- リテラルの節点。 -/
def litOf : Json → Decoded Expr :=
  structOf "Lit" ["span", "kind", "value"]
    (fun s => do
      let mut span := none
      let mut kind := none
      let mut value := none
      for i in s.order do
        if i = 0 then span := some (← spanOf .content (s.slot 0))
        else if i = 1 then kind := some (← litKindOf (s.slot 1))
        else value := some (← string (s.slot 2))
      s.checkDuplicate
      return .lit (← required "span" span) (← required "kind" kind) (← required "value" value))
    (fun items => match items with
      | [] => short "Lit" 3 0
      | [a] => do let _ ← spanOf .content a; short "Lit" 3 1
      | [a, b] => do let _ ← spanOf .content a; let _ ← litKindOf b; short "Lit" 3 2
      | a :: b :: c :: rest => do
        let span ← spanOf .content a
        let kind ← litKindOf b
        let value ← string c
        leftover .content 3 rest
        return .lit span kind value)

/-- selector の節点。 -/
def selectorOf (sub : Json → Decoded Expr) : Json → Decoded Expr :=
  structOf "SelectorExpr" ["span", "x", "sel"]
    (fun s => do
      let mut span := none
      let mut x := none
      let mut sel := none
      for i in s.order do
        if i = 0 then span := some (← spanOf .content (s.slot 0))
        else if i = 1 then x := some (← sub (s.slot 1))
        else sel := some (← identOf .content (s.slot 2))
      s.checkDuplicate
      return .selector (← required "span" span) (← required "x" x) (← required "sel" sel))
    (fun items => match items with
      | [] => short "SelectorExpr" 3 0
      | [a] => do let _ ← spanOf .content a; short "SelectorExpr" 3 1
      | [a, b] => do let _ ← spanOf .content a; let _ ← sub b; short "SelectorExpr" 3 2
      | a :: b :: c :: rest => do
        let span ← spanOf .content a
        let x ← sub b
        let sel ← identOf .content c
        leftover .content 3 rest
        return .selector span x sel)

/-- 呼び出しの節点。 -/
def callOf (sub : Json → Decoded Expr) : Json → Decoded Expr :=
  structOf "CallExpr" ["span", "fun", "args", "callee"]
    (fun s => do
      let mut span := none
      let mut fn := none
      let mut args := none
      let mut callee := none
      for i in s.order do
        if i = 0 then span := some (← spanOf .content (s.slot 0))
        else if i = 1 then fn := some (← sub (s.slot 1))
        else if i = 2 then args := some (← list sub (s.slot 2))
        else callee := some (← option (calleeOf .content) (s.slot 3))
      s.checkDuplicate
      return .call (← required "span" span) (← required "fun" fn) (args.getD []) callee.join)
    (fun items => match items with
      | [] => short "CallExpr" 4 0
      | [a] => do let _ ← spanOf .content a; short "CallExpr" 4 1
      | [a, b] => do
        let span ← spanOf .content a
        let fn ← sub b
        return .call span fn [] none
      | [a, b, c] => do
        let span ← spanOf .content a
        let fn ← sub b
        let args ← list sub c
        return .call span fn args none
      | a :: b :: c :: d :: rest => do
        let span ← spanOf .content a
        let fn ← sub b
        let args ← list sub c
        let callee ← option (calleeOf .content) d
        leftover .content 4 rest
        return .call span fn args callee)

/-- 二項演算の節点。 -/
def binaryOf (sub : Json → Decoded Expr) : Json → Decoded Expr :=
  structOf "BinaryExpr" ["span", "op", "x", "y"]
    (fun s => do
      let mut span := none
      let mut op := none
      let mut x := none
      let mut y := none
      for i in s.order do
        if i = 0 then span := some (← spanOf .content (s.slot 0))
        else if i = 1 then op := some (← string (s.slot 1))
        else if i = 2 then x := some (← sub (s.slot 2))
        else y := some (← sub (s.slot 3))
      s.checkDuplicate
      return .binary (← required "span" span) (← required "op" op) (← required "x" x)
        (← required "y" y))
    (fun items => match items with
      | [] => short "BinaryExpr" 4 0
      | [a] => do let _ ← spanOf .content a; short "BinaryExpr" 4 1
      | [a, b] => do let _ ← spanOf .content a; let _ ← string b; short "BinaryExpr" 4 2
      | [a, b, c] => do
        let _ ← spanOf .content a
        let _ ← string b
        let _ ← sub c
        short "BinaryExpr" 4 3
      | a :: b :: c :: d :: rest => do
        let span ← spanOf .content a
        let op ← string b
        let x ← sub c
        let y ← sub d
        leftover .content 4 rest
        return .binary span op x y)

/-- その他の節点。 -/
def otherOf (sub : Json → Decoded Expr) : Json → Decoded Expr :=
  structOf "OtherExpr" ["span", "children"]
    (fun s => do
      let mut span := none
      let mut children := none
      for i in s.order do
        if i = 0 then span := some (← spanOf .content (s.slot 0))
        else children := some (← list sub (s.slot 1))
      s.checkDuplicate
      return .other (← required "span" span) (children.getD []))
    (fun items => match items with
      | [] => short "OtherExpr" 2 0
      | [a] => do
        let span ← spanOf .content a
        return .other span []
      | a :: b :: rest => do
        let span ← spanOf .content a
        let children ← list sub b
        leftover .content 2 rest
        return .other span children)

/-- 種類の番号と残りの組（か要素）から式を読む。 -/
def variantOf (sub : Json → Decoded Expr) (tag : Nat) (body : Json) : Decoded Expr :=
  match tag with
  | 0 => litOf body
  | 1 => .ident <$> identOf .content body
  | 2 => selectorOf sub body
  | 3 => callOf sub body
  | 4 => binaryOf sub body
  | _ => otherOf sub body

/-- object の組から `node` を探す。重複は誤り。残りの組は順に取っておく。 -/
def tagOf (src : Source) (entries : List (String × Json)) :
    Decoded (Nat × List (String × Json)) := do
  let mut tag : Option Nat := none
  let mut rest : Array (String × Json) := #[]
  for (k, v) in entries do
    if k = "node" then
      if tag.isSome then throw (.duplicateField "node")
      tag := some (← identifier exprVariants src v)
    else rest := rest.push (k, v)
  match tag with
  | some t => return (t, rest.toList)
  | none => throw (.missingField "node")

/-- 式を読む。`src` は一番外の式の出どころで、中の式はいつも取っておいた木から読む。 -/
def exprOf : Nat → Source → Json → Decoded Expr
  | 0, _, _ => .error (.malformed .recursionLimitExceeded)
  | fuel + 1, src, j =>
    match j with
    | .object entries => do
      let (tag, rest) ← tagOf src entries
      variantOf (exprOf fuel .content) tag (.object rest)
    | .array (t :: rest) => do
      let tag ← identifier exprVariants src t
      variantOf (exprOf fuel .content) tag (.array rest)
    | .array [] => .error (.missingField "node")
    | j => mismatch j "internally tagged enum Expr"

/-- 式の入れ子に足りる `fuel`。 -/
def exprFuel : Nat := 256

/-- 値の表から式を読む。 -/
def Expr.ofJson (j : Json) : Decoded Expr := exprOf exprFuel .value j

/-- 値の表から書き出しを読む。 -/
def FileDump.ofJson : Json → Decoded FileDump :=
  structOf "FileDump" ["file", "exprs"]
    (fun s => do
      let mut file := none
      let mut exprs := none
      for i in s.order do
        if i = 0 then file := some (← string (s.slot 0))
        else exprs := some (← list Expr.ofJson (s.slot 1))
      s.checkDuplicate
      return ⟨← required "file" file, exprs.getD []⟩)
    (fun items => match items with
      | [] => short "FileDump" 2 0
      | [a] => do
        let file ← string a
        return ⟨file, []⟩
      | a :: b :: rest => do
        let file ← string a
        let exprs ← list Expr.ofJson b
        leftover .value 2 rest
        return ⟨file, exprs⟩)

end LogLint.Syntax
