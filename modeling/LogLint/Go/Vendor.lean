/-!
# vendor された import path

Go のモジュールは依存するパッケージの複製を `vendor/` の下に置ける。複製の import path は
`app/vendor/go.uber.org/zap` のようになり、型検査器の報告する完全修飾名も
`(*app/vendor/go.uber.org/zap.Logger).Info` となる。ここでは複製を元のパッケージと同じものと
見なすために、path から vendor の部分を取り除く（`strip`）。

規則：最後に現れる `vendor/` を目印とし、目印の直前の一文字より前で最も後ろにある区切り文字
（`/ * [ ] , ) ` 空白、タブ）の次から目印の終わりまでを取り除く。区切りがなければ先頭から取り除く。
区切り文字と目印はどれも ASCII なので、文字で数えてもバイトで数えても同じ位置で切れる。
-/

namespace LogLint.Go.Vendor

/-- 目印の文字列。 -/
def marker : List Char := "vendor/".toList

/-- 修飾名の中で path の前に立ちうる文字。 -/
def isDelimiter (c : Char) : Bool :=
  c == '/' || c == '*' || c == '[' || c == ']' || c == ' ' || c == ',' || c == '\t' || c == ')'

/-- 目印が最後に始まる位置。 -/
def lastMarker? (cs : List Char) : Option Nat :=
  (List.range cs.length).reverse.find? fun i => (cs.drop i).take marker.length == marker

/-- 条件を満たす最後の要素の位置。 -/
def lastIndexWhere (p : Char → Bool) : List Char → Option Nat
  | [] => none
  | c :: rest =>
    match lastIndexWhere p rest with
    | some i => some (i + 1)
    | none => if p c then some 0 else none

/-- 取り除く範囲の始まり：目印の直前の一文字より前の最後の区切りの次。 -/
def cutStart (cs : List Char) (m : Nat) : Nat :=
  if m = 0 then 0
  else ((lastIndexWhere isDelimiter (cs.take (m - 1))).map (· + 1)).getD 0

/-- path か修飾名から vendor の部分を取り除く。目印がなければそのまま。 -/
def strip (path : String) : String :=
  let cs := path.toList
  match lastMarker? cs with
  | none => path
  | some m => String.ofList (cs.take (cutStart cs m) ++ cs.drop (m + marker.length))

end LogLint.Go.Vendor
