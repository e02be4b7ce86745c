import LogLint.Key.Words

/-!
# キーの命名規則

キーに求める命名規則（snake_case, kebab-case, camelCase, PascalCase）と、名前をその規則に
合わせる変換。

一回の変換（`convertOnce`）は名前を単語に分け（`Key.words`）、規則に従って単語の形を決めて
つなぐ。変換した名前をもう一度分けると単語の境目が変わることがある（`x_y` は PascalCase で
`XY` になり、`XY` は一語なので次は `Xy` になる）。そこで `convert` は変換を繰り返し、
変わらなくなったところで止める。繰り返しは最初の一回を含めて九回までである。九回では
落ち着かない名前もあり、そのような名前を直した結果は、もう一度直すと変わる
（`convert_pascal_nine_upsilon_not_settled`）。
-/

namespace LogLint

/-- キーの命名規則。 -/
inductive KeyCase where
  | snake
  | kebab
  | camel
  | pascal
  deriving DecidableEq, Repr

namespace KeyCase

/-- 設定での名前（`snake`, `kebab`, `camel`, `pascal`）から読む。 -/
def ofName? : String → Option KeyCase
  | "snake" => some .snake
  | "kebab" => some .kebab
  | "camel" => some .camel
  | "pascal" => some .pascal
  | _ => none

/-- 診断で見せる名前。 -/
def displayName : KeyCase → String
  | .snake => "snake_case"
  | .kebab => "kebab-case"
  | .camel => "camelCase"
  | .pascal => "PascalCase"

/-- 単語の列を規則の形につなぐ。 -/
def join : KeyCase → List (List Char) → List Char
  | .snake, ws => ['_'].intercalate (ws.map Key.lowerWord)
  | .kebab, ws => ['-'].intercalate (ws.map Key.lowerWord)
  | .camel, [] => []
  | .camel, w :: ws => Key.lowerWord w ++ ws.flatMap Key.capitalWord
  | .pascal, ws => ws.flatMap Key.capitalWord

/-- 一回の変換。 -/
def convertOnce (k : KeyCase) (s : String) : String :=
  String.ofList (k.join (Key.words s))

/-- 変換を高々 `n` 回繰り返し、変わらなくなったら止める。 -/
def settle (k : KeyCase) : Nat → String → String
  | 0, s => s
  | n + 1, s =>
    let t := k.convertOnce s
    if t = s then s else k.settle n t

/-- 名前を規則に合わせる：一回変換し、その後は変わらなくなるまで高々八回繰り返す。 -/
def convert (k : KeyCase) (s : String) : String :=
  k.settle 8 (k.convertOnce s)

/-- 九回で止めると、決まった形に落ち着かない名前がある。九つの `ΰ`（U+03B0）を PascalCase に
直すと、`ΰ` の大文字は `Υ` と二つの結合記号（U+0308, U+0301）で、結合記号は英数字でないので、
次の変換はそこで単語を切る。変換のたびに `ΰ` が一つ減るので、九回の変換の後もまだ `ΰ` の名残が
残り、直した名前をもう一度直すと変わる。 -/
theorem convert_pascal_nine_upsilon_not_settled :
    let s := String.ofList (List.replicate 9 '\u03B0')
    pascal.convert s = "\u03A5\u03C5\u03A5\u03C5\u03A5\u03C5\u03A5\u03C5\u03A5\u0308\u0301" ∧
      pascal.convert (pascal.convert s) =
        "\u03A5\u03C5\u03A5\u03C5\u03A5\u03C5\u03A5\u03C5\u03A5" ∧
      pascal.convert (pascal.convert s) ≠ pascal.convert s := by
  intro s
  have hfirst : pascal.convert s =
      "\u03A5\u03C5\u03A5\u03C5\u03A5\u03C5\u03A5\u03C5\u03A5\u0308\u0301" := by
    decide +kernel
  have hsecond :
      pascal.convert "\u03A5\u03C5\u03A5\u03C5\u03A5\u03C5\u03A5\u03C5\u03A5\u0308\u0301" =
        "\u03A5\u03C5\u03A5\u03C5\u03A5\u03C5\u03A5\u03C5\u03A5" := by
    decide +kernel
  rw [hfirst, hsecond]
  exact ⟨rfl, rfl, by decide⟩

end KeyCase

end LogLint
