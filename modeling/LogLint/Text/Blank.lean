/-!
# 空白の文字

Unicode の White_Space の性質を持つ文字と、それを両端から落とす `trim`。

White_Space は次の 25 文字。

* `U+0009`〜`U+000D`（タブ、改行、垂直タブ、改ページ、復帰）と `U+0020`（空白）
* `U+0085`（次の行）と `U+00A0`（改行しない空白）
* `U+1680`、`U+2000`〜`U+200A`、`U+2028`、`U+2029`、`U+202F`、`U+205F`、`U+3000`
-/

namespace LogLint.Text

/-- White_Space の性質を持つか。 -/
def isBlank (c : Char) : Bool :=
  let n := c.toNat
  (0x09 ≤ n && n ≤ 0x0D) || n == 0x20 || n == 0x85 || n == 0xA0 || n == 0x1680 ||
    (0x2000 ≤ n && n ≤ 0x200A) || n == 0x2028 || n == 0x2029 || n == 0x202F ||
    n == 0x205F || n == 0x3000

/-- 両端の空白を落とす。 -/
def trim (s : String) : String :=
  String.ofList ((s.toList.dropWhile isBlank).reverse.dropWhile isBlank).reverse

/-- core の空白の文字（空白、タブ、改行、復帰）はどれも White_Space。 -/
theorem isBlank_of_isWhitespace (c : Char) (h : c.isWhitespace = true) : isBlank c = true := by
  simp only [Char.isWhitespace, Bool.or_eq_true, decide_eq_true_eq] at h
  simp only [isBlank, Bool.or_eq_true, Bool.and_eq_true, decide_eq_true_eq, beq_iff_eq]
  rcases h with ((h | h) | h) | h <;> simp [h, Char.toNat]

example : trim " 　a b\t" = "a b" := by decide

end LogLint.Text
