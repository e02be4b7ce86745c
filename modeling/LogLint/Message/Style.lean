import LogLint.Unicode.Letter

/-!
# メッセージの書き出し

メッセージの最初の文字に求める形：小文字で始める（lowercased）か、大文字で始める（capitalized）か。

判定は最初の文字の一般カテゴリ（Unicode 16.0）だけを見る。空のメッセージと、文字（L）でない文字で始まる
メッセージはどちらの形にも合う。文字で始まるときは、lowercased なら Ll、capitalized なら Lu の
ときだけ合う。Lt（ǅ）、Lm（ʰ）、Lo（中）で始まるメッセージはどちらにも合わない。
-/

namespace LogLint

/-- メッセージの書き出しの形。 -/
inductive MessageStyle where
  | lowercased
  | capitalized
  deriving DecidableEq, Repr

namespace MessageStyle

/-- 設定での名前から読む。 -/
def ofName? : String → Option MessageStyle
  | "lowercased" => some .lowercased
  | "capitalized" => some .capitalized
  | _ => none

/-- 設定と診断での名前。 -/
def name : MessageStyle → String
  | .lowercased => "lowercased"
  | .capitalized => "capitalized"

/-- 最初の文字がこの形に合うか。 -/
def admitsFirst (style : MessageStyle) (c : Char) : Bool :=
  match Unicode.letterKindIn .v16 c, style with
  | none, _ => true
  | some .lower, .lowercased => true
  | some .upper, .capitalized => true
  | some _, _ => false

/-- メッセージがこの形に合うか。 -/
def accepts (style : MessageStyle) (message : String) : Bool :=
  match message.toList with
  | [] => true
  | c :: _ => style.admitsFirst c

end MessageStyle

end LogLint
