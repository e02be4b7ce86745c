import LogLint.Json.Number

/-!
# JSON を書く

JSON の木をテキストにする。object は持っている組の順に書く。

* 文字列 — `"` と `\` は `\"` と `\\`、制御文字は `\b \t \n \f \r` か `\u00XX`（小文字の 16 進）。
  それ以外（非 ASCII も DEL も）はそのまま書く
* 数 — `Number.text`
* `compact` — 区切りの後に空白を入れない
* `pretty` — 二つの空白で字下げし、`": "` で区切る。空の配列と object は `[]` と `{}`
-/

namespace LogLint.Json

/-- 文字列の中での一文字の書き方。 -/
def escapeChar (c : Char) : List Char :=
  if c = '"' then ['\\', '"']
  else if c = '\\' then ['\\', '\\']
  else if c = '\x08' then ['\\', 'b']
  else if c = '\t' then ['\\', 't']
  else if c = '\n' then ['\\', 'n']
  else if c = '\x0c' then ['\\', 'f']
  else if c = '\r' then ['\\', 'r']
  else if c.toNat < 0x20 then
    let hex (d : Nat) : Char := if d < 10 then Char.ofNat (0x30 + d) else Char.ofNat (0x61 + d - 10)
    ['\\', 'u', '0', '0', hex (c.toNat / 16), hex (c.toNat % 16)]
  else [c]

/-- 文字列を JSON の文字列として書く。 -/
def quote (s : String) : String :=
  String.ofList ('"' :: s.toList.flatMap escapeChar ++ ['"'])

mutual

/-- 空白を入れずに書く。 -/
def compact : Json → String
  | .null => "null"
  | .bool b => if b then "true" else "false"
  | .number n => n.text
  | .string s => quote s
  | .array items => "[" ++ compactItems items ++ "]"
  | .object entries => "\x7b" ++ compactEntries entries ++ "\x7d"

/-- 配列の要素をコンマで区切って書く。 -/
def compactItems : List Json → String
  | [] => ""
  | [j] => compact j
  | j :: rest => compact j ++ "," ++ compactItems rest

/-- object の組をコンマで区切って書く。 -/
def compactEntries : List (String × Json) → String
  | [] => ""
  | [(k, v)] => quote k ++ ":" ++ compact v
  | (k, v) :: rest => quote k ++ ":" ++ compact v ++ "," ++ compactEntries rest

end

/-- 字下げの空白。 -/
def indentText (level : Nat) : String := String.ofList (List.replicate (2 * level) ' ')

mutual

/-- 字下げして書く。`level` は今の深さ。 -/
def prettyAt : Nat → Json → String
  | _, .null => "null"
  | _, .bool b => if b then "true" else "false"
  | _, .number n => n.text
  | _, .string s => quote s
  | _, .array [] => "[]"
  | level, .array items => "[\n" ++ prettyItems (level + 1) items ++ "\n" ++ indentText level ++ "]"
  | _, .object [] => "\x7b\x7d"
  | level, .object entries =>
    "\x7b\n" ++ prettyEntries (level + 1) entries ++ "\n" ++ indentText level ++ "\x7d"

/-- 配列の要素を一行ずつ書く。 -/
def prettyItems : Nat → List Json → String
  | _, [] => ""
  | level, [j] => indentText level ++ prettyAt level j
  | level, j :: rest => indentText level ++ prettyAt level j ++ ",\n" ++ prettyItems level rest

/-- object の組を一行ずつ書く。 -/
def prettyEntries : Nat → List (String × Json) → String
  | _, [] => ""
  | level, [(k, v)] => indentText level ++ quote k ++ ": " ++ prettyAt level v
  | level, (k, v) :: rest =>
    indentText level ++ quote k ++ ": " ++ prettyAt level v ++ ",\n" ++ prettyEntries level rest

end

/-- 字下げして書く。 -/
def pretty (j : Json) : String := prettyAt 0 j

end LogLint.Json
