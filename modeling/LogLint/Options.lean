import LogLint.Json.Decode

/-!
# 設定の項目

設定ファイルや要求で与える、規則ごとの項目。キーは camelCase で、どれも省けば既定値になる。

| キー | 型 | 既定値 |
|---|---|---|
| `noGlobal` | 真偽値 | `true` |
| `noSugar` | 真偽値 | `true` |
| `staticMsg` | 真偽値 | `true` |
| `msgStyle` | 文字列か `null` | `"lowercased"` |
| `noRawKeys` | 真偽値 | `false` |
| `keyNamingCase` | 文字列か `null` | `"snake"` |
| `forbiddenKeys` | 文字列の配列 | `[]` |
| `argsOnSepLines` | 真偽値 | `true` |

`msgStyle` と `keyNamingCase` は、`null` を書けば既定値でなく「なし」になる。値が正しい名前か
どうかはここでは確かめない（`Options.validate`）。
-/

namespace LogLint

open Json Json.Decode

/-- 設定の項目。値の名前はまだ確かめていない。 -/
structure Options where
  noGlobal : Bool := true
  noSugar : Bool := true
  staticMsg : Bool := true
  msgStyle : Option String := some "lowercased"
  noRawKeys : Bool := false
  keyNamingCase : Option String := some "snake"
  forbiddenKeys : List String := []
  argsOnSepLines : Bool := true
  deriving DecidableEq, Repr

namespace Options

/-- キーの名前。宣言の順。 -/
def fieldNames : List String :=
  ["noGlobal", "noSugar", "staticMsg", "msgStyle", "noRawKeys", "keyNamingCase",
    "forbiddenKeys", "argsOnSepLines"]

/-- `i` 番目の項目を `j` から読んで置き換える。 -/
def setField (o : Options) (i : Nat) (j : Json) : Decoded Options :=
  match i with
  | 0 => do return { o with noGlobal := ← bool j }
  | 1 => do return { o with noSugar := ← bool j }
  | 2 => do return { o with staticMsg := ← bool j }
  | 3 => do return { o with msgStyle := ← option string j }
  | 4 => do return { o with noRawKeys := ← bool j }
  | 5 => do return { o with keyNamingCase := ← option string j }
  | 6 => do return { o with forbiddenKeys := ← list string j }
  | _ => do return { o with argsOnSepLines := ← bool j }

/-- object の組から読む。項目は最初の出現の順に読み、重複はその後で誤りにする。 -/
def ofFields (s : FieldScan) : Decoded Options := do
  let o ← s.order.foldlM (fun o i => o.setField i (s.slot i)) {}
  s.checkDuplicate
  return o

/-- 配列から読む。要素を宣言の順に当て、足りない項目は既定値。 -/
def ofItems (src : Source) (items : List Json) : Decoded Options := do
  let o ← (items.take 8).zipIdx.foldlM (fun o (j, i) => o.setField i j) {}
  leftover src 8 (items.drop 8)
  return o

/-- JSON の木から読む。 -/
def ofJson (src : Source) : Json → Decoded Options :=
  structOf "Options" fieldNames (fun s => ofFields s) (ofItems src)

end Options

end LogLint
