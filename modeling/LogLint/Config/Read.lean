import LogLint.Config
import LogLint.Json.Reader

/-!
# 設定ファイルを読む

設定ファイルのテキストを前から読む。一番外は object でなければならない。

* `includes` と `ignores` はその場で文字列の配列として読む
* ほかのキーは値を木として取っておき（重複も残す）、object を閉じた後で規則の項目として読む。
  知らないキーは読み捨てる
* 型の誤りや重複のように位置を持たない誤りには、一番外の object を閉じようとした後の位置を付ける

## 停止性

組を読むごとに `fuel` を一つ減らす。組は一バイト以上を読むので、入力のバイト数で足りる。
-/

namespace LogLint

open Json Json.Reader

namespace Config

/-- 組を読み進める。`includes` と `ignores` はその場で読み、ほかの組は取っておく。 -/
def entries (depth : Nat) :
    Nat → Bool → Option (List String) → Option (List String) → Array (String × Json) →
      Reader (Option (List String) × Option (List String) × List (String × Json))
  | 0, _, inc, ign, rest => return (inc, ign, rest.toList)
  | fuel + 1, first, inc, ign, rest => do
    match ← nextKey first with
    | none => return (inc, ign, rest.toList)
    | some "includes" =>
      if inc.isSome then fault (.duplicateField "includes")
      colon
      let v ← seqOf depth fun _ => stringAs "a string"
      entries depth fuel false (some v) ign rest
    | some "ignores" =>
      if ign.isSome then fault (.duplicateField "ignores")
      colon
      let v ← seqOf depth fun _ => stringAs "a string"
      entries depth fuel false inc (some v) rest
    | some k =>
      colon
      let v ← anyValue depth
      entries depth fuel false inc ign (rest.push (k, v))

/-- object の中身を読み、設定にする。 -/
def body (depth : Nat) : Reader Config := do
  let (inc, ign, rest) ← entries depth (← Reader.fuel) true none none #[]
  let options ← match Options.ofFields (Decode.scanFields Options.fieldNames rest) with
    | .ok o => pure o
    | .error f => fault f
  return { options, includes := inc.getD ["."], ignores := ign.getD [] }

/-- 設定ファイルの読み手。 -/
def reader : Reader Config := positioned do
  match ← skipBlank with
  | some 0x7B =>
    let d ← enter 128
    eat
    closing (body d) endMap
  | some _ => throw (← invalidType "struct Config")
  | none => failPeek .eofWhileParsingValue

/-- 設定ファイルのテキストを読む。 -/
def read (text : String) : Except Json.Error Config := Reader.run reader text

end Config

end LogLint
