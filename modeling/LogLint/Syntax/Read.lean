import LogLint.Json.Reader
import LogLint.Syntax.Decode

/-!
# 書き出しをテキストから読む

syntax dump のテキストを前から一度だけ読み、読みながら型を確かめる。誤りには位置が付く。

## 式の読み方

式の object は二段で読む。

1. object を読みながら `node` を探し、その値はその場で種類の名前として読む。ほかの組は値を
   木として取っておく（入れ子の深さはここで数える）
2. object を閉じた後、取っておいた木から種類ごとの構造体を読む（`Syntax.variantOf`）

二段目の誤りは位置を持たず、式を並べた配列を閉じようとした後の位置が付く。`node` がない誤りと
重複の誤りは、その式の object を閉じようとした後の位置が付く。配列で書いた式は、最初の要素が種類で、
残りの要素を木として取っておく。

## 停止性

組や要素を読むごとに `fuel` を一つ減らす。どれも一バイト以上を読むので、入力のバイト数で足りる。
-/

namespace LogLint.Syntax

open LogLint.Json LogLint.Json.Reader

/-- 式の種類の名前を、文字列としてその場で読む。 -/
def tagName : Reader Nat := positioned do
  match ← skipBlank with
  | some 0x22 =>
    eat
    let s ← string
    match Decode.indexOf? exprVariants s with
    | some i => return i
    | none => fault (.unknownVariant s exprVariants)
  | some _ => throw (← invalidType "variant identifier")
  | none => failPeek .eofWhileParsingValue

/-- 式の object の組を読む。`node` はその場で読み、ほかの組は木として取っておく。 -/
def taggedEntries (depth : Nat) :
    Nat → Bool → Option Nat → Array (String × Json) →
      Reader (Option Nat × List (String × Json))
  | 0, _, tag, rest => return (tag, rest.toList)
  | fuel + 1, first, tag, rest => do
    match ← nextKey first with
    | none => return (tag, rest.toList)
    | some "node" =>
      if tag.isSome then fault (.duplicateField "node")
      colon
      let t ← tagName
      taggedEntries depth fuel false (some t) rest
    | some k =>
      colon
      let v ← anyValue depth
      taggedEntries depth fuel false tag (rest.push (k, v))

/-- 配列で書いた式の、種類の後の要素を木として読む。 -/
def restItems (depth : Nat) : Nat → Array Json → Reader (List Json)
  | 0, acc => return acc.toList
  | fuel + 1, acc => do
    if ← nextItem false then
      let v ← anyValue depth
      restItems depth fuel (acc.push v)
    else return acc.toList

/-- 式の種類と、構造体として読む残りの木を読む。 -/
def taggedBody (depth : Nat) : Reader (Nat × Json) := positioned do
  match ← skipBlank with
  | some 0x7B =>
    let d ← enter depth
    eat
    closing (do
      let (tag?, rest) ← taggedEntries d (← Reader.fuel) true none #[]
      match tag? with
      | some t => return (t, Json.object rest)
      | none => fault (.missingField "node")) endMap
  | some 0x5B =>
    let d ← enter depth
    eat
    closing (do
      if ← nextItem true then
        let t ← tagName
        let rest ← restItems d (← Reader.fuel) #[]
        return (t, Json.array rest)
      else fault (.missingField "node")) endSeq
  | some _ => throw (← invalidType "internally tagged enum Expr")
  | none => failPeek .eofWhileParsingValue

/-- 式を一つ読む。 -/
def exprReader (depth : Nat) : Reader Expr := do
  let (tag, body) ← taggedBody depth
  match variantOf (exprOf exprFuel .content) tag body with
  | .ok e => return e
  | .error f => fault f

/-- 書き出しの object の組を読む。 -/
def dumpEntries (depth : Nat) :
    Nat → Bool → Option String → Option (List Expr) → Reader (Option String × Option (List Expr))
  | 0, _, file, exprs => return (file, exprs)
  | fuel + 1, first, file, exprs => do
    match ← nextKey first with
    | none => return (file, exprs)
    | some "file" =>
      if file.isSome then fault (.duplicateField "file")
      colon
      let v ← stringAs "a string"
      dumpEntries depth fuel false (some v) exprs
    | some "exprs" =>
      if exprs.isSome then fault (.duplicateField "exprs")
      colon
      let v ← seqOf depth exprReader
      dumpEntries depth fuel false file (some v)
    | some _ =>
      colon
      skipValue
      dumpEntries depth fuel false file exprs

/-- 書き出しの読み手。object か、`file` と `exprs` を順に並べた配列。 -/
def dumpReader : Reader FileDump := positioned do
  match ← skipBlank with
  | some 0x7B =>
    let d ← enter 128
    eat
    closing (do
      let (file, exprs) ← dumpEntries d (← Reader.fuel) true none none
      match file with
      | some f => return ⟨f, exprs.getD []⟩
      | none => fault (.missingField "file")) endMap
  | some 0x5B =>
    let d ← enter 128
    eat
    closing (do
      if ← nextItem true then
        let file ← stringAs "a string"
        if ← nextItem false then
          let exprs ← seqOf d exprReader
          return ⟨file, exprs⟩
        else return ⟨file, []⟩
      else fault (.invalidLength 0 "struct FileDump with 2 elements")) endSeq
  | some _ => throw (← invalidType "struct FileDump")
  | none => failPeek .eofWhileParsingValue

/-- 書き出しのテキストを読む。 -/
def FileDump.read (text : String) : Except Json.Error FileDump := Reader.run dumpReader text

end LogLint.Syntax
