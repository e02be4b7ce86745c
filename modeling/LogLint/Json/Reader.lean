import LogLint.Json.Scan

/-!
# JSON の読み手

テキストを前から一度だけ読む読み手（`Reader`）と、その上の基本の操作。型つきの読み出し
（構造体、列、文字列）はこの操作を組み合わせて、値を読みながら型を確かめる。そのため、
型の誤りと構文の誤りのどちらが報告されるかは、テキストのどこで先に気づくかで決まる。

* `Reader` — 入力と読む位置を状態に持つ。誤りで止まっても、そこまで読んだ位置は残る
* 入れ子の深さは 128 までで、128 段目の `[` か `{` で `recursionLimitExceeded` になる
* `closing` — 配列や object の中身を読んだ後、成否によらず閉じ括弧を読む。位置のない誤りには
  閉じ括弧を読もうとした後の位置を付ける
* `value` — 任意の値を木として読む（キーの重複は残す）
* `skipValue` — 値を読み捨てる。深さは数えない
* `parse` — テキスト全体を一つの値として読み、重複したキーを `Json.collapse` でまとめる

## 停止性

`value` と配列・object の要素を読む関数は互いに呼び合い、どれも `fuel` を一つ減らして呼ぶ。
一回の呼び出しは一バイト以上読むので、入力のバイト数より多い `fuel` で足りる。
-/

namespace LogLint.Json

/-- 読み手の状態：入力と次に読む位置。 -/
structure Cursor where
  input : ByteArray
  index : Nat

/-- テキストを前から読む計算。誤りで止まったときも状態は残る。 -/
abbrev Reader := EStateM Error Cursor

/-- バイトの番号をテキストの位置にする。 -/
def positionAt (input : ByteArray) (i : Nat) : Position :=
  let (line, start) := (List.range (min i input.size)).foldl
    (fun (acc : Nat × Nat) j => if input[j]? == some 0x0A then (acc.1 + 1, j + 1) else acc) (1, 0)
  ⟨line, i - start⟩

namespace Reader

/-- 入力。 -/
def input : Reader ByteArray := do return (← get).input

/-- 今の位置。 -/
def index : Reader Nat := do return (← get).index

/-- 位置を移す。 -/
def seek (i : Nat) : Reader Unit := modify fun c => { c with index := i }

/-- 今のバイトを一つ読み進める。 -/
def eat : Reader Unit := modify fun c => { c with index := c.index + 1 }

/-- 構文の誤りを、バイトの番号 `i` の位置で起こす。 -/
def failAt {α : Type} (code : SyntaxCode) (i : Nat) : Reader α := do
  throw ⟨.malformed code, some (positionAt (← input) i)⟩

/-- 構文の誤りを、今の位置で起こす。 -/
def fail {α : Type} (code : SyntaxCode) : Reader α := do failAt code (← index)

/-- 構文の誤りを、今見ているバイトの直後の位置で起こす。 -/
def failPeek {α : Type} (code : SyntaxCode) : Reader α := do
  failAt code (Scan.past (← input) (← index))

/-- 型の誤りを、位置なしで起こす。位置は囲む読み出しが付ける。 -/
def fault {α : Type} (f : Fault) : Reader α := throw ⟨f, none⟩

/-- 位置のない誤りに今の位置を付ける。 -/
def fixPosition (e : Error) : Reader Error := do
  match e.position with
  | some _ => return e
  | none => return { e with position := some (positionAt (← input) (← index)) }

/-- 字句の結果を読み手に移す。 -/
def lift {α : Type} (r : ScanResult α) : Reader α := do
  match r with
  | .ok (a, j) => seek j; return a
  | .error e => failAt e.code e.index

/-- 空白を飛ばし、次のバイトを読まずに返す。 -/
def skipBlank : Reader (Option UInt8) := do
  let c ← get
  let j := Scan.skipBlank c.input c.index
  seek j
  return c.input[j]?

/-- 計算を走らせ、誤りも値として受け取る。状態はそのまま残る。 -/
def attempt {α : Type} (r : Reader α) : Reader (Except Error α) :=
  tryCatch (Except.ok <$> r) fun e => pure (Except.error e)

/-- 中身を読み、成否によらず閉じ括弧を読む。先に起きた誤りを、位置を直して返す。 -/
def closing {α : Type} (body : Reader α) (close : Reader Unit) : Reader α := do
  let r ← attempt body
  let c ← attempt close
  match r, c with
  | .ok a, .ok () => return a
  | .error e, _ => throw (← fixPosition e)
  | .ok _, .error e => throw (← fixPosition e)

/-- 計算の誤りに位置を付けて返す。 -/
def positioned {α : Type} (r : Reader α) : Reader α := do
  match ← attempt r with
  | .ok a => return a
  | .error e => throw (← fixPosition e)

/-- 配列か object に入る。深さが尽きれば誤り。 -/
def enter (depth : Nat) : Reader Nat :=
  if depth ≤ 1 then failPeek .recursionLimitExceeded else pure (depth - 1)

/-- 開きの `"` の次から文字列を読む。 -/
def string : Reader String := do
  let c ← get
  lift (Scan.string c.input c.index)

/-- 数を読む。 -/
def number (positive : Bool) : Reader Number := do
  let c ← get
  lift (Scan.number c.input positive c.index)

/-- 綴りの残りを読む。 -/
def ident (rest : List UInt8) : Reader Unit := do
  let c ← get
  match Scan.ident c.input rest c.index with
  | .ok j => seek j
  | .error e => failAt e.code e.index

/-- 配列の次の要素の前まで読む。要素があれば `true`、`]` なら `false`（`]` は読まない）。 -/
def nextItem (first : Bool) : Reader Bool := do
  let peek ← match ← skipBlank with
    | some 0x5D => return false
    | some 0x2C =>
      if first then pure (some (0x2C : UInt8))
      else do eat; skipBlank
    | some b => if first then pure (some b) else failPeek .expectedListCommaOrEnd
    | none => failPeek .eofWhileParsingList
  match peek with
  | some 0x5D => failPeek .trailingComma
  | some _ => return true
  | none => failPeek .eofWhileParsingValue

/-- object の次のキーを読む。`}` なら `none`（`}` は読まない）。 -/
def nextKey (first : Bool) : Reader (Option String) := do
  let peek ← match ← skipBlank with
    | some 0x7D => return none
    | some 0x2C =>
      if first then pure (some (0x2C : UInt8))
      else do eat; skipBlank
    | some b => if first then pure (some b) else failPeek .expectedObjectCommaOrEnd
    | none => failPeek .eofWhileParsingObject
  match peek with
  | some 0x22 => eat; return some (← string)
  | some 0x7D => failPeek .trailingComma
  | some _ => failPeek .keyMustBeAString
  | none => failPeek .eofWhileParsingValue

/-- キーの後の `:` を読む。 -/
def colon : Reader Unit := do
  match ← skipBlank with
  | some 0x3A => eat
  | some _ => failPeek .expectedColon
  | none => failPeek .eofWhileParsingObject

/-- 配列を閉じる `]` を読む。 -/
def endSeq : Reader Unit := do
  match ← skipBlank with
  | some 0x5D => eat
  | some 0x2C =>
    eat
    match ← skipBlank with
    | some 0x5D => failPeek .trailingComma
    | _ => failPeek .trailingCharacters
  | some _ => failPeek .trailingCharacters
  | none => failPeek .eofWhileParsingList

/-- object を閉じる `}` を読む。 -/
def endMap : Reader Unit := do
  match ← skipBlank with
  | some 0x7D => eat
  | some 0x2C => failPeek .trailingComma
  | some _ => failPeek .trailingCharacters
  | none => failPeek .eofWhileParsingObject

/-- 求める型でない値を読み、型の誤りを作る。スカラーは読み、括弧は読まずに止まる。 -/
def invalidType (expected : String) : Reader Error := do
  let found? : Option Unexpected ← match ← skipBlank with
    | some 0x6E => eat; ident [0x75, 0x6C, 0x6C]; pure (some .null)
    | some 0x74 => eat; ident [0x72, 0x75, 0x65]; pure (some (.bool true))
    | some 0x66 => eat; ident [0x61, 0x6C, 0x73, 0x65]; pure (some (.bool false))
    | some 0x2D => eat; pure (some (numberUnexpected (← number false)))
    | some 0x22 => eat; pure (some (.string (← string)))
    | some 0x5B => pure (some .sequence)
    | some 0x7B => pure (some .map)
    | some b => if Scan.isDigit b then pure (some (numberUnexpected (← number true))) else pure none
    | none => pure none
  match found? with
  | some found => fixPosition ⟨.invalidType found expected, none⟩
  | none => do
    let c ← get
    return ⟨.malformed .expectedSomeValue, some (positionAt c.input (Scan.past c.input c.index))⟩
where
  numberUnexpected : Number → Unexpected
    | .unsigned n => .unsigned n
    | .negative n => .signed n
    | .float x => .float x

/-- 文字列を読む。文字列でなければ型の誤り。 -/
def stringAs (expected : String) : Reader String := positioned do
  match ← skipBlank with
  | some 0x22 => eat; string
  | some _ => throw (← invalidType expected)
  | none => failPeek .eofWhileParsingValue

/-- 配列を読み、各要素を `item` で読む。配列でなければ型の誤り。 -/
def seqOf {α : Type} (depth : Nat) (item : Nat → Reader α) : Reader (List α) := positioned do
  match ← skipBlank with
  | some 0x5B =>
    let d ← enter depth
    eat
    let c ← get
    closing (items d c.input.size true []) endSeq
  | some _ => throw (← invalidType "a sequence")
  | none => failPeek .eofWhileParsingValue
where
  items (d : Nat) : Nat → Bool → List α → Reader (List α)
    | 0, _, acc => return acc.reverse
    | fuel + 1, first, acc => do
      if ← nextItem first then
        let a ← item d
        items d fuel false (a :: acc)
      else return acc.reverse

/-! ## 任意の値 -/

mutual

/-- 任意の値を木として読む。キーの重複と順序は残す。 -/
def value : Nat → Nat → Reader Json
  | 0, _ => fail .eofWhileParsingValue
  | fuel + 1, depth => do
    match ← skipBlank with
    | none => failPeek .eofWhileParsingValue
    | some 0x6E => eat; ident [0x75, 0x6C, 0x6C]; return .null
    | some 0x74 => eat; ident [0x72, 0x75, 0x65]; return .bool true
    | some 0x66 => eat; ident [0x61, 0x6C, 0x73, 0x65]; return .bool false
    | some 0x2D => eat; return .number (← number false)
    | some 0x22 => eat; return .string (← string)
    | some 0x5B =>
      let d ← enter depth
      eat
      let xs ← items fuel d true []
      endSeq
      return .array xs
    | some 0x7B =>
      let d ← enter depth
      eat
      let kvs ← entries fuel d true []
      endMap
      return .object kvs
    | some b =>
      if Scan.isDigit b then return .number (← number true)
      else failPeek .expectedSomeValue

/-- 配列の要素を読む。 -/
def items : Nat → Nat → Bool → List Json → Reader (List Json)
  | 0, _, _, acc => return acc.reverse
  | fuel + 1, depth, first, acc => do
    if ← nextItem first then
      let v ← value fuel depth
      items fuel depth false (v :: acc)
    else return acc.reverse

/-- object の組を読む。 -/
def entries : Nat → Nat → Bool → List (String × Json) → Reader (List (String × Json))
  | 0, _, _, acc => return acc.reverse
  | fuel + 1, depth, first, acc => do
    match ← nextKey first with
    | none => return acc.reverse
    | some k =>
      colon
      let v ← value fuel depth
      entries fuel depth false ((k, v) :: acc)

end

/-- 読む位置から先の値に足りる `fuel`。 -/
def fuel : Reader Nat := do return (← input).size + 2

/-- 任意の値を木として読む。 -/
def anyValue (depth : Nat) : Reader Json := do value (← fuel) depth

/-! ## 読み捨て -/

/-- 数を読み捨てる。形だけを確かめ、範囲は見ない。 -/
def skipNumber : Reader Unit := do
  let c ← get
  let input := c.input
  let i := c.index
  let fail' (code : SyntaxCode) (j : Nat) : Reader Unit := failAt code j
  match input[i]? with
  | some 0x30 =>
    if (Scan.digitAt? input (i + 1)).isSome then fail' .invalidNumber (Scan.past input (i + 1))
    else seek (i + 1)
  | some b =>
    if Scan.isDigit b then seek (Scan.skipDigits input (i + 1)) else fail' .invalidNumber (i + 1)
  | none => fail' .invalidNumber i
  let i ← index
  match input[i]? with
  | some 0x2E =>
    let j := Scan.skipDigits input (i + 1)
    if j = i + 1 then fail' .invalidNumber (Scan.past input j)
    else
      seek j
      match input[j]? with
      | some 0x65 => skipExponent input j
      | some 0x45 => skipExponent input j
      | _ => pure ()
  | some 0x65 => skipExponent input i
  | some 0x45 => skipExponent input i
  | _ => pure ()
where
  skipExponent (input : ByteArray) (i : Nat) : Reader Unit := do
    let j := i + 1
    let j := match input[j]? with
      | some 0x2B => j + 1
      | some 0x2D => j + 1
      | _ => j
    match Scan.digitAt? input j with
    | some _ => seek (Scan.skipDigits input (j + 1))
    | none => failAt .invalidNumber (min input.size (j + 1))

/-- 文字列を読み捨てる。 -/
def skipString : Reader Unit := do
  let c ← get
  match Scan.skipStringBody c.input (c.input.size + 1) c.index with
  | .ok j => seek j
  | .error e => failAt e.code e.index

/-- 読み捨てのスカラー一つ。括弧なら読んでその括弧を返す。 -/
def skipScalarOrOpen : Reader (Option UInt8) := do
  match ← skipBlank with
  | some 0x6E => eat; ident [0x75, 0x6C, 0x6C]; return none
  | some 0x74 => eat; ident [0x72, 0x75, 0x65]; return none
  | some 0x66 => eat; ident [0x61, 0x6C, 0x73, 0x65]; return none
  | some 0x2D => eat; skipNumber; return none
  | some 0x22 => eat; skipString; return none
  | some 0x5B => eat; return some 0x5B
  | some 0x7B => eat; return some 0x7B
  | some b => if Scan.isDigit b then do skipNumber; return none else failPeek .expectedSomeValue
  | none => failPeek .eofWhileParsingValue

/-- object の中でキーと `:` を読み捨てる。 -/
def skipKey : Reader Unit := do
  match ← skipBlank with
  | some 0x22 => eat; skipString
  | some _ => failPeek .keyMustBeAString
  | none => failPeek .eofWhileParsingObject
  match ← skipBlank with
  | some 0x3A => eat
  | some _ => failPeek .expectedColon
  | none => failPeek .eofWhileParsingObject

/-- 閉じ括弧の種類に合う、要素の区切りか終わりの誤り。 -/
def commaOrEnd (frame : UInt8) : SyntaxCode :=
  if frame == 0x5B then .expectedListCommaOrEnd else .expectedObjectCommaOrEnd

/-- 閉じ括弧の種類に合う EOF の誤り。 -/
def eofIn (frame : UInt8) : SyntaxCode :=
  if frame == 0x5B then .eofWhileParsingList else .eofWhileParsingObject

/-- 値の後：閉じ括弧を読めるだけ読み、次の値が続くなら開いている括弧の列を返す。
すべて閉じれば `none`。 -/
def skipClose : Nat → UInt8 → List UInt8 → Bool → Reader (Option (UInt8 × List UInt8))
  | 0, _, _, _ => fail .eofWhileParsingValue
  | fuel + 1, frame, stack, acceptComma => do
    match ← skipBlank with
    | some 0x2C =>
      if acceptComma then eat; return some (frame, stack)
      else return some (frame, stack)
    | some b =>
      if (b == 0x5D && frame == 0x5B) || (b == 0x7D && frame == 0x7B) then
        eat
        match stack with
        | [] => return none
        | f :: rest => skipClose fuel f rest true
      else if acceptComma then failPeek (commaOrEnd frame)
      else return some (frame, stack)
    | none => failPeek (eofIn frame)

/-- 値を一つ読み捨てる。入れ子は開いた括弧の列で覚え、深さは数えない。 -/
def skipLoop : Nat → Option UInt8 → List UInt8 → Reader Unit
  | 0, _, _ => fail .eofWhileParsingValue
  | fuel + 1, enclosing, stack => do
    let frame? ← skipScalarOrOpen
    let stack := match frame?, enclosing with
      | some _, some e => e :: stack
      | _, _ => stack
    let next ← match frame? with
      | some f => pure (some (f, stack, false))
      | none =>
        match enclosing with
        | some e => pure (some (e, stack, true))
        | none =>
          match stack with
          | f :: rest => pure (some (f, rest, true))
          | [] => pure none
    match next with
    | none => return ()
    | some (frame, stack, acceptComma) =>
      match ← skipClose fuel frame stack acceptComma with
      | none => return ()
      | some (frame, stack) =>
        if frame == 0x7B then skipKey
        skipLoop fuel (some frame) stack

/-- 値を一つ読み捨てる。 -/
def skipValue : Reader Unit := do skipLoop (← fuel) none []

/-! ## 全体 -/

/-- 値の後に空白しか残っていないことを確かめる。 -/
def finish : Reader Unit := do
  match ← skipBlank with
  | some _ => failPeek .trailingCharacters
  | none => pure ()

/-- テキストを計算 `r` で読み、残りが空白だけであることを確かめる。 -/
def run {α : Type} (r : Reader α) (text : String) : Except Error α :=
  let whole : Reader α := do
    let a ← r
    finish
    return a
  match EStateM.run whole (Cursor.mk text.toUTF8 0) with
  | EStateM.Result.ok a _ => Except.ok a
  | EStateM.Result.error e _ => Except.error e

end Reader

/-- テキスト全体を JSON の値として読む。重複したキーはまとめる。 -/
def parse (text : String) : Except Error Json :=
  (Reader.run (Reader.anyValue 128) text).map Json.collapse

end LogLint.Json
