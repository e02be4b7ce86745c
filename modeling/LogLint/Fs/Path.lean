/-!
# path の綴り

`/` で区切った path の文字列の操作。path は読んだ綴りのまま持ち、比べるときだけ部分
（`Component`）に分ける。

## 部分への分け方

* 先頭の `/` は根（`rootDir`）
* 根のない path の最初の `.` は今のディレクトリ（`curDir`）。それより後の `.` と空の部分
  （`a//b` や末尾の `/`）は数えない
* `..` は親（`parentDir`）、それ以外は名前（`normal`）

`a/./b/` と `a/b` は同じ部分を持つが、`./a` と `a` は違う。

## つなぎ方と親

* `join base p` — `p` が根から始まれば `p`。そうでなければ `base` と `p` を `/` でつなぐ
  （`base` が空か `/` で終わるなら区切りを足さない）
* `parent?` — 最後の部分を落とした綴り。末尾の空の部分と `.` を先に落とす。`.` の親は空の path、
  空の path と根には親がない

## 停止性

末尾を削る繰り返しは、一回ごとに文字の列が短くなる。
-/

namespace LogLint.Path

/-- path の部分。 -/
inductive Component where
  | rootDir
  | curDir
  | parentDir
  | normal (name : String)
  deriving DecidableEq, Repr

/-- 根から始まるか。 -/
def isAbsolute (p : String) : Bool := p.toList.head? == some '/'

/-- 区切りの間の一つを部分にする。`first` は根のない path の最初の一つか。 -/
def pieceComponent (first : Bool) (piece : String) : Option Component :=
  if piece = "" then none
  else if piece = "." then (if first then some .curDir else none)
  else if piece = ".." then some .parentDir
  else some (.normal piece)

/-- path を部分に分ける。 -/
def components (p : String) : List Component :=
  match p.splitOn "/" with
  | [] => []
  | first :: rest =>
    if isAbsolute p then .rootDir :: rest.filterMap (pieceComponent false)
    else ((pieceComponent true first).toList) ++ rest.filterMap (pieceComponent false)

/-- 二つの path をつなぐ。 -/
def join (base p : String) : String :=
  if isAbsolute p then p
  else if base = "" then p
  else if base.toList.getLast? == some '/' then base ++ p
  else base ++ "/" ++ p

/-- path の最後の名前。 -/
def fileName? (p : String) : Option String :=
  match (components p).getLast? with
  | some (.normal name) => some name
  | _ => none

/-- `prefix` の部分が `p` の部分の頭に並ぶか。 -/
def startsWith (p pre : String) : Bool := (components pre).isPrefixOf (components p)

/-- 今のディレクトリを指す綴りか（空の path も含む）。 -/
def isCurrentDir (p : String) : Bool := (components p).all (· == .curDir)

/-- 部分を読む前の頭の長さ：根の `/` か、最初の `.`。 -/
def headLength (cs : List Char) : Nat :=
  match cs with
  | '/' :: _ => 1
  | ['.'] => 1
  | '.' :: '/' :: _ => 1
  | _ => 0

/-- 末尾の部分を一つ分ける：最後の区切りの前と、その後の部分。区切りがなければ `none`。 -/
def splitLast (body : List Char) : Option (List Char) × List Char :=
  let rev := body.reverse
  let piece := (rev.takeWhile (· != '/')).reverse
  match rev.dropWhile (· != '/') with
  | [] => (none, piece)
  | _ :: before => (some before.reverse, piece)

/-- 末尾の空の部分と `.` を落とす。 -/
def trimRight (headLen : Nat) : Nat → List Char → List Char
  | 0, cs => cs
  | fuel + 1, cs =>
    if cs.length ≤ headLen then cs
    else
      let head := cs.take headLen
      match splitLast (cs.drop headLen) with
      | (before, piece) =>
        if piece = [] || piece = ['.'] then
          trimRight headLen fuel (head ++ before.getD [])
        else cs

/-- 最後の部分を落とした path。親がなければ `none`。 -/
def parent? (p : String) : Option String :=
  match (components p).getLast? with
  | none => none
  | some .rootDir => none
  | some _ =>
    let cs := p.toList
    let headLen := headLength cs
    let trimmed := trimRight headLen (cs.length + 1) cs
    if trimmed.length ≤ headLen then some ""
    else
      let head := trimmed.take headLen
      match splitLast (trimmed.drop headLen) with
      | (before, _) =>
        let rest := head ++ before.getD []
        some (String.ofList (trimRight headLen (rest.length + 1) rest))

end LogLint.Path
