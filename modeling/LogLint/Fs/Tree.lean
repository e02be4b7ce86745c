import LogLint.Fs.Disk

/-!
# ファイルの木

ディスクの代わりに使う、ファイルとディレクトリの有限の木。根は今のディレクトリで、
ファイルもディレクトリも根からの名前の列で表す。ファイルの親はどれもディレクトリとして
あるものとする。

## path の辿り方

path は部分に分けて根から辿る。`.` は今の場所、`..` は一つ上、名前は一つ下。途中の部分は
ディレクトリでなければならず、ファイルなら `notADirectory`、ないなら `notFound`。根より上と、
根から始まる path は木の外なので `notFound`。空の path も何も指さない。末尾が `/` で、
ファイルに着いたら `notADirectory`。
-/

namespace LogLint

/-- ファイルの木。 -/
structure FileTree where
  files : List (List String × String) := []
  dirs : List (List String) := []
  deriving Repr

namespace FileTree

/-- 名前の列がファイルなら、その中身。 -/
def file? (t : FileTree) (p : List String) : Option String := t.files.lookup p

/-- 名前の列がディレクトリか。根と、何かの親はディレクトリ。 -/
def isDirPath (t : FileTree) (p : List String) : Bool :=
  p.isEmpty || t.dirs.contains p ||
    t.files.any (fun (f, _) => p.isPrefixOf f && p.length < f.length) ||
    t.dirs.any (fun d => p.isPrefixOf d && p.length < d.length)

/-- 名前の列にあるものの種類。 -/
def kindAt (t : FileTree) (p : List String) : Option NodeKind :=
  if (t.file? p).isSome then some .file
  else if t.isDirPath p then some .dir
  else none

/-- 部分を根から辿る。 -/
def walkComponents (t : FileTree) : List String → List Path.Component → Except IoError (List String)
  | cur, [] => .ok cur
  | cur, c :: rest =>
    match c with
    | .rootDir => .error .notFound
    | .curDir => walkComponents t cur rest
    | .parentDir =>
      match t.kindAt cur with
      | some .dir =>
        if cur.isEmpty then .error .notFound else walkComponents t cur.dropLast rest
      | some .file => .error .notADirectory
      | none => .error .notFound
    | .normal name =>
      match t.kindAt cur with
      | some .dir => walkComponents t (cur ++ [name]) rest
      | some .file => .error .notADirectory
      | none => .error .notFound

/-- path を名前の列にする。空の path と根から始まる path は、何も指さない。 -/
def resolve (t : FileTree) (p : String) : Except IoError (List String) :=
  if p.isEmpty || Path.isAbsolute p then .error .notFound
  else walkComponents t [] (Path.components p)

/-- 末尾が `/` か `/.` で、ディレクトリでなければならない path か。 -/
def wantsDir (p : String) : Bool :=
  let cs := p.toList.reverse
  cs.head? == some '/' || (cs.take 2 == ['.', '/'])

/-- path にあるものの種類。 -/
def kindOf (t : FileTree) (p : String) : Except IoError NodeKind := do
  let names ← t.resolve p
  match t.kindAt names with
  | some .file => if wantsDir p then throw .notADirectory else return .file
  | some .dir => return .dir
  | none => throw .notFound

/-- ファイルを読む。 -/
def readAt (t : FileTree) (p : String) : Except IoError String := do
  match ← t.kindOf p with
  | .dir => throw .isADirectory
  | .file =>
    match t.file? (← t.resolve p) with
    | some s => return s
    | none => throw .notFound

/-- ファイルを書く。親はディレクトリでなければならない。 -/
def writeAt (t : FileTree) (p : String) (content : String) : Except IoError FileTree := do
  let names ← t.resolve p
  match t.kindAt names with
  | some .dir => throw .isADirectory
  | _ =>
    if t.kindAt names.dropLast != some .dir then throw .notFound
    let others := t.files.filter (·.1 != names)
    return { t with files := others ++ [(names, content)] }

/-- ディレクトリの中の名前。重複なく、名前の順。 -/
def listAt (t : FileTree) (p : String) : Except IoError (List String) := do
  match ← t.kindOf p with
  | .file => throw .notADirectory
  | .dir =>
    let names ← t.resolve p
    let below (q : List String) : Option String :=
      if names.isPrefixOf q && names.length < q.length then q[names.length]? else none
    let all := (t.files.map (·.1) ++ t.dirs).filterMap below
    return (all.eraseDups.mergeSort fun a b => decide (a ≤ b))

/-- 木にあるものの数の上限。 -/
def size (t : FileTree) : Nat :=
  (t.files.map (·.1.length + 1)).foldr (· + ·) 0 + (t.dirs.map (·.length + 1)).foldr (· + ·) 0 + 1

/-- ファイルを書き足す。親のディレクトリも作る。 -/
def addFile (t : FileTree) (names : List String) (content : String) : FileTree :=
  { t with files := t.files.filter (·.1 != names) ++ [(names, content)] }

/-- ディレクトリを作る。 -/
def addDir (t : FileTree) (names : List String) : FileTree :=
  if t.dirs.contains names then t else { t with dirs := t.dirs ++ [names] }

end FileTree

instance : MonadDisk (StateM FileTree) where
  kind p := do return (← get).kindOf p
  read p := do return (← get).readAt p
  write p content := do
    match (← get).writeAt p content with
    | .ok t => set t; return .ok ()
    | .error e => return .error e
  list p := do return (← get).listAt p
  budget := do return (← get).size

end LogLint
