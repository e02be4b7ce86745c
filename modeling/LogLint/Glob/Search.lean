import LogLint.Glob.Match
import LogLint.Fs.Disk

/-!
# glob でディスクを探す

パターンを `/` で部分に分け、部分ごとにディレクトリを一段ずつ下りながら当てる。

* 文字だけの部分は、ディレクトリを読まずにその名前があるかだけを見る。`.` と `..` は今の
  ディレクトリがあれば通る
* ほかの部分は、ディレクトリの中の名前の一つずつに当てる。部分が `.` で始まるなら `.` と `..`
  にも当てる
* `**` だけの部分は、ディレクトリを何段でも下りる。続けて並んだ `**` は一つとみなす。パターンが
  `**` で終われば、下りた先のディレクトリそのものも見つかったものになる
* パターンが `/` で終われば、見つかるのはディレクトリだけ

根のない path は今のディレクトリ（`.`）から探し、そこで見つけた名前には `./` を付けない。
どの部分も、今いるところがディレクトリでなければ何も見つけない。

## 停止性

ディレクトリを一段下りるごとに `fuel` を一つ減らす。
-/

namespace LogLint.Glob

variable {m : Type → Type} [Monad m] [MonadDisk m]

/-- 文字だけの部分なら、その綴り。 -/
def Pattern.literal? (p : Pattern) : Option String :=
  (p.tokens.mapM fun (t : Token) => match t with
    | .char c => some c
    | _ => none).map String.ofList

/-- 探し方：部分ごとのパターンと、ディレクトリだけを探すか。 -/
structure Search where
  parts : Array Pattern
  requireDir : Bool

/-- 今のディレクトリ（部分が `.` ただ一つの path）か。 -/
def isCurDir (dir : String) : Bool := Path.components dir == [.curDir]

/-- ディレクトリの下の名前。今のディレクトリの下なら名前だけ。 -/
def childPath (dir name : String) : String := if isCurDir dir then name else Path.join dir name

mutual

/-- `path` の下で `idx` 番目の部分を当てる。 -/
def fill (s : Search) : Nat → String → Nat → m (List String)
  | 0, _, _ => return []
  | fuel + 1, path, idx => do
    let some p := s.parts[idx]? | return []
    let isDir ← MonadDisk.isDir path
    if !isDir then return []
    match p.literal? with
    | some name =>
      let special := name = "." || name = ".."
      let next := childPath path name
      if special || (← MonadDisk.exists? next) then add s fuel next idx
      else return []
    | none =>
      match ← MonadDisk.list path with
      | .error _ => return []
      | .ok names =>
        let mut found := []
        for name in names do
          found := found ++ (← step s fuel (childPath path name) idx)
        if p.tokens.head? == some (.char '.') then
          for special in [".", ".."] do
            if p.matches special then
              found := found ++ (← add s fuel (Path.join path special) idx)
        return found

/-- `idx` 番目の部分に当たった `next` の先へ進む。最後の部分なら見つかったもの。 -/
def add (s : Search) : Nat → String → Nat → m (List String)
  | fuel, next, idx => do
    if idx + 1 = s.parts.size then
      if s.requireDir && !(← MonadDisk.isDir next) then return [] else return [next]
    else fill s fuel next (idx + 1)

/-- ディレクトリの中の一つ `path` に `idx` 番目の部分を当てる。 -/
def step (s : Search) : Nat → String → Nat → m (List String)
  | 0, _, _ => return []
  | fuel + 1, path, idx => do
    let last := s.parts.size - 1
    let isDir ← MonadDisk.isDir path
    let mut idx := idx
    let mut found := []
    if (s.parts[idx]?.map (·.isRecursive)).getD false then
      let mut next := idx
      for _ in [0:s.parts.size] do
        if next + 1 < s.parts.size && (s.parts[next + 1]?.map (·.isRecursive)).getD false then
          next := next + 1
      if isDir then
        found := found ++ (← fill s fuel path next)
        if next = last then return found ++ [path]
        idx := next + 1
      else if next = last then return []
      else idx := next + 1
    let some p := s.parts[idx]? | return found
    let some name := Path.fileName? path | return found
    if p.matches name then
      if idx = last then
        if !s.requireDir || isDir then return found ++ [path] else return found
      else return found ++ (← fill s fuel path (idx + 1))
    else return found

end

/-- パターンに当たる path を探す。パターンが読めなければ誤り。 -/
def glob (pattern : String) : m (Except PatternError (List String)) := do
  match Pattern.parse pattern with
  | .error e => return .error e
  | .ok _ =>
    let rooted := Path.isAbsolute pattern
    let body := if rooted then String.ofList pattern.toList.tail else pattern
    let pieces := body.splitOn "/"
    let pieces := if pieces.getLast? == some "" then pieces.dropLast else pieces
    match pieces.mapM Pattern.parse with
    | .error e => return .error e
    | .ok parts =>
      if parts.isEmpty then return .ok []
      let s : Search := ⟨parts.toArray, pattern.toList.getLast? == some '/'⟩
      let fuel ← MonadDisk.budget
      return .ok (← fill s (fuel + parts.length + 1) (if rooted then "/" else ".") 0)

end LogLint.Glob
