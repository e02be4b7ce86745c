import LogLint.Cli.Help
import LogLint.Cli.Error
import LogLint.Text.Jaro

/-!
# コマンド行を読む

引数を左から一つずつ読む。

## 読み方

* `--` の後の引数は、どれも位置の引数
* `--name` と `--name=値` は長い名前の選択肢、`-abc` は短い名前の選択肢を一文字ずつ。`-` だけは値
* 値を一つ取る選択肢に値を付けなければ、次の引数（選択肢でないもの）がその値
* ほかは位置の引数。根では、コマンドの名前ならそのコマンドを残りの引数で読む

読んだ値はすぐには確かめない。選択肢が受けた値と位置の引数の値は「保留」にしておき、次に
選択肢を使うとき、位置の引数が選択肢の後に来たとき、引数が尽きたときに確かめて納める。そのため
同じ誤りが、後の引数によって出たり出なかったりする。知らない選択肢に出会ったときは、保留を
確かめた結果を捨てて、知らない選択肢の誤りを出す。

## 近い名前

知らない名前には、Jaro の近さ（`Text.jaro`）が 0.7 を超える名前を薦める。選択肢には一番近い
一つ（同じ近さなら後に定めたもの）、コマンドには近さの小さい順にすべて。

## 停止性

どの読み方も引数の列を一つずつ進む。
-/

namespace LogLint.Cli

/-- 近さが 0.7 を超える候補を、近さの小さい順に並べる。同じ近さなら候補の順。 -/
def similarNames (name : String) (candidates : List String) : List String :=
  let threshold : Float := Float.ofNat 7 / Float.ofNat 10
  let scored := candidates.filterMap fun c =>
    let s := Text.jaro name c
    if threshold < s then some (s, c) else none
  (scored.mergeSort fun a b => decide (a.1 ≤ b.1)).map (·.2)

/-- 読んだ値：選択肢と位置の引数の id ごとに、初めて現れた順。 -/
structure Matches where
  entries : List (String × List String) := []
  deriving DecidableEq, Repr

namespace Matches

/-- その id が現れたか。 -/
def has (m : Matches) (id : String) : Bool := m.entries.any (·.1 == id)

/-- その id の値。 -/
def values (m : Matches) (id : String) : List String :=
  ((m.entries.find? (·.1 == id)).map (·.2)).getD []

/-- その id が現れたことを記す。前からあれば順は変えない。 -/
def start (m : Matches) (id : String) : Matches :=
  if m.has id then m else ⟨m.entries ++ [(id, [])]⟩

/-- その id の値を一つ足す。 -/
def push (m : Matches) (id v : String) : Matches :=
  ⟨m.entries.map fun (k, vs) => if k == id then (k, vs ++ [v]) else (k, vs)⟩

/-- 現れた id。 -/
def ids (m : Matches) : List String := m.entries.map (·.1)

/-- 最後の値。 -/
def last? (m : Matches) (id : String) : Option String := (m.values id).getLast?

end Matches

/-- 値を受けるところ：選択肢か位置の引数。 -/
inductive Slot where
  | opt (o : Opt)
  | pos (p : Positional)
  deriving DecidableEq, Repr

namespace Slot

/-- 値を引く名前。 -/
def id : Slot → String
  | .opt o => o.id
  | .pos p => p.id

/-- 書き方。 -/
def display : Slot → String
  | .opt o => o.display
  | .pos p => p.display

/-- 値の読み方。 -/
def kind? : Slot → Option ValueKind
  | .opt o => o.valueKind?
  | .pos p => some p.kind

/-- 一度に要る値の数の下限。 -/
def minValues : Slot → Nat
  | .opt o => o.minValues
  | .pos _ => 1

end Slot

/-- まだ確かめていない値。 -/
structure Pending where
  slot : Slot
  values : List String
  deriving DecidableEq, Repr

/-- 読んでいる途中の様子。 -/
structure State where
  found : Matches := {}
  pending : Option Pending := none
  /-- 保留の選択肢が、次の引数を値として待っているか。 -/
  awaiting : Bool := false
  /-- `--` の後か。 -/
  trailing : Bool := false
  deriving DecidableEq, Repr

/-- 読むのをやめる理由：文を見せて終わるか、誤り。 -/
inductive Stop where
  | display (text : String)
  | fail (e : Error)
  deriving DecidableEq, Repr

/-- 読んでいるコマンドと、使い方と版の選択肢が見せる文。 -/
structure Frame where
  command : Command
  helpText : String
  versionText : String

namespace Frame

/-- 値を一つ確かめる。 -/
def check (f : Frame) (slot : Slot) (v : String) : Option Error :=
  match slot.kind? with
  | some .path =>
    if v.isEmpty then some { fault := .invalidValue slot.display "" [], helpFlag := f.command.helpFlag }
    else none
  | some .bool =>
    if v == "true" || v == "false" then none
    else some {
      fault := .invalidValue slot.display v ValueKind.bool.possible
      similar := (similarNames v ValueKind.bool.possible).getLast?.map .value
      helpFlag := f.command.helpFlag }
  | _ => none

/-- 値を確かめながら順に納める。誤りの値の前までは納める。 -/
def pushValues (f : Frame) (slot : Slot) : Matches → List String → Matches × Option Stop
  | m, [] => (m, none)
  | m, v :: vs =>
    match f.check slot v with
    | some e => (m, some (.fail e))
    | none => f.pushValues slot (m.push slot.id v) vs

/-- 選択肢や位置の引数に値を納める。 -/
def store (f : Frame) (st : State) (slot : Slot) (vals : List String) : State × Option Stop :=
  let fill (m : Matches) (vs : List String) : State × Option Stop :=
    let (m, stop) := f.pushValues slot (m.start slot.id) vs
    ({ st with found := m }, stop)
  match slot with
  | .pos _ => fill st.found vals
  | .opt o =>
    match o.action with
    | .help => (st, some (.display f.helpText))
    | .version => (st, some (.display f.versionText))
    | .many _ _ d => fill st.found (vals.flatMap (·.splitOn (String.singleton d)))
    | _ =>
      if st.found.has o.id then
        (st, some (.fail {
          fault := .repeated o.display
          usage := some f.command.helpUsage
          helpFlag := f.command.helpFlag }))
      else fill st.found vals

/-- 値の数を確かめてから納める。値のない選択肢は既定の値を受ける。 -/
def apply (f : Frame) (st : State) (slot : Slot) (vals : List String) : State × Option Stop :=
  if 0 < slot.minValues && vals.isEmpty then
    (st, some (.fail {
      fault := .invalidValue slot.display "" ((slot.kind?.map ValueKind.possible).getD [])
      helpFlag := f.command.helpFlag }))
  else
    let vals := if !vals.isEmpty then vals
      else match slot with
        | .opt { action := .attached _ _ missing, .. } => [missing]
        | .opt { action := .flag, .. } => ["true"]
        | _ => []
    f.store st slot vals

/-- 保留の値を確かめて納める。 -/
def resolve (f : Frame) (st : State) : State × Option Stop :=
  match st.pending with
  | none => (st, none)
  | some p => f.apply { st with pending := none, awaiting := false } p.slot p.values

/-- 保留を納めてから、選択肢を使う。 -/
def react (f : Frame) (st : State) (slot : Slot) (vals : List String) : State × Option Stop :=
  match f.resolve st with
  | (st, some s) => (st, some s)
  | (st, none) => f.apply st slot vals

/-- 位置の引数の値として渡す方法の助言。 -/
def trailingTip (f : Frame) (st : State) (arg : String) : List String :=
  if !st.trailing && f.command.positional.isSome then
    ["to pass '" ++ arg ++ "' as a value, use '-- " ++ arg ++ "'"]
  else []

/-- 知らない長い名前の誤り。`elsewhere` は、下のコマンドにある近い選択肢。 -/
def unknownLong (f : Frame) (st : State) (name : String)
    (elsewhere : Option (String × String)) : Error :=
  let c := f.command
  let arg := "--" ++ name
  let near := (similarNames name c.longs).getLast?
  let m := match near.bind c.findLong with
    | some o => st.found.start o.id
    | none => st.found
  let other := match near, elsewhere with
    | none, some (sub, l) => ["'" ++ sub ++ " --" ++ l ++ "' exists"]
    | _, _ => []
  let tips := if near.isNone && elsewhere.isNone then f.trailingTip st arg else other
  { fault := .unknownArgument arg
    similar := near.map fun l => .argument ("--" ++ l)
    tips := tips
    usage := some (c.usage m.ids)
    helpFlag := c.helpFlag }

/-- 短い名前を一文字ずつ使う。 -/
def shortCluster (f : Frame) : State → List Char → State × Option Stop
  | st, [] => (st, none)
  | st, ch :: rest =>
    match f.command.findShort ch with
    | some o =>
      match f.react st (.opt o) [] with
      | (st, some s) => (st, some s)
      | (st, none) => f.shortCluster st rest
    | none =>
      let (st, _) := f.resolve st
      let arg := "-" ++ String.singleton ch
      (st, some (.fail {
        fault := .unknownArgument arg
        tips := f.trailingTip st arg
        usage := some f.command.helpUsage
        helpFlag := f.command.helpFlag }))

end Frame

/-- 長い名前の選択肢か。 -/
def isLong (a : String) : Bool := a.startsWith "--" && a != "--"

/-- 短い名前の選択肢か。 -/
def isShort (a : String) : Bool := a.startsWith "-" && !a.startsWith "--" && a != "-"

/-- `--name=値` を名前と値に分ける。 -/
def splitLong (a : String) : String × Option String :=
  let body := a.toList.drop 2
  match body.splitOn '=' with
  | [] => ("", none)
  | [name] => (String.ofList name, none)
  | name :: rest => (String.ofList name, some (String.ofList ((rest.intersperse ['=']).flatten)))

/-- 長い名前の選択肢を使う。 -/
def Frame.useLong (f : Frame) (st : State) (o : Opt) (value? : Option String) :
    State × Option Stop :=
  if o.takesValues then
    match o.action, value? with
    | .attached .., v => f.react st (.opt o) v.toList
    | _, some v => f.react st (.opt o) [v]
    | _, none =>
      match f.resolve st with
      | (st, some s) => (st, some s)
      | (st, none) => ({ st with pending := some ⟨.opt o, []⟩, awaiting := true }, none)
  else
    match value? with
    | some v =>
      (st, some (.fail {
        fault := .unexpectedValue o.display v
        usage := some (f.command.usage (st.found.ids ++ [o.id]))
        helpFlag := f.command.helpFlag }))
    | none => f.react st (.opt o) []

/-- 下のコマンドの引数を読む。 -/
def Frame.parse (f : Frame) : State → List String → Except Stop Matches
  | st, [] =>
    match f.resolve st with
    | (_, some s) => .error s
    | (st, none) => .ok st.found
  | st, a :: rest =>
    if !st.trailing && a == "--" then f.parse { st with trailing := true } rest
    else if !st.trailing && isLong a then
      let (name, value?) := splitLong a
      match f.command.findLong name with
      | some o =>
        match f.useLong st o value? with
        | (_, some s) => .error s
        | (st, none) => f.parse st rest
      | none =>
        let (st, _) := f.resolve st
        .error (.fail (f.unknownLong st name none))
    else if !st.trailing && isShort a then
      match f.shortCluster st (a.toList.drop 1) with
      | (_, some s) => .error s
      | (st, none) => f.parse { st with awaiting := false } rest
    else if !st.trailing && st.awaiting then
      let pending := st.pending.map fun p => { p with values := p.values ++ [a] }
      f.parse { st with pending := pending, awaiting := false } rest
    else
      match f.command.positional with
      | some p =>
        let continuing : Bool := match st.pending with
          | some q => q.slot == .pos p
          | none => false
        let resolved := if continuing then (st, none) else f.resolve st
        match resolved with
        | (_, some s) => .error s
        | (st, none) =>
          let before := if continuing then (st.pending.map (·.values)).getD [] else []
          f.parse { st with pending := some ⟨.pos p, before ++ [a]⟩ } rest
      | none =>
        .error (.fail {
          fault := .unknownArgument a
          usage := some f.command.helpUsage
          helpFlag := f.command.helpFlag })

namespace Program

/-- 根の読み方。 -/
def rootFrame (p : Program) : Frame := ⟨p.root, p.rootHelp, p.versionText⟩

/-- 下のコマンドの読み方。 -/
def frameOf (p : Program) (c : Command) : Frame := ⟨c, p.commandHelp c, p.versionText⟩

/-- 使い方を見せるコマンド：名前を辿ったコマンドの使い方。 -/
def helpFor (p : Program) : Option Command → List String → Stop
  | none, [] => .display p.rootHelp
  | some c, [] => .display (p.commandHelp c)
  | none, n :: ns =>
    match p.findCommand n with
    | some c => p.helpFor (some c) ns
    | none => .fail {
        fault := .unrecognizedSubcommand n
        usage := some p.root.helpUsage
        helpFlag := p.root.helpFlag }
  | some c, n :: _ => .fail {
      fault := .unrecognizedSubcommand n
      usage := some c.helpUsage
      helpFlag := c.helpFlag }

/-- 根で知らない長い名前に近い、下のコマンドの選択肢。そのコマンドの名前が残りの引数にあるものだけ。 -/
def elsewhere (p : Program) (name : String) (rest : List String) : Option (String × String) :=
  p.allCommands.findSome? fun c =>
    ((similarNames name c.longs).getLast?).bind fun l =>
      if rest.contains c.name then some (c.name, l) else none

/-- 根に置けない引数の誤り。 -/
def stray (p : Program) (st : State) (a : String) : Error :=
  let usage := some p.root.helpUsage
  if st.trailing && (p.findCommand a).isSome then
    { fault := .unknownArgument a
      tips := ["subcommand '" ++ a ++ "' exists; to use it, remove the '--' before it"]
      usage := usage
      helpFlag := p.root.helpFlag }
  else
    match similarNames a (p.allCommands.map (·.name)) with
    | [] => { fault := .unrecognizedSubcommand a, usage := usage, helpFlag := p.root.helpFlag }
    | names =>
      { fault := .unrecognizedSubcommand a
        similar := some (.subcommands names)
        usage := usage
        helpFlag := p.root.helpFlag }

/-- 根の引数を読み、選んだコマンドとその値を返す。コマンドがなければ根の使い方を見せる。 -/
def parseFrom (p : Program) : State → List String → Except Stop (Command × Matches)
  | _, [] => .error (.display p.rootHelp)
  | st, a :: rest =>
    let f := p.rootFrame
    match (if st.trailing then none else p.findCommand a) with
    | some c =>
      if c.name == p.helpCommand.name then .error (p.helpFor none rest)
      else ((p.frameOf c).parse {} rest).map (c, ·)
    | none =>
      if !st.trailing && a == "--" then p.parseFrom { st with trailing := true } rest
      else if !st.trailing && isLong a then
        let (name, value?) := splitLong a
        match p.root.findLong name with
        | some o =>
          match f.useLong st o value? with
          | (_, some s) => .error s
          | (st, none) => p.parseFrom st rest
        | none => .error (.fail (f.unknownLong st name (p.elsewhere name rest)))
      else if !st.trailing && isShort a then
        match f.shortCluster st (a.toList.drop 1) with
        | (_, some s) => .error s
        | (st, none) => p.parseFrom st rest
      else .error (.fail (p.stray st a))

/-- コマンド行を読む。 -/
def parse (p : Program) (args : List String) : Except Stop (Command × Matches) := p.parseFrom {} args

end Program

end LogLint.Cli
