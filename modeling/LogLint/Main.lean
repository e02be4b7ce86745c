import LogLint.Cli.Run

/-!
# コマンド行のプログラム

`zaplint` を今のディレクトリのファイルに対して一回実行し、標準出力と標準エラーに書いて、
終わりの状態で終わる。

ディスクへの問い合わせは、ファイルを読み書きすることだけでまかなう。読めたものはファイル、
「ディレクトリである」と断られたものはディレクトリとする。ディレクトリの中の名前は読めないので、
調べる書き出しは path で与える。
-/

namespace LogLint.Main

/-- 読めなかった理由を、ディスクの誤りに直す。 -/
def ioError (e : IO.Error) : IoError :=
  match e with
  | .noFileOrDirectory .. => .notFound
  | .inappropriateType _ _ details =>
    if details == "not a directory" then .notADirectory else .isADirectory
  | _ => .other (toString e)

/-- 読み書きだけでまかなうディスク。 -/
instance : MonadDisk IO where
  kind p := do
    try
      let _ ← IO.FS.readFile p
      return .ok .file
    catch e =>
      match ioError e with
      | .isADirectory => return .ok .dir
      | err => return .error err
  read p := do
    try return .ok (← IO.FS.readFile p)
    catch e => return .error (ioError e)
  write p content := do
    try
      IO.FS.writeFile p content
      return .ok ()
    catch e => return .error (ioError e)
  list _ := return .error (.other "directory listing is not available")
  budget := return 4096

end LogLint.Main

/-- コマンド行の引数で一回実行する。 -/
def main (args : List String) : IO UInt32 := do
  let o ← LogLint.Cli.run args
  IO.print o.stdout
  IO.eprint o.stderr
  return o.exit.toUInt32
