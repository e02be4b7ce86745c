import LogLint.Config.Read
import LogLint.Fs.Path
import LogLint.Session
import LogLint.Text.Quoted

/-!
# 設定ファイルを探して読む

設定ファイル `.zaplintrc.json` は、探し始めのディレクトリから親へ向かって探す。各ディレクトリで

1. `.zaplintrc.json` があれば、それ
2. `.git` があれば、そこで探すのをやめる（設定なし）
3. なければ親へ。親がなければ設定なし

見つけたファイルは読んで確かめる。読めない、JSON として読めない、確かめられないときは止まる。
誤りの文には path を引用符で囲んで書く（`Text.quoted`）。

## 停止性

親へ進むたびに path の綴りが短くなる（`Path.parent?`）。探す回数は綴りの長さで足りる。
-/

namespace LogLint

/-- 設定ファイルの名前。 -/
def configFileName : String := ".zaplintrc.json"

namespace Config

variable {m : Type → Type} [Monad m] [MonadDisk m]

/-- `dir` から親へ向かって設定ファイルを探す。 -/
def search : Nat → String → m (Option String)
  | 0, _ => return none
  | fuel + 1, dir => do
    let file := Path.join dir configFileName
    if ← MonadDisk.exists? file then return some file
    if ← MonadDisk.exists? (Path.join dir ".git") then return none
    match Path.parent? dir with
    | some up => search fuel up
    | none => return none

/-- 設定ファイルを探して読む。見つからなければ既定の設定。ファイルから読んだかも返す。 -/
def load (start : String) : Session m (Config × Bool) := do
  match ← search (start.length + 2) start with
  | none => return ({}, false)
  | some file =>
    let text ← match ← MonadDisk.read file with
      | .ok t => pure t
      | .error e => throw ("Failed to read config file: " ++ Text.quoted file ++ ": " ++ e.text)
    let config ← match Config.read text with
      | .ok c => pure c
      | .error e => throw ("Failed to parse config file: " ++ Text.quoted file ++ ": " ++ e.message)
    match config.validate with
    | .ok _ => return (config, true)
    | .error e => throw e.message

end Config

end LogLint
