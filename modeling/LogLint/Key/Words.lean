import LogLint.Unicode.Alphanumeric
import LogLint.Unicode.Cased
import LogLint.Unicode.CaseMapping

/-!
# キーを単語に分ける

キーの名前を単語の列にし、単語を小文字や頭文字だけ大文字の形にする。

## 単語の切り方

まず英数字でない文字（`Unicode.isAlphanumeric` でないもの）で切る。切れた一つ一つを、
大文字と小文字の境目でさらに切る。直前までの「調子」（最後の cased な文字が小文字か大文字か、
まだないか）を持って左から読み、

* 調子が小文字のところへ大文字が来る — 大文字の前で切る（`userID` → `user` `ID`）
* 調子が大文字で、大文字の次に小文字が来る — その大文字の前で切る（`HTTPServer` → `HTTP` `Server`）

数字と case を持たない文字は調子を変えないので、前の単語に付く（`key1Name` → `key1` `Name`）。
大文字・小文字の判定は派生プロパティ Uppercase と Lowercase を使う。

## 単語の形

* `lowerWord` — 各文字を小文字にする。ただし単語の最後の `Σ` は語末形 `ς` にする
* `capitalWord` — 最初の文字を大文字にし、残りを `lowerWord` にする

大文字化と小文字化は複数文字になりうる（`ß` → `SS`）ので、変換した名前をもう一度切ると
単語の境目が変わることがある。

## 停止性

`splitWord` は文字の列の上の構造的な再帰である。
-/

namespace LogLint.Key

open LogLint.Unicode

/-- 語の中の調子：最後の cased な文字が小文字か大文字か、まだないか。 -/
inductive Mode where
  | boundary
  | lower
  | upper
  deriving DecidableEq, Repr

/-- `c` を読んだ後の調子（そこで切れないとき）。 -/
def Mode.after (mode : Mode) (c : Char) : Mode :=
  if isLowercase c then .lower else if isUppercase c then .upper else mode

/-- 英数字の続き一つを、大文字と小文字の境目で単語に切る。`cur` は読みかけの単語。 -/
def splitWord : Mode → List Char → List Char → List (List Char)
  | _, [], [] => []
  | _, cur, [] => [cur]
  | mode, cur, c :: rest =>
    match rest with
    | [] => [cur ++ [c]]
    | next :: _ =>
      if mode.after c = .lower && isUppercase next then
        (cur ++ [c]) :: splitWord .boundary [] rest
      else if mode = .upper && isUppercase c && isLowercase next then
        cur :: splitWord .boundary [c] rest
      else splitWord (mode.after c) (cur ++ [c]) rest
termination_by structural _ _ cs => cs

/-- 名前を単語の列にする。 -/
def words (s : String) : List (List Char) :=
  (s.toList.splitOnP fun c => !isAlphanumeric c).flatMap (splitWord .boundary [])

/-- 単語を小文字にする。最後の `Σ` だけは語末形 `ς` になる。 -/
def lowerWord : List Char → List Char
  | [] => []
  | [c] => if c = 'Σ' then ['ς'] else toLowerChars c
  | c :: rest => toLowerChars c ++ lowerWord rest

/-- 単語の最初の文字を大文字に、残りを小文字にする。 -/
def capitalWord : List Char → List Char
  | [] => []
  | c :: rest => toUpperChars c ++ lowerWord rest

end LogLint.Key
