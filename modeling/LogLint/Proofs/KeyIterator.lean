import Mathlib
import LogLint.Call.Keys

/-!
# キーの反復子

呼び出しのキーを返す反復子 `KeyIter` を、`next?` を繰り返す実行として読む。

* `Drains it keys` — `it` から `next?` を繰り返すと、`keys` を順に返してから尽きる。有限の実行
  なので、反復子が尽きることも含む
* `Consumes it keys it'` — `it` から `keys` を返したところで、状態が `it'` になっている

呼び出しから作った反復子は、呼び出しの形から決まるキーの並び `expectedKeys` を返して尽きる
（`new_drains_expectedKeys`）。反復子の状態は値なので、途中まで進めた反復子を写したものは元と同じ
状態にあり、同じ残りを返す。残りは、返し終えたキーの数だけ `expectedKeys` を落としたものである。

## 仕組み

置かれ方ごとに一つずつ、位置 `i` から尽きるまでの実行を言う。

* フィールドの並び（`drains_fields`）— フィールドを作る呼び出しでない引数では、`next?` は次の
  位置に置いた反復子と同じ結果を返す（`next?_fields_skip`）。よって位置についての帰納法で、
  `i` 番目から後ろの引数のキーを順に返す
* キーと値の交互の並び（`drains_pairs`）— 二つ進むごとに、組の最初を一つ返す
-/

namespace LogLint

/-! ## フィールドを作る呼び出しのキー -/

/-- フィールドを作る呼び出しのキーは、呼び先の package（vendor を取り除いたもの）が
`go.uber.org/zap` で引数を一つ以上持つ呼び出しの、最初の引数。 -/
theorem Expr.fieldKey?_eq_some_iff {e key : Expr} :
    e.fieldKey? = some key ↔
      ∃ c, e.asCall? = some c ∧ c.pkgPath? = some zapPackage ∧ c.args.head? = some key := by
  simp only [Expr.fieldKey?, Option.bind_eq_bind, Option.bind_eq_some_iff]
  constructor
  · rintro ⟨c, hc, pkg, hpkg, h⟩
    split at h
    · next hz => exact ⟨c, hc, hz ▸ hpkg, h⟩
    · cases h
  · rintro ⟨c, hc, hpkg, hkey⟩
    exact ⟨c, hc, zapPackage, hpkg, by simp [hkey]⟩

namespace KeyIter

/-! ## 実行 -/

/-- `next?` を繰り返すと、`keys` を順に返してから尽きる。 -/
inductive Drains : KeyIter → List Expr → Prop
  | done {it : KeyIter} : it.next? = none → Drains it []
  | step {it it' : KeyIter} {key : Expr} {keys : List Expr} :
      it.next? = some (key, it') → Drains it' keys → Drains it (key :: keys)

/-- `next?` を繰り返して `keys` を返したところで、状態が `it'` になっている。 -/
inductive Consumes : KeyIter → List Expr → KeyIter → Prop
  | refl (it : KeyIter) : Consumes it [] it
  | step {it it' it'' : KeyIter} {key : Expr} {keys : List Expr} :
      it.next? = some (key, it') → Consumes it' keys it'' → Consumes it (key :: keys) it''

/-- 尽きるまでに返す並びは、状態から一つに決まる。 -/
theorem Drains.unique {it : KeyIter} {keys keys' : List Expr} (h : Drains it keys)
    (h' : Drains it keys') : keys = keys' := by
  induction h generalizing keys' with
  | done hn =>
    cases h' with
    | done _ => rfl
    | step hn' _ => rw [hn] at hn'; cases hn'
  | step hn _ ih =>
    cases h' with
    | done hn' => rw [hn] at hn'; cases hn'
    | step hn' hrest =>
      rw [hn, Option.some.injEq, Prod.mk.injEq] at hn'
      obtain ⟨rfl, rfl⟩ := hn'
      rw [ih hrest]

/-- 実行は `next?` の結果だけで決まる。 -/
theorem Drains.of_next?_eq {it it' : KeyIter} {keys : List Expr} (hn : it.next? = it'.next?)
    (h : Drains it' keys) : Drains it keys := by
  cases h with
  | done h => exact .done (hn.trans h)
  | step h hrest => exact .step (hn.trans h) hrest

/-- 尽きるまで返す実行の途中で止めると、残りの状態は残りのキーを返して尽きる。 -/
theorem Drains.remaining {it it' : KeyIter} {keys ks : List Expr} (h : Drains it keys)
    (hc : Consumes it ks it') : ∃ rest, keys = ks ++ rest ∧ Drains it' rest := by
  induction hc generalizing keys with
  | refl => exact ⟨keys, rfl, h⟩
  | step hn _ ih =>
    cases h with
    | done hn' => rw [hn] at hn'; cases hn'
    | step hn' hrest =>
      rw [hn, Option.some.injEq, Prod.mk.injEq] at hn'
      obtain ⟨rfl, rfl⟩ := hn'
      obtain ⟨rest, rfl, hrest'⟩ := ih hrest
      exact ⟨rest, rfl, hrest'⟩

/-- 尽きるまで返したキーの並びは、実行の結果。 -/
theorem drains_toList (it : KeyIter) : Drains it it.toList := by
  fun_induction toList it with
  | case1 it hn => exact .done (Option.attach_eq_none_iff.1 hn)
  | case2 it key it' hmem _ ih => exact .step hmem ih

/-! ## フィールドの並び -/

section Fields

variable {args : List Expr} {i : Nat}

theorem nextField_of_fieldKey?_eq_some (hi : i < args.length) {key : Expr}
    (hk : args[i].fieldKey? = some key) : nextField args i = some (key, i + 1) := by
  rw [nextField, dif_pos hi]
  split <;> simp_all

theorem nextField_of_fieldKey?_eq_none (hi : i < args.length) (hk : args[i].fieldKey? = none) :
    nextField args i = nextField args (i + 1) := by
  rw [nextField, dif_pos hi]
  split <;> simp_all

theorem nextField_of_length_le (hi : args.length ≤ i) : nextField args i = none := by
  rw [nextField, dif_neg (by omega)]

/-- フィールドを作る呼び出しでない引数は、飛ばしても `next?` の結果を変えない。 -/
theorem next?_fields_skip (hi : i < args.length) (hk : args[i].fieldKey? = none) :
    next? ⟨.fields, args, i⟩ = next? ⟨.fields, args, i + 1⟩ := by
  simp only [next?, nextField_of_fieldKey?_eq_none hi hk]

/-- **フィールドの並びでは、`i` 番目から後ろの引数のフィールドのキーを順に返して尽きる。** -/
theorem drains_fields (args : List Expr) (i : Nat) :
    Drains ⟨.fields, args, i⟩ ((args.drop i).filterMap Expr.fieldKey?) := by
  by_cases hi : i < args.length
  · rw [List.drop_eq_getElem_cons hi]
    cases hk : args[i].fieldKey? with
    | some key =>
      rw [List.filterMap_cons_some hk]
      refine .step ?_ (drains_fields args (i + 1))
      simp [next?, nextField_of_fieldKey?_eq_some hi hk]
    | none =>
      rw [List.filterMap_cons_none hk]
      exact (drains_fields args (i + 1)).of_next?_eq (next?_fields_skip hi hk)
  · rw [List.drop_eq_nil_of_le (by omega), List.filterMap_nil]
    exact .done (by simp [next?, nextField_of_length_le (show args.length ≤ i by omega)])
termination_by args.length - i

end Fields

/-! ## キーと値の交互の並び -/

/-- 二つずつ組にした各組の最初：`A[0], A[2], …, A[2k - 2]`（`k` は `A` の長さの半分）。 -/
def pairFirsts (A : List Expr) : List Expr :=
  (List.range (A.length / 2)).filterMap fun j => A[2 * j]?

theorem pairFirsts_cons_cons (a b : Expr) (rest : List Expr) :
    pairFirsts (a :: b :: rest) = a :: pairFirsts rest := by
  rw [pairFirsts, pairFirsts, List.length_cons, List.length_cons,
    show (rest.length + 1 + 1) / 2 = rest.length / 2 + 1 by omega, List.range_succ_eq_map,
    List.filterMap_cons_some (b := a) (by simp), List.filterMap_map]
  congr 1

theorem pairFirsts_of_length_le {A : List Expr} (h : A.length ≤ 1) : pairFirsts A = [] := by
  rw [pairFirsts, show A.length / 2 = 0 by omega, List.range_zero, List.filterMap_nil]

/-- **交互の並びでは、`i` 番目から後ろの組の最初を順に返して尽きる。** -/
theorem drains_pairs (args : List Expr) (i : Nat) :
    Drains ⟨.pairs, args, i⟩ (pairFirsts (args.drop i)) := by
  by_cases hi : i + 1 < args.length
  · rw [List.drop_eq_getElem_cons (by omega), List.drop_eq_getElem_cons hi, pairFirsts_cons_cons]
    refine .step ?_ (drains_pairs args (i + 2))
    simp [next?, hi]
  · rw [pairFirsts_of_length_le (by simp; omega)]
    exact .done (by simp [next?, hi])
termination_by args.length - i

theorem drains_empty (args : List Expr) (i : Nat) : Drains ⟨.empty, args, i⟩ [] :=
  .done rfl

end KeyIter

/-! ## 呼び出しのキー -/

/-- 呼び出しから取り出されるべきキーの並び。`A` を後ろの引数として、

* sugar でない呼び出しでは、`A` のうちフィールドを作る呼び出しの最初の引数を順に
* sugar で key/value を取るか `With` の呼び出しでは、組の最初 `A[0], A[2], …`
* それ以外では、何もない -/
def expectedKeys (c : Call) (s : Shape) : List Expr :=
  let A := s.variadic c.args
  if !s.isSugar then A.filterMap Expr.fieldKey?
  else if s.isKv || c.callee.any (·.name == "With") then KeyIter.pairFirsts A
  else []

/-- **呼び出しから作った反復子は、取り出されるべきキーを順に返して尽きる。** また、途中まで
進めた反復子は（写したものも同じ状態にあるので、それも）、返し終えたキーの数だけ落とした残りを
返して尽きる。 -/
theorem KeyIter.new_drains_expectedKeys (c : Call) (s : Shape) :
    Drains (new c s) (expectedKeys c s) ∧
      ∀ ks it, Consumes (new c s) ks it →
        ks = (expectedKeys c s).take ks.length ∧ Drains it ((expectedKeys c s).drop ks.length) := by
  have hall : Drains (new c s) (expectedKeys c s) := by
    unfold new expectedKeys KeyLayout.of
    split
    · exact drains_fields _ 0
    · split
      · exact drains_pairs _ 0
      · exact drains_empty _ 0
  refine ⟨hall, fun ks it hc => ?_⟩
  obtain ⟨rest, hrest, hit⟩ := hall.remaining hc
  rw [hrest]
  simpa using hit

/-- 規則が見るキーは、反復子が返すキーそのもの。 -/
theorem Call.keys_eq_expectedKeys (c : Call) (s : Shape) : c.keys s = expectedKeys c s :=
  ((KeyIter.drains_toList _).unique (KeyIter.new_drains_expectedKeys c s).1)

end LogLint
