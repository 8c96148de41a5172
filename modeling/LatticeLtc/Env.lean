import LatticeLtc.Model

/-! # The environment of the container

`buildEnvironment` turns the `-e` tokens into a map: each token is split at `=` (`parseEnvVarPair`),
its name is the text before the first `=` and its value the text between the first and the second
`=`; an empty value is replaced by the one read from the inherited environment (`grabVarFromEnv`:
the value of the first inherited entry that starts with the name). Later tokens overwrite earlier
ones.

Cutting the value at a second `=` (`A=b=c` sets `b`), and reading an inherited entry that merely
begins with the name (`FOOBAR=x` for `FOO`), are slips of `parseEnvVarPair` and `grabVarFromEnv`
(`buildEnvironment_prefix_entry`); the results below leave them out.

* `parseEnvVarPair_eq`: the name and the value of a token;
* `mem_buildEnvironment`: the keys are the names of the tokens;
* `lookup_buildEnvironment`: a name maps to what its last token gives;
* `buildEnvironment_values`: the same, in terms of the text of the token, for a value without a
  further `=`;
* `buildEnvironment_perm`: the order of tokens with different names does not matter. -/

namespace LatticeLtc.Env

open LatticeLtc.Go.Strings LatticeLtc.Model

/-- `parseEnvVarPair(envVarPair)`: the name and the value. -/
def parseEnvVarPair (envVarPair : Str) : Str × Str :=
  let s := split '=' envVarPair
  if s.length > 1 then (s.getD 0 [], s.getD 1 []) else (s.getD 0 [], [])

/-- `grabVarFromEnv(name)` over the inherited environment `env`. -/
def grabVarFromEnv (name : Str) : List Str → Str
  | [] => []
  | envVarPair :: env =>
    if hasPrefix envVarPair name then (parseEnvVarPair envVarPair).2 else grabVarFromEnv name env

/-- The value a token sets: its own, or the inherited one when its own is empty. -/
def envVarValue (env : List Str) (envVarPair : Str) : Str :=
  let (name, value) := parseEnvVarPair envVarPair
  if value = [] then grabVarFromEnv name env else value

/-- One turn of the loop of `buildEnvironment`: `environment[name] = value`. -/
def setEnvVar (env : List Str) (environment : EnvMap) (envVarPair : Str) : EnvMap :=
  environment.insert (parseEnvVarPair envVarPair).1 (envVarValue env envVarPair)

/-- `buildEnvironment(envVars)`, `env` the inherited environment. -/
def buildEnvironment (env : List Str) (envVars : List Str) : EnvMap :=
  envVars.foldl (setEnvVar env) ∅

theorem parseEnvVarPair_eq (envVarPair : Str) :
    parseEnvVarPair envVarPair =
      (before '=' envVarPair, if '=' ∈ envVarPair then before '=' (after '=' envVarPair) else []) := by
  simp only [parseEnvVarPair]
  by_cases h : '=' ∈ envVarPair
  · rw [split_eq, if_pos h, split_eq '=' (after '=' envVarPair)]
    simp [h]
  · rw [split_eq, if_neg h]
    simp [h]

/-! ### The loop -/

variable (env : List Str)

theorem mem_foldl_setEnvVar (k : Str) :
    ∀ (envVars : List Str) (m : EnvMap), k ∈ envVars.foldl (setEnvVar env) m ↔
      k ∈ m ∨ ∃ t ∈ envVars, (parseEnvVarPair t).1 = k
  | [], m => by simp
  | t :: envVars, m => by
    rw [List.foldl_cons, mem_foldl_setEnvVar k envVars, setEnvVar, AList.mem_insert]
    simp only [List.mem_cons, exists_eq_or_imp]
    tauto

/-- Tokens of other names leave a name's value alone. -/
theorem lookup_foldl_setEnvVar_of_ne (k : Str) :
    ∀ (envVars : List Str) (m : EnvMap), (∀ t ∈ envVars, (parseEnvVarPair t).1 ≠ k) →
      (envVars.foldl (setEnvVar env) m).lookup k = m.lookup k
  | [], m, _ => rfl
  | t :: envVars, m, h => by
    rw [List.foldl_cons, lookup_foldl_setEnvVar_of_ne k envVars _ fun t' ht' => h t' (by simp [ht']),
      setEnvVar, AList.lookup_insert_ne (h t (by simp)).symm]

/-- **The keys are the names of the tokens.** -/
theorem mem_buildEnvironment (envVars : List Str) (k : Str) :
    k ∈ buildEnvironment env envVars ↔ ∃ t ∈ envVars, before '=' t = k := by
  simp [buildEnvironment, mem_foldl_setEnvVar, parseEnvVarPair_eq]

/-- **Last wins**: a name maps to the value its last token sets. -/
theorem lookup_buildEnvironment (pre post : List Str) (t : Str)
    (hpost : ∀ t' ∈ post, before '=' t' ≠ before '=' t) :
    (buildEnvironment env (pre ++ t :: post)).lookup (before '=' t) = some (envVarValue env t) := by
  rw [buildEnvironment, List.foldl_append, List.foldl_cons,
    lookup_foldl_setEnvVar_of_ne env _ post _ fun t' ht' => by simpa [parseEnvVarPair_eq] using hpost t' ht',
    setEnvVar, parseEnvVarPair_eq, AList.lookup_insert]

/-- **The map `buildEnvironment` returns.** Its keys are the names of the tokens; a name whose last
token holds `=`, with no further `=` after it, maps to the text after the `=` when that text is not
empty, and otherwise to the value `grabVarFromEnv` reads from the inherited environment. -/
theorem buildEnvironment_values (envVars : List Str) :
    (∀ k, k ∈ buildEnvironment env envVars ↔ ∃ t ∈ envVars, before '=' t = k) ∧
    ∀ pre post t, envVars = pre ++ t :: post → (∀ t' ∈ post, before '=' t' ≠ before '=' t) →
      '=' ∈ t → '=' ∉ after '=' t → (buildEnvironment env envVars).lookup (before '=' t) =
        some (if after '=' t = [] then grabVarFromEnv (before '=' t) env else after '=' t) := by
  refine ⟨mem_buildEnvironment env envVars, fun pre post t he hpost ht hv => ?_⟩
  subst he
  rw [lookup_buildEnvironment env pre post t hpost]
  simp only [envVarValue, parseEnvVarPair_eq, if_pos ht, before_of_not_mem '=' hv]

theorem buildEnvironment_values_one_token :
    (buildEnvironment [] ["A=b".toList]).lookup (before '=' "A=b".toList) = some "b".toList :=
  ((buildEnvironment_values [] ["A=b".toList]).2 [] [] _ rfl (by simp) (by decide) (by decide)).trans
    (by decide)

/-- An empty value takes the inherited one, and a value is cut at a second `=`. -/
theorem buildEnvironment_value_not_verbatim :
    (buildEnvironment ["A=x".toList] ["A=".toList]).lookup "A".toList = some "x".toList ∧
      (buildEnvironment [] ["A=b=c".toList]).lookup "A".toList = some "b".toList := by
  decide

/-- A bare name reads the first inherited entry that begins with it, `FOOBAR=x` before `FOO=y`,
and the value of the entry is cut at its second `=`. -/
theorem buildEnvironment_prefix_entry :
    (buildEnvironment ["FOOBAR=x".toList, "FOO=y".toList] ["FOO".toList]).lookup "FOO".toList =
      some "x".toList ∧
    (buildEnvironment ["FOO=a=b".toList] ["FOO".toList]).lookup "FOO".toList = some "a".toList := by
  decide

/-! ### The order of the tokens -/

/-- With names all different, a token's value is the one its name maps to. -/
theorem lookup_buildEnvironment_of_nodup {envVars : List Str} (hnames : (envVars.map (before '=')).Nodup)
    {t : Str} (ht : t ∈ envVars) :
    (buildEnvironment env envVars).lookup (before '=' t) = some (envVarValue env t) := by
  obtain ⟨pre, post, rfl⟩ := List.append_of_mem ht
  refine lookup_buildEnvironment env pre post t fun t' ht' he => ?_
  simp only [List.map_append, List.map_cons, List.nodup_append, List.nodup_cons] at hnames
  exact hnames.2.1.1 (List.mem_map.mpr ⟨t', ht', he⟩)

/-- **The order of the `-e` tokens does not matter when their names differ**: two token lists that
are permutations of one another, with pairwise different names, give every name the same value (and
no value to the same names), whatever the inherited environment. With a repeated name the last
token wins, and the order matters. -/
theorem buildEnvironment_perm {l₁ l₂ : List Str} (hperm : l₁.Perm l₂)
    (hnames : (l₁.map (before '=')).Nodup) (k : Str) :
    (buildEnvironment env l₁).lookup k = (buildEnvironment env l₂).lookup k := by
  have hnames₂ := (hperm.map _).nodup_iff.mp hnames
  by_cases hk : ∃ t ∈ l₁, before '=' t = k
  · obtain ⟨t, ht, rfl⟩ := hk
    rw [lookup_buildEnvironment_of_nodup env hnames ht,
      lookup_buildEnvironment_of_nodup env hnames₂ (hperm.subset ht)]
  · have hk₂ : ¬∃ t ∈ l₂, before '=' t = k := fun ⟨t, ht, he⟩ => hk ⟨t, hperm.symm.subset ht, he⟩
    rw [AList.lookup_eq_none.mpr (by rwa [mem_buildEnvironment]),
      AList.lookup_eq_none.mpr (by rwa [mem_buildEnvironment])]

theorem buildEnvironment_perm_swap :
    (["A=1".toList, "B".toList] : List Str).Perm ["B".toList, "A=1".toList] ∧
    ((["A=1".toList, "B".toList] : List Str).map (before '=')).Nodup ∧
    (buildEnvironment ["B=2".toList] ["A=1".toList, "B".toList]).lookup "B".toList =
      (buildEnvironment ["B=2".toList] ["B".toList, "A=1".toList]).lookup "B".toList :=
  ⟨.swap _ _ _, by decide, buildEnvironment_perm ["B=2".toList] (.swap _ _ _) (by decide) _⟩

example : (buildEnvironment [] ["A=1".toList, "A=2".toList]).lookup "A".toList = some "2".toList ∧
    (buildEnvironment [] ["A=2".toList, "A=1".toList]).lookup "A".toList = some "1".toList := by
  decide

end LatticeLtc.Env
