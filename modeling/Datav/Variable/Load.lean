import Datav.Variable.Basic

/-!
# `loadValues`

`loadValues` (lines 128-243 of `Loader.tsx`) first settles on a candidate list:
the list kept in `VariableManuallyChangedKey`, a fresh query, or `[]` after an
error response. It then repairs the selection against that list and reloads the
dependent variables when the selection changed or is the All sentinel.

* `loadValues_selection`: the list becomes `v.values`; when it differs from the
  previous one the selection is empty, All, or made of candidates (if no candidate
  holds the separator), and keeps exactly the surviving components, in order; when
  it is the same list the selection is left as it was.
-/

namespace Datav

variable (K : LoaderEnv)

/-- The components of the selection `s` that are still candidates. -/
def keptSelected (s : String) (result : List String) : List String :=
  (split s K.VariableSplitChar).filter (· ∈ result)

/-- The selection repair (lines 188-205) against the candidate list `result`. -/
def repairSelected (selected : Option String) (values : Option (List String))
    (result : List String) : Option String :=
  if values = some result then selected
  else if selected = some K.VarialbeAllOption then selected
  else
    match selected with
    | none => none
    | some s =>
      if s = "" then some s
      else if keptSelected K s result = [] then result.head?
      else some (join (keptSelected K s result) K.VariableSplitChar)

/-- What a `loadValues` call leaves: the variable, the `VariableManuallyChangedKey`
record, the ids that get a `VariableForceReload` 100 ms later, and whether it
published the variable (`PanelVariableChangeEvent`, or `$variables.set`). -/
structure LoadOutput where
  v : Variable
  record : ManualRecord
  reloads : List VariableId
  published : Bool

/-- Lines 188-242, once the candidate list `result` is known. `vars` is
`$variables.get()`. -/
def settleLoad (v : Variable) (vars : List Variable) (result : List String) (needQuery : Bool)
    (record : ManualRecord) : LoadOutput :=
  let selected := repairSelected K v.selected v.values result
  { v := { v with selected := selected, values := some result }
    record := record
    reloads :=
      if selected ≠ v.selected ∨ selected = some K.VarialbeAllOption then dependents K v vars
      else []
    published := needQuery }

/-- The kept candidate list (lines 139-154), when `loadValues` may use it. -/
def cachedValues (v : Variable) (forceLoad : Bool) (record : ManualRecord) :
    Option (List String) :=
  if !forceLoad && storesValues v then record (manualKey v.teamId v.id) else none

/-- What one `loadValues` call reads besides `v`. -/
structure LoadInput where
  forceLoad : Bool
  record : ManualRecord
  /-- `$variables.get()`. -/
  vars : List Variable
  /-- The names of the datasources of the store. -/
  datasources : List String
  answer : PluginAnswer

/-- Lines 128-186: the candidate list, `needQuery` and the record, or `none` when
`loadValues` returns early (a text input, or a query that throws). -/
def fetchValues (v : Variable) (inp : LoadInput) :
    Option (List String × Bool × ManualRecord) :=
  if v.type = .TextInput then none
  else
    let result := if v.enableAll then [K.VarialbeAllOption] else []
    match cachedValues v inp.forceLoad inp.record with
    | some vs1 => some (result ++ vs1, false, inp.record)
    | none =>
      (queryVariableValues K v inp.datasources inp.answer).map fun res =>
        if truthy res.error then ([], true, inp.record)
        else
          let data := res.data.map sortValues
          (result ++ data.getD [], true,
            if storesValues v then Function.update inp.record (manualKey v.teamId v.id) data
            else inp.record)

/-- `loadValues(v, forceLoad)`. -/
def loadValues (v : Variable) (inp : LoadInput) : LoadOutput :=
  match fetchValues K v inp with
  | none => ⟨v, inp.record, [], false⟩
  | some (result, needQuery, record) => settleLoad K v inp.vars result needQuery record

/-- A selection that is empty, the All sentinel, or made of candidates only. -/
def selectionValid (selected : Option String) (values : List String) : Bool :=
  match selected with
  | none => true
  | some s => s == "" || s == K.VarialbeAllOption ||
      (split s K.VariableSplitChar).all (· ∈ values)

variable {K}

theorem loadValues_of_fetch {v : Variable} {inp : LoadInput} {r : List String} {nq : Bool}
    {rec : ManualRecord} (h : fetchValues K v inp = some (r, nq, rec)) :
    loadValues K v inp = settleLoad K v inp.vars r nq rec := by
  simp [loadValues, h]

theorem repairSelected_of_eq {sel : Option String} {r : List String} :
    repairSelected K sel (some r) r = sel := by
  simp [repairSelected]

theorem keptSelected_sub {s c : String} {r : List String} (h : c ∈ keptSelected K s r) :
    c ∈ r ∧ K.VariableSplitChar ∉ c.toList := by
  simp only [keptSelected, List.mem_filter, decide_eq_true_eq] at h
  exact ⟨h.2, not_mem_of_mem_split h.1⟩

theorem split_of_not_mem {s : String} {c : Char} (h : c ∉ s.toList) : split s c = [s] := by
  simp only [split, List.splitOn]
  rw [List.splitOnP_eq_single _ _ fun x hx hxc => h (by simpa using beq_iff_eq.1 hxc ▸ hx)]
  rfl

/-- **The repair against a new list** gives an empty selection, All, the first
candidate, or a join of surviving components. -/
theorem repairSelected_cases {sel : Option String} {vals : Option (List String)}
    {r : List String} (hne : vals ≠ some r) :
    isEmpty (repairSelected K sel vals r) = true ∨
      repairSelected K sel vals r = some K.VarialbeAllOption ∨
      repairSelected K sel vals r = r.head? ∨
      ∃ s, keptSelected K s r ≠ [] ∧
        repairSelected K sel vals r = some (join (keptSelected K s r) K.VariableSplitChar) := by
  simp only [repairSelected, if_neg hne]
  split_ifs with hall
  · exact .inr (.inl hall)
  · rcases sel with _ | s
    · exact .inl rfl
    · simp only
      split_ifs with h1 h2
      · subst h1; exact .inl rfl
      · exact .inr (.inr (.inl rfl))
      · exact .inr (.inr (.inr ⟨s, h2, rfl⟩))

/-- Against a new list none of whose candidates holds the separator, the repaired
selection is valid. -/
theorem selectionValid_repair {sel : Option String} {vals : Option (List String)}
    {r : List String} (hne : vals ≠ some r) (hsep : ∀ c ∈ r, K.VariableSplitChar ∉ c.toList) :
    selectionValid K (repairSelected K sel vals r) r = true := by
  rcases repairSelected_cases hne with h | h | h | ⟨s, hk, h⟩ <;>
    generalize repairSelected K sel vals r = x at h ⊢
  · rcases x with _ | x
    · rfl
    · simp_all [isEmpty, selectionValid]
  · simp [h, selectionValid]
  · subst h
    rcases r with _ | ⟨c, cs⟩
    · rfl
    · simp [selectionValid, split_of_not_mem (hsep c (List.mem_cons_self _ _))]
  · subst h
    have hc : ∀ w ∈ keptSelected K s r, K.VariableSplitChar ∉ w.toList :=
      fun w hw => (keptSelected_sub hw).2
    simp only [selectionValid, split_join hk hc, List.all_eq_true, decide_eq_true_eq,
      Bool.or_eq_true]
    exact .inr fun w hw => (keptSelected_sub hw).1

theorem repairSelected_kept {sel : Option String} {vals : Option (List String)} {r : List String}
    {s : String} (hne : vals ≠ some r) (hs : sel = some s) (hall : s ≠ K.VarialbeAllOption)
    (hk : keptSelected K s r ≠ []) :
    repairSelected K sel vals r = some (join (keptSelected K s r) K.VariableSplitChar) := by
  subst hs
  simp only [repairSelected, if_neg hne, Option.some.injEq, if_neg hall, if_neg hk]
  split_ifs with h0
  · subst h0
    have : keptSelected K "" r = [""] := by
      by_cases he : "" ∈ r <;> simp_all [keptSelected, split, List.filter_singleton]
    rw [this]; rfl
  · rfl

/-- **Selection repair, `loadValues`.** Once `loadValues` settles on a list `r`, that
list is `v.values`. When it differs from the previous list, the selection is valid
(if no candidate holds the separator) and is exactly the surviving components of a
selection other than All; when it is the same list, the selection is untouched. -/
theorem loadValues_selection {v : Variable} {inp : LoadInput} {r : List String} {nq : Bool}
    {rec : ManualRecord} (h : fetchValues K v inp = some (r, nq, rec)) :
    (loadValues K v inp).v.values = some r ∧
      (v.values ≠ some r →
        ((∀ c ∈ r, K.VariableSplitChar ∉ c.toList) →
          selectionValid K (loadValues K v inp).v.selected r = true) ∧
        ∀ s, v.selected = some s → s ≠ K.VarialbeAllOption → keptSelected K s r ≠ [] →
          (loadValues K v inp).v.selected = some (join (keptSelected K s r) K.VariableSplitChar)) ∧
      (v.values = some r → (loadValues K v inp).v.selected = v.selected) := by
  rw [loadValues_of_fetch h]
  refine ⟨rfl, fun hne => ⟨fun hsep => selectionValid_repair hne hsep,
    fun s hs hall hk => repairSelected_kept hne hs hall hk⟩, ?_⟩
  rintro heq
  simp only [settleLoad, heq, repairSelected_of_eq]

/-- A `Custom` variable whose selection `b` is not among its candidates. -/
def staleVar : Variable :=
  ⟨.num 1, "x", 1, none, .Custom, none, "a", some "b", some ["a"], false, .OnDashboardLoad, none, none⟩

/-- A forced load with an empty record and no other variables. -/
def forcedLoad (vars : List Variable) (answer : PluginAnswer) : LoadInput :=
  ⟨true, fun _ => none, vars, [], answer⟩

theorem loadValues_keeps_invalid_selection :
    (fetchValues demoEnv staleVar (forcedLoad [] .noCall)).map (·.1) = some ["a"] ∧
      (loadValues demoEnv staleVar (forcedLoad [] .noCall)).v.values = some ["a"] ∧
      selectionValid demoEnv (loadValues demoEnv staleVar (forcedLoad [] .noCall)).v.selected
        ["a"] = false := by
  decide

/-- A `Custom` variable whose selection `a|c` loses `a` when its list becomes `b, c, d`. -/
def shrunkVar : Variable :=
  ⟨.num 1, "x", 1, none, .Custom, none, "b,c,d", some "a|c", some ["a", "c"], false,
    .OnDashboardLoad, none, none⟩

theorem loadValues_selection_shrunk :
    fetchValues demoEnv shrunkVar (forcedLoad [] .noCall) =
        some (["b", "c", "d"], true, fun _ => none) ∧
      (loadValues demoEnv shrunkVar (forcedLoad [] .noCall)).v.values = some ["b", "c", "d"] ∧
      (shrunkVar.values ≠ some ["b", "c", "d"] →
        ((∀ c ∈ ["b", "c", "d"], demoEnv.VariableSplitChar ∉ c.toList) →
          selectionValid demoEnv (loadValues demoEnv shrunkVar (forcedLoad [] .noCall)).v.selected
            ["b", "c", "d"] = true) ∧
        ∀ s, shrunkVar.selected = some s → s ≠ demoEnv.VarialbeAllOption →
          keptSelected demoEnv s ["b", "c", "d"] ≠ [] →
          (loadValues demoEnv shrunkVar (forcedLoad [] .noCall)).v.selected =
            some (join (keptSelected demoEnv s ["b", "c", "d"]) demoEnv.VariableSplitChar)) ∧
      (shrunkVar.values = some ["b", "c", "d"] →
        (loadValues demoEnv shrunkVar (forcedLoad [] .noCall)).v.selected = shrunkVar.selected) :=
  ⟨rfl, loadValues_selection rfl⟩

/-- A `Query` variable `env` with `prod` selected, and `service`, which refers to it. -/
def envVar : Variable :=
  ⟨.num 1, "env", 1, none, .Query, some "prom", "label_values(env)", some "prod", some ["prod"],
    false, .OnDashboardLoad, none, none⟩

def serviceVar : Variable :=
  ⟨.num 2, "service", 1, none, .Custom, none, "$\x7benv\x7d-service", some "$\x7benv\x7d-service",
    some ["$\x7benv\x7d-service"], false, .OnDashboardLoad, none, none⟩

theorem loadValues_error_clears_selection :
    (loadValues demoEnv envVar
        (forcedLoad [envVar, serviceVar] (.response ⟨some "timeout", none⟩))).v.selected = none ∧
      (loadValues demoEnv envVar
        (forcedLoad [envVar, serviceVar] (.response ⟨some "timeout", none⟩))).reloads = [.num 2] := by
  decide

end Datav
