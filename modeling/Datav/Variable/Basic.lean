import Datav.Js

/-!
# Dashboard variables

The data the variable loader (`views/variables/Loader.tsx`) reads and writes: a
variable, the answer of a datasource plugin, the two local-storage records, and
the dependency scan that `setValue` and `loadValues` share.

* `dependents`: the variables a change of `v` reloads. It skips `v` itself and the
  variables `v` refers to, and keeps those whose `value` or `datasource` holds `${v.name}`.
* `manualKey`: the key `v.teamId + v.id` of the `VariableManuallyChangedKey` record.
-/

namespace Datav

/-- `VariableQueryType`. -/
inductive VariableQueryType
  | Custom
  | Query
  | Datasource
  | TextInput
  deriving DecidableEq, Repr

/-- `VariableRefresh`. -/
inductive VariableRefresh
  | Manually
  | OnTimeRangeChange
  | OnDashboardLoad
  deriving DecidableEq, Repr

/-- A variable's `id`: a number for a global variable, a string (`d-…`) for one
declared in a dashboard; the loader calls `v.id.toString()`. -/
inductive VariableId
  | num (n : Nat)
  | str (s : String)
  deriving DecidableEq, Repr

/-- The fields of a `Variable` the loader reads. `selected` is `none` when undefined,
which is what the repair writes when the candidate list is empty; `values` is
`none` before the first load. -/
structure Variable where
  id : VariableId
  name : String
  teamId : Nat
  panelId : Option Nat
  type : VariableQueryType
  datasource : Option String
  value : String
  selected : Option String
  values : Option (List String)
  enableAll : Bool
  refresh : VariableRefresh
  regex : Option String
  /-- Read by `initVariableSelected` only. -/
  default : Option String
  deriving DecidableEq, Repr

/-- What the loader reads from modules that are not under src/: `VarialbeAllOption`
and `VariableSplitChar` of `src/data/variable`, `parseVariableFormat` of
`utils/format`, and the regex test `r.toLowerCase().match(regex.toLowerCase())`. -/
structure LoaderEnv where
  VarialbeAllOption : String
  VariableSplitChar : Char
  parseVariableFormat : String → List String
  regexMatch : String → String → Bool

/-- Modelled from the spec: `parseVariableFormat` lists the names of the `${name}`
placeholders of a text, in order. `scanNames (some acc)` is inside a placeholder,
`acc` the name read so far, reversed. -/
def scanNames : Option (List Char) → List Char → List String
  | none, '$' :: '\x7b' :: rest => scanNames (some []) rest
  | none, _ :: rest => scanNames none rest
  | some acc, '\x7d' :: rest => String.mk acc.reverse :: scanNames none rest
  | some acc, c :: rest => scanNames (some (c :: acc)) rest
  | _, [] => []

/-- Modelled from the spec: `parseVariableFormat`. -/
def parseVariableFormat (s : String) : List String :=
  scanNames none s.toList

/-- A loader environment for concrete inputs: the spec's placeholder parser, a regex
test that keeps every candidate, and `"__all"` and `'|'` for the two constants. -/
def demoEnv : LoaderEnv := ⟨"__all", '|', parseVariableFormat, fun _ _ => true⟩

/-- The refresh modes whose candidate lists are kept in `VariableManuallyChangedKey`. -/
def storesValues (v : Variable) : Bool :=
  v.refresh = .Manually || v.refresh = .OnTimeRangeChange

/-- `w` holds `${name}` in its `datasource` or its `value`. -/
def refersTo (w : Variable) (name : String) : Bool :=
  (w.datasource.map (includesText · (placeholder name))).getD false ||
    includesText w.value (placeholder name)

/-- The loop of `setValue` (lines 368-381) and of `loadValues` (lines 209-228): the
ids that get a `VariableForceReload` after `v` changed. -/
def dependents (K : LoaderEnv) (v : Variable) (vars : List Variable) : List VariableId :=
  let referVars := K.parseVariableFormat v.value
  (vars.filter fun w => !(w.id = v.id || w.name ∈ referVars) && refersTo w v.name).map (·.id)

/-- The `VariableManuallyChangedKey` record: candidate lists by property key. An
absent record reads as the empty one, and both of the code's write branches give
the record with one key set, so the model keeps a total map. -/
abbrev ManualRecord := String → Option (List String)

/-- The property key `v.teamId + v.id`: a sum when the id is a number, a
concatenation when it is a string. -/
def manualKey (teamId : Nat) : VariableId → String
  | .num n => toString (teamId + n)
  | .str s => toString teamId ++ s

/-- A property key of the nested `variables` record of `setValueToStorage`. -/
def idKey : VariableId → String
  | .num n => toString n
  | .str s => s

/-- The `variables` record: selections by team, then by variable id. -/
abbrev SelectedRecord := String → String → Option (Option String)

/-- `setValueToStorage`. -/
def setValueToStorage (sv : SelectedRecord) (v : Variable) (value : Option String) :
    SelectedRecord :=
  Function.update sv (toString v.teamId)
    (Function.update (sv (toString v.teamId)) (idKey v.id) (some value))

/-- A response of `queryVariableValues`, or the `result` it builds. -/
structure VariableResult where
  error : Option String
  data : Option (List String)
  deriving DecidableEq, Repr

/-- What the datasource plugin gave for a `Query` variable. -/
inductive PluginAnswer
  /-- No datasource, no plugin, or no `queryVariableValues`: nothing is called. -/
  | noCall
  /-- The call rejected, so the `await` throws. -/
  | rejected
  | response (res : VariableResult)
  deriving DecidableEq, Repr

/-- `queryVariableValues` (lines 419-463); `none` when it throws. `datasources` are the
names of the datasources of the store. -/
def queryVariableValues (K : LoaderEnv) (v : Variable) (datasources : List String)
    (ans : PluginAnswer) : Option VariableResult :=
  let result : Option VariableResult :=
    match v.type with
    | .Custom => some ⟨none, if !blank v.value then some (split v.value ',') else none⟩
    | .Datasource => some ⟨none, some datasources⟩
    | .Query =>
      match ans with
      | .noCall => some ⟨none, none⟩
      | .rejected => none
      | .response res => some res
    | .TextInput => some ⟨none, none⟩
  result.map fun r =>
    if truthy r.error then r
    else match v.regex with
      | some re => if re = "" then r else { r with data := r.data.map (·.filter (K.regexMatch re)) }
      | none => r

end Datav
