import Datav.Panel.Alerts

/-!
# One `queryData` run

`queryData` (lines 329-472) runs in two parts. The synchronous part checks the
plugin settings, the datasource and its plugin, then walks the panel's queries:
a visible query whose placeholders are all replaced is served from the cache when
its `[q, timeRange, datasource.type]` equals the cached one, and dispatched to the
adapter otherwise. After `Promise.allSettled`, each settled promise in turn sets
`queryError`, and a non-empty result is pushed to the data and cached.

* `runLoop_eq`: the loop in closed form. The data are the cache hits, in query order.
* `completeQueries_eq`: the completion in closed form: the fresh data follow the
  hits, and `queryError` is the error of the last outcome that carries one.
* `runQueryData_error_overwritten`: a rejection followed by a success ends with no
  error.
-/

namespace Datav

variable {α : Type} [DecidableEq α]

/-- An item of `panelData`: the data of one query, or an alert rule. -/
inductive PanelItem (α : Type)
  | series (data : List α)
  | rule (r : AlertRule)
  deriving DecidableEq

/-- The state `queryData` sets: `panelData` (`undefined` at first) and `queryError`. -/
structure PanelState (α : Type) where
  panelData : Option (List (PanelItem α))
  queryError : Option String
  deriving DecidableEq

/-- What `queryData` reads from modules that are not under src/:
`DatasourceTypeTestData`, `hasVariableFormat` of `utils/variable` and
`jsonToEqualPairs` of `utils/format`. -/
structure QueryEnv where
  DatasourceTypeTestData : String
  hasVariableFormat : String → Bool
  jsonToEqualPairs : List (String × String) → String

/-- What one run reads besides the cache and the panel's state. -/
structure RunInput where
  panel : Panel
  dashboardId : String
  /-- The panel's scope time when enabled, else the dashboard's range. -/
  timeRange : TimeRange
  /-- `intervalObj.intervalMs / 1000`. -/
  interval : Nat
  /-- `panelPlugin?.settings.disableAutoQuery`. -/
  disableAutoQuery : Bool
  /-- The `type` of `getDatasource(ds.id)`, when it exists. -/
  datasourceType : Option String
  /-- A datasource plugin is registered for that type. -/
  plugin : Bool
  /-- The plugin has a `runQuery`. -/
  hasRunQuery : Bool
  /-- `replaceQueryWithVariables`, with this run's variables, interval and range. -/
  replaceQueryWithVariables : PanelQuery → PanelQuery
  /-- It rewrites the query's text and keeps its id. -/
  replace_id : ∀ q, (replaceQueryWithVariables q).id = q.id

/-- What the loop over `ds.queries` builds. -/
structure Loop (α : Type) where
  data : List (PanelItem α)
  promises : List Dispatch
  queryError : Option String

variable (E : QueryEnv)

/-- The query the loop works with for `q0` (lines 387-404): `none` when `q0` is
hidden, or when placeholders remain and the datasource is not TestData. -/
def resolveQuery (inp : RunInput) (dsType : String) (q0 : PanelQuery) : Option PanelQuery :=
  if !q0.visible then none
  else
    let q := inp.replaceQueryWithVariables { q0 with interval := inp.interval }
    if dsType ≠ E.DatasourceTypeTestData ∧ E.hasVariableFormat q.metrics = true then none
    else some q

/-- The id under which the run caches `q` (line 406). -/
def queryId (inp : RunInput) (q : PanelQuery) : String :=
  formatQueryId inp.panel.datasource.id inp.dashboardId inp.panel.id q.id inp.panel.type

/-- The cache serves `q` in this run. -/
def cacheHit (cache : QueryCache α) (inp : RunInput) (dsType : String) (q : PanelQuery) : Bool :=
  cache.prevQueries (queryId inp q) = some ⟨q, inp.timeRange, dsType⟩

/-- Lines 406-434 for a resolved query `q`. -/
def loopStep (cache : QueryCache α) (inp : RunInput) (dsType : String) (acc : Loop α)
    (q : PanelQuery) : Loop α :=
  if cacheHit cache inp dsType q then
    { acc with
      data := acc.data ++ ((cache.prevQueryData (queryId inp q)).map .series).toList
      queryError := none }
  else
    { acc with promises := acc.promises ++ [⟨queryId inp q, ⟨q, inp.timeRange, dsType⟩, inp.hasRunQuery⟩] }

/-- The loop over `ds.queries` (lines 386-435). -/
def runLoop (cache : QueryCache α) (inp : RunInput) (dsType : String) (queryError : Option String) :
    Loop α :=
  inp.panel.datasource.queries.foldl
    (fun acc q0 => match resolveQuery E inp dsType q0 with
      | none => acc
      | some q => loopStep cache inp dsType acc q)
    ⟨[], [], queryError⟩

/-- What waits on an `await`: the dispatched promises with the data of the cache
hits, or the alert query with the panel data the run's closure saw. -/
inductive Pending (α : Type)
  | queries (promises : List Dispatch) (data : List (PanelItem α))
  | alerts (snapshot : Option (List (PanelItem α)))

/-- The synchronous part of `queryData`. `snapshot` is `panelData` as the closure of
the run saw it, which `isEqual` compares with the new data. -/
def queryData (cache : QueryCache α) (st : PanelState α) (snapshot : Option (List (PanelItem α)))
    (inp : RunInput) : PanelState α × Option (Pending α) :=
  if inp.disableAutoQuery then ({ st with panelData := some [] }, none)
  else
    match inp.datasourceType with
    | none => ({ st with panelData := some [] }, none)
    | some dsType =>
      if !inp.plugin then (⟨some [], some ("Datasource plugin not found: " ++ dsType)⟩, none)
      else if inp.panel.type = PanelTypeAlert then (st, some (.alerts snapshot))
      else
        let loop := runLoop E cache inp dsType st.queryError
        if loop.promises = [] then
          (⟨if snapshot = some loop.data then st.panelData else some loop.data, loop.queryError⟩, none)
        else (⟨st.panelData, loop.queryError⟩, some (.queries loop.promises loop.data))

/-- One settled promise (lines 438-455). -/
def settleOne (acc : QueryCache α × List (PanelItem α) × Option String) (po : Dispatch × Settled α) :
    QueryCache α × List (PanelItem α) × Option String :=
  match po.1.outcome po.2 with
  | .fulfilled (some res) =>
    if res.data = [] then (acc.1, acc.2.1, res.error)
    else (acc.1.write po.1.id po.1.query res.data, acc.2.1 ++ [.series res.data], res.error)
  | .fulfilled none => acc
  | .rejected reason => (acc.1, acc.2.1, reason)

/-- The completion of a run that dispatched `promises` (lines 436-467):
`needUpdate` holds, so the panel data are set. -/
def completeQueries (cache : QueryCache α) (st : PanelState α) (promises : List Dispatch)
    (data : List (PanelItem α)) (outcomes : List (Settled α)) : QueryCache α × PanelState α :=
  let r := (promises.zip outcomes).foldl settleOne (cache, data, st.queryError)
  (r.1, ⟨some r.2.1, r.2.2⟩)

/-- The completion of an alert run (lines 375-383, 464-466), given the answer of each
datasource; the panel is left as it was when `queryAlerts` throws. -/
def completeAlerts (st : PanelState α) (snapshot : Option (List (PanelItem α)))
    (answers : List AlertAnswer) : PanelState α :=
  match queryAlerts E.jsonToEqualPairs answers with
  | none => st
  | some (error, rules) =>
    ⟨if snapshot = some (rules.map .rule) then st.panelData else some (rules.map .rule), error⟩

/-- The data an outcome gives the panel: a fulfilled response's non-empty data. -/
def dataOf : Settled α → Option (PanelItem α)
  | .fulfilled (some res) => if res.data = [] then none else some (.series res.data)
  | _ => none

/-- The data a settled promise pushes. -/
def freshOf (po : Dispatch × Settled α) : Option (PanelItem α) :=
  dataOf (po.1.outcome po.2)

/-- The error a settled promise sets, if it sets one. -/
def errorOf (po : Dispatch × Settled α) : Option (Option String) :=
  match po.1.outcome po.2 with
  | .fulfilled (some res) => some res.error
  | .fulfilled none => none
  | .rejected reason => some reason

/-- The visible queries whose placeholders are all replaced. -/
def resolvedQueries (inp : RunInput) (dsType : String) : List PanelQuery :=
  inp.panel.datasource.queries.filterMap (resolveQuery E inp dsType)

variable {E}

omit [DecidableEq α] in
theorem runLoop_eq_foldl (cache : QueryCache α) (inp : RunInput) (dsType : String)
    (queryError : Option String) :
    runLoop E cache inp dsType queryError =
      (resolvedQueries E inp dsType).foldl (loopStep cache inp dsType) ⟨[], [], queryError⟩ := by
  unfold runLoop resolvedQueries
  generalize (⟨[], [], queryError⟩ : Loop α) = acc
  induction inp.panel.datasource.queries generalizing acc with
  | nil => rfl
  | cons q0 qs ih =>
    simp only [List.foldl_cons, List.filterMap_cons]
    cases resolveQuery E inp dsType q0 <;> simp [ih]

omit [DecidableEq α] in
theorem foldl_loopStep (cache : QueryCache α) (inp : RunInput) (dsType : String) (qs : List PanelQuery) :
    ∀ acc : Loop α, qs.foldl (loopStep cache inp dsType) acc =
      ⟨acc.data ++ (qs.filter (cacheHit cache inp dsType)).flatMap
          (fun q => ((cache.prevQueryData (queryId inp q)).map .series).toList),
        acc.promises ++ (qs.filter fun q => !cacheHit cache inp dsType q).map
          (fun q => ⟨queryId inp q, ⟨q, inp.timeRange, dsType⟩, inp.hasRunQuery⟩),
        if qs.any (cacheHit cache inp dsType) then none else acc.queryError⟩ := by
  induction qs with
  | nil => intro acc; simp
  | cons q qs ih =>
    intro acc
    rw [List.foldl_cons, ih]
    by_cases hq : cacheHit cache inp dsType q <;> simp [loopStep, hq]

omit [DecidableEq α] in
/-- **The loop in closed form.** The data are the cached data of the hits, in
query order; the promises are the misses; a hit clears `queryError`. -/
theorem runLoop_eq (cache : QueryCache α) (inp : RunInput) (dsType : String)
    (queryError : Option String) :
    runLoop E cache inp dsType queryError =
      ⟨((resolvedQueries E inp dsType).filter (cacheHit cache inp dsType)).flatMap
          (fun q => ((cache.prevQueryData (queryId inp q)).map .series).toList),
        ((resolvedQueries E inp dsType).filter fun q => !cacheHit cache inp dsType q).map
          (fun q => ⟨queryId inp q, ⟨q, inp.timeRange, dsType⟩, inp.hasRunQuery⟩),
        if (resolvedQueries E inp dsType).any (cacheHit cache inp dsType) then none else queryError⟩ := by
  rw [runLoop_eq_foldl, foldl_loopStep]
  simp

theorem settleOne_data (acc : QueryCache α × List (PanelItem α) × Option String)
    (po : Dispatch × Settled α) : (settleOne acc po).2.1 = acc.2.1 ++ (freshOf po).toList := by
  rcases h : po.1.outcome po.2 with ⟨_ | res⟩ | reason <;> simp only [settleOne, freshOf, dataOf, h]
  · simp
  · split_ifs <;> simp
  · simp

theorem settleOne_error (acc : QueryCache α × List (PanelItem α) × Option String)
    (po : Dispatch × Settled α) : (settleOne acc po).2.2 = (errorOf po).getD acc.2.2 := by
  unfold settleOne errorOf
  split
  · split_ifs <;> rfl
  · rfl
  · rfl

theorem foldl_settleOne (pos : List (Dispatch × Settled α)) :
    ∀ acc : QueryCache α × List (PanelItem α) × Option String,
      (pos.foldl settleOne acc).2.1 = acc.2.1 ++ pos.filterMap freshOf ∧
        (pos.foldl settleOne acc).2.2 = ((pos.filterMap errorOf).getLast?).getD acc.2.2 := by
  induction pos with
  | nil => intro acc; simp
  | cons po pos ih =>
    intro acc
    rw [List.foldl_cons, (ih _).1, (ih _).2, settleOne_data, settleOne_error]
    constructor
    · cases h : freshOf po <;> simp [List.filterMap_cons, h]
    · cases h : errorOf po with
      | none => simp only [List.filterMap_cons, h, Option.getD_none]
      | some e => simp only [List.filterMap_cons, h, Option.getD_some, List.getLast?_cons]

/-- **The completion in closed form.** The panel data are the hits followed by the
non-empty data of each fulfilled promise, in order; `queryError` is the error of
the last settled promise that sets one. -/
theorem completeQueries_eq (cache : QueryCache α) (st : PanelState α) (promises : List Dispatch)
    (data : List (PanelItem α)) (outcomes : List (Settled α)) :
    (completeQueries cache st promises data outcomes).2 =
      ⟨some (data ++ (promises.zip outcomes).filterMap freshOf),
        (((promises.zip outcomes).filterMap errorOf).getLast?).getD st.queryError⟩ := by
  simp only [completeQueries, (foldl_settleOne _ _).1, (foldl_settleOne _ _).2]

variable (E)

/-- A whole run of a non-alert panel: the synchronous part and, when queries were
dispatched, their completion with one outcome each. -/
def runQueryData (cache : QueryCache α) (st : PanelState α) (snapshot : Option (List (PanelItem α)))
    (inp : RunInput) (outcomes : List (Settled α)) : QueryCache α × PanelState α :=
  match queryData E cache st snapshot inp with
  | (st', some (.queries promises data)) => completeQueries cache st' promises data outcomes
  | (st', _) => (cache, st')

variable {E}

/-- The run dispatches its misses when the checks pass and the loop has any. -/
theorem queryData_of_dispatch {cache : QueryCache α} {st : PanelState α}
    {snapshot : Option (List (PanelItem α))} {inp : RunInput} {dsType : String}
    (hon : inp.disableAutoQuery = false) (hds : inp.datasourceType = some dsType)
    (hpl : inp.plugin = true) (hty : inp.panel.type ≠ PanelTypeAlert)
    (hp : (runLoop E cache inp dsType st.queryError).promises ≠ []) :
    queryData E cache st snapshot inp =
      (⟨st.panelData, (runLoop E cache inp dsType st.queryError).queryError⟩,
        some (.queries (runLoop E cache inp dsType st.queryError).promises
          (runLoop E cache inp dsType st.queryError).data)) := by
  simp [queryData, hon, hds, hpl, hty, hp]

/-- A query environment for concrete runs. -/
def demoQueryEnv : QueryEnv := ⟨"testdata", fun _ => false, fun _ => ""⟩

/-- A graph panel on datasource 7 with two visible queries, `up` and `down`, run over
the range `[0, range]`. -/
def twoQueryRun (range : Nat) : RunInput :=
  ⟨⟨1, "graph", ⟨7, [⟨1, "up", true, 0⟩, ⟨2, "down", true, 0⟩]⟩, []⟩, "d1", ⟨0, range⟩, 15,
    false, some "prometheus", true, true, id, fun _ => rfl⟩

/-- **A later success erases an earlier rejection.** Each settled promise sets
`queryError` in turn (lines 444, 454), so the fulfilled call's `res.error`, `null`,
replaces the rejection's reason. -/
theorem runQueryData_error_overwritten :
    (runQueryData demoQueryEnv QueryCache.empty ⟨none, none⟩ none (twoQueryRun 60000)
        [.rejected (some "timeout"), .fulfilled (some ⟨[5], none⟩)]).2 =
      ⟨some [.series [5]], none⟩ := by
  decide

end Datav
