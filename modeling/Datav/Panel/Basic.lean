import Datav.Js

/-!
# Panels, their queries and the query cache

The data `PanelComponent` (`dashboard/grid/PanelGrid/PanelGrid.tsx`) reads when it
queries: the panel with its datasource and queries, the time range, the module-level
cache `prevQueries`/`prevQueryData`, and what a datasource adapter answers.

`prevQueryData` is a `Map`, but `queryData` reads and writes it as a plain object
(`prevQueryData[id]`), while the force-requery handler calls `prevQueryData.delete`,
which removes map entries. The model keeps both parts.
-/

namespace Datav

/-- `TimeRange`: two instants, in milliseconds. -/
structure TimeRange where
  start : Nat
  «end» : Nat
  deriving DecidableEq, Repr

/-- The fields of a `PanelQuery` that `queryData` reads; `interval` is set on the clone. -/
structure PanelQuery where
  id : Nat
  metrics : String
  visible : Bool
  interval : Nat
  deriving DecidableEq, Repr

/-- `panel.datasource`. -/
structure PanelDatasource where
  id : Nat
  queries : List PanelQuery
  deriving DecidableEq, Repr

/-- The fields of a `Panel` that `queryData` reads; `alertDatasources` is
`panel.plugins.alert.filter.datasources`. -/
structure Panel where
  id : Nat
  type : String
  datasource : PanelDatasource
  alertDatasources : List Nat
  deriving DecidableEq, Repr

/-- Modelled from the spec: `PanelTypeAlert`, the panel type "alert". -/
def PanelTypeAlert : String := "alert"

/-- `formatQueryId` (lines 938-975). -/
def formatQueryId (datasourceId : Nat) (dashboardId : String) (panelId queryId : Nat)
    (panelType : String) : String :=
  toString datasourceId ++ "-" ++ dashboardId ++ "-" ++ toString panelId ++ "-" ++
    toString queryId ++ "-" ++ panelType

/-- `currentQuery = [q, timeRange, datasource.type]`; `isEqual` on it is equality. -/
structure QueryKey where
  query : PanelQuery
  timeRange : TimeRange
  dsType : String
  deriving DecidableEq, Repr

/-- A response `{data, error}` of a datasource's `runQuery`. `data` holds items of
any type `α`; `null` and `undefined` read as `[]`, which is what `isEmpty` sees. -/
structure Response (α : Type) where
  data : List α
  error : Option String
  deriving DecidableEq, Repr

/-- One outcome of `Promise.allSettled`. A handle that is not a promise (no
`runQuery`) is fulfilled with `undefined`. -/
inductive Settled (α : Type)
  | fulfilled (res : Option (Response α))
  | rejected (reason : Option String)
  deriving DecidableEq, Repr

/-- The module-level query cache. -/
structure QueryCache (α : Type) where
  /-- `prevQueries`, a `Map` from query ids. -/
  prevQueries : String → Option QueryKey
  /-- The entries of the `prevQueryData` map. -/
  prevQueryDataEntries : String → Option (List α)
  /-- The properties of the `prevQueryData` object, where `queryData` keeps data. -/
  prevQueryData : String → Option (List α)

namespace QueryCache

variable {α : Type}

/-- The empty cache of a fresh page. -/
def empty : QueryCache α := ⟨fun _ => none, fun _ => none, fun _ => none⟩

/-- `prevQueryData[id] = data; prevQueries.set(id, query)` (lines 448-449). -/
def write (c : QueryCache α) (id : String) (query : QueryKey) (data : List α) : QueryCache α :=
  { c with
    prevQueries := Function.update c.prevQueries id (some query)
    prevQueryData := Function.update c.prevQueryData id (some data) }

/-- `prevQueries.delete(id); prevQueryData.delete(id)` (lines 224-225). -/
def forget (c : QueryCache α) (id : String) : QueryCache α :=
  { c with
    prevQueries := Function.update c.prevQueries id none
    prevQueryDataEntries := Function.update c.prevQueryDataEntries id none }

/-- `prevQueries.delete(id)` (line 301). -/
def forgetQuery (c : QueryCache α) (id : String) : QueryCache α :=
  { c with prevQueries := Function.update c.prevQueries id none }

@[simp] theorem write_prevQueries (c : QueryCache α) (id : String) (q : QueryKey) (d : List α) :
    (c.write id q d).prevQueries = Function.update c.prevQueries id (some q) := rfl

@[simp] theorem write_prevQueryData (c : QueryCache α) (id : String) (q : QueryKey) (d : List α) :
    (c.write id q d).prevQueryData = Function.update c.prevQueryData id (some d) := rfl

@[simp] theorem forget_prevQueries (c : QueryCache α) (id : String) :
    (c.forget id).prevQueries = Function.update c.prevQueries id none := rfl

@[simp] theorem forget_prevQueryData (c : QueryCache α) (id : String) :
    (c.forget id).prevQueryData = c.prevQueryData := rfl

@[simp] theorem forgetQuery_prevQueries (c : QueryCache α) (id : String) :
    (c.forgetQuery id).prevQueries = Function.update c.prevQueries id none := rfl

@[simp] theorem forgetQuery_prevQueryData (c : QueryCache α) (id : String) :
    (c.forgetQuery id).prevQueryData = c.prevQueryData := rfl

/-- `forget` and `forgetQuery` both drop a key of `prevQueries` and keep the
`prevQueryData` object. -/
def Clears (f : QueryCache α → String → QueryCache α) : Prop :=
  ∀ c id, (f c id).prevQueries = Function.update c.prevQueries id none ∧
    (f c id).prevQueryData = c.prevQueryData

theorem clears_forget : Clears (@forget α) := fun _ _ => ⟨rfl, rfl⟩

theorem clears_forgetQuery : Clears (@forgetQuery α) := fun _ _ => ⟨rfl, rfl⟩

/-- Clearing a list of ids drops exactly those keys of `prevQueries`. -/
theorem Clears.foldl_prevQueries {f : QueryCache α → String → QueryCache α} (hf : Clears f)
    (ids : List String) (id : String) :
    ∀ c, (ids.foldl f c).prevQueries id = if id ∈ ids then none else c.prevQueries id := by
  induction ids with
  | nil => intro c; simp
  | cons x xs ih =>
    intro c
    rw [List.foldl_cons, ih, (hf c x).1]
    by_cases h2 : id = x
    · subst h2; simp
    · simp [h2, Function.update_noteq h2]

theorem Clears.foldl_prevQueryData {f : QueryCache α → String → QueryCache α} (hf : Clears f)
    (ids : List String) : ∀ c, (ids.foldl f c).prevQueryData = c.prevQueryData := by
  induction ids with
  | nil => intro c; rfl
  | cons x xs ih => intro c; rw [List.foldl_cons, ih, (hf c x).2]

end QueryCache

/-- A promise of the loop: `{h, id, query}` of line 430; `called` when the plugin
has a `runQuery`, so that `h` is a promise. -/
structure Dispatch where
  id : String
  query : QueryKey
  called : Bool
  deriving DecidableEq, Repr

/-- The outcome `Promise.allSettled` gives a dispatch: `undefined` when nothing was
called. -/
def Dispatch.outcome {α : Type} (p : Dispatch) (o : Settled α) : Settled α :=
  if p.called then o else .fulfilled none

end Datav
