import Datav.Js

/-!
# `ComplexTable`: the rows handed to the table

`ComplexTable` (`plugins/panel/table/components/ComplexTable/ComplexTable.tsx`) walks
the table's columns. It skips a column whose override hides it, and when a column has
a unit, a decimal or a transform, it formats that column's cell in a copy of every
row and pushes all the copies to `newData`. The table shows `newData`, or `data`
when `newData` is empty.

* `complexTable_eq`: the columns are the displayed ones, and `newData` holds, for
  each formatting column in turn, a copy of `data` with only that column formatted.
* `dataSource_length`: the table has `max k 1 * data.length` rows, where `k` is the
  number of formatting columns.
* `dataSource_eq_intended_iff`: the rows are those of `data` with every column's
  formatting applied exactly when at most one column formats, or `data` is empty.
-/

namespace Datav

/-- A row of the table: its cells by `dataIndex`, in property order. -/
abbrev TableRow (V : Type) := List (String × V)

/-- `row[k] = v`: an existing property keeps its place, a new one goes last. -/
def setCell {V : Type} (row : TableRow V) (k : String) (v : V) : TableRow V :=
  if row.any (·.1 = k) then row.map (fun p => if p.1 = k then (k, v) else p) else row ++ [(k, v)]

/-- A column of the table; the loop reads its `dataIndex`. -/
structure TableColumn where
  dataIndex : String
  deriving DecidableEq, Repr

/-- The rules `findRuleInOverride` finds in a column's override that decide its
cells: `ColumnDisplay`, `ColumnUnit`, `ColumnDecimal` and `ColumnTransform` (the
transform's code). -/
structure ColumnOverride (U : Type) where
  display : Option Bool
  unit : Option U
  decimal : Option Nat
  transform : Option String

/-- No override, or one without these rules. -/
def ColumnOverride.none {U : Type} : ColumnOverride U :=
  ⟨Option.none, Option.none, Option.none, Option.none⟩

/-- What the loop reads from modules that are not under src/: `DefaultDecimal` of
`data/constants`, lodash's `isNumber` and `round`, `formatUnit` of `components/Unit`
and `genDynamicFunction` of `utils/dynamicCode`, which gives a function or not. -/
structure TableEnv (V U : Type) where
  DefaultDecimal : Nat
  isNumber : V → Bool
  formatUnit : V → U → Nat → V
  round : V → Nat → V
  genDynamicFunction : String → Option (Option V → V)

variable {V U : Type} (env : TableEnv V U)

/-- `unit`, `decimal` and `transformFunc` of a column (lines 91-98). -/
structure CellRules (V U : Type) where
  unit : Option U
  decimal : Nat
  transformFunc : Option (Option V → V)

/-- Lines 91-98: `decimal` defaults to `DefaultDecimal`, and only a non-empty
transform is compiled. -/
def cellRules (o : ColumnOverride U) : CellRules V U :=
  ⟨o.unit, o.decimal.getD env.DefaultDecimal,
    match o.transform with
    | some s => if s = "" then Option.none else env.genDynamicFunction s
    | Option.none => Option.none⟩

/-- `unit || decimal || isFunc` (line 101). -/
def CellRules.formats (r : CellRules V U) : Bool :=
  r.unit.isSome || r.decimal != 0 || r.transformFunc.isSome

/-- The copy of `row` the inner loop pushes for column `k` (lines 103-115). -/
def formatCell (k : String) (r : CellRules V U) (row : TableRow V) : TableRow V :=
  let row := match row.lookup k with
    | some v =>
      if env.isNumber v then
        match r.unit with
        | some u => setCell row k (env.formatUnit v u r.decimal)
        | Option.none => setCell row k (env.round v r.decimal)
      else row
    | Option.none => row
  match r.transformFunc with
  | some f => setCell row k (f (row.lookup k))
  | Option.none => row

/-- What the table gets. -/
structure TableView (V : Type) where
  columns : List TableColumn
  dataSource : List (TableRow V)
  deriving DecidableEq

/-- One pass of the column loop (lines 52-131), on `columns` and `newData`. -/
def columnStep (overrideOf : String → ColumnOverride U) (data : List (TableRow V))
    (acc : List TableColumn × List (TableRow V)) (c : TableColumn) :
    List TableColumn × List (TableRow V) :=
  let o := overrideOf c.dataIndex
  if o.display = some false then acc
  else
    let r := cellRules env o
    (acc.1 ++ [c], if r.formats then acc.2 ++ data.map (formatCell env c.dataIndex r) else acc.2)

/-- `ComplexTable` (lines 49-137), given each column's override. -/
def complexTable (overrideOf : String → ColumnOverride U) (columns : List TableColumn)
    (data : List (TableRow V)) : TableView V :=
  let r := columns.foldl (columnStep env overrideOf data) ([], [])
  ⟨r.1, if r.2.length = 0 then data else r.2⟩

/-- The columns the override does not hide. -/
def displayedColumns (overrideOf : String → ColumnOverride U) (columns : List TableColumn) :
    List TableColumn :=
  columns.filter fun c => (overrideOf c.dataIndex).display ≠ some false

/-- The displayed columns that format their cells. -/
def formattedColumns (overrideOf : String → ColumnOverride U) (columns : List TableColumn) :
    List TableColumn :=
  (displayedColumns overrideOf columns).filter fun c => (cellRules env (overrideOf c.dataIndex)).formats

/-- A column's formatting of a row. -/
def formatColumn (overrideOf : String → ColumnOverride U) (c : TableColumn) (row : TableRow V) :
    TableRow V :=
  formatCell env c.dataIndex (cellRules env (overrideOf c.dataIndex)) row

/-- Modelled from the intent of the loop: each row of `data`, once, with every
formatting column's formatting applied. -/
def intendedDataSource (overrideOf : String → ColumnOverride U) (columns : List TableColumn)
    (data : List (TableRow V)) : List (TableRow V) :=
  data.map fun row => (formattedColumns env overrideOf columns).foldl
    (fun row c => formatColumn env overrideOf c row) row

theorem foldl_columnStep (overrideOf : String → ColumnOverride U) (data : List (TableRow V))
    (columns : List TableColumn) :
    ∀ acc : List TableColumn × List (TableRow V),
      columns.foldl (columnStep env overrideOf data) acc =
        (acc.1 ++ displayedColumns overrideOf columns,
          acc.2 ++ (formattedColumns env overrideOf columns).flatMap fun c =>
            data.map (formatColumn env overrideOf c)) := by
  induction columns with
  | nil => intro acc; simp [displayedColumns, formattedColumns]
  | cons c cs ih =>
    intro acc
    rw [List.foldl_cons, ih]
    by_cases hd : (overrideOf c.dataIndex).display = some false
    · simp [columnStep, displayedColumns, formattedColumns, hd]
    · by_cases hf : (cellRules env (overrideOf c.dataIndex)).formats = true <;>
        simp [columnStep, displayedColumns, formattedColumns, formatColumn, hd, hf]

/-- **The column loop.** The table's columns are the displayed ones, and `newData`
is, for each formatting column in turn, a copy of `data` with that column formatted. -/
theorem complexTable_eq (overrideOf : String → ColumnOverride U) (columns : List TableColumn)
    (data : List (TableRow V)) :
    complexTable env overrideOf columns data =
      ⟨displayedColumns overrideOf columns,
        if ((formattedColumns env overrideOf columns).flatMap fun c =>
            data.map (formatColumn env overrideOf c)).length = 0 then data
        else (formattedColumns env overrideOf columns).flatMap fun c =>
          data.map (formatColumn env overrideOf c)⟩ := by
  simp only [complexTable, foldl_columnStep, List.nil_append]

theorem length_newData (overrideOf : String → ColumnOverride U) (columns : List TableColumn)
    (data : List (TableRow V)) :
    ((formattedColumns env overrideOf columns).flatMap fun c =>
        data.map (formatColumn env overrideOf c)).length =
      (formattedColumns env overrideOf columns).length * data.length := by
  induction formattedColumns env overrideOf columns with
  | nil => simp
  | cons c cs ih => simp [ih, Nat.succ_mul, Nat.add_comm]

/-- With `k` formatting columns the table has `max k 1 * data.length` rows. -/
theorem complexTable_dataSource_length (overrideOf : String → ColumnOverride U)
    (columns : List TableColumn) (data : List (TableRow V)) :
    (complexTable env overrideOf columns data).dataSource.length =
      max (formattedColumns env overrideOf columns).length 1 * data.length := by
  rw [complexTable_eq]
  dsimp only
  rw [length_newData]
  split
  · rename_i h0
    rcases Nat.mul_eq_zero.1 h0 with h0 | h0 <;> simp [h0]
  · rename_i h0
    rw [length_newData, Nat.max_eq_left (Nat.pos_of_ne_zero fun hk => h0 (by rw [hk, Nat.zero_mul]))]

/-- **Row count.** With `k` formatting columns the table has `max k 1 * data.length`
rows: `data.length` only when at most one column formats. -/
theorem dataSource_length (overrideOf : String → ColumnOverride U) (columns : List TableColumn)
    (data : List (TableRow V)) :
    (complexTable env overrideOf columns data).dataSource.length =
      max (formattedColumns env overrideOf columns).length 1 * data.length :=
  complexTable_dataSource_length env overrideOf columns data

theorem dataSource_of_length_le_one (overrideOf : String → ColumnOverride U)
    (columns : List TableColumn) (data : List (TableRow V))
    (h : (formattedColumns env overrideOf columns).length ≤ 1) :
    (complexTable env overrideOf columns data).dataSource =
      intendedDataSource env overrideOf columns data := by
  rw [complexTable_eq, intendedDataSource]
  dsimp only
  match formattedColumns env overrideOf columns, h with
  | [], _ => simp
  | [c], _ =>
    split
    · rename_i h0
      simp only [List.flatMap_cons, List.flatMap_nil, List.append_nil, List.length_map,
        List.length_eq_zero] at h0
      simp [h0]
    · simp

/-- **The rows are formatted once exactly when at most one column formats.** The
table's rows are those of `data`, each with every formatting column's formatting
applied, if and only if at most one displayed column formats, or `data` is empty. -/
theorem dataSource_eq_intended_iff (overrideOf : String → ColumnOverride U)
    (columns : List TableColumn) (data : List (TableRow V)) :
    (complexTable env overrideOf columns data).dataSource =
        intendedDataSource env overrideOf columns data ↔
      (formattedColumns env overrideOf columns).length ≤ 1 ∨ data = [] := by
  constructor
  · intro h
    have hlen := congrArg List.length h
    rw [complexTable_dataSource_length, intendedDataSource, List.length_map] at hlen
    by_cases hd : data = []
    · exact Or.inr hd
    · have : 0 < data.length := List.length_pos.2 hd
      left
      by_contra hk
      have : 2 * data.length ≤ max (formattedColumns env overrideOf columns).length 1 * data.length :=
        Nat.mul_le_mul_right _ (by omega)
      omega
  · rintro (h | rfl)
    · exact dataSource_of_length_le_one env overrideOf columns data h
    · simp [complexTable_eq, intendedDataSource]

/-- A cell of the example table: a number or a text. -/
inductive Cell
  | num (n : Nat)
  | text (s : String)
  deriving DecidableEq, Repr

/-- `formatUnit` writes the number with its unit, `round` keeps whole numbers, and no
transform compiles. -/
def demoTableEnv : TableEnv Cell String where
  DefaultDecimal := 3
  isNumber := fun | .num _ => true | .text _ => false
  formatUnit := fun v u _ => match v with | .num n => .text (toString n ++ u) | v => v
  round := fun v _ => v
  genDynamicFunction := fun _ => Option.none

/-- A `cpu` column in percent and a `mem` column in megabytes. -/
def unitOverrides (k : String) : ColumnOverride String :=
  if k = "cpu" then ⟨Option.none, some "%", Option.none, Option.none⟩
  else if k = "mem" then ⟨Option.none, some "MB", Option.none, Option.none⟩
  else ColumnOverride.none

/-- Two columns with units and one row: the table shows two rows, each with one
cell formatted, instead of the row with both. -/
theorem complexTable_duplicates_rows :
    (complexTable demoTableEnv unitOverrides [⟨"cpu"⟩, ⟨"mem"⟩]
        [[("cpu", .num 5), ("mem", .num 7)]]).dataSource =
      [[("cpu", .text "5%"), ("mem", .num 7)], [("cpu", .num 5), ("mem", .text "7MB")]] ∧
    intendedDataSource demoTableEnv unitOverrides [⟨"cpu"⟩, ⟨"mem"⟩]
        [[("cpu", .num 5), ("mem", .num 7)]] =
      [[("cpu", .text "5%"), ("mem", .text "7MB")]] := by
  decide

end Datav
