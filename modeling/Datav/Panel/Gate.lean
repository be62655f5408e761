import Datav.Variable.Basic
import Datav.Panel.Basic

/-!
# The dependency gate of `PanelGrid`

`PanelGrid` mounts the panel's component only once `depsInited` holds. Its mount
effect (lines 144-182) starts a 100 ms interval. Each tick checks that every
placeholder of the panel's queries that is not a builtin names a variable whose
`values` are loaded; the tick that sees them loaded opens the gate, and after six
ticks that did not, the next one opens it anyway.

* `depsInited_run_iff`: after any ticks, with any variables at each, the gate is
  open exactly when one of the first six ticks saw the dependencies loaded, or
  seven ticks have passed. So it never opens early, and it opens at the seventh
  tick at the latest.
-/

namespace Datav

/-- The interval's state: the closure's `retryNum`, the component's `depsInited`, and
whether the interval still runs. -/
structure DepsGate where
  retryNum : Nat
  depsInited : Bool
  running : Bool
  deriving DecidableEq, Repr

/-- Right after the mount effect. -/
def DepsGate.init : DepsGate := ⟨0, false, true⟩

variable (K : LoaderEnv) (builtinVariables : List String) (queries : List PanelQuery)

/-- The loops of a tick (lines 155-167): each placeholder of a query that is not a
builtin names a variable (the first of that name) whose `values` are defined. -/
def depsLoaded (vars : List Variable) : Bool :=
  queries.all fun q => (K.parseVariableFormat q.metrics).all fun n =>
    builtinVariables.contains n || ((vars.find? (·.name = n)).bind (·.values)).isSome

/-- One tick of the interval (lines 149-176), with `$variables` as it is then; a
cleared interval no longer ticks. -/
def DepsGate.tick (g : DepsGate) (vars : List Variable) : DepsGate :=
  if !g.running then g
  else if g.retryNum > 5 then ⟨g.retryNum, true, false⟩
  else if depsLoaded K builtinVariables queries vars then ⟨g.retryNum, true, false⟩
  else ⟨g.retryNum + 1, g.depsInited, true⟩

/-- A sequence of ticks. -/
def DepsGate.run (g : DepsGate) (ticks : List (List Variable)) : DepsGate :=
  ticks.foldl (DepsGate.tick K builtinVariables queries) g

variable {K builtinVariables queries}

theorem run_of_stopped {g : DepsGate} (h : g.running = false) (ticks : List (List Variable)) :
    g.run K builtinVariables queries ticks = g := by
  induction ticks with
  | nil => rfl
  | cons vars ticks ih => simpa [DepsGate.run, DepsGate.tick, h] using ih

/-- From a waiting state after `r` failed ticks: the gate opens exactly when a tick
among the next `6 - r` sees the dependencies loaded, or `7 - r` ticks pass. -/
theorem run_waiting_iff (ticks : List (List Variable)) :
    ∀ r, r ≤ 6 → (((DepsGate.mk r false true).run K builtinVariables queries ticks).depsInited = true ↔
      7 ≤ r + ticks.length ∨ ∃ vars ∈ ticks.take (6 - r), depsLoaded K builtinVariables queries vars = true) := by
  induction ticks with
  | nil => intro r hr; simp [DepsGate.run]; omega
  | cons vars ticks ih =>
    intro r hr
    have hstep : (DepsGate.mk r false true).run K builtinVariables queries (vars :: ticks) =
        ((DepsGate.mk r false true).tick K builtinVariables queries vars).run K builtinVariables queries
          ticks := rfl
    rw [hstep]
    by_cases hr6 : r > 5
    · rw [DepsGate.tick, if_neg (by simp), if_pos hr6, run_of_stopped rfl]
      simp only [List.length_cons, true_iff]
      omega
    · have htake : (vars :: ticks).take (6 - r) = vars :: ticks.take (6 - (r + 1)) := by
        rw [show 6 - r = 6 - (r + 1) + 1 by omega, List.take_succ_cons]
      rw [DepsGate.tick, if_neg (by simp), if_neg hr6, htake]
      by_cases hl : depsLoaded K builtinVariables queries vars = true
      · rw [if_pos hl, run_of_stopped rfl]
        simp only [true_iff]
        exact Or.inr ⟨vars, List.mem_cons_self _ _, hl⟩
      · rw [if_neg hl, ih (r + 1) (by omega)]
        simp only [List.length_cons, List.mem_cons, exists_eq_or_imp, hl, Bool.false_eq_true, false_or]
        rw [show r + 1 + ticks.length = r + (ticks.length + 1) by omega]

/-- **The gate opens when the dependencies are loaded, or after seven ticks, and
never before.** -/
theorem depsInited_run_iff (ticks : List (List Variable)) :
    (DepsGate.init.run K builtinVariables queries ticks).depsInited = true ↔
      7 ≤ ticks.length ∨ ∃ vars ∈ ticks.take 6, depsLoaded K builtinVariables queries vars = true := by
  simpa using run_waiting_iff ticks 0 (by omega)

end Datav
