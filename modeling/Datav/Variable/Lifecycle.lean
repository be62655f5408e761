import Datav.Variable.Cascade

/-!
# The life of a variable's selection

While the page lives, a variable's selection changes in three places of
`SelectVariable` (`Loader.tsx`): `loadValues`, on mount, on a time change or on a forced
reload; the select widget, whose `onChange` (lines 274-281) keeps the chosen options
that are candidates and stores them with `setValue`; and, for a text input, the text
editor (lines 285-296).

* `widgetSelection_valid`: the select widget only ever stores a valid selection.
* `selectionInvariant_run`: **once a variable's selection is valid against its
  candidates, it stays valid through any sequence of loads, widget changes and text
  edits**, as long as no list a load settles on has a candidate holding the separator.
  A variable whose candidates were never loaded satisfies the invariant, so this holds
  from the page's load on. The selections that break it come from elsewhere:
  `initVariableSelected` and `setVariable` store any text.
-/

namespace Datav

variable (K : LoaderEnv)

/-- The `onChange` of the select widget (lines 274-281): the chosen options that are
candidates, joined with the separator, or `''` when none is. -/
def widgetSelection (values chosen : List String) : String :=
  let vs := chosen.filter (· ∈ values)
  if vs = [] then "" else join vs K.VariableSplitChar

/-- What can happen to one variable in its `SelectVariable`. -/
inductive VariableEvent
  /-- `loadValues`, with whatever it reads. -/
  | load (inp : LoadInput)
  /-- The options chosen in the select widget. -/
  | select (chosen : List String)
  /-- A new text in the editor of a text input. -/
  | text (s : String)

/-- The variable after one event; `setValue` changes only its selection here. The
widget is shown for a variable that is not a text input and has candidates (lines
270-272), its `values` state being `v.values`, which `loadValues` sets with it; the
editor is shown for a text input, and stores a text that differs from the selection. -/
def VariableEvent.apply (v : Variable) : VariableEvent → Variable
  | .load inp => (loadValues K v inp).v
  | .select chosen =>
    match v.values with
    | some vals@(_ :: _) =>
      if v.type ≠ .TextInput then
        (setValue K v (some (widgetSelection K vals chosen)) [] [] (fun _ _ => none)).v
      else v
    | _ => v
  | .text s =>
    if v.type = .TextInput ∧ some s ≠ v.selected then (setValue K v (some s) [] [] (fun _ _ => none)).v
    else v

/-- A sequence of events. -/
def VariableEvent.run (v : Variable) (es : List VariableEvent) : Variable :=
  es.foldl (VariableEvent.apply K) v

/-- The selection is valid against the candidates, none of which holds the separator. -/
def SelectionInvariant (v : Variable) : Prop :=
  ∀ vals, v.values = some vals →
    (∀ c ∈ vals, K.VariableSplitChar ∉ c.toList) ∧ selectionValid K v.selected vals = true

/-- The list a load of `v` settles on has no candidate holding the separator. -/
def LoadSeparatorFree (v : Variable) (inp : LoadInput) : Prop :=
  ∀ r nq rec, fetchValues K v inp = some (r, nq, rec) → ∀ c ∈ r, K.VariableSplitChar ∉ c.toList

/-- Every load of `es`, from `v` on, settles on a list free of the separator. -/
def LoadsSeparatorFree : Variable → List VariableEvent → Prop
  | _, [] => True
  | v, e :: es =>
    (∀ inp, e = .load inp → LoadSeparatorFree K v inp) ∧ LoadsSeparatorFree (e.apply K v) es

variable {K}

theorem loadValues_type (v : Variable) (inp : LoadInput) : (loadValues K v inp).v.type = v.type := by
  unfold loadValues; split <;> rfl

theorem apply_type (v : Variable) (e : VariableEvent) : (e.apply K v).type = v.type := by
  cases e with
  | load inp => exact loadValues_type v inp
  | select chosen => simp only [VariableEvent.apply]; split <;> (try split) <;> rfl
  | text s => simp only [VariableEvent.apply]; split <;> rfl

/-- **The widget stores a valid selection**: `''`, or a join of candidates that splits
back into them when no candidate holds the separator. -/
theorem widgetSelection_valid (vals chosen : List String)
    (hsep : ∀ c ∈ vals, K.VariableSplitChar ∉ c.toList) :
    selectionValid K (some (widgetSelection K vals chosen)) vals = true := by
  unfold widgetSelection
  dsimp only
  split_ifs with hvs
  · simp [selectionValid]
  · have hc : ∀ c ∈ chosen.filter (· ∈ vals), K.VariableSplitChar ∉ c.toList :=
      fun c hc => hsep c (by simpa using (List.mem_filter.1 hc).2)
    simp only [selectionValid, split_join hvs hc, List.all_eq_true, decide_eq_true_eq, Bool.or_eq_true]
    exact .inr fun c hc => by simpa using (List.mem_filter.1 hc).2

/-- A load keeps the invariant: a new list repairs the selection, the same list keeps it. -/
theorem selectionInvariant_load {v : Variable} (hv : SelectionInvariant K v) (inp : LoadInput)
    (hsep : LoadSeparatorFree K v inp) : SelectionInvariant K (loadValues K v inp).v := by
  cases hf : fetchValues K v inp with
  | none => simpa [loadValues, hf] using hv
  | some x =>
    obtain ⟨r, nq, rec⟩ := x
    rw [loadValues_of_fetch hf]
    rintro vals ⟨⟩
    by_cases hne : v.values = some r
    · simpa [settleLoad, hne, repairSelected_of_eq] using hv r hne
    · exact ⟨hsep r nq rec hf, selectionValid_repair hne (hsep r nq rec hf)⟩

/-- One event keeps the invariant of a variable that is not a text input. -/
theorem selectionInvariant_apply {v : Variable} (hty : v.type ≠ .TextInput)
    (hv : SelectionInvariant K v) (e : VariableEvent)
    (hsep : ∀ inp, e = .load inp → LoadSeparatorFree K v inp) :
    SelectionInvariant K (e.apply K v) := by
  cases e with
  | load inp => exact selectionInvariant_load hv inp (hsep inp rfl)
  | select chosen =>
    rcases hvals : v.values with _ | _ | ⟨c, cs⟩
    · simpa [VariableEvent.apply, hvals] using hv
    · simpa [VariableEvent.apply, hvals] using hv
    · have happ : VariableEvent.apply K v (.select chosen) =
          { v with selected := some (widgetSelection K (c :: cs) chosen) } := by
        simp [VariableEvent.apply, hvals, hty, setValue]
      rw [happ]
      intro vals' hv'
      obtain rfl : c :: cs = vals' := by simpa [hvals] using hv'
      exact ⟨(hv _ hvals).1, widgetSelection_valid _ chosen (hv _ hvals).1⟩
  | text s => simpa [VariableEvent.apply, hty] using hv

/-- **A valid selection stays valid.** From a variable that is not a text input and
whose selection is valid against its candidates (as one whose candidates were never
loaded is), every sequence of loads, widget changes and text edits leaves a valid
selection, when no load settles on a candidate holding the separator. -/
theorem selectionInvariant_run {v : Variable} (hty : v.type ≠ .TextInput)
    (hv : SelectionInvariant K v) (es : List VariableEvent) (hsep : LoadsSeparatorFree K v es) :
    SelectionInvariant K (VariableEvent.run K v es) := by
  induction es generalizing v with
  | nil => exact hv
  | cons e es ih =>
    exact ih (by rwa [apply_type]) (selectionInvariant_apply hty hv e hsep.1) hsep.2

/-- A `Custom` variable before its first load, with the selection `b|z` its URL gave. -/
def urlVar : Variable :=
  ⟨.num 4, "host", 1, none, .Custom, none, "a,b", some "b|z", none, false, .OnDashboardLoad, none, none⟩

theorem selectionInvariant_run_urlVar :
    (urlVar.type ≠ .TextInput ∧ SelectionInvariant demoEnv urlVar ∧
      LoadsSeparatorFree demoEnv urlVar [.load ⟨true, fun _ => none, [], [], .noCall⟩, .select ["a", "z"]]) ∧
    SelectionInvariant demoEnv
      (VariableEvent.run demoEnv urlVar [.load ⟨true, fun _ => none, [], [], .noCall⟩, .select ["a", "z"]]) := by
  have hinit : SelectionInvariant demoEnv urlVar := fun vals h => by simp [urlVar] at h
  have hfetch : fetchValues demoEnv urlVar ⟨true, fun _ => none, [], [], .noCall⟩ =
      some (["a", "b"], true, fun _ => none) := rfl
  have hsep : LoadsSeparatorFree demoEnv urlVar
      [.load ⟨true, fun _ => none, [], [], .noCall⟩, .select ["a", "z"]] := by
    refine ⟨?_, fun inp h => (by cases h), trivial⟩
    rintro inp ⟨⟩ r nq rec hf
    rw [hfetch, Option.some.injEq, Prod.mk.injEq] at hf
    obtain ⟨rfl, -⟩ := hf
    decide
  exact ⟨⟨by decide, hinit, hsep⟩, selectionInvariant_run (by decide) hinit _ hsep⟩

end Datav
