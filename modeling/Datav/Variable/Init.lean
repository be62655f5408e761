import Datav.Variable.Cascade

/-!
# Restoring selections when a dashboard loads

`initVariableSelected` (lines 303-334) gives each variable its selection when the
page loads: the URL's `var-<name>` parameter, else the selection `setValueToStorage`
kept for its team and id, else its default. A selection taken from the URL is
written back to the record.

The URL parameters are read through `selectedInUrl = {}`, a plain object, so
`selectedInUrl[v.name]` also finds what `{}` inherits from `Object.prototype`: a
variable named `constructor` or `toString` gets that function as its selection, and
never the one it stored.

* `setValue_restored`: **the selection `setValue` stores is the one the next load
  restores**, for every variable with the same team and id that the URL does not
  name and whose name is not a member of `Object.prototype`.
* `initVariableSelected_eq`: the selections the loop gives, and the record after it:
  at each key, the URL selection of the last variable there that the URL names.
* `initVariableSelected_stable`: when no two variables share a team and an id, a
  second load with the same URL, from the record the first one left, restores the
  same selections.
-/

namespace Datav

/-- The key of `v`'s selection in the `variables` record: its team, then its id. -/
def selectedKey (v : Variable) : String × String :=
  (toString v.teamId, idKey v.id)

/-- The function members of `Object.prototype`, which `{}` inherits. `__proto__` is
left out: a variable name holds only letters and digits (`nameTips` in `en.ts`). -/
def objectPrototypeNames : List String :=
  ["constructor", "__defineGetter__", "__defineSetter__", "hasOwnProperty", "__lookupGetter__",
    "__lookupSetter__", "isPrototypeOf", "propertyIsEnumerable", "toString", "valueOf",
    "toLocaleString"]

/-- A value `initVariableSelected` can give a selection: a text (`undefined` or `null`
as `none`), or the function member `name` of `Object.prototype`. -/
inductive Selection
  | text (s : Option String)
  | inherited (name : String)
  deriving DecidableEq

/-- The truthiness of a selection; a function is truthy. -/
def Selection.truthy : Selection → Bool
  | .text s => Datav.truthy s
  | .inherited _ => true

/-- What the record holds for a stored selection. `storage` (`utils/localStorage`, not
under src/) keeps JSON, and `JSON.stringify` drops a property whose value is a
function, so an inherited member leaves no entry. -/
def Selection.stored : Selection → Option (Option String)
  | .text s => some s
  | .inherited _ => none

/-- `selectedInUrl[name]` (lines 305-311 and 320): the URL's `var-<name>` parameter
(`getUrlParams` is not under src/, so `params` holds them by name), else the member of
`Object.prototype` of that name; `none` is `undefined`. -/
def urlSelected (params : String → Option String) (name : String) : Option Selection :=
  match params name with
  | some s => some (.text (some s))
  | none => if name ∈ objectPrototypeNames then some (.inherited name) else none

/-- The selection `initVariableSelected` gives `v` (lines 318-326), with `sv0` the
`variables` record as the loop read it, before its first write. -/
def initialSelected (params : String → Option String) (sv0 : SelectedRecord) (v : Variable) :
    Selection :=
  let selected := (urlSelected params v.name).getD (.text (sv0 (toString v.teamId) (idKey v.id)).join)
  if selected.truthy then selected
  else if v.type = .TextInput then .text (some (v.default.getD ""))
  else if isEmpty v.default then .text (v.values.bind List.head?)
  else .text v.default

/-- `setValueToStorage(v, selected)` (lines 384-404) with a selection of the loop. -/
def storeSelection (sv : SelectedRecord) (v : Variable) : Selection → SelectedRecord
  | .text s => setValueToStorage sv v s
  | .inherited _ =>
    Function.update sv (toString v.teamId) (Function.update (sv (toString v.teamId)) (idKey v.id) none)

/-- One pass of the loop of `initVariableSelected` (lines 317-333). -/
def initStep (params : String → Option String) (sv0 : SelectedRecord)
    (acc : List Selection × SelectedRecord) (v : Variable) : List Selection × SelectedRecord :=
  let selected := initialSelected params sv0 v
  (acc.1 ++ [selected],
    if selected.truthy && (urlSelected params v.name).any Selection.truthy then
      storeSelection acc.2 v selected
    else acc.2)

/-- `initVariableSelected` (lines 303-334): the selection it gives each variable, in
order, and the `variables` record after the loop. -/
def initVariableSelected (params : String → Option String) (sv0 : SelectedRecord)
    (vars : List Variable) : List Selection × SelectedRecord :=
  vars.foldl (initStep params sv0) ([], sv0)

/-- The variables whose URL selection the loop writes at key `key`. -/
def urlWritesAt (params : String → Option String) (key : String × String) (w : Variable) : Bool :=
  (urlSelected params w.name).any Selection.truthy && selectedKey w = key

/-- A write at one key of the nested record. -/
theorem update_record_apply (sv : SelectedRecord) (v : Variable) (x : Option (Option String))
    (t i : String) :
    Function.update sv (toString v.teamId) (Function.update (sv (toString v.teamId)) (idKey v.id) x) t i =
      if selectedKey v = (t, i) then x else sv t i := by
  simp only [selectedKey, Prod.mk.injEq]
  by_cases ht : t = toString v.teamId
  · subst ht
    by_cases hi : i = idKey v.id
    · subst hi; simp
    · simp [Ne.symm hi, Function.update_noteq hi]
  · simp [Ne.symm ht, Function.update_noteq ht]

theorem setValueToStorage_apply (sv : SelectedRecord) (v : Variable) (value : Option String)
    (t i : String) :
    setValueToStorage sv v value t i = if selectedKey v = (t, i) then some value else sv t i :=
  update_record_apply sv v _ t i

theorem storeSelection_apply (sv : SelectedRecord) (v : Variable) (sel : Selection) (t i : String) :
    storeSelection sv v sel t i = if selectedKey v = (t, i) then sel.stored else sv t i := by
  cases sel with
  | text s => exact setValueToStorage_apply sv v s t i
  | inherited _ => exact update_record_apply sv v none t i

variable {params : String → Option String} {sv0 : SelectedRecord}

/-- A selection the URL lookup finds, and that is truthy, wins. -/
theorem initialSelected_of_url {v : Variable} {sel : Selection} (h : urlSelected params v.name = some sel)
    (ht : sel.truthy = true) : initialSelected params sv0 v = sel := by
  simp only [initialSelected, h, Option.getD_some, ht, if_true]

/-- Without a URL parameter or an inherited member, the stored selection, when it is
not empty. -/
theorem initialSelected_of_stored {v : Variable} {x : String} (hurl : urlSelected params v.name = none)
    (hsv : sv0 (toString v.teamId) (idKey v.id) = some (some x)) (hx : x ≠ "") :
    initialSelected params sv0 v = .text (some x) := by
  simp [initialSelected, hurl, hsv, Selection.truthy, truthy, hx]

/-- **A selection `setValue` stores is restored.** After `setValue(v, x)` with a
non-empty `x`, the next load selects `x` for every variable with `v`'s team and id
whose name the URL does not carry and is not a member of `Object.prototype`. -/
theorem setValue_restored (K : LoaderEnv) (v : Variable) {x : String} (hx : x ≠ "")
    (vars panelVars : List Variable) (sv : SelectedRecord) {w : Variable}
    (hkey : selectedKey w = selectedKey v) (hurl : params w.name = none)
    (hproto : w.name ∉ objectPrototypeNames) :
    initialSelected params (setValue K v (some x) vars panelVars sv).selectedRecord w = .text (some x) := by
  refine initialSelected_of_stored (by simp [urlSelected, hurl, hproto]) ?_ hx
  simp only [setValue, setValueToStorage_apply]
  exact if_pos hkey.symm

/-- A `region` variable of team 1 with id 2, and a `zone` variable of team 1 with id 3. -/
def regionVar : Variable :=
  ⟨.num 2, "region", 1, none, .Custom, none, "eu,us", some "eu", some ["eu", "us"], false,
    .OnDashboardLoad, none, none⟩

/-- See `regionVar`. -/
def zoneVar : Variable :=
  ⟨.num 3, "zone", 1, none, .Custom, none, "a,b", some "a", some ["a", "b"], false,
    .OnDashboardLoad, none, none⟩

theorem setValue_restored_region :
    ("us" ≠ "" ∧ selectedKey regionVar = selectedKey regionVar ∧
        (fun _ => none : String → Option String) "region" = none ∧ "region" ∉ objectPrototypeNames) ∧
      initialSelected (fun _ => none)
        (setValue demoEnv regionVar (some "us") [regionVar, zoneVar] [] (fun _ _ => none)).selectedRecord
        regionVar = .text (some "us") :=
  ⟨⟨by decide, rfl, rfl, by decide⟩, setValue_restored demoEnv regionVar (by decide) _ _ _ rfl rfl (by decide)⟩

/-- A variable named `constructor` gets the function `{}` inherits, not what it stored. -/
example : initialSelected (fun _ => none)
    (setValue demoEnv { regionVar with name := "constructor" } (some "us") [] [] (fun _ _ => none)).selectedRecord
    { regionVar with name := "constructor" } = .inherited "constructor" := by
  decide

theorem initStep_fst (acc : List Selection × SelectedRecord) (v : Variable) :
    (initStep params sv0 acc v).1 = acc.1 ++ [initialSelected params sv0 v] :=
  rfl

theorem initStep_snd (acc : List Selection × SelectedRecord) (v : Variable) (t i : String) :
    (initStep params sv0 acc v).2 t i =
      if urlWritesAt params (t, i) v then (urlSelected params v.name).bind Selection.stored
      else acc.2 t i := by
  cases hu : urlSelected params v.name with
  | none => simp [initStep, urlWritesAt, hu]
  | some sel =>
    cases ht : sel.truthy
    · simp [initStep, urlWritesAt, hu, ht]
    · simp only [initStep, initialSelected_of_url hu ht, hu, ht, Option.any_some, Bool.and_self, if_true,
        storeSelection_apply, urlWritesAt, Bool.true_and, decide_eq_true_eq, Option.some_bind]

/-- **The loop.** Each variable gets `initialSelected`, read from the record as it was
before the loop; the record then holds, at each key, what storing the URL selection of
the last variable there that the URL names leaves, or what it held. -/
theorem initVariableSelected_eq (vars : List Variable) (t i : String) :
    (initVariableSelected params sv0 vars).1 = vars.map (initialSelected params sv0) ∧
      (initVariableSelected params sv0 vars).2 t i =
        match vars.reverse.find? (urlWritesAt params (t, i)) with
        | some w => (urlSelected params w.name).bind Selection.stored
        | none => sv0 t i := by
  constructor
  · suffices h : ∀ acc, (vars.foldl (initStep params sv0) acc).1 =
        acc.1 ++ vars.map (initialSelected params sv0) from
      (h ([], sv0)).trans (List.nil_append _)
    induction vars with
    | nil => intro acc; simp
    | cons v vs ih => intro acc; simp [ih, initStep_fst]
  · rw [initVariableSelected, ← List.reverse_reverse vars, List.foldl_reverse, List.reverse_reverse]
    induction vars.reverse with
    | nil => rfl
    | cons w ws ih =>
      rw [List.foldr_cons, initStep_snd, List.find?_cons]
      cases urlWritesAt params (t, i) w
      · exact ih
      · rfl

/-- **A second load restores the same selections**, when no two variables share a team
and an id: a variable whose URL lookup is truthy gets it again, and the record holds
for any other what it held, since only its own key could have changed. -/
theorem initVariableSelected_stable (vars : List Variable) (hnd : (vars.map selectedKey).Nodup)
    {v : Variable} (hv : v ∈ vars) :
    initialSelected params (initVariableSelected params sv0 vars).2 v = initialSelected params sv0 v := by
  cases hs : urlSelected params v.name with
  | some sel =>
    cases ht : sel.truthy
    · simp only [initialSelected, hs, Option.getD_some, ht, Bool.false_eq_true, if_false]
    · rw [initialSelected_of_url hs ht, initialSelected_of_url hs ht]
  | none =>
    have hsame : (initVariableSelected params sv0 vars).2 (toString v.teamId) (idKey v.id) =
        sv0 (toString v.teamId) (idKey v.id) := by
      rw [(initVariableSelected_eq vars _ _).2]
      cases hf : vars.reverse.find? (urlWritesAt params (toString v.teamId, idKey v.id)) with
      | none => rfl
      | some w =>
        have hw := List.find?_some hf
        have hwv : w ∈ vars := List.mem_reverse.1 (List.mem_of_find?_eq_some hf)
        simp only [urlWritesAt, Bool.and_eq_true, decide_eq_true_eq] at hw
        have : w = v := List.inj_on_of_nodup_map hnd hwv hv hw.2
        rw [this, hs] at hw
        exact absurd hw.1 (by simp)
    simp only [initialSelected, hsame]

theorem initVariableSelected_stable_region :
    ([regionVar, zoneVar].map selectedKey).Nodup ∧ regionVar ∈ [regionVar, zoneVar] ∧
      initialSelected (fun n => if n = "region" then some "us" else none)
          (initVariableSelected (fun n => if n = "region" then some "us" else none) (fun _ _ => none)
            [regionVar, zoneVar]).2 regionVar =
        initialSelected (fun n => if n = "region" then some "us" else none) (fun _ _ => none) regionVar :=
  ⟨by decide, List.mem_cons_self _ _,
    initVariableSelected_stable [regionVar, zoneVar] (by decide) (List.mem_cons_self _ _)⟩

end Datav
