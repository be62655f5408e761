import Datav.Variable.Load

/-!
# The `VariableManuallyChangedKey` record over runs of `loadValues`

A variable whose refresh mode is `Manually` or `OnTimeRangeChange` keeps the
candidate list of its last query in local storage, under the key
`v.teamId + v.id`, and a later non-forced load takes the list from there.

* `recordAfter_eq`: after any run of calls, the record holds at each key the list
  stored by the last call of the run that stored under that key.
* `cachedValues_after_run`: so a non-forced load takes the sorted, filtered data of
  the last successful query of a variable with the same key. The key is a sum or a
  concatenation, so two variables of different teams can share it
  (`loadValues_reads_other_team`), where the `variables` record of
  `setValueToStorage` nests teams and ids.
-/

namespace Datav

variable (K : LoaderEnv)

/-- One `loadValues` call of a run: everything it reads but the record. -/
structure LoadCall where
  v : Variable
  forceLoad : Bool
  vars : List Variable
  datasources : List String
  answer : PluginAnswer

/-- The call's inputs, given the record as the run left it. -/
def LoadCall.input (c : LoadCall) (record : ManualRecord) : LoadInput :=
  ⟨c.forceLoad, record, c.vars, c.datasources, c.answer⟩

/-- The record after a run of calls. -/
def recordAfter (record : ManualRecord) : List LoadCall → ManualRecord
  | [] => record
  | c :: cs => recordAfter (loadValues K c.v (c.input record)).record cs

/-- What a call writes into the record: the key and the sorted, filtered data of a
successful query of a variable whose refresh mode keeps lists. -/
def storedBy (c : LoadCall) (record : ManualRecord) : Option (String × Option (List String)) :=
  if c.v.type ≠ .TextInput ∧ cachedValues c.v c.forceLoad record = none ∧ storesValues c.v then
    match queryVariableValues K c.v c.datasources c.answer with
    | some res =>
      if truthy res.error then none else some (manualKey c.v.teamId c.v.id, res.data.map sortValues)
    | none => none
  else none

/-- The writes of a run, in order. -/
def storeLog (record : ManualRecord) : List LoadCall → List (String × Option (List String))
  | [] => []
  | c :: cs => (storedBy K c record).toList ++ storeLog (loadValues K c.v (c.input record)).record cs

variable {K}

/-- **One call's write.** -/
theorem loadValues_record (c : LoadCall) (record : ManualRecord) :
    (loadValues K c.v (c.input record)).record =
      match storedBy K c record with
      | some (k, d) => Function.update record k d
      | none => record := by
  simp only [loadValues, fetchValues, storedBy, LoadCall.input]
  by_cases hty : c.v.type = .TextInput
  · simp [hty]
  cases hc : cachedValues c.v c.forceLoad record with
  | some l => simp [hty, hc, settleLoad]
  | none =>
    cases hq : queryVariableValues K c.v c.datasources c.answer with
    | none => simp [hty, hc, hq]
    | some res =>
      by_cases he : truthy res.error = true
      · simp [hty, hc, hq, he, settleLoad]
      · by_cases hs : storesValues c.v = true <;> simp [hty, hc, hq, he, hs, settleLoad]

/-- **The record after a run**: at each key, the list of the last write under that
key, or what the record held before the run. -/
theorem recordAfter_eq (cs : List LoadCall) :
    ∀ (record : ManualRecord) (k : String),
      recordAfter K record cs k =
        (((storeLog K record cs).reverse.find? (·.1 = k)).map (·.2)).getD (record k) := by
  induction cs with
  | nil => intro record k; rfl
  | cons c cs ih =>
    intro record k
    simp only [recordAfter, storeLog, List.reverse_append, List.find?_append, ih,
      loadValues_record]
    cases storedBy K c record with
    | none => simp
    | some p =>
      obtain ⟨k', d⟩ := p
      by_cases hk : k' = k
      · subst hk
        cases List.find? (fun x => decide (x.1 = k')) (storeLog K (Function.update record k' d) cs).reverse
          <;> simp
      · simp [hk, Function.update_noteq (Ne.symm hk)]

/-- A write of the log is the sorted, filtered data of a successful query of a
variable with the write's key. -/
theorem mem_storeLog {cs : List LoadCall} :
    ∀ {record : ManualRecord} {p : String × Option (List String)}, p ∈ storeLog K record cs →
      ∃ c ∈ cs, ∃ res, queryVariableValues K c.v c.datasources c.answer = some res ∧
        truthy res.error = false ∧ storesValues c.v = true ∧
        p = (manualKey c.v.teamId c.v.id, res.data.map sortValues) := by
  induction cs with
  | nil => simp [storeLog]
  | cons c cs ih =>
    intro record p hp
    simp only [storeLog, List.mem_append, Option.mem_toList] at hp
    rcases hp with hp | hp
    · simp only [storedBy] at hp
      split_ifs at hp with hif
      · split at hp
        · rename_i res hq
          split_ifs at hp with he
          · simp at hp
          · simp only [Option.mem_def, Option.some.injEq] at hp
            exact ⟨c, List.mem_cons_self _ _, res, hq, by simpa using he, hif.2.2, hp.symm⟩
        · simp at hp
      · simp at hp
    · obtain ⟨c', hc', h⟩ := ih hp
      exact ⟨c', List.mem_cons_of_mem _ hc', h⟩

/-- **What a cached read returns.** After any run from the empty record, a list that
`loadValues(v, false)` takes from the record is the sorted, filtered data of a
successful query of a variable whose key `teamId + id` is `v`'s, the last such query
of the run. -/
theorem cachedValues_after_run (cs : List LoadCall) (v : Variable) {l : List String}
    (h : cachedValues v false (recordAfter K (fun _ => none) cs) = some l) :
    (storeLog K (fun _ => none) cs).reverse.find? (·.1 = manualKey v.teamId v.id) =
        some (manualKey v.teamId v.id, some l) ∧
      ∃ c ∈ cs, ∃ res, queryVariableValues K c.v c.datasources c.answer = some res ∧
        truthy res.error = false ∧ storesValues c.v = true ∧
        manualKey c.v.teamId c.v.id = manualKey v.teamId v.id ∧ res.data.map sortValues = some l := by
  simp only [cachedValues, Bool.not_false, Bool.true_and, recordAfter_eq] at h
  split_ifs at h
  cases hf : (storeLog K (fun _ => none) cs).reverse.find? (·.1 = manualKey v.teamId v.id) with
  | none => simp [hf] at h
  | some p =>
    simp only [hf, Option.map_some', Option.getD_some] at h
    have hk := List.find?_some hf
    simp only [decide_eq_true_eq] at hk
    obtain ⟨c, hc, res, hq, he, hs, rfl⟩ := mem_storeLog (List.mem_reverse.1 (List.mem_of_find?_eq_some hf))
    exact ⟨by rw [← h, ← hk], c, hc, res, hq, he, hs, hk, h⟩

/-- A `Manually` variable of team 1 with id 2, whose candidates are `x,y`. -/
def teamOneVar : Variable :=
  ⟨.num 2, "region", 1, none, .Custom, none, "x,y", none, none, false, .Manually, none, none⟩

/-- A `Manually` variable of team 2 with id 1, whose own candidate is `z`. -/
def teamTwoVar : Variable :=
  ⟨.num 1, "zone", 2, none, .Custom, none, "z", none, none, false, .Manually, none, none⟩

theorem cachedValues_after_run_teamOne :
    (storeLog demoEnv (fun _ => none) [⟨teamOneVar, true, [], [], .noCall⟩]).reverse.find?
          (·.1 = manualKey teamOneVar.teamId teamOneVar.id) =
        some (manualKey teamOneVar.teamId teamOneVar.id, some ["x", "y"]) ∧
      ∃ c ∈ [(⟨teamOneVar, true, [], [], .noCall⟩ : LoadCall)], ∃ res,
        queryVariableValues demoEnv c.v c.datasources c.answer = some res ∧
        truthy res.error = false ∧ storesValues c.v = true ∧
        manualKey c.v.teamId c.v.id = manualKey teamOneVar.teamId teamOneVar.id ∧
        res.data.map sortValues = some ["x", "y"] :=
  cachedValues_after_run _ teamOneVar (by decide)

theorem loadValues_reads_other_team :
    manualKey teamOneVar.teamId teamOneVar.id = manualKey teamTwoVar.teamId teamTwoVar.id ∧
      (loadValues demoEnv teamTwoVar (forcedLoad [] .noCall)).v.values = some ["z"] ∧
      (loadValues demoEnv teamTwoVar
          ⟨false, (loadValues demoEnv teamOneVar (forcedLoad [] .noCall)).record, [], [], .noCall⟩).v.values =
        some ["x", "y"] ∧
      (loadValues demoEnv teamTwoVar
          ⟨false, (loadValues demoEnv teamOneVar (forcedLoad [] .noCall)).record, [], [], .noCall⟩).published =
        false := by
  decide

end Datav
