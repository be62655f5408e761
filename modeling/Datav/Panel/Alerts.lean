import Datav.Panel.Basic

/-!
# `queryAlerts`

An alert panel asks each of its datasources for alert groups, concatenates the
answers, and flattens them to rules tagged with their datasource and group. Each
alert of a rule drops the `alertname` label and every label the rule carries with
the same value.

* `mem_dedupLabels`: the labels an alert keeps.
* `queryAlerts_eq`: when every datasource answers, `queryAlerts` returns the error of
  the last answer and the rules of every answer's data, in order, with every alert
  kept and its labels deduplicated.
* `queryAlerts_hides_earlier_error`: a failure followed by a success ends with no
  error.
-/

namespace Datav

/-- A JavaScript object of string labels: its keys are distinct. -/
structure Labels where
  pairs : List (String × String)
  nodup : (pairs.map Prod.fst).Nodup

namespace Labels

instance : DecidableEq Labels := fun a b =>
  decidable_of_iff (a.pairs = b.pairs) (by cases a; cases b; simp)

/-- `labels[k]`. -/
def get (l : Labels) (k : String) : Option String :=
  l.pairs.lookup k

/-- `delete labels[k]`. -/
def erase (l : Labels) (k : String) : Labels :=
  ⟨l.pairs.filter (·.1 ≠ k), ((List.filter_sublist _).map _).nodup l.nodup⟩

theorem mem_erase {l : Labels} {k : String} {p : String × String} :
    p ∈ (l.erase k).pairs ↔ p ∈ l.pairs ∧ p.1 ≠ k := by
  simp [erase]

theorem get_eq_some {l : Labels} {p : String × String} (h : p ∈ l.pairs) : l.get p.1 = some p.2 := by
  obtain ⟨pairs, nodup⟩ := l
  simp only [get]
  induction pairs with
  | nil => simp at h
  | cons q qs ih =>
    simp only [List.map_cons, List.nodup_cons, List.mem_map] at nodup
    rcases List.mem_cons.1 h with rfl | h
    · exact List.lookup_cons_self
    · have hne : q.1 ≠ p.1 := fun he => nodup.1 ⟨p, h, he.symm⟩
      rw [← ih nodup.2 h]
      obtain ⟨k, b⟩ := q
      simp only [List.lookup_cons, beq_eq_false_iff_ne.2 (Ne.symm hne)]

theorem mem_keys_of_get {l : Labels} {k v : String} (h : l.get k = some v) :
    k ∈ l.pairs.map Prod.fst := by
  have key : ∀ ps : List (String × String), ps.lookup k = some v → k ∈ ps.map Prod.fst := by
    intro ps hps
    induction ps with
    | nil => simp at hps
    | cons q qs ih =>
      obtain ⟨k', b⟩ := q
      simp only [List.lookup_cons] at hps
      split at hps
      · rename_i hq
        simp [beq_iff_eq.1 hq]
      · exact List.mem_cons_of_mem _ (ih hps)
  exact key _ h

end Labels

/-- An alert of a rule. -/
structure Alert where
  labels : Labels
  name : String
  deriving DecidableEq

/-- An alert rule; `fromDs`, `groupName` and `groupNamespace` are set by `queryAlerts`. -/
structure AlertRule where
  name : String
  labels : Labels
  alerts : List Alert
  fromDs : String
  groupName : String
  groupNamespace : String
  deriving DecidableEq

/-- An alert group. -/
structure AlertGroup where
  name : String
  file : String
  rules : List AlertRule

/-- An element of a datasource's answer: its alert groups. -/
structure AlertData where
  groups : List AlertGroup
  fromDs : String

/-- What `queryAlerts` gets for one datasource id. -/
inductive AlertAnswer
  /-- No datasource with that id, no plugin or no `queryAlerts`, or a rejected call:
  `ds.type`, `res.error` or the `await` throws. -/
  | throws
  | response (error : Option String) (data : List AlertData)

/-- The label clean-up of one alert (lines 1013-1020). -/
def dedupLabels (ruleLabels labels : Labels) : Labels :=
  (ruleLabels.pairs.map Prod.fst).foldl
    (fun ls k => if ls.get k = ruleLabels.get k then ls.erase k else ls) (labels.erase "alertname")

/-- A rule as `queryAlerts` returns it (lines 1007-1022). `jsonToEqualPairs` comes from
`utils/format`, which is not under src/. -/
def tagRule (jsonToEqualPairs : List (String × String) → String) (d : AlertData) (g : AlertGroup)
    (rule : AlertRule) : AlertRule :=
  { rule with
    fromDs := d.fromDs
    groupName := g.name
    groupNamespace := g.file
    alerts := rule.alerts.map fun a =>
      let labels := dedupLabels rule.labels a.labels
      { labels := labels, name := rule.name ++ jsonToEqualPairs labels.pairs } }

/-- The loop over `dsIds` (lines 988-1000): `result.error` is overwritten and
`result.data` extended by each answer; `none` when the loop throws. -/
def collectAlerts : List AlertAnswer → Option String × List AlertData →
    Option (Option String × List AlertData)
  | [], acc => some acc
  | .throws :: _, _ => none
  | .response error data :: rest, (_, acc) => collectAlerts rest (error, acc ++ data)

/-- `queryAlerts` (lines 977-1029), given the answer for each id of `dsIds`. -/
def queryAlerts (jsonToEqualPairs : List (String × String) → String) (answers : List AlertAnswer) :
    Option (Option String × List AlertRule) :=
  (collectAlerts answers (none, [])).map fun r =>
    (r.1, r.2.flatMap fun d => d.groups.flatMap fun g => g.rules.map (tagRule jsonToEqualPairs d g))

theorem mem_dedupLabels_fold (rl : Labels) (ks : List String) :
    ∀ (ls : Labels) (p : String × String),
      p ∈ (ks.foldl (fun ls k => if ls.get k = rl.get k then ls.erase k else ls) ls).pairs ↔
        p ∈ ls.pairs ∧ ¬(p.1 ∈ ks ∧ rl.get p.1 = some p.2) := by
  induction ks with
  | nil => simp
  | cons k ks ih =>
    intro ls p
    rw [List.foldl_cons, ih]
    have step : p ∈ (if ls.get k = rl.get k then ls.erase k else ls).pairs ↔
        p ∈ ls.pairs ∧ ¬(p.1 = k ∧ rl.get p.1 = some p.2) := by
      split_ifs with he
      · rw [Labels.mem_erase]
        refine and_congr_right fun hp => ⟨fun h hk => h hk.1, fun h hk => h ⟨hk, ?_⟩⟩
        rw [hk, ← he, ← hk, Labels.get_eq_some hp]
      · refine ⟨fun hp => ⟨hp, fun hk => he ?_⟩, fun h => h.1⟩
        rw [← hk.1, Labels.get_eq_some hp, hk.2]
    rw [step]
    simp only [List.mem_cons, or_and_right, not_or, and_assoc]

/-- **The labels an alert keeps**: its own, less `alertname` and those the rule
carries with the same value. -/
theorem mem_dedupLabels {rl l : Labels} {p : String × String} :
    p ∈ (dedupLabels rl l).pairs ↔ p ∈ l.pairs ∧ p.1 ≠ "alertname" ∧ rl.get p.1 ≠ some p.2 := by
  rw [dedupLabels, mem_dedupLabels_fold, Labels.mem_erase]
  constructor
  · rintro ⟨⟨hp, ha⟩, hr⟩
    exact ⟨hp, ha, fun h => hr ⟨Labels.mem_keys_of_get h, h⟩⟩
  · rintro ⟨hp, ha, hr⟩
    exact ⟨⟨hp, ha⟩, fun h => hr h.2⟩

theorem collectAlerts_response (answers : List (Option String × List AlertData)) :
    ∀ (acc : Option String × List AlertData),
      collectAlerts (answers.map fun a => .response a.1 a.2) acc =
        some ((answers.getLast?.map (·.1)).getD acc.1, acc.2 ++ answers.flatMap (·.2)) := by
  induction answers with
  | nil => intro acc; simp [collectAlerts]
  | cons a as ih =>
    intro acc
    simp only [List.map_cons, collectAlerts, ih, List.append_assoc, List.flatMap_cons]
    cases as with
    | nil => simp
    | cons b bs => simp [List.getLast?_eq_getLast (b :: bs) (List.cons_ne_nil b bs)]

/-- **`queryAlerts` when every datasource answers.** It returns normally. Its error is
the last answer's, and its data the rules of every answer's data (a failing answer's
included), in order. Each rule keeps its name and labels and is tagged with its
datasource and group; each of its alerts is kept, in order, with its labels less
`alertname` and those the rule carries with the same value, and named after the rule
and those labels. -/
theorem queryAlerts_eq (jsonToEqualPairs : List (String × String) → String)
    (answers : List (Option String × List AlertData)) :
    queryAlerts jsonToEqualPairs (answers.map fun a => .response a.1 a.2) =
        some ((answers.getLast?.map (·.1)).getD none,
          (answers.flatMap (·.2)).flatMap fun d =>
            d.groups.flatMap fun g => g.rules.map (tagRule jsonToEqualPairs d g)) ∧
      ∀ d g rule, (tagRule jsonToEqualPairs d g rule).name = rule.name ∧
        (tagRule jsonToEqualPairs d g rule).labels = rule.labels ∧
        (tagRule jsonToEqualPairs d g rule).fromDs = d.fromDs ∧
        (tagRule jsonToEqualPairs d g rule).groupName = g.name ∧
        (tagRule jsonToEqualPairs d g rule).groupNamespace = g.file ∧
        (tagRule jsonToEqualPairs d g rule).alerts = rule.alerts.map (fun a =>
          ⟨dedupLabels rule.labels a.labels,
            rule.name ++ jsonToEqualPairs (dedupLabels rule.labels a.labels).pairs⟩) ∧
        ∀ (l : Labels) p, p ∈ (dedupLabels rule.labels l).pairs ↔
          p ∈ l.pairs ∧ p.1 ≠ "alertname" ∧ rule.labels.get p.1 ≠ some p.2 :=
  ⟨by simp [queryAlerts, collectAlerts_response],
    fun _ _ _ => ⟨rfl, rfl, rfl, rfl, rfl, rfl, fun _ _ => mem_dedupLabels⟩⟩

/-- **An earlier failure is hidden.** `result.error = res.error` (line 997) overwrites the
error of each datasource with the next one's, so a failure followed by a success ends
with no error. -/
theorem queryAlerts_hides_earlier_error :
    queryAlerts (fun _ => "") [.response (some "connection refused") [], .response none []] =
      some (none, []) :=
  rfl

end Datav
