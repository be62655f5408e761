import Datav.Panel.System

/-!
# Interleavings of the runs of one panel

The debounce starts a new run 200 ms after the last change, but nothing cancels
or tags the runs already waiting on their calls. When such a run settles, it
writes the cache and sets the panel's data, whether or not a later run started.

* `panelState_last_settled`: the panel's data and error are those of the last run
  that settled, as long as no later event starts or settles a run of that panel.
* `runLoop_after_forceRequery`: after a force-requery, until some run settles, the
  next run of the panel dispatches every visible, resolved query.
* `superseded_run_applies`: both, for every interleaving.
* `stale_run_overwrites`: a run superseded by a later one settles last, and the
  panel ends with its data and the cache with its key.
-/

namespace Datav

variable {α : Type} [DecidableEq α] (E : QueryEnv)

/-- Whether event `e` may set component `k`'s state in `t`: `k`'s timer fires, or a
run of `k` settles. -/
def Event.touches (t : System α) (k : Nat) : Event α → Bool
  | .fire k' => decide (k' = k)
  | .settleQueries i _ => (t.waiting[i]?.map fun w => decide (w.panel = k)).getD false
  | .settleAlerts i _ => (t.waiting[i]?.map fun w => decide (w.panel = k)).getD false
  | _ => false

/-- A sequence of events none of which touches component `k`. -/
def Untouched (k : Nat) : System α → List (Event α) → Prop
  | _, [] => True
  | t, e :: es => e.touches t k = false ∧ Untouched k (t.step E e) es

/-- Whether an event is the completion of a run's queries. -/
def Event.isSettleQueries : Event α → Bool
  | .settleQueries _ _ => true
  | _ => false

variable {E}

/-- An event that does not touch `k` leaves its state. -/
theorem step_panels_of_untouched {t : System α} {k : Nat} {e : Event α}
    (h : e.touches t k = false) : (t.step E e).panels k = t.panels k := by
  cases e with
  | fire k' =>
    have hk : k ≠ k' := by rintro rfl; simp [Event.touches] at h
    simp only [System.step]
    split
    · rfl
    · simp [Function.update_noteq hk]
  | settleQueries i outcomes =>
    simp only [System.step]
    split
    · rename_i k' promises data hw
      have hk : k ≠ k' := by rintro rfl; simp [Event.touches, hw] at h
      split_ifs <;> simp [Function.update_noteq hk]
    · rfl
  | settleAlerts i answers =>
    simp only [System.step]
    split
    · rename_i k' snapshot hw
      have hk : k ≠ k' := by rintro rfl; simp [Event.touches, hw] at h
      simp [Function.update_noteq hk]
    · rfl
  | schedule => rfl
  | forceRequery => rfl
  | unmount => simp only [System.step]; split_ifs <;> rfl

theorem run_panels_of_untouched {k : Nat} :
    ∀ {t : System α} {es : List (Event α)}, Untouched E k t es → (t.run E es).panels k = t.panels k
  | _, [], _ => rfl
  | t, e :: es, ⟨he, hes⟩ => by
    rw [System.run, List.foldl_cons]
    exact (run_panels_of_untouched hes).trans (step_panels_of_untouched he)

/-- **Last settled wins.** When a run of component `k` settles, the panel's data
become that run's hits followed by its fresh data, and its error the last one the
run's calls set, whatever runs of `k` started after it; they stay so until an event
starts or settles another run of `k`. -/
theorem panelState_last_settled {t : System α} {i k : Nat} {promises : List Dispatch}
    {data : List (PanelItem α)} {outcomes : List (Settled α)} {post : List (Event α)}
    (hw : t.waiting[i]? = some ⟨k, .queries promises data⟩) (hlen : outcomes.length = promises.length)
    (hpost : Untouched E k (t.step E (.settleQueries i outcomes)) post) :
    ((t.step E (.settleQueries i outcomes)).run E post).panels k =
      ⟨some (data ++ (promises.zip outcomes).filterMap freshOf),
        (((promises.zip outcomes).filterMap errorOf).getLast?).getD (t.panels k).queryError⟩ := by
  rw [run_panels_of_untouched hpost]
  simp only [System.step, hw, hlen, if_true, Function.update_same]
  exact completeQueries_eq _ _ _ _ _

/-- Only a completion fills an entry of `prevQueries`. -/
theorem step_prevQueries_none {s : System α} {e : Event α} (he : e.isSettleQueries = false)
    {id : String} (h : s.cache.prevQueries id = none) : (s.step E e).cache.prevQueries id = none := by
  cases e with
  | fire k => simp only [System.step]; split <;> exact h
  | settleQueries => simp [Event.isSettleQueries] at he
  | settleAlerts i answers => simp only [System.step]; split <;> exact h
  | schedule => exact h
  | forceRequery panel dashboardId =>
    simp only [System.step, QueryCache.clears_forget.foldl_prevQueries, h, ite_self]
  | unmount panel dashboardId =>
    simp only [System.step]
    split_ifs
    · simp only [QueryCache.clears_forgetQuery.foldl_prevQueries, h, ite_self]
    · exact h

theorem run_prevQueries_none {id : String} :
    ∀ {s : System α} {es : List (Event α)}, (∀ e ∈ es, e.isSettleQueries = false) →
      s.cache.prevQueries id = none → (s.run E es).cache.prevQueries id = none
  | _, [], _, h => h
  | _, e :: es, hes, h => by
    rw [System.run, List.foldl_cons]
    exact run_prevQueries_none (fun e' he' => hes e' (List.mem_cons_of_mem _ he'))
      (step_prevQueries_none (hes e (List.mem_cons_self _ _)) h)

/-- A resolved query is cached under one of the ids the force-requery handler clears. -/
theorem queryId_mem_panelQueryIds {inp : RunInput} {dsType : String} {q : PanelQuery}
    (hq : q ∈ resolvedQueries E inp dsType) :
    queryId inp q ∈ panelQueryIds inp.panel inp.dashboardId := by
  obtain ⟨q0, hq0, hr⟩ := List.mem_filterMap.1 hq
  simp only [resolveQuery] at hr
  split_ifs at hr
  cases hr
  exact List.mem_map.2 ⟨q0, hq0, by simp [queryId, inp.replace_id]⟩

/-- **After a force-requery, the next run dispatches everything.** Until some run
settles, every visible, resolved query of the panel misses the cache, so the loop
of a run of that panel serves nothing and dispatches each of them. -/
theorem runLoop_after_forceRequery (s : System α) (P : Panel) (D : String) {mid : List (Event α)}
    (hmid : ∀ e ∈ mid, e.isSettleQueries = false) {inp : RunInput} (hP : inp.panel = P)
    (hD : inp.dashboardId = D) (dsType : String) (queryError : Option String) :
    runLoop E ((s.step E (.forceRequery P D)).run E mid).cache inp dsType queryError =
      ⟨[], (resolvedQueries E inp dsType).map
        (fun q => ⟨queryId inp q, ⟨q, inp.timeRange, dsType⟩, inp.hasRunQuery⟩), queryError⟩ := by
  have hmiss : ∀ q ∈ resolvedQueries E inp dsType,
      cacheHit ((s.step E (.forceRequery P D)).run E mid).cache inp dsType q = false := by
    intro q hq
    have hmem := queryId_mem_panelQueryIds hq
    rw [hP, hD] at hmem
    have hnone : ((s.step E (.forceRequery P D)).run E mid).cache.prevQueries (queryId inp q) = none :=
      run_prevQueries_none hmid (by simp [System.step, QueryCache.clears_forget.foldl_prevQueries, hmem])
    simp [cacheHit, hnone]
  rw [runLoop_eq, List.filter_eq_nil_iff.2 (by simpa using hmiss),
    List.filter_eq_self.2 (by simpa using hmiss)]
  simp [List.any_eq_false.2 (by simpa using hmiss)]

/-- **Runs are not tagged.** Any run of a panel that settles, superseded or not,
sets the panel's data and error; and after a force-requery, as long as no run
settles, a run of that panel serves nothing from the cache. -/
theorem superseded_run_applies :
    (∀ (t : System α) (i k : Nat) (promises : List Dispatch) (data : List (PanelItem α))
        (outcomes : List (Settled α)) (post : List (Event α)),
        t.waiting[i]? = some ⟨k, .queries promises data⟩ → outcomes.length = promises.length →
        Untouched E k (t.step E (.settleQueries i outcomes)) post →
        ((t.step E (.settleQueries i outcomes)).run E post).panels k =
          ⟨some (data ++ (promises.zip outcomes).filterMap freshOf),
            (((promises.zip outcomes).filterMap errorOf).getLast?).getD (t.panels k).queryError⟩) ∧
      ∀ (s : System α) (P : Panel) (D : String) (mid : List (Event α)) (inp : RunInput)
        (dsType : String) (queryError : Option String),
        (∀ e ∈ mid, e.isSettleQueries = false) → inp.panel = P → inp.dashboardId = D →
        runLoop E ((s.step E (.forceRequery P D)).run E mid).cache inp dsType queryError =
          ⟨[], (resolvedQueries E inp dsType).map
            (fun q => ⟨queryId inp q, ⟨q, inp.timeRange, dsType⟩, inp.hasRunQuery⟩), queryError⟩ :=
  ⟨fun _ _ _ _ _ _ _ hw hlen hpost => panelState_last_settled hw hlen hpost,
    fun s P D _ _ dsType queryError hmid hP hD => runLoop_after_forceRequery s P D hmid hP hD dsType queryError⟩

/-- Component 0 starts a run over the last minute, then, before it settles, one over
the last two minutes. -/
def twoRunsTrace : List (Event Nat) :=
  [.schedule 0 (twoQueryRun 60000), .fire 0, .schedule 0 (twoQueryRun 120000), .fire 0]

/-- The later run settles with `[2]` and `[3]`, then the superseded one with `[1]`
and `[1]`: the panel and the cache end with the superseded run's results. -/
theorem stale_run_overwrites :
    (((System.init.run demoQueryEnv twoRunsTrace).step demoQueryEnv
        (.settleQueries 1 [.fulfilled (some ⟨[2], none⟩), .fulfilled (some ⟨[3], none⟩)])).panels 0).panelData =
      some [.series [2], .series [3]] ∧
    ((((System.init.run demoQueryEnv twoRunsTrace).step demoQueryEnv
        (.settleQueries 1 [.fulfilled (some ⟨[2], none⟩), .fulfilled (some ⟨[3], none⟩)])).step demoQueryEnv
        (.settleQueries 0 [.fulfilled (some ⟨[1], none⟩), .fulfilled (some ⟨[1], none⟩)])).panels 0).panelData =
      some [.series [1], .series [1]] ∧
    (((System.init.run demoQueryEnv twoRunsTrace).step demoQueryEnv
        (.settleQueries 1 [.fulfilled (some ⟨[2], none⟩), .fulfilled (some ⟨[3], none⟩)])).step demoQueryEnv
        (.settleQueries 0 [.fulfilled (some ⟨[1], none⟩), .fulfilled (some ⟨[1], none⟩)])).cache.prevQueries
        (formatQueryId 7 "d1" 1 1 "graph") =
      some ⟨⟨1, "up", true, 15⟩, ⟨0, 60000⟩, "prometheus"⟩ := by
  decide

/-- The calls of the first run of `twoRunsTrace`. -/
def staleDispatches : List Dispatch :=
  [⟨formatQueryId 7 "d1" 1 1 "graph", ⟨⟨1, "up", true, 15⟩, ⟨0, 60000⟩, "prometheus"⟩, true⟩,
    ⟨formatQueryId 7 "d1" 1 2 "graph", ⟨⟨2, "down", true, 15⟩, ⟨0, 60000⟩, "prometheus"⟩, true⟩]

theorem superseded_run_applies_twoRuns :
    ((System.init.run demoQueryEnv twoRunsTrace).step demoQueryEnv
        (.settleQueries 0 [.fulfilled (some ⟨[1], none⟩), .fulfilled (some ⟨[1], none⟩)])).panels 0 =
      ⟨some ([] ++ (staleDispatches.zip
          [.fulfilled (some ⟨[1], none⟩), .fulfilled (some ⟨[1], none⟩)]).filterMap freshOf),
        (((staleDispatches.zip [.fulfilled (some ⟨[1], none⟩), .fulfilled (some ⟨[1], none⟩)]).filterMap
          errorOf).getLast?).getD ((System.init.run demoQueryEnv twoRunsTrace).panels 0).queryError⟩ ∧
    runLoop demoQueryEnv (((System.init.run demoQueryEnv demoTrace).step demoQueryEnv
        (.forceRequery (twoQueryRun 60000).panel "d1")).run demoQueryEnv [.schedule 0 (twoQueryRun 60000)]).cache
        (twoQueryRun 60000) "prometheus" none =
      ⟨[], (resolvedQueries demoQueryEnv (twoQueryRun 60000) "prometheus").map (fun q =>
        ⟨queryId (twoQueryRun 60000) q, ⟨q, (twoQueryRun 60000).timeRange, "prometheus"⟩,
          (twoQueryRun 60000).hasRunQuery⟩), none⟩ :=
  ⟨(@superseded_run_applies Nat _ demoQueryEnv).1 (System.init.run demoQueryEnv twoRunsTrace) 0 0 staleDispatches []
      [.fulfilled (some ⟨[1], none⟩), .fulfilled (some ⟨[1], none⟩)] [] rfl rfl trivial,
    (@superseded_run_applies Nat _ demoQueryEnv).2 _ _ "d1" [.schedule 0 (twoQueryRun 60000)] (twoQueryRun 60000) "prometheus" none
      (by decide) rfl rfl⟩

end Datav
