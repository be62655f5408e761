import Datav.Panel.Query

/-!
# The query cache over every run of every panel

The cache `prevQueries`/`prevQueryData` is shared by every `PanelComponent` of the
page. A system state holds it with each component's state, its debounce timer and
the runs waiting on an `await`. Any component's effect may be rescheduled, any timer
may fire, and waiting runs settle in any order; force-requery handlers and unmounts
clear entries. The model also keeps a log of every settled call.

* `reachable_cache_sound`: in every reachable state, each cached query is backed by a
  logged call that was dispatched under its id with that key and fulfilled with the
  cached data, which is not empty.
-/

namespace Datav

variable {α : Type}

/-- A run waiting on its `await`, started by component `panel`. -/
structure Waiting (α : Type) where
  panel : Nat
  pending : Pending α

/-- The page: the cache, each component's state and timer, the waiting runs, and
the log of settled calls (each dispatch with the outcome it got). -/
structure System (α : Type) where
  cache : QueryCache α
  panels : Nat → PanelState α
  /-- The input of the scheduled run and `panelData` as its closure saw it. -/
  timers : Nat → Option (RunInput × Option (List (PanelItem α)))
  waiting : List (Waiting α)
  log : List (Dispatch × Settled α)

/-- A fresh page. -/
def System.init : System α :=
  ⟨QueryCache.empty, fun _ => ⟨none, none⟩, fun _ => none, [], []⟩

/-- What can happen next. -/
inductive Event (α : Type)
  /-- A dependency of component `k`'s query effect changed: its timer is reset
  (lines 308-327). -/
  | schedule (k : Nat) (inp : RunInput)
  /-- Component `k`'s timer fires: `queryData` runs. -/
  | fire (k : Nat)
  /-- `Promise.allSettled` of the `i`-th waiting run resolves. -/
  | settleQueries (i : Nat) (outcomes : List (Settled α))
  /-- `queryAlerts` of the `i`-th waiting run returns. -/
  | settleAlerts (i : Nat) (answers : List AlertAnswer)
  /-- `PanelForceRequeryEvent` for `panel` of dashboard `dashboardId` (lines 213-229). -/
  | forceRequery (panel : Panel) (dashboardId : String)
  /-- A component of `panel` unmounts (lines 289-305). -/
  | unmount (panel : Panel) (dashboardId : String)

/-- The ids of a panel's queries, as the force-requery handler and the unmount
clean-up compute them. -/
def panelQueryIds (panel : Panel) (dashboardId : String) : List String :=
  panel.datasource.queries.map fun q =>
    formatQueryId panel.datasource.id dashboardId panel.id q.id panel.type

section Step

variable [DecidableEq α] (E : QueryEnv)

/-- One event. -/
def System.step (s : System α) : Event α → System α
  | .schedule k inp => { s with timers := Function.update s.timers k (some (inp, (s.panels k).panelData)) }
  | .fire k =>
    match s.timers k with
    | none => s
    | some (inp, snapshot) =>
      let r := queryData E s.cache (s.panels k) snapshot inp
      { s with
        timers := Function.update s.timers k none
        panels := Function.update s.panels k r.1
        waiting := s.waiting ++ (r.2.map fun p => ⟨k, p⟩).toList }
  | .settleQueries i outcomes =>
    match s.waiting[i]? with
    | some ⟨k, .queries promises data⟩ =>
      if outcomes.length = promises.length then
        let r := completeQueries s.cache (s.panels k) promises data outcomes
        { s with
          cache := r.1
          panels := Function.update s.panels k r.2
          waiting := s.waiting.eraseIdx i
          log := s.log ++ (promises.zip outcomes).map fun po => (po.1, po.1.outcome po.2) }
      else s
    | _ => s
  | .settleAlerts i answers =>
    match s.waiting[i]? with
    | some ⟨k, .alerts snapshot⟩ =>
      { s with
        panels := Function.update s.panels k (completeAlerts E (s.panels k) snapshot answers)
        waiting := s.waiting.eraseIdx i }
    | _ => s
  | .forceRequery panel dashboardId =>
    { s with cache := (panelQueryIds panel dashboardId).foldl QueryCache.forget s.cache }
  | .unmount panel dashboardId =>
    if panel.type = PanelTypeAlert then
      { s with cache := (panelQueryIds panel dashboardId).foldl QueryCache.forgetQuery s.cache }
    else s

/-- A sequence of events. -/
def System.run (s : System α) (es : List (Event α)) : System α :=
  es.foldl (System.step E) s

/-- The states a fresh page reaches. -/
inductive Reachable : System α → Prop
  | init : Reachable System.init
  | step {s : System α} (e : Event α) : Reachable s → Reachable (s.step E e)

end Step

/-- Every cached query is backed by a logged call, dispatched under its id with
that key and fulfilled with the cached data, which is not empty. -/
def CacheBacked (cache : QueryCache α) (log : List (Dispatch × Settled α)) : Prop :=
  ∀ id key, cache.prevQueries id = some key →
    ∃ d, cache.prevQueryData id = some d ∧ d ≠ [] ∧
      ∃ p res, (p, Settled.fulfilled (some res)) ∈ log ∧ p.called = true ∧ p.id = id ∧
        p.query = key ∧ res.data = d

theorem Dispatch.called_of_outcome {p : Dispatch} {o : Settled α} {res : Response α}
    (h : p.outcome o = .fulfilled (some res)) : p.called = true := by
  by_contra hc
  simp [Dispatch.outcome, hc] at h

namespace CacheBacked

variable {c : QueryCache α} {log : List (Dispatch × Settled α)}

theorem mono {log' : List (Dispatch × Settled α)} (h : CacheBacked c log) (hl : ∀ x ∈ log, x ∈ log') :
    CacheBacked c log' := by
  intro id key hk
  obtain ⟨d, hd, hne, p, res, hp, hrest⟩ := h id key hk
  exact ⟨d, hd, hne, p, res, hl _ hp, hrest⟩

theorem write (h : CacheBacked c log) {p : Dispatch} {res : Response α}
    (hp : (p, Settled.fulfilled (some res)) ∈ log) (hc : p.called = true) (hne : res.data ≠ []) :
    CacheBacked (c.write p.id p.query res.data) log := by
  intro id key hk
  by_cases hid : id = p.id
  · subst hid
    simp only [QueryCache.write_prevQueries, Function.update_same, Option.some.injEq] at hk
    exact ⟨res.data, by simp, hne, p, res, hp, hc, rfl, hk, rfl⟩
  · simpa [hid] using h id key (by simpa [hid] using hk)

/-- The force-requery handler and the unmount clean-up keep the cache backed: they
only drop keys of `prevQueries`. -/
theorem foldl_clear {f : QueryCache α → String → QueryCache α} (hf : QueryCache.Clears f)
    (h : CacheBacked c log) (ids : List String) : CacheBacked (ids.foldl f c) log := by
  intro id key hk
  rw [hf.foldl_prevQueries] at hk
  split_ifs at hk
  rw [hf.foldl_prevQueryData]
  exact h id key hk

end CacheBacked

section Step

variable [DecidableEq α] {E : QueryEnv}

/-- A settled promise writes the cache only with its own fulfilled, non-empty data. -/
theorem settleOne_cache (acc : QueryCache α × List (PanelItem α) × Option String)
    (po : Dispatch × Settled α) :
    (settleOne acc po).1 = acc.1 ∨ ∃ res, po.1.outcome po.2 = .fulfilled (some res) ∧
      res.data ≠ [] ∧ (settleOne acc po).1 = acc.1.write po.1.id po.1.query res.data := by
  rcases h : po.1.outcome po.2 with ⟨_ | res⟩ | reason <;> simp only [settleOne, h]
  · simp
  · split_ifs with hd
    · exact .inl rfl
    · exact .inr ⟨res, rfl, hd, rfl⟩
  · simp

theorem CacheBacked.foldl_settleOne {log : List (Dispatch × Settled α)} (pos : List (Dispatch × Settled α))
    (hpos : ∀ po ∈ pos, (po.1, po.1.outcome po.2) ∈ log) :
    ∀ acc : QueryCache α × List (PanelItem α) × Option String, CacheBacked acc.1 log →
      CacheBacked (pos.foldl settleOne acc).1 log := by
  induction pos with
  | nil => intro acc h; exact h
  | cons po pos ih =>
    intro acc h
    refine ih (fun x hx => hpos x (List.mem_cons_of_mem _ hx)) _ ?_
    rcases settleOne_cache acc po with he | ⟨res, ho, hne, he⟩ <;> rw [he]
    · exact h
    · exact CacheBacked.write h (ho ▸ hpos po (List.mem_cons_self _ _)) (Dispatch.called_of_outcome ho) hne


/-- **Every event keeps the cache backed.** -/
theorem cacheBacked_step {s : System α} (h : CacheBacked s.cache s.log) (e : Event α) :
    CacheBacked (s.step E e).cache (s.step E e).log := by
  cases e with
  | schedule k inp => exact h
  | fire k => simp only [System.step]; split <;> exact h
  | settleQueries i outcomes =>
    simp only [System.step]
    split
    · split_ifs
      · refine CacheBacked.foldl_settleOne _ (fun po hpo => ?_) _
          (h.mono fun x hx => List.mem_append_left _ hx)
        exact List.mem_append_right _ (List.mem_map_of_mem _ hpo)
      · exact h
    · exact h
  | settleAlerts i answers => simp only [System.step]; split <;> exact h
  | forceRequery panel dashboardId => exact h.foldl_clear QueryCache.clears_forget _
  | unmount panel dashboardId =>
    simp only [System.step]
    split_ifs
    · exact h.foldl_clear QueryCache.clears_forgetQuery _
    · exact h

theorem reachable_cacheBacked' {s : System α} (h : Reachable E s) : CacheBacked s.cache s.log := by
  induction h with
  | init => intro id key hk; simp [System.init, QueryCache.empty] at hk
  | step e _ ih => exact cacheBacked_step ih e

theorem reachable_run {s : System α} (h : Reachable E s) :
    ∀ es : List (Event α), Reachable E (s.run E es) := by
  intro es
  induction es generalizing s with
  | nil => exact h
  | cons e es ih => exact ih (.step e h)

/-- **The cache never pairs a key with another call's data.** In every reachable
state, each cached query is backed by a logged call dispatched under its id with
that key and fulfilled with the cached, non-empty data. So when a run's query hits,
the slot `prevQueryData[id]` the hit reads (line 410) holds data that an adapter
returned for a key equal to the run's. -/
theorem reachable_cache_sound {s : System α} (h : Reachable E s) :
    CacheBacked s.cache s.log ∧
      ∀ (inp : RunInput) (dsType : String) (q : PanelQuery), cacheHit s.cache inp dsType q = true →
        ∃ d, s.cache.prevQueryData (queryId inp q) = some d ∧ d ≠ [] ∧
          ∃ p res, (p, Settled.fulfilled (some res)) ∈ s.log ∧ p.called = true ∧
            p.id = queryId inp q ∧ p.query = ⟨q, inp.timeRange, dsType⟩ ∧ res.data = d :=
  ⟨reachable_cacheBacked' h, fun _ _ _ hq =>
    reachable_cacheBacked' h _ _ (by simpa [cacheHit] using hq)⟩

end Step

/-- Component 0 runs `twoQueryRun 60000`, and the two calls return `[1]` and `[2]`. -/
def demoTrace : List (Event Nat) :=
  [.schedule 0 (twoQueryRun 60000), .fire 0,
    .settleQueries 0 [.fulfilled (some ⟨[1], none⟩), .fulfilled (some ⟨[2], none⟩)]]

theorem reachable_cache_sound_demo :
    CacheBacked (System.init.run demoQueryEnv demoTrace).cache
        (System.init.run demoQueryEnv demoTrace).log ∧
      ∀ (inp : RunInput) (dsType : String) (q : PanelQuery),
        cacheHit (System.init.run demoQueryEnv demoTrace).cache inp dsType q = true →
        ∃ d, (System.init.run demoQueryEnv demoTrace).cache.prevQueryData (queryId inp q) = some d ∧
          d ≠ [] ∧ ∃ p res, (p, Settled.fulfilled (some res)) ∈ (System.init.run demoQueryEnv demoTrace).log ∧
            p.called = true ∧ p.id = queryId inp q ∧ p.query = ⟨q, inp.timeRange, dsType⟩ ∧
            res.data = d :=
  reachable_cache_sound (reachable_run .init demoTrace)

end Datav
