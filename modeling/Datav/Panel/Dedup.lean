import Datav.Panel.System

/-!
# Repeated runs are served from the cache

The cache is there to skip calls: a query whose id maps to an equal key in
`prevQueries` is served from `prevQueryData` and not dispatched. This module shows
that a run repeated with the same input is served entirely from the cache its first
completion wrote.

* `foldl_settleOne_frame`: the completion of a run writes only the ids of its calls.
* `foldl_settleOne_written`: when the ids of a run's calls are distinct, each call
  fulfilled with non-empty data leaves its key and its data under its id.
* `rerun_dispatches_nothing`: **after a run whose calls all fulfilled with non-empty
  data, the same run again calls no adapter**, when the run's queries have distinct
  ids, and the cache holds for each call the data it returned.
-/

namespace Datav

variable {α : Type} [DecidableEq α] {E : QueryEnv}

/-- The completion of a run writes only the ids of its calls. -/
theorem foldl_settleOne_frame {id : String} :
    ∀ (pos : List (Dispatch × Settled α)) (acc : QueryCache α × List (PanelItem α) × Option String),
      id ∉ pos.map (·.1.id) →
      (pos.foldl settleOne acc).1.prevQueries id = acc.1.prevQueries id ∧
        (pos.foldl settleOne acc).1.prevQueryData id = acc.1.prevQueryData id
  | [], _, _ => ⟨rfl, rfl⟩
  | po :: pos, acc, h => by
    simp only [List.map_cons, List.mem_cons, not_or] at h
    obtain ⟨h1, h2⟩ := foldl_settleOne_frame pos (settleOne acc po) h.2
    rw [List.foldl_cons, h1, h2]
    rcases settleOne_cache acc po with he | ⟨res, -, -, he⟩ <;> rw [he]
    · exact ⟨rfl, rfl⟩
    · simp [Function.update_noteq h.1]

/-- With distinct ids, a call fulfilled with non-empty data leaves its key and its data. -/
theorem foldl_settleOne_written :
    ∀ (pos : List (Dispatch × Settled α)) (acc : QueryCache α × List (PanelItem α) × Option String),
      (pos.map (·.1.id)).Nodup → ∀ po ∈ pos, ∀ res : Response α,
        po.1.outcome po.2 = .fulfilled (some res) → res.data ≠ [] →
        (pos.foldl settleOne acc).1.prevQueries po.1.id = some po.1.query ∧
          (pos.foldl settleOne acc).1.prevQueryData po.1.id = some res.data
  | [], _, _, _, h, _, _, _ => absurd h (List.not_mem_nil _)
  | po' :: pos, acc, hnd, po, hpo, res, ho, hne => by
    rw [List.map_cons, List.nodup_cons] at hnd
    rw [List.foldl_cons]
    rcases List.mem_cons.1 hpo with rfl | hpo
    · obtain ⟨h1, h2⟩ := foldl_settleOne_frame pos (settleOne acc po) hnd.1
      rw [h1, h2]
      simp [settleOne, ho, hne]
    · exact foldl_settleOne_written pos _ hnd.2 po hpo res ho hne

/-- A run that dispatches nothing leaves the cache. -/
theorem runQueryData_cache_of_nil {cache : QueryCache α} {st : PanelState α}
    {snapshot : Option (List (PanelItem α))} {inp : RunInput} {dsType : String}
    {outcomes : List (Settled α)} (hds : inp.datasourceType = some dsType)
    (hp : (runLoop E cache inp dsType st.queryError).promises = []) :
    (runQueryData E cache st snapshot inp outcomes).1 = cache := by
  simp only [runQueryData, queryData, hds]
  split_ifs <;> simp [hp]

omit [DecidableEq α] in
/-- The promises of a loop do not depend on the error it starts from. -/
theorem runLoop_promises (cache : QueryCache α) (inp : RunInput) (dsType : String)
    (e e' : Option String) :
    (runLoop E cache inp dsType e).promises = (runLoop E cache inp dsType e').promises := by
  rw [runLoop_eq, runLoop_eq]

omit [DecidableEq α] in
theorem zip_ids {pos : List Dispatch} {outcomes : List (Settled α)} (h : pos.length ≤ outcomes.length) :
    (pos.zip outcomes).map (·.1.id) = pos.map (·.id) := by
  rw [show (fun x : Dispatch × Settled α => x.1.id) = (·.id) ∘ Prod.fst from rfl, ← List.map_map,
    List.map_fst_zip _ _ h]

omit [DecidableEq α] in
/-- The calls of a loop are its misses; their ids are distinct when the resolved
queries' are. -/
theorem runLoop_promises_ids (cache : QueryCache α) (inp : RunInput) (dsType : String)
    (e : Option String) :
    (runLoop E cache inp dsType e).promises.map (·.id) =
      ((resolvedQueries E inp dsType).filter fun q => !cacheHit cache inp dsType q).map (queryId inp) := by
  rw [runLoop_eq, List.map_map]
  rfl

/-- **After a settled loop every query hits**, when the loop's calls all fulfilled with
non-empty data and the resolved queries have distinct ids: a hit is kept, since no call
has its id, and a miss was dispatched and written. -/
theorem settled_cacheHit {cache : QueryCache α} {inp : RunInput} {dsType : String}
    {e : Option String} {outcomes : List (Settled α)} (data : List (PanelItem α)) (err : Option String)
    (hnd : ((resolvedQueries E inp dsType).map (queryId inp)).Nodup)
    (hlen : outcomes.length = (runLoop E cache inp dsType e).promises.length)
    (hok : ∀ po ∈ (runLoop E cache inp dsType e).promises.zip outcomes,
      ∃ res : Response α, po.1.outcome po.2 = .fulfilled (some res) ∧ res.data ≠ [])
    {q : PanelQuery} (hq : q ∈ resolvedQueries E inp dsType) :
    cacheHit (((runLoop E cache inp dsType e).promises.zip outcomes).foldl settleOne (cache, data, err)).1
      inp dsType q = true := by
  have hids : ((runLoop E cache inp dsType e).promises.zip outcomes).map (·.1.id) =
      (runLoop E cache inp dsType e).promises.map (·.id) := zip_ids (by omega)
  by_cases hh : cacheHit cache inp dsType q = true
  · have hnot : queryId inp q ∉ ((runLoop E cache inp dsType e).promises.zip outcomes).map (·.1.id) := by
      rw [hids, runLoop_promises_ids]
      intro hm
      obtain ⟨q', hq', he⟩ := List.mem_map.1 hm
      obtain ⟨hq'R, hq'h⟩ := List.mem_filter.1 hq'
      have : q' = q := List.inj_on_of_nodup_map hnd hq'R hq he
      simp [this, hh] at hq'h
    rw [cacheHit, (foldl_settleOne_frame _ _ hnot).1]
    exact hh
  · have hnd' : (((runLoop E cache inp dsType e).promises.zip outcomes).map (·.1.id)).Nodup := by
      rw [hids, runLoop_promises_ids]
      exact hnd.sublist ((List.filter_sublist _).map _)
    have hm : (⟨queryId inp q, ⟨q, inp.timeRange, dsType⟩, inp.hasRunQuery⟩ : Dispatch) ∈
        (runLoop E cache inp dsType e).promises := by
      rw [runLoop_eq]
      exact List.mem_map_of_mem _ (List.mem_filter.2 ⟨hq, by simpa using hh⟩)
    rw [← List.map_fst_zip (runLoop E cache inp dsType e).promises outcomes (by omega)] at hm
    obtain ⟨po, hpo, hpo1⟩ := List.mem_map.1 hm
    obtain ⟨res, ho, hne⟩ := hok po hpo
    have hw := (foldl_settleOne_written _ (cache, data, err) hnd' po hpo res ho hne).1
    rw [hpo1] at hw
    simp [cacheHit, hw]

omit [DecidableEq α] in
/-- When the plugin has a `runQuery`, every dispatched promise is a call. -/
theorem runLoop_called {cache : QueryCache α} {inp : RunInput} {dsType : String} {e : Option String}
    (hrun : inp.hasRunQuery = true) {p : Dispatch} (hp : p ∈ (runLoop E cache inp dsType e).promises) :
    p.called = true := by
  rw [runLoop_eq] at hp
  obtain ⟨q, -, rfl⟩ := List.mem_map.1 hp
  exact hrun

/-- **A repeated run calls no adapter.** After a run whose calls all fulfilled with
non-empty data, when the run's resolved queries have distinct ids, the loop of the
same run again finds every query in the cache and dispatches nothing; and the cache
holds for each call of the first run the data it returned. -/
theorem rerun_dispatches_nothing {cache : QueryCache α} {st : PanelState α}
    {snapshot : Option (List (PanelItem α))} {inp : RunInput} {dsType : String}
    {outcomes : List (Settled α)}
    (hon : inp.disableAutoQuery = false) (hds : inp.datasourceType = some dsType)
    (hpl : inp.plugin = true) (hty : inp.panel.type ≠ PanelTypeAlert) (hrun : inp.hasRunQuery = true)
    (hnd : ((resolvedQueries E inp dsType).map (queryId inp)).Nodup)
    (hlen : outcomes.length = (runLoop E cache inp dsType st.queryError).promises.length)
    (hok : ∀ o ∈ outcomes, ∃ res : Response α, o = .fulfilled (some res) ∧ res.data ≠ [])
    (queryError : Option String) :
    (runLoop E (runQueryData E cache st snapshot inp outcomes).1 inp dsType queryError).promises = [] ∧
      ∀ po ∈ (runLoop E cache inp dsType st.queryError).promises.zip outcomes, ∀ res : Response α,
        po.2 = .fulfilled (some res) →
        (runQueryData E cache st snapshot inp outcomes).1.prevQueryData po.1.id = some res.data := by
  by_cases hp : (runLoop E cache inp dsType st.queryError).promises = []
  · rw [runQueryData_cache_of_nil hds hp, runLoop_promises _ _ _ _ st.queryError, hp]
    exact ⟨rfl, by simp⟩
  set L := runLoop E cache inp dsType st.queryError with hL
  have hout : ∀ po ∈ L.promises.zip outcomes, po.1.outcome po.2 = po.2 := fun po hpo => by
    simp [Dispatch.outcome, runLoop_called hrun (hL ▸ (List.of_mem_zip hpo).1)]
  have hok' : ∀ po ∈ L.promises.zip outcomes,
      ∃ res : Response α, po.1.outcome po.2 = .fulfilled (some res) ∧ res.data ≠ [] :=
    fun po hpo => by rw [hout po hpo]; exact hok po.2 (List.of_mem_zip hpo).2
  have hdata : (runQueryData E cache st snapshot inp outcomes).1 =
      ((L.promises.zip outcomes).foldl settleOne (cache, L.data, L.queryError)).1 := by
    rw [runQueryData, queryData_of_dispatch hon hds hpl hty hp]
    rfl
  refine ⟨?_, fun po hpo res ho => ?_⟩
  · rw [runLoop_eq, hdata, List.map_eq_nil_iff, List.filter_eq_nil_iff]
    intro q hq
    simp [settled_cacheHit L.data L.queryError hnd hlen hok' hq]
  · obtain ⟨res', ho', hne⟩ := hok po.2 (List.of_mem_zip hpo).2
    obtain rfl : res = res' := by simpa [ho] using ho'
    have hnd' : ((L.promises.zip outcomes).map (·.1.id)).Nodup := by
      rw [zip_ids (by omega), runLoop_promises_ids]
      exact hnd.sublist ((List.filter_sublist _).map _)
    rw [hdata]
    exact (foldl_settleOne_written _ _ hnd' po hpo res ((hout po hpo).trans ho) hne).2

/-- Both calls of `twoQueryRun` fulfilled with data. -/
def twoOutcomes : List (Settled Nat) :=
  [.fulfilled (some ⟨[1], none⟩), .fulfilled (some ⟨[2], none⟩)]

theorem rerun_dispatches_nothing_two :
    (((resolvedQueries demoQueryEnv (twoQueryRun 60000) "prometheus").map
        (queryId (twoQueryRun 60000))).Nodup ∧
      twoOutcomes.length =
        (runLoop demoQueryEnv (QueryCache.empty : QueryCache Nat) (twoQueryRun 60000) "prometheus"
          none).promises.length ∧
      ∀ o ∈ twoOutcomes, ∃ res : Response Nat, o = .fulfilled (some res) ∧ res.data ≠ []) ∧
    (runLoop demoQueryEnv (runQueryData demoQueryEnv QueryCache.empty ⟨none, none⟩ none
        (twoQueryRun 60000) twoOutcomes).1 (twoQueryRun 60000) "prometheus" none).promises = [] ∧
      ∀ po ∈ (runLoop demoQueryEnv (QueryCache.empty : QueryCache Nat) (twoQueryRun 60000) "prometheus"
          none).promises.zip twoOutcomes, ∀ res : Response Nat, po.2 = .fulfilled (some res) →
        (runQueryData demoQueryEnv QueryCache.empty ⟨none, none⟩ none (twoQueryRun 60000)
          twoOutcomes).1.prevQueryData po.1.id = some res.data :=
  ⟨⟨by decide, by decide, by simp [twoOutcomes]⟩,
    rerun_dispatches_nothing rfl rfl rfl (by decide) rfl (by decide) (by decide) (by simp [twoOutcomes])
      none⟩

end Datav
