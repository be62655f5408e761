import Datav.Panel.System

/-!
# The dataset of a run, with and without the cache

When the adapter answers as a function `f` of the key `[q, timeRange, type]`, a run
from any reachable cache state sets the same items as a run from an empty cache, but
not in the same order: the loop pushes the cache hits as it meets them (line 412),
and the fresh results only after `Promise.allSettled` (line 447).

* `runQueryData_panelData`: the panel data a run sets when its checks pass and its
  closure saw the current `panelData`: the data of the loop's hits, then the fresh
  data of its calls.
* `runQueryData_partition`: from a reachable state, the dataset of a run is the items
  of its hits, in query order, followed by those of its misses; from an empty cache it
  is the items of all resolved queries in query order; the two are permutations of
  each other, and equal when no hit comes after a miss.
* `runQueryData_reorders`: a reachable state and a run whose dataset differs from the
  one an empty cache gives.
-/

namespace Datav

variable {α : Type} [DecidableEq α] {E : QueryEnv}

/-- What the adapter gives for the queries `qs`, in their order. -/
def adapterDataset (inp : RunInput) (dsType : String) (f : QueryKey → Settled α)
    (qs : List PanelQuery) : List (PanelItem α) :=
  qs.filterMap fun q => dataOf (f ⟨q, inp.timeRange, dsType⟩)

theorem zip_map_self {β γ : Type} (l : List β) (g : β → γ) :
    l.zip (l.map g) = l.map fun x => (x, g x) := by
  induction l with
  | nil => rfl
  | cons x xs ih => simp [ih]

/-- **The panel data a run sets**, when its checks pass and its closure saw the
current `panelData`: the data of the loop's hits, then the fresh data of its calls.
With no call, `isEqual(panelData, data)` leaves a `panelData` equal to `data`. -/
theorem runQueryData_panelData {cache : QueryCache α} {st : PanelState α} {inp : RunInput}
    {dsType : String} (outcomes : List (Settled α))
    (hon : inp.disableAutoQuery = false) (hds : inp.datasourceType = some dsType)
    (hpl : inp.plugin = true) (hty : inp.panel.type ≠ PanelTypeAlert) :
    (runQueryData E cache st st.panelData inp outcomes).2.panelData =
      some ((runLoop E cache inp dsType st.queryError).data ++
        ((runLoop E cache inp dsType st.queryError).promises.zip outcomes).filterMap freshOf) := by
  by_cases hp : (runLoop E cache inp dsType st.queryError).promises = []
  · simp only [runQueryData, queryData, hon, hds, hpl, hty, hp, Bool.not_true, Bool.false_eq_true,
      if_false, if_true, List.zip_nil_left, List.filterMap_nil, List.append_nil]
    split_ifs with he <;> simp [he]
  · rw [runQueryData, queryData_of_dispatch hon hds hpl hty hp, completeQueries_eq]

/-- Against a backed cache whose log agrees with `f`, a hit gives what `f` gives. -/
theorem hit_data {cache : QueryCache α} {log : List (Dispatch × Settled α)} {f : QueryKey → Settled α}
    (hb : CacheBacked cache log) (hf : ∀ p o, (p, o) ∈ log → p.called = true → o = f p.query)
    {inp : RunInput} {dsType : String} {q : PanelQuery} (hq : cacheHit cache inp dsType q = true) :
    ((cache.prevQueryData (queryId inp q)).map .series).toList =
      (dataOf (f ⟨q, inp.timeRange, dsType⟩)).toList := by
  obtain ⟨d, hd, hne, p, res, hp, hc, -, hkey, rfl⟩ := hb _ _ (by simpa [cacheHit] using hq)
  rw [hd, ← hkey, ← hf _ _ hp hc]
  simp [dataOf, hne]

variable (E) in
/-- The dataset a run sets from a backed cache whose log agrees with `f`, when `f`
answers its calls: the items of its hits, then those of its misses, each in query order. -/
theorem runQueryData_items {cache : QueryCache α} {log : List (Dispatch × Settled α)}
    {f : QueryKey → Settled α} (hb : CacheBacked cache log)
    (hf : ∀ p o, (p, o) ∈ log → p.called = true → o = f p.query)
    (st : PanelState α) {inp : RunInput} {dsType : String}
    (hon : inp.disableAutoQuery = false) (hds : inp.datasourceType = some dsType)
    (hpl : inp.plugin = true) (hrun : inp.hasRunQuery = true) (hty : inp.panel.type ≠ PanelTypeAlert) :
    (runQueryData E cache st st.panelData inp
        ((runLoop E cache inp dsType st.queryError).promises.map fun p => f p.query)).2.panelData =
      some (adapterDataset inp dsType f ((resolvedQueries E inp dsType).filter (cacheHit cache inp dsType)) ++
        adapterDataset inp dsType f
          ((resolvedQueries E inp dsType).filter fun q => !cacheHit cache inp dsType q)) := by
  rw [runQueryData_panelData _ hon hds hpl hty, runLoop_eq]
  simp only [adapterDataset]
  congr 2
  · rw [List.filterMap_eq_flatMap_toList]
    exact List.flatMap_congr fun q hq => hit_data hb hf (List.mem_filter.1 hq).2
  · rw [zip_map_self, List.filterMap_map, List.filterMap_map]
    simp [freshOf, Dispatch.outcome, hrun, Function.comp_def]

/-- **The cached and the uncached datasets.** From any reachable state whose calls
were all answered by `f`, a run that passes its checks, and whose closure saw the
current `panelData`, sets the items of its cache hits, in query order, then those of
its misses; from an empty cache it sets the items of all its resolved queries in query
order. The two are permutations of each other, and equal when the resolved queries
are the hits followed by the misses (no served query comes after a dispatched one). -/
theorem runQueryData_partition {s : System α} (h : Reachable E s) {f : QueryKey → Settled α}
    (hf : ∀ p o, (p, o) ∈ s.log → p.called = true → o = f p.query)
    {st : PanelState α} {inp : RunInput} {dsType : String}
    (hon : inp.disableAutoQuery = false) (hds : inp.datasourceType = some dsType)
    (hpl : inp.plugin = true) (hrun : inp.hasRunQuery = true) (hty : inp.panel.type ≠ PanelTypeAlert) :
    (runQueryData E s.cache st st.panelData inp
        ((runLoop E s.cache inp dsType st.queryError).promises.map fun p => f p.query)).2.panelData =
        some (adapterDataset inp dsType f ((resolvedQueries E inp dsType).filter (cacheHit s.cache inp dsType)) ++
          adapterDataset inp dsType f
            ((resolvedQueries E inp dsType).filter fun q => !cacheHit s.cache inp dsType q)) ∧
      (runQueryData E QueryCache.empty st st.panelData inp
          ((runLoop E (QueryCache.empty : QueryCache α) inp dsType st.queryError).promises.map fun p => f p.query)).2.panelData =
        some (adapterDataset inp dsType f (resolvedQueries E inp dsType)) ∧
      (adapterDataset inp dsType f ((resolvedQueries E inp dsType).filter (cacheHit s.cache inp dsType)) ++
          adapterDataset inp dsType f
            ((resolvedQueries E inp dsType).filter fun q => !cacheHit s.cache inp dsType q)).Perm
        (adapterDataset inp dsType f (resolvedQueries E inp dsType)) ∧
      ((resolvedQueries E inp dsType).filter (cacheHit s.cache inp dsType) ++
          (resolvedQueries E inp dsType).filter (fun q => !cacheHit s.cache inp dsType q) =
        resolvedQueries E inp dsType →
        (runQueryData E s.cache st st.panelData inp
            ((runLoop E s.cache inp dsType st.queryError).promises.map fun p => f p.query)).2.panelData =
          (runQueryData E QueryCache.empty st st.panelData inp
            ((runLoop E (QueryCache.empty : QueryCache α) inp dsType st.queryError).promises.map fun p => f p.query)).2.panelData) := by
  have hb0 : CacheBacked (QueryCache.empty : QueryCache α) [] := fun _ _ hk => by
    simp [QueryCache.empty] at hk
  have hcached := runQueryData_items E (reachable_cacheBacked' h) hf st hon hds hpl hrun hty
  have hempty : (runQueryData E QueryCache.empty st st.panelData inp
      ((runLoop E (QueryCache.empty : QueryCache α) inp dsType st.queryError).promises.map
        fun p => f p.query)).2.panelData = some (adapterDataset inp dsType f (resolvedQueries E inp dsType)) := by
    rw [runQueryData_items E hb0 (by simp) st hon hds hpl hrun hty]
    simp [cacheHit, QueryCache.empty, adapterDataset]
  have hsplit : adapterDataset inp dsType f ((resolvedQueries E inp dsType).filter (cacheHit s.cache inp dsType)) ++
      adapterDataset inp dsType f ((resolvedQueries E inp dsType).filter fun q => !cacheHit s.cache inp dsType q) =
      ((resolvedQueries E inp dsType).filter (cacheHit s.cache inp dsType) ++
        (resolvedQueries E inp dsType).filter fun q => !cacheHit s.cache inp dsType q).filterMap
        fun q => dataOf (f ⟨q, inp.timeRange, dsType⟩) := by
    rw [adapterDataset, adapterDataset, List.filterMap_append]
  refine ⟨hcached, hempty, hsplit ▸ (List.filter_append_perm _ _).filterMap _, fun horder => ?_⟩
  rw [hcached, hempty, hsplit, horder, adapterDataset]

/-- An adapter that answers each query with its id. -/
def idAdapter (k : QueryKey) : Settled Nat :=
  .fulfilled (some ⟨[k.query.id], none⟩)

/-- `twoQueryRun 60000` with `up` hidden. -/
def hiddenFirstRun : RunInput :=
  { twoQueryRun 60000 with
    panel := ⟨1, "graph", ⟨7, [⟨1, "up", false, 0⟩, ⟨2, "down", true, 0⟩]⟩, []⟩ }

/-- Component 0 runs with `up` hidden, so only `down` is cached. -/
def hiddenFirstTrace : List (Event Nat) :=
  [.schedule 0 hiddenFirstRun, .fire 0,
    .settleQueries 0 [idAdapter ⟨⟨2, "down", true, 15⟩, ⟨0, 60000⟩, "prometheus"⟩]]

theorem runQueryData_reorders :
    Reachable demoQueryEnv (System.init.run demoQueryEnv hiddenFirstTrace) ∧
      (∀ x ∈ (System.init.run demoQueryEnv hiddenFirstTrace).log,
        x.1.called = true → x.2 = idAdapter x.1.query) ∧
      (runQueryData demoQueryEnv (System.init.run demoQueryEnv hiddenFirstTrace).cache ⟨none, none⟩ none
          (twoQueryRun 60000) [idAdapter ⟨⟨1, "up", true, 15⟩, ⟨0, 60000⟩, "prometheus"⟩]).2.panelData =
        some [.series [2], .series [1]] ∧
      (runQueryData demoQueryEnv QueryCache.empty ⟨none, none⟩ none (twoQueryRun 60000)
          [idAdapter ⟨⟨1, "up", true, 15⟩, ⟨0, 60000⟩, "prometheus"⟩,
            idAdapter ⟨⟨2, "down", true, 15⟩, ⟨0, 60000⟩, "prometheus"⟩]).2.panelData =
        some [.series [1], .series [2]] :=
  ⟨reachable_run .init _, by decide, by decide, by decide⟩

theorem runQueryData_partition_hidden :
    (runQueryData demoQueryEnv (System.init.run demoQueryEnv hiddenFirstTrace).cache ⟨none, none⟩ none
        (twoQueryRun 60000)
        ((runLoop demoQueryEnv (System.init.run demoQueryEnv hiddenFirstTrace).cache (twoQueryRun 60000)
          "prometheus" none).promises.map fun p => idAdapter p.query)).2.panelData =
        some (adapterDataset (twoQueryRun 60000) "prometheus" idAdapter
            ((resolvedQueries demoQueryEnv (twoQueryRun 60000) "prometheus").filter
              (cacheHit (System.init.run demoQueryEnv hiddenFirstTrace).cache (twoQueryRun 60000) "prometheus")) ++
          adapterDataset (twoQueryRun 60000) "prometheus" idAdapter
            ((resolvedQueries demoQueryEnv (twoQueryRun 60000) "prometheus").filter fun q =>
              !cacheHit (System.init.run demoQueryEnv hiddenFirstTrace).cache (twoQueryRun 60000) "prometheus" q)) ∧
      (runQueryData demoQueryEnv QueryCache.empty ⟨none, none⟩ none (twoQueryRun 60000)
          ((runLoop demoQueryEnv (QueryCache.empty : QueryCache Nat) (twoQueryRun 60000) "prometheus" none).promises.map
            fun p => idAdapter p.query)).2.panelData =
        some (adapterDataset (twoQueryRun 60000) "prometheus" idAdapter
          (resolvedQueries demoQueryEnv (twoQueryRun 60000) "prometheus")) ∧
      (adapterDataset (twoQueryRun 60000) "prometheus" idAdapter
            ((resolvedQueries demoQueryEnv (twoQueryRun 60000) "prometheus").filter
              (cacheHit (System.init.run demoQueryEnv hiddenFirstTrace).cache (twoQueryRun 60000) "prometheus")) ++
          adapterDataset (twoQueryRun 60000) "prometheus" idAdapter
            ((resolvedQueries demoQueryEnv (twoQueryRun 60000) "prometheus").filter fun q =>
              !cacheHit (System.init.run demoQueryEnv hiddenFirstTrace).cache (twoQueryRun 60000) "prometheus" q)).Perm
        (adapterDataset (twoQueryRun 60000) "prometheus" idAdapter
          (resolvedQueries demoQueryEnv (twoQueryRun 60000) "prometheus")) ∧
      ((resolvedQueries demoQueryEnv (twoQueryRun 60000) "prometheus").filter
            (cacheHit (System.init.run demoQueryEnv hiddenFirstTrace).cache (twoQueryRun 60000) "prometheus") ++
          (resolvedQueries demoQueryEnv (twoQueryRun 60000) "prometheus").filter
            (fun q => !cacheHit (System.init.run demoQueryEnv hiddenFirstTrace).cache (twoQueryRun 60000)
              "prometheus" q) =
        resolvedQueries demoQueryEnv (twoQueryRun 60000) "prometheus" →
        (runQueryData demoQueryEnv (System.init.run demoQueryEnv hiddenFirstTrace).cache ⟨none, none⟩ none
            (twoQueryRun 60000)
            ((runLoop demoQueryEnv (System.init.run demoQueryEnv hiddenFirstTrace).cache (twoQueryRun 60000)
              "prometheus" none).promises.map fun p => idAdapter p.query)).2.panelData =
          (runQueryData demoQueryEnv QueryCache.empty ⟨none, none⟩ none (twoQueryRun 60000)
            ((runLoop demoQueryEnv (QueryCache.empty : QueryCache Nat) (twoQueryRun 60000) "prometheus" none).promises.map
              fun p => idAdapter p.query)).2.panelData) :=
  runQueryData_partition (reachable_run .init hiddenFirstTrace)
    (fun p o hp hc => (by decide : ∀ x ∈ (System.init.run demoQueryEnv hiddenFirstTrace).log,
      x.1.called = true → x.2 = idAdapter x.1.query) (p, o) hp hc) rfl rfl rfl rfl (by decide)

end Datav
