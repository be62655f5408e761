import Datav.Panel.System

/-!
# Panels do not share cache entries

`formatQueryId` (lines 938-975) keys the module-level cache by
`${datasourceId}-${dashboardId}-${panelId}-${queryId}-${tp}`, where `tp` is the panel
type: "some panels has their own data parser in datasource query runner so we need to
use panel type to make the cache working correctly". The three ids are numbers, so the
key can be cut back into its parts at its separators, from the right, as long as the
panel type holds no `-`; the dashboard id may hold any.

* `formatQueryId_inj`: the key determines the datasource, dashboard, panel, query and
  panel type, for panel types without `-`.
* `cacheHit_same_panel`: **a hit reads only what a run of its own panel fetched**: in
  every state a page reaches, the `prevQueryData` slot a cache hit reads holds the data
  of a logged call that a scheduled run dispatched with the same query, time range and
  datasource type, and that run's panel has the same id, datasource, dashboard and type.
* `cacheHit_clear_other`: the force-requery handler and the unmount clean-up of one
  panel change no cache hit of another.
-/

namespace Datav

section Format

/-- Reads a string of decimal digits back into the number it spells. -/
def digitsValue (cs : List Char) : Nat :=
  cs.foldl (fun n c => 10 * n + (c.toNat - 48)) 0

theorem digitChar_spec : ∀ k, k < 10 → (Nat.digitChar k).toNat - 48 = k ∧ Nat.digitChar k ≠ '-' := by
  decide

/-- `Nat.toDigitsCore` with enough fuel puts the digits of `n` in front of `ds`. -/
theorem toDigitsCore_spec : ∀ (f n : Nat) (ds : List Char), n < f →
    ∃ pre, Nat.toDigitsCore 10 f n ds = pre ++ ds ∧ digitsValue pre = n ∧ '-' ∉ pre
  | 0, n, _, h => absurd h (Nat.not_lt_zero n)
  | f + 1, n, ds, h => by
    obtain ⟨hval, hsep⟩ := digitChar_spec (n % 10) (Nat.mod_lt _ (by omega))
    have hstep : Nat.toDigitsCore 10 (f + 1) n ds = if n / 10 = 0 then Nat.digitChar (n % 10) :: ds
        else Nat.toDigitsCore 10 f (n / 10) (Nat.digitChar (n % 10) :: ds) := rfl
    by_cases h0 : n / 10 = 0
    · refine ⟨[Nat.digitChar (n % 10)], by rw [hstep, if_pos h0]; rfl, ?_, by simpa using hsep.symm⟩
      simp only [digitsValue, List.foldl_cons, List.foldl_nil, hval]
      omega
    · obtain ⟨pre, hpre, hv, hs⟩ := toDigitsCore_spec f (n / 10) (Nat.digitChar (n % 10) :: ds) (by omega)
      refine ⟨pre ++ [Nat.digitChar (n % 10)], by rw [hstep, if_neg h0, hpre]; simp, ?_, ?_⟩
      · simp only [digitsValue, List.foldl_append, List.foldl_cons, List.foldl_nil] at hv ⊢
        rw [hv, hval]
        omega
      · simpa [hs] using hsep.symm

/-- The characters of a number's text: its digits, none of them a separator. -/
theorem toString_data (n : Nat) : digitsValue (toString n).data = n ∧ '-' ∉ (toString n).data := by
  obtain ⟨pre, hpre, hv, hs⟩ := toDigitsCore_spec (n + 1) n [] (by omega)
  have hdata : (toString n).data = pre := hpre.trans (List.append_nil pre)
  rw [hdata]
  exact ⟨hv, hs⟩

theorem toString_inj {m n : Nat} (h : toString m = toString n) : m = n := by
  rw [← (toString_data m).1, ← (toString_data n).1, h]

variable {c : Char} {l₁ l₂ r₁ r₂ : List Char}

/-- Cutting at the last separator: the parts agree when what follows it holds none. -/
theorem append_sep_cancel (h₁ : c ∉ r₁) (h₂ : c ∉ r₂) (h : l₁ ++ c :: r₁ = l₂ ++ c :: r₂) :
    l₁ = l₂ ∧ r₁ = r₂ := by
  induction l₁ generalizing l₂ with
  | nil =>
    cases l₂ with
    | nil => simpa using h
    | cons b l₂ =>
      obtain ⟨-, rfl⟩ := List.cons.inj h
      simp at h₁
  | cons a l₁ ih =>
    cases l₂ with
    | nil =>
      obtain ⟨-, rfl⟩ := List.cons.inj h
      simp at h₂
    | cons b l₂ =>
      rw [List.cons_append, List.cons_append, List.cons.injEq] at h
      obtain ⟨rfl, h⟩ := h
      obtain ⟨rfl, rfl⟩ := ih h
      exact ⟨rfl, rfl⟩

/-- Cutting at the first separator: the parts agree when what precedes it holds none. -/
theorem sep_append_cancel (h₁ : c ∉ l₁) (h₂ : c ∉ l₂) (h : l₁ ++ c :: r₁ = l₂ ++ c :: r₂) :
    l₁ = l₂ ∧ r₁ = r₂ := by
  have hrev := congrArg List.reverse h
  simp only [List.reverse_append, List.reverse_cons, List.append_assoc, List.singleton_append] at hrev
  obtain ⟨h1, h2⟩ := append_sep_cancel (by simpa using h₁) (by simpa using h₂) hrev
  exact ⟨List.reverse_injective h2, List.reverse_injective h1⟩

theorem formatQueryId_data (datasourceId : Nat) (dashboardId : String) (panelId queryId : Nat)
    (panelType : String) :
    (formatQueryId datasourceId dashboardId panelId queryId panelType).data =
      (((toString datasourceId).data ++ '-' :: dashboardId.data) ++ '-' :: (toString panelId).data) ++
        '-' :: (toString queryId).data ++ '-' :: panelType.data := by
  simp [formatQueryId]

/-- **The cache key determines its parts**, when neither panel type holds a `-`. -/
theorem formatQueryId_inj {ds₁ ds₂ p₁ p₂ q₁ q₂ : Nat} {dash₁ dash₂ tp₁ tp₂ : String}
    (h₁ : '-' ∉ tp₁.toList) (h₂ : '-' ∉ tp₂.toList)
    (h : formatQueryId ds₁ dash₁ p₁ q₁ tp₁ = formatQueryId ds₂ dash₂ p₂ q₂ tp₂) :
    ds₁ = ds₂ ∧ dash₁ = dash₂ ∧ p₁ = p₂ ∧ q₁ = q₂ ∧ tp₁ = tp₂ := by
  have h := congrArg String.data h
  rw [formatQueryId_data, formatQueryId_data] at h
  obtain ⟨h, htp⟩ := append_sep_cancel h₁ h₂ h
  obtain ⟨h, hq⟩ := append_sep_cancel (toString_data q₁).2 (toString_data q₂).2 h
  obtain ⟨h, hp⟩ := append_sep_cancel (toString_data p₁).2 (toString_data p₂).2 h
  obtain ⟨hds, hdash⟩ := sep_append_cancel (toString_data ds₁).2 (toString_data ds₂).2 h
  exact ⟨toString_inj (String.ext hds), String.ext hdash, toString_inj (String.ext hp),
    toString_inj (String.ext hq), String.ext htp⟩

/-- A panel type with a `-` lets two panels share a key. -/
example : formatQueryId 1 "d" 2 3 "4-x" = formatQueryId 1 "d-2" 3 4 "x" := by decide

end Format

variable {α : Type}

/-- A call that a run with an input of `S` dispatched (line 432). -/
def MadeBy (S : RunInput → Prop) (p : Dispatch) : Prop :=
  ∃ inp q dsType, S inp ∧ p = ⟨queryId inp q, ⟨q, inp.timeRange, dsType⟩, inp.hasRunQuery⟩

/-- Where the calls of a page come from: every timer holds an input of `S`, and every
waiting and every logged call was dispatched by a run with an input of `S`. -/
structure Provenance (S : RunInput → Prop) (s : System α) : Prop where
  timers : ∀ k inp snapshot, s.timers k = some (inp, snapshot) → S inp
  waiting : ∀ w ∈ s.waiting, ∀ promises data, w.pending = .queries promises data →
    ∀ p ∈ promises, MadeBy S p
  log : ∀ x ∈ s.log, MadeBy S x.1

theorem Provenance.init {S : RunInput → Prop} : Provenance S (System.init : System α) :=
  ⟨fun _ _ _ h => (by cases h), fun _ h => (by cases h), fun _ h => (by cases h)⟩

variable [DecidableEq α] {E : QueryEnv} {S : RunInput → Prop}

/-- A run waits on calls only when its checks pass; the calls are then its loop's. -/
theorem queryData_queries {cache : QueryCache α} {st : PanelState α}
    {snapshot : Option (List (PanelItem α))} {inp : RunInput} {promises : List Dispatch}
    {data : List (PanelItem α)} (h : (queryData E cache st snapshot inp).2 = some (.queries promises data)) :
    ∃ dsType, promises = (runLoop E cache inp dsType st.queryError).promises := by
  unfold queryData at h
  rcases hds : inp.datasourceType with _ | dsType <;> simp only [hds, apply_ite Prod.snd] at h <;>
    split_ifs at h <;> cases h
  exact ⟨dsType, rfl⟩

/-- The calls a run dispatches are its queries under its own ids. -/
theorem queryData_promises {cache : QueryCache α} {st : PanelState α}
    {snapshot : Option (List (PanelItem α))} {inp : RunInput} {promises : List Dispatch}
    {data : List (PanelItem α)} (h : (queryData E cache st snapshot inp).2 = some (.queries promises data)) :
    ∀ p ∈ promises, ∃ q dsType, p = ⟨queryId inp q, ⟨q, inp.timeRange, dsType⟩, inp.hasRunQuery⟩ := by
  obtain ⟨dsType, rfl⟩ := queryData_queries h
  rw [runLoop_eq]
  intro p hp
  obtain ⟨q, -, rfl⟩ := List.mem_map.1 hp
  exact ⟨q, dsType, rfl⟩

/-- **Every event keeps the provenance** when the runs it schedules have inputs of `S`. -/
theorem Provenance.step {s : System α} (h : Provenance S s) (e : Event α)
    (he : ∀ k inp, e = .schedule k inp → S inp) : Provenance S (s.step E e) := by
  cases e with
  | schedule k inp =>
    refine ⟨fun k' inp' snapshot hk' => ?_, h.waiting, h.log⟩
    by_cases hk : k' = k
    · subst hk
      simp only [System.step, Function.update_same, Option.some.injEq, Prod.mk.injEq] at hk'
      exact hk'.1 ▸ he k' inp rfl
    · exact h.timers k' inp' snapshot (by simpa [System.step, hk] using hk')
  | fire k =>
    simp only [System.step]
    split
    · exact h
    · rename_i inp snapshot hk
      refine ⟨fun k' inp' snapshot' hk' => ?_, fun w hw promises data hwp p hp => ?_, h.log⟩
      · by_cases hkk : k' = k
        · subst hkk; simp at hk'
        · exact h.timers k' inp' snapshot' (by simpa [hkk] using hk')
      · rcases List.mem_append.1 hw with hw | hw
        · exact h.waiting w hw promises data hwp p hp
        · obtain ⟨pend, hpend, rfl⟩ := Option.map_eq_some'.1 (Option.mem_toList.1 hw)
          obtain rfl : pend = .queries promises data := hwp
          obtain ⟨q, dsType, rfl⟩ := queryData_promises hpend p hp
          exact ⟨inp, q, dsType, h.timers k inp snapshot hk, rfl⟩
  | settleQueries i outcomes =>
    simp only [System.step]
    split
    · rename_i k promises data hi
      split_ifs
      · refine ⟨h.timers, fun w hw => h.waiting w (List.mem_of_mem_eraseIdx hw), fun x hx => ?_⟩
        rcases List.mem_append.1 hx with hx | hx
        · exact h.log x hx
        · obtain ⟨po, hpo, rfl⟩ := List.mem_map.1 hx
          exact h.waiting _ (List.getElem?_mem hi) promises data rfl po.1 (List.of_mem_zip hpo).1
      · exact h
    · exact h
  | settleAlerts i answers =>
    simp only [System.step]
    split
    · exact ⟨h.timers, fun w hw => h.waiting w (List.mem_of_mem_eraseIdx hw), h.log⟩
    · exact h
  | forceRequery panel dashboardId => exact ⟨h.timers, h.waiting, h.log⟩
  | unmount panel dashboardId =>
    simp only [System.step]
    split_ifs
    · exact ⟨h.timers, h.waiting, h.log⟩
    · exact h

theorem Provenance.run {s : System α} (h : Provenance S s) (es : List (Event α))
    (hes : ∀ k inp, Event.schedule k inp ∈ es → S inp) : Provenance S (s.run E es) := by
  induction es generalizing s with
  | nil => exact h
  | cons e es ih =>
    exact ih (h.step e fun k inp he => hes k inp (he ▸ List.mem_cons_self _ _))
      fun k inp hk => hes k inp (List.mem_cons_of_mem _ hk)

/-- **A hit reads only what a run of its own panel fetched.** After any events whose
scheduled runs have panel types without `-`, when a query of a run of such a panel
hits, the slot `prevQueryData[id]` it reads (line 410) holds the data of a logged call
that fulfilled with it, dispatched for the same query, time range and datasource type
by a scheduled run whose panel has the same id, datasource, dashboard and type. -/
theorem cacheHit_same_panel (es : List (Event α))
    (hes : ∀ k inp, Event.schedule k inp ∈ es → '-' ∉ inp.panel.type.toList)
    {inp : RunInput} {dsType : String} {q : PanelQuery} (hinp : '-' ∉ inp.panel.type.toList)
    (hq : cacheHit (System.init.run E es).cache inp dsType q = true) :
    ∃ k inp' res, Event.schedule k inp' ∈ es ∧
      (⟨queryId inp' q, ⟨q, inp.timeRange, dsType⟩, inp'.hasRunQuery⟩, Settled.fulfilled (some res)) ∈
        (System.init.run E es).log ∧ inp'.hasRunQuery = true ∧
      (System.init.run E es).cache.prevQueryData (queryId inp q) = some res.data ∧
      inp'.panel.id = inp.panel.id ∧ inp'.panel.datasource.id = inp.panel.datasource.id ∧
      inp'.dashboardId = inp.dashboardId ∧ inp'.panel.type = inp.panel.type ∧
      inp'.timeRange = inp.timeRange := by
  have hprov : Provenance (fun inp => ∃ k, Event.schedule k inp ∈ es) (System.init.run E es) :=
    Provenance.init.run es fun k inp h => ⟨k, h⟩
  obtain ⟨d, hd, -, p, res, hlog, hcalled, hid, hkey, rfl⟩ :=
    reachable_cacheBacked' (reachable_run .init es) _ _ (by simpa [cacheHit] using hq)
  obtain ⟨inp', q', dsType', ⟨k, hk⟩, rfl⟩ := hprov.log _ hlog
  simp only [QueryKey.mk.injEq] at hkey
  obtain ⟨rfl, htr, rfl⟩ := hkey
  obtain ⟨hds, hdash, hpid, -, hty⟩ := formatQueryId_inj (hes k inp' hk) hinp hid
  exact ⟨k, inp', res, hk, htr ▸ hlog, hcalled, hd, hpid, hds, hdash, hty, htr⟩

theorem cacheHit_same_panel_demo :
    ((∀ k inp, Event.schedule k inp ∈ demoTrace → '-' ∉ inp.panel.type.toList) ∧
      '-' ∉ (twoQueryRun 60000).panel.type.toList ∧
      cacheHit (System.init.run demoQueryEnv demoTrace).cache (twoQueryRun 60000) "prometheus"
        ⟨1, "up", true, 15⟩ = true) ∧
    ∃ k inp' res, Event.schedule k inp' ∈ demoTrace ∧
      (⟨queryId inp' ⟨1, "up", true, 15⟩, ⟨⟨1, "up", true, 15⟩, (twoQueryRun 60000).timeRange, "prometheus"⟩,
          inp'.hasRunQuery⟩, Settled.fulfilled (some res)) ∈ (System.init.run demoQueryEnv demoTrace).log ∧
      inp'.hasRunQuery = true ∧
      (System.init.run demoQueryEnv demoTrace).cache.prevQueryData
          (queryId (twoQueryRun 60000) ⟨1, "up", true, 15⟩) = some res.data ∧
      inp'.panel.id = (twoQueryRun 60000).panel.id ∧
      inp'.panel.datasource.id = (twoQueryRun 60000).panel.datasource.id ∧
      inp'.dashboardId = (twoQueryRun 60000).dashboardId ∧ inp'.panel.type = (twoQueryRun 60000).panel.type ∧
      inp'.timeRange = (twoQueryRun 60000).timeRange := by
  have hes : ∀ k inp, Event.schedule k inp ∈ demoTrace → '-' ∉ inp.panel.type.toList := by
    intro k inp h
    simp only [demoTrace, List.mem_cons, Event.schedule.injEq, reduceCtorEq, List.mem_nil_iff,
      or_false, false_or] at h
    rw [h.2]
    decide
  have hq : cacheHit (System.init.run demoQueryEnv demoTrace).cache (twoQueryRun 60000) "prometheus"
      ⟨1, "up", true, 15⟩ = true := rfl
  exact ⟨⟨hes, by decide, hq⟩, cacheHit_same_panel demoTrace hes (by decide) hq⟩

/-- **Clearing one panel's entries keeps every other panel's.** The force-requery
handler and the unmount clean-up of `panel` on `dashboardId` change no cache hit of a
run of a panel with another datasource, dashboard, id or type, when neither panel type
holds a `-`. -/
theorem cacheHit_clear_other (s : System α) {panel : Panel} {dashboardId : String} {e : Event α}
    (he : e = .forceRequery panel dashboardId ∨ e = .unmount panel dashboardId)
    (hP : '-' ∉ panel.type.toList) {inp : RunInput} (hinp : '-' ∉ inp.panel.type.toList)
    (hne : (inp.panel.datasource.id, inp.dashboardId, inp.panel.id, inp.panel.type) ≠
      (panel.datasource.id, dashboardId, panel.id, panel.type))
    (dsType : String) (q : PanelQuery) :
    cacheHit (s.step E e).cache inp dsType q = cacheHit s.cache inp dsType q := by
  have hnot : queryId inp q ∉ panelQueryIds panel dashboardId := by
    intro hm
    obtain ⟨q0, -, hq0⟩ := List.mem_map.1 hm
    obtain ⟨h1, h2, h3, -, h4⟩ := formatQueryId_inj hP hinp hq0
    exact hne (by rw [h1, h2, h3, h4])
  rcases he with rfl | rfl
  · simp only [cacheHit, System.step, QueryCache.clears_forget.foldl_prevQueries, if_neg hnot]
  · simp only [System.step]
    split_ifs
    · simp only [cacheHit, QueryCache.clears_forgetQuery.foldl_prevQueries, if_neg hnot]
    · rfl

/-- A graph panel with id 2 on the dashboard and datasource of `twoQueryRun`. -/
def otherPanel : Panel := ⟨2, "graph", ⟨7, [⟨1, "up", true, 0⟩]⟩, []⟩

theorem cacheHit_clear_other_demo :
    (Event.forceRequery otherPanel "d1" = (.forceRequery otherPanel "d1" : Event Nat) ∨
        Event.forceRequery otherPanel "d1" = (.unmount otherPanel "d1" : Event Nat)) ∧
      '-' ∉ otherPanel.type.toList ∧ '-' ∉ (twoQueryRun 60000).panel.type.toList ∧
      ((twoQueryRun 60000).panel.datasource.id, (twoQueryRun 60000).dashboardId, (twoQueryRun 60000).panel.id,
          (twoQueryRun 60000).panel.type) ≠ (otherPanel.datasource.id, "d1", otherPanel.id, otherPanel.type) ∧
      cacheHit ((System.init.run demoQueryEnv demoTrace).step demoQueryEnv (.forceRequery otherPanel "d1")).cache
          (twoQueryRun 60000) "prometheus" ⟨1, "up", true, 15⟩ =
        cacheHit (System.init.run demoQueryEnv demoTrace).cache (twoQueryRun 60000) "prometheus"
          ⟨1, "up", true, 15⟩ :=
  ⟨.inl rfl, by decide, by decide, by decide,
    cacheHit_clear_other _ (.inl rfl) (by decide) (by decide) (by decide) _ _⟩

end Datav
