import RancherLb.Selector

/-!
# processSelector of the draining version

The selector expander of the draining version, whose `getContainerEndpoint` drains stopping containers, splits the newer
loop in two: `processSelector` expands a rule over the services of the local environment and hands the rules built so
far to `AddRulesFromRegions`, which adds the rules of the services of the environment the rule names. That function
fetches them by region and environment whenever the rule names a region, the self region included, and in the local
region when it names only an environment; it writes the link `region/env/stack/name` or `env/stack/name` to match, and
returns the error of the fetch, which `processSelector` passes on.

So the expansion is the contract's (`selectorExpansion`) with the self region taken as empty, and a failed fetch is a
failed expansion: `processSelector` succeeds exactly when every fetch it makes does. Its links decode by the number of
their parts, with no test of the region, into the lookup of the scope the service was listed from.
-/

namespace RancherLb

open Go GoAux

/-- The fetcher methods the selector expander of the draining version calls. -/
structure DrainVersion.MetadataFetcher where
  getServices : Except String (List Service)
  getServicesInLocalRegion : String → Except String (List Service)
  getServicesFromRegionEnvironment : String → String → Except String (List Service)

namespace DrainVersion

/-- The services `AddRulesFromRegions` reads for a rule: of its region and environment when it names a region and an
environment, of its environment in the local region when it names only an environment, none otherwise. -/
def regionFetch (mf : DrainVersion.MetadataFetcher) (lbRule : PortRule) : Except String (List Service) :=
  if lbRule.region ≠ "" then
    if lbRule.environment ≠ "" then mf.getServicesFromRegionEnvironment lbRule.region lbRule.environment else .ok []
  else if lbRule.environment ≠ "" then mf.getServicesInLocalRegion lbRule.environment
  else .ok []

/-- The link `AddRulesFromRegions` writes for a service: `region/env/stack/name` when the rule names a region,
`env/stack/name` when it names only an environment. -/
def regionLink (lbRule : PortRule) (svc : Service) : String :=
  if lbRule.region ≠ "" then lbRule.region ++ "/" ++ lbRule.environment ++ "/" ++ svc.stackName ++ "/" ++ svc.name
  else if lbRule.environment ≠ "" then lbRule.environment ++ "/" ++ svc.stackName ++ "/" ++ svc.name
  else ""

/-- `AddRulesFromRegions`: the rules given, then the rules of every service the fetch lists that the selector rule takes;
the error of the fetch, when it fails. -/
def addRulesFromRegions (mf : DrainVersion.MetadataFetcher) (isSelectorMatch : String → List (String × String) → Bool)
    (rules : List PortRule) (lbRule : PortRule) : Except Fault (List PortRule) := do
  let externalsvcs ← liftError (regionFetch mf lbRule)
  pure (rules ++ (externalsvcs.filter (selects isSelectorMatch lbRule)).flatMap fun svc =>
    selectorRules lbRule svc (regionLink lbRule svc) lbRule.region lbRule.environment)

/-- One turn of the loop of `processSelector` over the services `svcs` of the local environment: a rule without a selector
is kept; a rule with one adds the rules of the local services it takes, linked `stack/name`, then those
`AddRulesFromRegions` adds. -/
def processSelectorStep (mf : DrainVersion.MetadataFetcher) (isSelectorMatch : String → List (String × String) → Bool)
    (svcs : List Service) (rules : List PortRule) (lbRule : PortRule) : Except Fault (List PortRule) :=
  if lbRule.selector = "" then pure (rules ++ [lbRule])
  else
    addRulesFromRegions mf isSelectorMatch
      (rules ++ (svcs.filter (selects isSelectorMatch lbRule)).flatMap fun svc =>
        selectorRules lbRule svc (svc.stackName ++ "/" ++ svc.name) "" "") lbRule

/-- `processSelector` of the draining version: the services of the local environment, then the loop over the rules; the
first error ends it, and the LB metadata is then left as it was. -/
def processSelector (mf : DrainVersion.MetadataFetcher) (isSelectorMatch : String → List (String × String) → Bool)
    (lbMeta : LBMetadata) : Except Fault LBMetadata := do
  let svcs ← liftError mf.getServices
  let rules ← lbMeta.portRules.foldlM (processSelectorStep mf isSelectorMatch svcs) []
  pure { lbMeta with portRules := rules }

/-- What the fetch of `AddRulesFromRegions` lists for a rule, none when it fails. -/
def fetched (mf : DrainVersion.MetadataFetcher) (lbRule : PortRule) : List Service :=
  match regionFetch mf lbRule with
  | .ok l => l
  | .error _ => []

end DrainVersion

namespace DrainSelectorAux

open DrainVersion

variable {mf : DrainVersion.MetadataFetcher} {isSelectorMatch : String → List (String × String) → Bool}
  {svcs : List Service} {other : PortRule → List Service}

/-- The link `AddRulesFromRegions` writes for a rule naming an environment is the contract's, with the self region
empty. -/
theorem regionLink_eq {lbRule : PortRule} (henv : lbRule.environment ≠ "") (svc : Service) :
    regionLink lbRule svc =
      if lbRule.region = "" ∨ lbRule.region = "" then lbRule.environment ++ "/" ++ svc.stackName ++ "/" ++ svc.name
      else lbRule.region ++ "/" ++ lbRule.environment ++ "/" ++ svc.stackName ++ "/" ++ svc.name := by
  unfold regionLink
  by_cases hr : lbRule.region = ""
  · simp [hr, henv]
  · simp [hr]

/-- What `AddRulesFromRegions` adds, when its fetch lists `l`: the other-environment part of the contract's expansion. -/
theorem addRulesFromRegions_ok {lbRule : PortRule} {l : List Service} (hf : regionFetch mf lbRule = .ok l)
    (rules : List PortRule) :
    addRulesFromRegions mf isSelectorMatch rules lbRule = .ok (rules ++ (l.filter (selects isSelectorMatch lbRule)).flatMap
      fun S => selectorRules lbRule S
        (if lbRule.region = "" ∨ lbRule.region = "" then lbRule.environment ++ "/" ++ S.stackName ++ "/" ++ S.name
         else lbRule.region ++ "/" ++ lbRule.environment ++ "/" ++ S.stackName ++ "/" ++ S.name)
        lbRule.region lbRule.environment) := by
  simp only [addRulesFromRegions, hf, liftError, Except.mapError, ok_bind]
  by_cases henv : lbRule.environment ≠ ""
  · simp only [regionLink_eq henv]
    rfl
  · -- no environment: nothing is fetched
    have hl : l = [] := by
      unfold regionFetch at hf
      split at hf <;> simp_all
    simp only [hl, List.filter_nil, List.flatMap_nil, List.append_nil]
    rfl

/-- The loop, when every fetch succeeds, appends the contract's expansion of the rules to what it was given. -/
theorem foldlM_processSelectorStep :
    ∀ (rules acc : List PortRule), (∀ R ∈ rules, R.selector ≠ "" → regionFetch mf R = .ok (other R)) →
      rules.foldlM (processSelectorStep mf isSelectorMatch svcs) acc =
        .ok (acc ++ selectorExpansion isSelectorMatch svcs "" other rules)
  | [], acc, _ => by simp only [List.foldlM_nil, selectorExpansion, List.flatMap_nil, List.append_nil]; rfl
  | R :: rules, acc, hf => by
    have hrest := foldlM_processSelectorStep rules
    rw [List.foldlM_cons, processSelectorStep]
    by_cases hsel : R.selector = ""
    · rw [if_pos hsel]
      rw [pure_bind, hrest _ fun R' hR' => hf R' (List.mem_cons_of_mem _ hR')]
      simp [selectorExpansion, hsel]
    · rw [if_neg hsel, addRulesFromRegions_ok (hf R (List.mem_cons_self _ _) hsel), ok_bind,
        hrest _ fun R' hR' => hf R' (List.mem_cons_of_mem _ hR')]
      simp [selectorExpansion, hsel]

/-- A loop that returns met no failed fetch. -/
theorem regionFetch_ok_of_foldlM :
    ∀ (rules acc out : List PortRule), rules.foldlM (processSelectorStep mf isSelectorMatch svcs) acc = .ok out →
      ∀ R ∈ rules, R.selector ≠ "" → ∃ l, regionFetch mf R = .ok l
  | [], _, _, _, R, hR, _ => absurd hR (List.not_mem_nil R)
  | R :: rules, acc, out, h, R', hR', hsel' => by
    rw [List.foldlM_cons] at h
    obtain ⟨acc', hstep, h⟩ := bind_eq_ok h
    rcases List.mem_cons.mp hR' with rfl | hR'
    · rw [processSelectorStep, if_neg hsel'] at hstep
      unfold addRulesFromRegions at hstep
      obtain ⟨l, hl, -⟩ := bind_eq_ok hstep
      cases hfetch : regionFetch mf R' with
      | error e => rw [hfetch] at hl; cases hl
      | ok l' => exact ⟨l', rfl⟩
    · exact regionFetch_ok_of_foldlM rules acc' out h R' hR' hsel'

/-- A fetch that succeeds lists what `fetched` says. -/
theorem regionFetch_eq_fetched {lbRule : PortRule} (h : ∃ l, regionFetch mf lbRule = .ok l) :
    regionFetch mf lbRule = .ok (fetched mf lbRule) := by
  obtain ⟨l, hl⟩ := h
  simp only [fetched, hl]

/-- `processSelector` returned: `GetServices` and every fetch succeeded, and the rules are the contract's expansion over
what they listed. -/
theorem processSelector_ok {lbMeta out : LBMetadata} (h : DrainVersion.processSelector mf isSelectorMatch lbMeta = .ok out) :
    ∃ svcs, mf.getServices = .ok svcs ∧ (∀ R ∈ lbMeta.portRules, R.selector ≠ "" → ∃ l, regionFetch mf R = .ok l) ∧
      out.portRules = selectorExpansion isSelectorMatch svcs "" (fetched mf) lbMeta.portRules := by
  obtain ⟨svcs, hs, h⟩ := bind_eq_ok h
  obtain ⟨rules, hr, h⟩ := bind_eq_ok h
  cases h
  have hf := regionFetch_ok_of_foldlM _ _ _ hr
  rw [foldlM_processSelectorStep _ _ fun R hR hsel => regionFetch_eq_fetched (hf R hR hsel)] at hr
  refine ⟨svcs, ?_, hf, (Except.ok.inj hr).symm⟩
  cases hg : mf.getServices with
  | error e => rw [hg] at hs; cases hs
  | ok v => rw [hg] at hs; cases hs; rfl

variable {a b e g : String}

/-- `stack/name` is looked up in the local environment. -/
theorem getService_stack_name (c : DrainVersion.MetadataClient) (ha : '/' ∉ a.data) (hb : '/' ∉ b.data) :
    DrainVersion.RMetaFetcher.getService c (a ++ "/" ++ b) = some <$> liftError (c.getServiceInLocalEnvironment a b) := by
  rw [DrainVersion.RMetaFetcher.getService, LookupAux.split_join₂ ha hb]
  rfl

/-- `env/stack/name` is looked up in the local region. -/
theorem getService_env_stack_name (c : DrainVersion.MetadataClient) (he : '/' ∉ e.data) (ha : '/' ∉ a.data)
    (hb : '/' ∉ b.data) :
    DrainVersion.RMetaFetcher.getService c (e ++ "/" ++ a ++ "/" ++ b) =
      some <$> liftError (c.getServiceInLocalRegion e a b) := by
  rw [DrainVersion.RMetaFetcher.getService, LookupAux.split_join₃ he ha hb]

/-- `region/env/stack/name` is looked up in that region, whichever it is. -/
theorem getService_region_env_stack_name (c : DrainVersion.MetadataClient) (hg : '/' ∉ g.data) (he : '/' ∉ e.data) (ha : '/' ∉ a.data)
    (hb : '/' ∉ b.data) :
    DrainVersion.RMetaFetcher.getService c (g ++ "/" ++ e ++ "/" ++ a ++ "/" ++ b) =
      some <$> liftError (c.getServiceFromRegionEnvironment g e a b) := by
  rw [DrainVersion.RMetaFetcher.getService, LookupAux.split_join₄ hg he ha hb]

/-- A fetch that lists a service was made for a rule naming an environment. -/
theorem environment_of_mem_regionFetch {lbRule : PortRule} {l : List Service} {svc : Service}
    (hf : regionFetch mf lbRule = .ok l) (hsvc : svc ∈ l) : lbRule.environment ≠ "" := by
  intro henv
  simp only [regionFetch, henv, ne_eq, not_true_eq_false, if_false, ite_self, Except.ok.injEq] at hf
  exact absurd (hf ▸ hsvc) (List.not_mem_nil _)

end DrainSelectorAux

open DrainSelectorAux

namespace DrainVersion

variable {mf : DrainVersion.MetadataFetcher} {isSelectorMatch : String → List (String × String) → Bool}
  {lbMeta : LBMetadata}

/-- When `GetServices` and every fetch of `AddRulesFromRegions` succeed, `processSelector` of the draining version
returns the contract's expansion with the self region empty: every rule in input order, a selector rule replaced by the
rules of the local services it takes, then by those of its environment's services, linked `env/stack/name`, or
`region/env/stack/name` whenever it names a region. -/
theorem processSelector_expands_contract {svcs : List Service} {other : PortRule → List Service}
    (hs : mf.getServices = .ok svcs)
    (hf : ∀ R ∈ lbMeta.portRules, R.selector ≠ "" → regionFetch mf R = .ok (other R)) :
    processSelector mf isSelectorMatch lbMeta =
      .ok { lbMeta with portRules := selectorExpansion isSelectorMatch svcs "" other lbMeta.portRules } := by
  simp only [processSelector, hs, liftError, Except.mapError, ok_bind, foldlM_processSelectorStep _ _ hf,
    List.nil_append]
  rfl

/-- A fetcher of the draining version that lists `stack/web` everywhere. -/
def webFetcher : DrainVersion.MetadataFetcher :=
  ⟨.ok [hostNetworkService], fun _ => .ok [hostNetworkService], fun _ _ => .ok [hostNetworkService]⟩

theorem processSelector_expands_contract_region :
    (webFetcher.getServices = .ok [hostNetworkService] ∧
      ∀ R ∈ [regionSelectorRule], R.selector ≠ "" → regionFetch webFetcher R = .ok [hostNetworkService]) ∧
    processSelector webFetcher (fun _ _ => true) { portRules := [regionSelectorRule] } =
      .ok { portRules :=
        selectorExpansion (fun _ _ => true) [hostNetworkService] "" (fun _ => [hostNetworkService]) [regionSelectorRule] } :=
  have hs : webFetcher.getServices = .ok [hostNetworkService] := rfl
  have hf : ∀ R ∈ [regionSelectorRule], R.selector ≠ "" → regionFetch webFetcher R = .ok [hostNetworkService] :=
    fun R hR _ => by rw [List.mem_singleton.mp hR]; rfl
  ⟨⟨hs, hf⟩, processSelector_expands_contract hs hf⟩

/-- `processSelector` of the draining version returns exactly when `GetServices` and the fetch of every selector rule
succeed: no error of a fetch is dropped. -/
theorem processSelector_ok_iff :
    (∃ out, processSelector mf isSelectorMatch lbMeta = .ok out) ↔
      (∃ svcs, mf.getServices = .ok svcs) ∧ ∀ R ∈ lbMeta.portRules, R.selector ≠ "" → ∃ l, regionFetch mf R = .ok l := by
  constructor
  · rintro ⟨out, h⟩
    obtain ⟨svcs, hs, hf, -⟩ := processSelector_ok h
    exact ⟨⟨svcs, hs⟩, hf⟩
  · rintro ⟨⟨svcs, hs⟩, hf⟩
    refine ⟨{ lbMeta with portRules := selectorExpansion isSelectorMatch svcs "" (fetched mf) lbMeta.portRules }, ?_⟩
    simp only [processSelector, hs, liftError, Except.mapError, ok_bind,
      foldlM_processSelectorStep _ _ fun R hR hsel => regionFetch_eq_fetched (hf R hR hsel)]
    rfl

/-- Every rule `processSelector` of the draining version expands for a service carries a link that `GetService` of the
draining version decodes, on any client, into the lookup of the place the service was listed from: the local environment
for a service of `GetServices`; for a service `AddRulesFromRegions` fetched, its region and environment when the rule
names a region, its environment in the local region otherwise. No region's name is read on either side, so only names
that hold no `/` are needed. -/
theorem processSelector_links_lookup (c : DrainVersion.MetadataClient) {out : LBMetadata}
    (h : processSelector mf isSelectorMatch lbMeta = .ok out) {R : PortRule} (hR : R ∈ lbMeta.portRules)
    (hsel : R.selector ≠ "") {svc : Service} (htake : selects isSelectorMatch R svc = true)
    (hst : '/' ∉ svc.stackName.data) (hn : '/' ∉ svc.name.data) :
    ((∃ svcs, mf.getServices = .ok svcs ∧ svc ∈ svcs) →
      ∀ E ∈ selectorRules R svc (svc.stackName ++ "/" ++ svc.name) "" "", E ∈ out.portRules ∧
        RMetaFetcher.getService c E.service = some <$> liftError (c.getServiceInLocalEnvironment svc.stackName svc.name)) ∧
    ((∃ l, regionFetch mf R = .ok l ∧ svc ∈ l) → '/' ∉ R.region.data → '/' ∉ R.environment.data →
      ∀ E ∈ selectorRules R svc (regionLink R svc) R.region R.environment, E ∈ out.portRules ∧
        RMetaFetcher.getService c E.service = some <$> liftError (if R.region ≠ "" then
          c.getServiceFromRegionEnvironment R.region R.environment svc.stackName svc.name
        else c.getServiceInLocalRegion R.environment svc.stackName svc.name)) := by
  obtain ⟨svcs₀, hs₀, -, hout⟩ := processSelector_ok h
  -- the rules of `R` in the output: the local part, then the part of its environment
  have hpart : ∀ E, E ∈ ((svcs₀.filter (selects isSelectorMatch R)).flatMap fun S =>
      selectorRules R S (S.stackName ++ "/" ++ S.name) "" "") ++ ((fetched mf R).filter (selects isSelectorMatch R)).flatMap
        (fun S => selectorRules R S
          (if R.region = "" ∨ R.region = "" then R.environment ++ "/" ++ S.stackName ++ "/" ++ S.name
           else R.region ++ "/" ++ R.environment ++ "/" ++ S.stackName ++ "/" ++ S.name) R.region R.environment) →
      E ∈ out.portRules := fun E hE => by
    rw [hout, selectorExpansion, List.mem_flatMap]
    exact ⟨R, hR, by rw [if_neg hsel]; exact hE⟩
  refine ⟨fun ⟨svcs, hs, hsvc⟩ E hE => ⟨?_, ?_⟩, fun ⟨l, hl, hsvc⟩ hrg hen E hE => ⟨?_, ?_⟩⟩
  · rw [hs₀] at hs
    cases hs
    exact hpart E (List.mem_append_left _ (List.mem_flatMap.mpr ⟨svc, List.mem_filter.mpr ⟨hsvc, htake⟩, hE⟩))
  · rw [SelectorAux.service_of_mem_selectorRules hE, getService_stack_name c hst hn]
  · have henv := environment_of_mem_regionFetch hl hsvc
    have hfe : fetched mf R = l := by simp only [fetched, hl]
    rw [regionLink_eq henv] at hE
    exact hpart E (List.mem_append_right _ (List.mem_flatMap.mpr ⟨svc, List.mem_filter.mpr ⟨hfe ▸ hsvc, htake⟩, hE⟩))
  · have henv := environment_of_mem_regionFetch hl hsvc
    rw [SelectorAux.service_of_mem_selectorRules hE, regionLink]
    by_cases hr : R.region ≠ ""
    · rw [if_pos hr, if_pos hr, getService_region_env_stack_name c hrg hen hst hn]
    · rw [if_neg hr, if_neg hr, if_pos henv, getService_env_stack_name c hen hst hn]

/-- The rule of region `r2` expands over `stack/web` to `stack/web` and `r2/e/stack/web`, which decode into the lookup in
the local environment and the lookup in environment `e` of region `r2`. -/
theorem processSelector_links_lookup_region :
    (processSelector webFetcher (fun _ _ => true) { portRules := [regionSelectorRule] } =
        .ok { portRules := [{ sourcePort := 80, protocol := "http", service := "stack/web", targetPort := 8080 },
          { sourcePort := 80, protocol := "http", service := "r2/e/stack/web", targetPort := 8080, region := "r2",
            environment := "e" }] } ∧
      regionSelectorRule ∈ [regionSelectorRule] ∧ regionSelectorRule.selector ≠ "" ∧
      selects (fun _ _ => true) regionSelectorRule hostNetworkService = true ∧ '/' ∉ hostNetworkService.stackName.data ∧
      '/' ∉ hostNetworkService.name.data) ∧
    ((∃ svcs, webFetcher.getServices = .ok svcs ∧ hostNetworkService ∈ svcs) →
      ∀ E ∈ selectorRules regionSelectorRule hostNetworkService
          (hostNetworkService.stackName ++ "/" ++ hostNetworkService.name) "" "",
        E ∈ [{ sourcePort := 80, protocol := "http", service := "stack/web", targetPort := 8080 },
          { sourcePort := 80, protocol := "http", service := "r2/e/stack/web", targetPort := 8080, region := "r2",
            environment := "e" }] ∧
        RMetaFetcher.getService zeroDrainClient E.service = some <$> liftError
          (zeroDrainClient.getServiceInLocalEnvironment hostNetworkService.stackName hostNetworkService.name)) ∧
    ((∃ l, regionFetch webFetcher regionSelectorRule = .ok l ∧ hostNetworkService ∈ l) →
      '/' ∉ regionSelectorRule.region.data → '/' ∉ regionSelectorRule.environment.data →
      ∀ E ∈ selectorRules regionSelectorRule hostNetworkService (regionLink regionSelectorRule hostNetworkService)
          regionSelectorRule.region regionSelectorRule.environment,
        E ∈ [{ sourcePort := 80, protocol := "http", service := "stack/web", targetPort := 8080 },
          { sourcePort := 80, protocol := "http", service := "r2/e/stack/web", targetPort := 8080, region := "r2",
            environment := "e" }] ∧
        RMetaFetcher.getService zeroDrainClient E.service = some <$> liftError (if regionSelectorRule.region ≠ "" then
          zeroDrainClient.getServiceFromRegionEnvironment regionSelectorRule.region regionSelectorRule.environment
            hostNetworkService.stackName hostNetworkService.name
        else zeroDrainClient.getServiceInLocalRegion regionSelectorRule.environment hostNetworkService.stackName
          hostNetworkService.name)) :=
  have h : processSelector webFetcher (fun _ _ => true) { portRules := [regionSelectorRule] } =
      .ok { portRules := [{ sourcePort := 80, protocol := "http", service := "stack/web", targetPort := 8080 },
        { sourcePort := 80, protocol := "http", service := "r2/e/stack/web", targetPort := 8080, region := "r2",
          environment := "e" }] } := rfl
  ⟨⟨h, List.mem_singleton_self _, by decide, rfl, by decide, by decide⟩,
    processSelector_links_lookup zeroDrainClient h (List.mem_singleton_self _) (by decide) rfl (by decide) (by decide)⟩

end DrainVersion

end RancherLb
