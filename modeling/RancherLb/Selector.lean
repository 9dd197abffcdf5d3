import RancherLb.Lookup

/-!
# processSelector: selector rules expanded into service rules

`processSelector` replaces every port rule that has a selector by one rule per port rule of each service the selector
takes, linked to that service. It reads the services of the local environment, and those of the environment the rule
names, in the local region or in the region the rule names. The link it writes is the one `GetService` takes apart:
`stack/name`, `env/stack/name`, or `region/env/stack/name` for another region. `IsSelectorMatch` is not among the
repository's files; it is a parameter.

The link is decoded against the same snapshot, but not in the same way: `processSelector` reads the region's name as
empty when the metadata fails to give it, where `GetService` returns the error.
-/

namespace RancherLb

open Go LookupAux

/-- A service a selector rule takes: its labels match the selector, and it has port rules of its own or the selector rule
names a target port. -/
def selects (isSelectorMatch : String → List (String × String) → Bool) (lbRule : PortRule) (svc : Service) : Bool :=
  isSelectorMatch lbRule.selector svc.labels && !(svc.lbConfig.portRules.isEmpty && lbRule.targetPort == 0)

/-- The rules a selector rule expands to for one service it takes, linked as `svcName`: one per port rule of the service,
with the service rule's path, hostname, target port and backend name, or else one with the selector rule's; the source
port, protocol and weight are the selector rule's, `region` and `environment` the ones given. -/
def selectorRules (lbRule : PortRule) (svc : Service) (svcName region environment : String) : List PortRule :=
  let meta := getLBMetadata svc.lbConfig
  if meta.portRules.length > 0 then
    meta.portRules.map fun rule =>
      { sourcePort := lbRule.sourcePort, protocol := lbRule.protocol, path := rule.path, hostname := rule.hostname,
        service := svcName, targetPort := rule.targetPort, backendName := rule.backendName, region, environment,
        weight := lbRule.weight }
  else
    [{ sourcePort := lbRule.sourcePort, protocol := lbRule.protocol, path := lbRule.path, hostname := lbRule.hostname,
       service := svcName, targetPort := lbRule.targetPort, backendName := lbRule.backendName, region, environment,
       weight := lbRule.weight }]

/-- The services of other environments a selector rule reads: of its environment in the local region when its region is
empty or the local one, of its region and environment otherwise; none when it names neither. The error of the fetch is
dropped: the loop ranges over what the fetch returned, nothing. -/
def externalServices (mf : MetadataFetcher) (regionName : String) (lbRule : PortRule) : List Service :=
  let fetched :=
    if lbRule.region ≠ "" then
      if lbRule.region = regionName then mf.getServicesByEnvironment lbRule.environment
      else if lbRule.environment ≠ "" then mf.getServicesByRegionEnvironment lbRule.region lbRule.environment
      else .ok []
    else if lbRule.environment ≠ "" then mf.getServicesByEnvironment lbRule.environment
    else .ok []
  match fetched with
  | .ok svcs => svcs
  | .error _ => []

/-- The link of a service of another environment: `region/env/stack/name` for another region, `env/stack/name` when the
rule names an environment, and empty otherwise. -/
def externalLink (regionName : String) (lbRule : PortRule) (svc : Service) : String :=
  if lbRule.region ≠ "" ∧ lbRule.region ≠ regionName then
    lbRule.region ++ "/" ++ lbRule.environment ++ "/" ++ svc.stackName ++ "/" ++ svc.name
  else if lbRule.environment ≠ "" then lbRule.environment ++ "/" ++ svc.stackName ++ "/" ++ svc.name
  else ""

/-- The region's name as `processSelector` reads it, its quotes stripped: empty when the metadata does not give it. -/
def selectorRegionName (mf : MetadataFetcher) : String :=
  trimQuotes (match mf.getRegionName with
    | .ok r => r
    | .error _ => "")

/-- `processSelector`: a rule without a selector is kept; a rule with one is replaced by the rules of every service of the
local environment it takes, linked `stack/name`, then of every service of another environment it takes. -/
def processSelector (mf : MetadataFetcher) (isSelectorMatch : String → List (String × String) → Bool)
    (lbMeta : LBMetadata) : Except Fault LBMetadata := do
  let svcs ← liftError mf.getServices
  let regionName := selectorRegionName mf
  let rules := lbMeta.portRules.flatMap fun lbRule =>
    if lbRule.selector = "" then [lbRule]
    else
      ((svcs.filter (selects isSelectorMatch lbRule)).flatMap fun svc =>
        selectorRules lbRule svc (svc.stackName ++ "/" ++ svc.name) "" "") ++
      ((externalServices mf regionName lbRule).filter (selects isSelectorMatch lbRule)).flatMap fun svc =>
        selectorRules lbRule svc (externalLink regionName lbRule svc) lbRule.region lbRule.environment
  pure { lbMeta with portRules := rules }

/-- The services a scope lists. -/
def Scope.fetch (mf : MetadataFetcher) : Scope → Except String (List Service)
  | .localEnvironment => mf.getServices
  | .localRegion env => mf.getServicesByEnvironment env
  | .otherRegion region env => mf.getServicesByRegionEnvironment region env

/-- The scope of the services of another environment that a selector rule naming an environment reads. -/
def externalScope (regionName : String) (lbRule : PortRule) : Scope :=
  if lbRule.region ≠ "" ∧ lbRule.region ≠ regionName then .otherRegion lbRule.region lbRule.environment
  else .localRegion lbRule.environment

namespace SelectorAux

variable {mf : MetadataFetcher} {regionName : String} {lbRule : PortRule}

/-- Every rule expanded for a service carries the link it was given. -/
theorem service_of_mem_selectorRules {svc : Service} {svcName region environment : String} {E : PortRule}
    (hE : E ∈ selectorRules lbRule svc svcName region environment) : E.service = svcName := by
  simp only [selectorRules] at hE
  split at hE
  · obtain ⟨_, _, rfl⟩ := List.mem_map.mp hE
    rfl
  · rw [List.mem_singleton.mp hE]

/-- For a rule naming an environment, the services of other environments are those its scope lists. -/
theorem externalServices_eq (henv : lbRule.environment ≠ "") {svcs : List Service}
    (h : (externalScope regionName lbRule).fetch mf = .ok svcs) : externalServices mf regionName lbRule = svcs := by
  unfold externalScope at h
  unfold externalServices
  by_cases hr : lbRule.region ≠ "" ∧ lbRule.region ≠ regionName
  · rw [if_pos hr] at h
    simp only [if_pos hr.1, if_neg hr.2, if_pos henv]
    rw [show mf.getServicesByRegionEnvironment lbRule.region lbRule.environment = .ok svcs from h]
  · rw [if_neg hr] at h
    have h' : mf.getServicesByEnvironment lbRule.environment = .ok svcs := h
    by_cases hr₁ : lbRule.region ≠ ""
    · have hr₂ : lbRule.region = regionName := by by_contra hne; exact hr ⟨hr₁, hne⟩
      simp only [if_pos hr₁, if_pos hr₂, h']
    · simp only [if_neg hr₁, if_pos henv, h']

/-- The link of a service of another environment is the link of its scope, for a rule naming an environment. -/
theorem externalLink_eq (henv : lbRule.environment ≠ "") (svc : Service) :
    externalLink regionName lbRule svc =
      if lbRule.region ≠ "" ∧ lbRule.region ≠ regionName then
        lbRule.region ++ "/" ++ lbRule.environment ++ "/" ++ svc.stackName ++ "/" ++ svc.name
      else lbRule.environment ++ "/" ++ svc.stackName ++ "/" ++ svc.name := by
  unfold externalLink
  by_cases hr : lbRule.region ≠ "" ∧ lbRule.region ≠ regionName
  · rw [if_pos hr, if_pos hr]
  · rw [if_neg hr, if_neg hr, if_pos henv]

variable {isSelectorMatch : String → List (String × String) → Bool} {lbMeta out : LBMetadata} {svc : Service}
  {E : PortRule}

/-- The rules `processSelector` returns: those of every rule of the input, by the same loop. -/
theorem processSelector_portRules (h : processSelector mf isSelectorMatch lbMeta = .ok out) :
    ∃ svcs, mf.getServices = .ok svcs ∧ out.portRules = lbMeta.portRules.flatMap fun lbRule =>
      if lbRule.selector = "" then [lbRule]
      else
        ((svcs.filter (selects isSelectorMatch lbRule)).flatMap fun svc =>
          selectorRules lbRule svc (svc.stackName ++ "/" ++ svc.name) "" "") ++
        ((externalServices mf (selectorRegionName mf) lbRule).filter (selects isSelectorMatch lbRule)).flatMap fun svc =>
          selectorRules lbRule svc (externalLink (selectorRegionName mf) lbRule svc) lbRule.region lbRule.environment := by
  obtain ⟨svcs, hsvcs, hout⟩ := GoAux.bind_eq_ok h
  cases hout
  refine ⟨svcs, ?_, rfl⟩
  cases hg : mf.getServices with
  | error e => rw [hg] at hsvcs; cases hsvcs
  | ok v => rw [hg] at hsvcs; cases hsvcs; rfl

/-- A rule expanded for a service of the local environment that a selector rule takes is returned. -/
theorem mem_processSelector_local (h : processSelector mf isSelectorMatch lbMeta = .ok out) (hR : lbRule ∈ lbMeta.portRules)
    (hsel : lbRule.selector ≠ "") {svcs : List Service} (hfetch : mf.getServices = .ok svcs) (hsvc : svc ∈ svcs)
    (htake : selects isSelectorMatch lbRule svc = true)
    (hE : E ∈ selectorRules lbRule svc (svc.stackName ++ "/" ++ svc.name) "" "") : E ∈ out.portRules := by
  obtain ⟨svcs₀, h₀, hout⟩ := processSelector_portRules h
  rw [hfetch] at h₀
  cases h₀
  rw [hout, List.mem_flatMap]
  refine ⟨lbRule, hR, ?_⟩
  rw [if_neg hsel]
  exact List.mem_append_left _ (List.mem_flatMap.mpr ⟨svc, List.mem_filter.mpr ⟨hsvc, htake⟩, hE⟩)

/-- A rule expanded for a service of another environment that a selector rule takes is returned. -/
theorem mem_processSelector_external (h : processSelector mf isSelectorMatch lbMeta = .ok out)
    (hR : lbRule ∈ lbMeta.portRules) (hsel : lbRule.selector ≠ "")
    (hsvc : svc ∈ externalServices mf (selectorRegionName mf) lbRule) (htake : selects isSelectorMatch lbRule svc = true)
    (hE : E ∈ selectorRules lbRule svc (externalLink (selectorRegionName mf) lbRule svc) lbRule.region
      lbRule.environment) : E ∈ out.portRules := by
  obtain ⟨svcs₀, -, hout⟩ := processSelector_portRules h
  rw [hout, List.mem_flatMap]
  refine ⟨lbRule, hR, ?_⟩
  rw [if_neg hsel]
  exact List.mem_append_right _ (List.mem_flatMap.mpr ⟨svc, List.mem_filter.mpr ⟨hsvc, htake⟩, hE⟩)

end SelectorAux

open SelectorAux

/-- The rules `rules`, expanded for `svc`, are returned in `out`, and each carries a link that `GetService` on `c` decodes
into the lookup of scope `sc` with the service's stack and name. -/
def DecodesToScope (c : MetadataClient) (out : LBMetadata) (sc : Scope) (svc : Service) (rules : List PortRule) : Prop :=
  ∀ E ∈ rules, E ∈ out.portRules ∧
    RMetaFetcher.getService c E.service = some <$> liftError (sc.lookup c svc.stackName svc.name)

/-- Every rule `processSelector` expands for a service carries a link that `GetService`, on the same snapshot, decodes
into the lookup of the scope the service was listed from, with the service's stack and name: the local environment for a
service of `GetServices`, and for a selector rule naming an environment, the scope of that environment. This needs the
region's name from the metadata, and names that hold no `/`. -/
theorem processSelector_links_decode {c : MetadataClient} {isSelectorMatch : String → List (String × String) → Bool}
    {lbMeta out : LBMetadata} {r : String} (hr : c.getRegionName = .ok r)
    (h : processSelector (RMetaFetcher c) isSelectorMatch lbMeta = .ok out) {lbRule : PortRule}
    (hR : lbRule ∈ lbMeta.portRules) (hsel : lbRule.selector ≠ "") {svcs : List Service} {svc : Service}
    (hsvc : svc ∈ svcs) (htake : selects isSelectorMatch lbRule svc = true) (hst : '/' ∉ svc.stackName.data)
    (hn : '/' ∉ svc.name.data) :
    (Scope.localEnvironment.fetch (RMetaFetcher c) = .ok svcs →
      DecodesToScope c out .localEnvironment svc (selectorRules lbRule svc (svc.stackName ++ "/" ++ svc.name) "" "")) ∧
    (lbRule.environment ≠ "" → '/' ∉ lbRule.region.data → '/' ∉ lbRule.environment.data →
      (externalScope (trimQuotes r) lbRule).fetch (RMetaFetcher c) = .ok svcs →
      DecodesToScope c out (externalScope (trimQuotes r) lbRule) svc
        (selectorRules lbRule svc (externalLink (trimQuotes r) lbRule svc) lbRule.region lbRule.environment)) := by
  have hrn : selectorRegionName (RMetaFetcher c) = trimQuotes r := by
    simp only [selectorRegionName, RMetaFetcher, hr]
  refine ⟨fun hfetch E hE => ⟨mem_processSelector_local h hR hsel hfetch hsvc htake hE, ?_⟩,
    fun henv hrg hen hfetch E hE => ⟨?_, ?_⟩⟩
  · rw [service_of_mem_selectorRules hE, getService_two hr hst hn]
  · rw [← hrn] at hE hfetch
    exact mem_processSelector_external h hR hsel (externalServices_eq henv hfetch ▸ hsvc) htake hE
  · rw [service_of_mem_selectorRules hE, externalLink_eq henv]
    unfold externalScope
    by_cases hx : lbRule.region ≠ "" ∧ lbRule.region ≠ trimQuotes r
    · rw [if_pos hx, if_pos hx, getService_four hr hrg hen hst hn, if_neg hx.2]
    · rw [if_neg hx, if_neg hx, getService_three hr hen hst hn]

/-- A selector rule on port 80 for the services labelled `app=web`, of the local environment and of the environment `e`. -/
def envSelectorRule : PortRule :=
  { sourcePort := 80, protocol := "http", selector := "app=web", environment := "e", targetPort := 8080 }

/-- What `processSelector` expands it to over a snapshot that holds `stack/web`: the rule of the local service, then the
rule of the service of `e`. -/
def envSelectorOut : LBMetadata :=
  { portRules := [{ sourcePort := 80, protocol := "http", service := "stack/web", targetPort := 8080 },
      { sourcePort := 80, protocol := "http", service := "e/stack/web", targetPort := 8080, environment := "e" }] }

theorem processSelector_links_decode_env :
    ((snapshotClient [hostNetworkService] []).getRegionName = .ok "region1" ∧
      processSelector (RMetaFetcher (snapshotClient [hostNetworkService] [])) (fun _ _ => true)
        { portRules := [envSelectorRule] } = .ok envSelectorOut ∧
      envSelectorRule ∈ [envSelectorRule] ∧ envSelectorRule.selector ≠ "" ∧ hostNetworkService ∈ [hostNetworkService] ∧
      selects (fun _ _ => true) envSelectorRule hostNetworkService = true ∧ '/' ∉ hostNetworkService.stackName.data ∧
      '/' ∉ hostNetworkService.name.data) ∧
    (Scope.localEnvironment.fetch (RMetaFetcher (snapshotClient [hostNetworkService] [])) = .ok [hostNetworkService] →
      DecodesToScope (snapshotClient [hostNetworkService] []) envSelectorOut .localEnvironment hostNetworkService
        (selectorRules envSelectorRule hostNetworkService
          (hostNetworkService.stackName ++ "/" ++ hostNetworkService.name) "" "")) ∧
    (envSelectorRule.environment ≠ "" → '/' ∉ envSelectorRule.region.data → '/' ∉ envSelectorRule.environment.data →
      (externalScope (trimQuotes "region1") envSelectorRule).fetch (RMetaFetcher (snapshotClient [hostNetworkService] [])) =
        .ok [hostNetworkService] →
      DecodesToScope (snapshotClient [hostNetworkService] []) envSelectorOut
        (externalScope (trimQuotes "region1") envSelectorRule) hostNetworkService
        (selectorRules envSelectorRule hostNetworkService
          (externalLink (trimQuotes "region1") envSelectorRule hostNetworkService) envSelectorRule.region
          envSelectorRule.environment)) := by
  have hr : (snapshotClient [hostNetworkService] []).getRegionName = .ok "region1" := rfl
  have h : processSelector (RMetaFetcher (snapshotClient [hostNetworkService] [])) (fun _ _ => true)
      { portRules := [envSelectorRule] } = .ok envSelectorOut := rfl
  exact ⟨⟨hr, h, List.mem_singleton_self _, by decide, List.mem_singleton_self _, rfl, by decide, by decide⟩,
    processSelector_links_decode hr h (List.mem_singleton_self _) (by decide) (List.mem_singleton_self _) rfl (by decide)
      (by decide)⟩

/-- A snapshot whose region's name cannot be read, holding one service `stack/web` in the environment `e` of region
`r2`. -/
def regionlessClient : MetadataClient where
  getServices := .ok []
  getRegionName := .error "region not found"
  getServiceByName _ _ := .ok {}
  getServiceByEnvironment _ _ _ := .ok {}
  getServiceByRegionEnvironment _ _ _ _ := .ok hostNetworkService
  getServicesByEnvironment _ := .ok []
  getServicesByRegionEnvironment _ _ := .ok [hostNetworkService]
  getContainers := .ok []

/-- A selector rule on port 80 for the services of the environment `e` of region `r2`. -/
def regionSelectorRule : PortRule :=
  { sourcePort := 80, protocol := "http", selector := "app=web", region := "r2", environment := "e", targetPort := 8080 }

/-- `processSelector` reads the region's name as empty and links the service of `r2` as `r2/e/stack/web`; `GetService`
returns the metadata's error for that link instead of looking the service up in `r2`, where it is. -/
theorem processSelector_region_error :
    processSelector (RMetaFetcher regionlessClient) (fun _ _ => true) { portRules := [regionSelectorRule] } =
        .ok { portRules :=
          [{ sourcePort := 80, protocol := "http", service := "r2/e/stack/web", targetPort := 8080, region := "r2",
             environment := "e" }] } ∧
      (Scope.otherRegion "r2" "e").fetch (RMetaFetcher regionlessClient) = .ok [hostNetworkService] ∧
      (Scope.otherRegion "r2" "e").lookup regionlessClient "stack" "web" = .ok hostNetworkService ∧
      RMetaFetcher.getService regionlessClient "r2/e/stack/web" = .error (.error "region not found") :=
  ⟨rfl, rfl, rfl, rfl⟩

/-! ## The expansion the contract states, and the errors the code drops -/

/-- The fetch the contract of the selector expander names for a rule's other environment: by environment when the rule's
region is empty or the self region's, by region and environment otherwise, and none when the rule names no environment. -/
def contractScopeFetch (mf : MetadataFetcher) (selfRegion : String) (lbRule : PortRule) : Except String (List Service) :=
  if lbRule.environment ≠ "" then
    if lbRule.region = "" ∨ lbRule.region = selfRegion then mf.getServicesByEnvironment lbRule.environment
    else mf.getServicesByRegionEnvironment lbRule.region lbRule.environment
  else .ok []

/-- The expansion the contract states, over the services `svcs` of the local environment and the services `other` the
fetch of `contractScopeFetch` returned for each rule: a rule with no selector as it is; a rule with one, the rules of every
service it takes, first of the local environment, linked `stack/name`, then of the other environment, linked
`env/stack/name` in the self region and `region/env/stack/name` in another. -/
def selectorExpansion (isSelectorMatch : String → List (String × String) → Bool) (svcs : List Service)
    (selfRegion : String) (other : PortRule → List Service) (rules : List PortRule) : List PortRule :=
  rules.flatMap fun R =>
    if R.selector = "" then [R]
    else
      ((svcs.filter (selects isSelectorMatch R)).flatMap fun S =>
        selectorRules R S (S.stackName ++ "/" ++ S.name) "" "") ++
      ((other R).filter (selects isSelectorMatch R)).flatMap fun S =>
        selectorRules R S
          (if R.region = "" ∨ R.region = selfRegion then R.environment ++ "/" ++ S.stackName ++ "/" ++ S.name
           else R.region ++ "/" ++ R.environment ++ "/" ++ S.stackName ++ "/" ++ S.name) R.region R.environment

namespace SelectorAux

variable {mf : MetadataFetcher} {selfRegion : String} {lbRule : PortRule}

/-- For a rule naming an environment, the contract's fetch is the fetch of the rule's scope. -/
theorem contractScopeFetch_eq (henv : lbRule.environment ≠ "") :
    contractScopeFetch mf selfRegion lbRule = (externalScope selfRegion lbRule).fetch mf := by
  unfold contractScopeFetch externalScope
  by_cases hr : lbRule.region ≠ "" ∧ lbRule.region ≠ selfRegion
  · rw [if_pos henv, if_neg (by tauto), if_pos hr]
    rfl
  · rw [if_pos henv, if_pos (by tauto), if_neg hr]
    rfl

/-- The services of other environments the code reads are those of the contract's fetch, when it succeeds, unless the
rule names the self region and no environment. -/
theorem externalServices_eq_contract {svcs : List Service} (h : contractScopeFetch mf selfRegion lbRule = .ok svcs)
    (hself : lbRule.environment = "" → lbRule.region ≠ "" → lbRule.region ≠ selfRegion) :
    externalServices mf selfRegion lbRule = svcs := by
  by_cases henv : lbRule.environment ≠ ""
  · exact externalServices_eq henv (contractScopeFetch_eq henv ▸ h)
  · have hemp : lbRule.environment = "" := not_not.mp henv
    rw [contractScopeFetch, if_neg henv] at h
    cases h
    unfold externalServices
    by_cases hr : lbRule.region ≠ ""
    · rw [if_pos hr, if_neg (hself hemp hr), if_neg henv]
    · rw [if_neg hr, if_neg henv]

/-- The link of a service of another environment is the one the contract names, for a rule naming an environment. -/
theorem externalLink_eq_contract (henv : lbRule.environment ≠ "") (svc : Service) :
    externalLink selfRegion lbRule svc =
      if lbRule.region = "" ∨ lbRule.region = selfRegion then
        lbRule.environment ++ "/" ++ svc.stackName ++ "/" ++ svc.name
      else lbRule.region ++ "/" ++ lbRule.environment ++ "/" ++ svc.stackName ++ "/" ++ svc.name := by
  rw [externalLink_eq henv]
  by_cases hr : lbRule.region ≠ "" ∧ lbRule.region ≠ selfRegion
  · rw [if_pos hr, if_neg (by tauto)]
  · rw [if_neg hr, if_pos (by tauto)]

end SelectorAux

section Contract

variable {mf : MetadataFetcher} {isSelectorMatch : String → List (String × String) → Bool} {lbMeta : LBMetadata}

/-- When `GetServices`, `GetRegionName` and every fetch the contract names succeed, and no rule with a selector names
the self region without an environment, `processSelector` returns exactly the contract's expansion: the rules in input
order, each replaced by the rules of the services it takes, local ones first, every service in the order of its fetch
and every nested rule in its declared order. -/
theorem processSelector_eq_selectorExpansion {svcs : List Service} {r : String} {other : PortRule → List Service}
    (hs : mf.getServices = .ok svcs) (hr : mf.getRegionName = .ok r)
    (hscoped : ∀ R ∈ lbMeta.portRules, R.selector ≠ "" → contractScopeFetch mf (trimQuotes r) R = .ok (other R))
    (hself : ∀ R ∈ lbMeta.portRules, R.selector ≠ "" → R.environment = "" → R.region ≠ "" → R.region ≠ trimQuotes r) :
    processSelector mf isSelectorMatch lbMeta =
      .ok { lbMeta with portRules := selectorExpansion isSelectorMatch svcs (trimQuotes r) other lbMeta.portRules } := by
  have hrn : selectorRegionName mf = trimQuotes r := by simp only [selectorRegionName, hr]
  simp only [processSelector, hs, liftError, Except.mapError, GoAux.ok_bind, hrn, selectorExpansion]
  congr 2
  refine List.flatMap_congr fun R hR => ?_
  split
  · rfl
  · rename_i hsel
    rw [externalServices_eq_contract (hscoped R hR hsel) (hself R hR hsel)]
    by_cases henv : R.environment ≠ ""
    · congr 1
      exact List.flatMap_congr fun S _ => by rw [externalLink_eq_contract henv]
    · have h := hscoped R hR hsel
      rw [contractScopeFetch, if_neg henv] at h
      rw [← Except.ok.inj h]
      rfl

theorem processSelector_eq_selectorExpansion_env :
    ((RMetaFetcher (snapshotClient [hostNetworkService] [])).getServices = .ok [hostNetworkService] ∧
      (RMetaFetcher (snapshotClient [hostNetworkService] [])).getRegionName = .ok "region1" ∧
      (∀ R ∈ [envSelectorRule], R.selector ≠ "" →
        contractScopeFetch (RMetaFetcher (snapshotClient [hostNetworkService] [])) (trimQuotes "region1") R =
          .ok [hostNetworkService]) ∧
      ∀ R ∈ [envSelectorRule], R.selector ≠ "" → R.environment = "" → R.region ≠ "" →
        R.region ≠ trimQuotes "region1") ∧
    processSelector (RMetaFetcher (snapshotClient [hostNetworkService] [])) (fun _ _ => true)
        { portRules := [envSelectorRule] } =
      .ok { portRules := (selectorExpansion (fun _ _ => true) [hostNetworkService] (trimQuotes "region1")
        (fun _ => [hostNetworkService]) [envSelectorRule]) } :=
  have hs : (RMetaFetcher (snapshotClient [hostNetworkService] [])).getServices = .ok [hostNetworkService] := rfl
  have hr : (RMetaFetcher (snapshotClient [hostNetworkService] [])).getRegionName = .ok "region1" := rfl
  have hscoped : ∀ R ∈ [envSelectorRule], R.selector ≠ "" →
      contractScopeFetch (RMetaFetcher (snapshotClient [hostNetworkService] [])) (trimQuotes "region1") R =
        .ok [hostNetworkService] := fun R hR _ => by rw [List.mem_singleton.mp hR]; rfl
  have hself : ∀ R ∈ [envSelectorRule], R.selector ≠ "" → R.environment = "" → R.region ≠ "" →
      R.region ≠ trimQuotes "region1" := fun R hR _ henv => by
    rw [List.mem_singleton.mp hR] at henv
    exact absurd henv (by decide)
  ⟨⟨hs, hr, hscoped, hself⟩, processSelector_eq_selectorExpansion hs hr hscoped hself⟩

end Contract

/-- A snapshot of the region `region1` holding `stack/web` in the local environment, where no other environment can be
read. -/
def peerErrorClient : MetadataClient where
  getServices := .ok [hostNetworkService]
  getRegionName := .ok "region1"
  getServiceByName _ _ := .ok hostNetworkService
  getServiceByEnvironment _ _ _ := .error "environment not found"
  getServiceByRegionEnvironment _ _ _ _ := .error "environment not found"
  getServicesByEnvironment _ := .error "environment not found"
  getServicesByRegionEnvironment _ _ := .error "environment not found"
  getContainers := .ok []

/-- A selector rule on port 80 naming the self region `region1` and no environment. -/
def selfRegionSelectorRule : PortRule :=
  { sourcePort := 80, protocol := "http", selector := "app=web", region := "region1", targetPort := 8080 }

/-- The fetch of the environment `e` fails, and `processSelector` returns the local rule alone, with no error; and for a
rule naming the self region and no environment, `processSelector` fetches the services of the environment `""`, which
this snapshot answers with `stack/web`, and emits a second rule, with an empty link. -/
theorem processSelector_fetch_divergence :
    (RMetaFetcher peerErrorClient).getServicesByEnvironment "e" = .error "environment not found" ∧
      processSelector (RMetaFetcher peerErrorClient) (fun _ _ => true) { portRules := [envSelectorRule] } =
        .ok { portRules := [{ sourcePort := 80, protocol := "http", service := "stack/web", targetPort := 8080 }] } ∧
    processSelector (RMetaFetcher (snapshotClient [hostNetworkService] [])) (fun _ _ => true)
        { portRules := [selfRegionSelectorRule] } =
      .ok { portRules := [{ sourcePort := 80, protocol := "http", service := "stack/web", targetPort := 8080 },
        { sourcePort := 80, protocol := "http", service := "", targetPort := 8080, region := "region1" }] } :=
  ⟨rfl, rfl, rfl⟩

end RancherLb
