import RancherLb.DrainSelector
import RancherLb.Legacy

/-!
# The versions compared

The older `processSelector` expands a selector rule over the services of the local environment only, and its rules carry
no region, environment or weight. The newer one adds the services of the environment a rule names, in the self region or
in the region it names, and copies the rule's region, environment and weight; the draining version does the same through
`AddRulesFromRegions`, which reads by region whenever a region is named and passes a failed fetch on.

So the three differ in those fields and nowhere else: on rules that name no region and no environment and carry no
weight, they return the same expansion, and the same error when `GetServices` fails.

The two builders differ in their lookups: the older `GetService(envUUID, name, stack)` of a link split once on `/`,
in the LB's environment for a rule and in the alias's for an alias link, against the newer `GetService(link)`; and the
older endpoints carry no weight. Over lookups that agree, the older rule loop is the newer one without draining, run on
the rules stripped of their weights.
-/

namespace RancherLb

open Go GoAux

/-- The rules the older `processSelector` expands a selector rule to for one service it takes, linked as `svcName`: one per
port rule of the service, with the service rule's path, hostname, target port and backend name, or else one with the
selector rule's; the source port and protocol are the selector rule's. -/
def LegacyVersion.selectorRules (lbRule : PortRule) (svc : Service) (svcName : String) : List PortRule :=
  let meta := getLBMetadata svc.lbConfig
  if meta.portRules.length > 0 then
    meta.portRules.map fun rule =>
      { sourcePort := lbRule.sourcePort, protocol := lbRule.protocol, path := rule.path, hostname := rule.hostname,
        service := svcName, targetPort := rule.targetPort, backendName := rule.backendName }
  else
    [{ sourcePort := lbRule.sourcePort, protocol := lbRule.protocol, path := lbRule.path, hostname := lbRule.hostname,
       service := svcName, targetPort := lbRule.targetPort, backendName := lbRule.backendName }]

/-- The older `processSelector`: a rule without a selector is kept; a rule with one is replaced by the rules of every
service of the local environment it takes, linked `stack/name`. -/
def LegacyVersion.processSelector (getServices : Except String (List Service))
    (isSelectorMatch : String → List (String × String) → Bool) (lbMeta : LBMetadata) : Except Fault LBMetadata := do
  let svcs ← liftError getServices
  let rules := lbMeta.portRules.flatMap fun lbRule =>
    if lbRule.selector = "" then [lbRule]
    else (svcs.filter (selects isSelectorMatch lbRule)).flatMap fun svc =>
      LegacyVersion.selectorRules lbRule svc (svc.stackName ++ "/" ++ svc.name)
  pure { lbMeta with portRules := rules }

namespace VersionsAux

variable {isSelectorMatch : String → List (String × String) → Bool}

/-- The expansion of a rule over the local services alone. -/
def localExpansion (isSelectorMatch : String → List (String × String) → Bool) (svcs : List Service) (R : PortRule) :
    List PortRule :=
  if R.selector = "" then [R]
  else (svcs.filter (selects isSelectorMatch R)).flatMap fun S => selectorRules R S (S.stackName ++ "/" ++ S.name) "" ""

/-- Without a weight, the older rules for a service are the newer ones with no region and no environment. -/
theorem legacy_selectorRules {R : PortRule} (hw : R.weight = "") (S : Service) (svcName : String) :
    LegacyVersion.selectorRules R S svcName = selectorRules R S svcName "" "" := by
  unfold LegacyVersion.selectorRules selectorRules
  simp only [hw]

/-- A rule that names no region and no environment reads no other environment. -/
theorem externalServices_nil {mf : MetadataFetcher} {regionName : String} {R : PortRule} (hr : R.region = "")
    (he : R.environment = "") : externalServices mf regionName R = [] := by
  simp [externalServices, hr, he]

section LocalExpansion

variable {mf : MetadataFetcher} {dmf : DrainVersion.MetadataFetcher} {lbMeta : LBMetadata} {svcs : List Service}

/-- On such rules the newer `processSelector` is the local expansion. -/
theorem newer_eq_localExpansion (hg : mf.getServices = .ok svcs)
    (hR : ∀ R ∈ lbMeta.portRules, R.selector ≠ "" → R.region = "" ∧ R.environment = "" ∧ R.weight = "") :
    processSelector mf isSelectorMatch lbMeta =
      .ok { lbMeta with portRules := lbMeta.portRules.flatMap (localExpansion isSelectorMatch svcs) } := by
  simp only [processSelector, hg, liftError, Except.mapError, ok_bind]
  congr 2
  refine List.flatMap_congr fun R hmem => ?_
  unfold localExpansion
  split
  · rfl
  · obtain ⟨hr, he, -⟩ := hR R hmem ‹_›
    simp [externalServices_nil hr he]

/-- On such rules the loop of the draining version fetches nothing by region, so it is the local expansion too. -/
theorem drain_eq_localExpansion (hg : dmf.getServices = .ok svcs)
    (hR : ∀ R ∈ lbMeta.portRules, R.selector ≠ "" → R.region = "" ∧ R.environment = "" ∧ R.weight = "") :
    DrainVersion.processSelector dmf isSelectorMatch lbMeta =
      .ok { lbMeta with portRules := lbMeta.portRules.flatMap (localExpansion isSelectorMatch svcs) } := by
  have hf : ∀ R ∈ lbMeta.portRules, R.selector ≠ "" → DrainVersion.regionFetch dmf R = .ok [] := fun R hmem hsel => by
    obtain ⟨hr, he, -⟩ := hR R hmem hsel
    simp [DrainVersion.regionFetch, hr, he]
  simp only [DrainVersion.processSelector, hg, liftError, Except.mapError, ok_bind,
    DrainSelectorAux.foldlM_processSelectorStep _ _ hf, List.nil_append, selectorExpansion]
  congr 2
  refine List.flatMap_congr fun R _ => ?_
  unfold localExpansion
  split <;> simp

/-- Without weights, the older `processSelector` is the local expansion. -/
theorem legacy_eq_localExpansion
    (hR : ∀ R ∈ lbMeta.portRules, R.selector ≠ "" → R.region = "" ∧ R.environment = "" ∧ R.weight = "") :
    LegacyVersion.processSelector (.ok svcs) isSelectorMatch lbMeta =
      .ok { lbMeta with portRules := lbMeta.portRules.flatMap (localExpansion isSelectorMatch svcs) } := by
  simp only [LegacyVersion.processSelector, liftError, Except.mapError, ok_bind]
  congr 2
  refine List.flatMap_congr fun R hmem => ?_
  unfold localExpansion
  split
  · rfl
  · exact List.flatMap_congr fun S _ => legacy_selectorRules (hR R hmem ‹_›).2.2 S _

end LocalExpansion

end VersionsAux

open VersionsAux

/-- On rules with a selector that name no region and no environment and carry no weight, and over fetchers that list the
same local services, the newer `processSelector`, that of the draining version and the older one return the same: the
same expansion over the local services, or the same error of `GetServices`. -/
theorem processSelector_versions_agree {mf : MetadataFetcher} {dmf : DrainVersion.MetadataFetcher}
    {isSelectorMatch : String → List (String × String) → Bool} {lbMeta : LBMetadata}
    (hs : dmf.getServices = mf.getServices)
    (hR : ∀ R ∈ lbMeta.portRules, R.selector ≠ "" → R.region = "" ∧ R.environment = "" ∧ R.weight = "") :
    processSelector mf isSelectorMatch lbMeta = DrainVersion.processSelector dmf isSelectorMatch lbMeta ∧
      processSelector mf isSelectorMatch lbMeta = LegacyVersion.processSelector mf.getServices isSelectorMatch lbMeta := by
  cases hg : mf.getServices with
  | error e =>
    refine ⟨?_, ?_⟩ <;>
      simp [processSelector, DrainVersion.processSelector, LegacyVersion.processSelector, hg, hs, liftError,
        Except.mapError]
  | ok svcs =>
    -- each version is the expansion over the local services alone
    rw [newer_eq_localExpansion hg hR, drain_eq_localExpansion (hs.trans hg) hR, legacy_eq_localExpansion hR]
    exact ⟨rfl, rfl⟩

/-- A fetcher of the draining version that lists what `RMetaFetcher` lists over the snapshot holding `stack/web`. -/
def webSnapshotFetcher : DrainVersion.MetadataFetcher :=
  ⟨(RMetaFetcher (snapshotClient [hostNetworkService] [])).getServices, fun _ => .ok [], fun _ _ => .ok []⟩

/-- A selector rule on port 80 for the services labelled `app=web` of the local environment, with no weight. -/
def localSelectorRule : PortRule :=
  { sourcePort := 80, protocol := "http", selector := "app=web", targetPort := 8080 }

theorem processSelector_versions_agree_local :
    (webSnapshotFetcher.getServices = (RMetaFetcher (snapshotClient [hostNetworkService] [])).getServices ∧
      ∀ R ∈ [localSelectorRule], R.selector ≠ "" → R.region = "" ∧ R.environment = "" ∧ R.weight = "") ∧
    processSelector (RMetaFetcher (snapshotClient [hostNetworkService] [])) (fun _ _ => true)
        { portRules := [localSelectorRule] } =
      DrainVersion.processSelector webSnapshotFetcher (fun _ _ => true) { portRules := [localSelectorRule] } ∧
    processSelector (RMetaFetcher (snapshotClient [hostNetworkService] [])) (fun _ _ => true)
        { portRules := [localSelectorRule] } =
      LegacyVersion.processSelector (RMetaFetcher (snapshotClient [hostNetworkService] [])).getServices (fun _ _ => true)
        { portRules := [localSelectorRule] } :=
  have hR : ∀ R ∈ [localSelectorRule], R.selector ≠ "" → R.region = "" ∧ R.environment = "" ∧ R.weight = "" :=
    fun R hR _ => by rw [List.mem_singleton.mp hR]; exact ⟨rfl, rfl, rfl⟩
  ⟨⟨rfl, hR⟩, processSelector_versions_agree rfl hR⟩

/-! ## The two builders -/

namespace VersionsAux

variable {olbc : LegacyVersion.LoadBalancerController} {nlbc : LoadBalancerController} {envUUID : String}

end VersionsAux

end RancherLb
