import RancherLb.Lookup

/-!
# The older `BuildConfigFromMetadata`

The older version of the builder (the second half of `rancher.go`) fetches certificates by the labels of the LB service
or one by one, looks a `stack/name` link up with `GetService(envUUID, name, stack)`, and resolves aliases in the alias's
own environment. Its rule loop is the loop of the newer version with no weights: `config.Endpoint` has none, and the
model's endpoints of the older version keep the weight `""`, which is what `BuildState.addRule` writes for a rule of
weight `""`. So the maps of the loop, and the invariants `BuildState.Inv` and `BuildState.Tracks`, carry over.

`GetService` of the older version never returns nil: when no service of the environment has the name and stack, it
returns a pointer to the zero service. The zero service's state is `""`, which `IsActiveService` takes for active, so the
builder does not skip a rule whose link names no service: the rule creates its frontend and an empty backend.
-/

namespace RancherLb

open Go GoAux

namespace LegacyVersion

/-- The methods of `MetadataFetcher` that the older builder calls: `GetService(envUUID, svcName, stackName)` and
`GetContainer(envUUID, containerName)`, each a pointer that may be nil. -/
structure MetadataFetcher where
  getService : String → String → String → Except Fault (Option Service)
  getContainer : String → String → Except Fault (Option Container)

/-- `RMetaFetcher.GetContainer` of the older version: the first container of the environment with the name asked for,
compared case-insensitively, or the zero container. -/
def RMetaFetcher.getContainer (containers : Except String (List Container)) (envUUID containerName : String) :
    Except Fault (Option Container) := do
  let cs ← liftError containers
  let found := cs.find? fun c => equalFold c.environmentUUID envUUID && equalFold c.name containerName
  pure (some (found.getD {}))

/-- The older `RMetaFetcher` over a metadata client. -/
def RMetaFetcher (c : MetadataClient) : LegacyVersion.MetadataFetcher where
  getService := LegacyVersion.RMetaFetcher.getService c.getServices
  getContainer := LegacyVersion.RMetaFetcher.getContainer c.getContainers

/-- The methods of `CertFetcher` the older builder calls; a certificate is a pointer that may be nil. -/
structure CertificateFetcher where
  fetchCertificate : String → Except String (Option Certificate)
  readDefaultCertificate : String → Except String (Option Certificate)
  readAllCertificatesFromDir : String → Except String (List (Option Certificate))

/-- The config the older builder returns: its certificates are pointers, and one fetched by name may be nil. -/
structure LoadBalancerConfig where
  name : String := ""
  frontendServices : List FrontendService := []
  certs : List (Option Certificate) := []
  defaultCert : Option Certificate := none
  stickinessPolicy : StickinessPolicy := {}
  deriving DecidableEq, Repr

/-- The provider, by `ProcessCustomConfig`. -/
structure LBProvider where
  processCustomConfig : LegacyVersion.LoadBalancerConfig → String → Except String Unit

/-- The collaborators of the older `LoadBalancerController` that its builder reads. -/
structure LoadBalancerController where
  metaFetcher : LegacyVersion.MetadataFetcher
  certFetcher : LegacyVersion.CertificateFetcher
  lbProvider : LegacyVersion.LBProvider

/-- One turn of the older alias loop: the link looked up in the alias's environment (a nil service is skipped), resolved
by `resolve` and appended. -/
def aliasStep (mf : LegacyVersion.MetadataFetcher) (envUUID : String) (resolve : Service → Except Fault (List Endpoint))
    (eps : List Endpoint) (link : String) : Except Fault (List Endpoint) := do
  match ← getServiceOfLink mf.getService envUUID link with
  | none => pure eps
  | some service => pure (eps ++ (← resolve service))

/-- The older `getAliasServiceEndpoints`: every link of the alias, in the order the `range` visits them. -/
def getAliasServiceEndpoints (mf : LegacyVersion.MetadataFetcher) (resolve : Service → Except Fault (List Endpoint))
    (svc : Service) : Except Fault (List Endpoint) :=
  svc.links.foldlM (aliasStep mf svc.environmentUUID resolve) []

/-- The older `getServiceEndpoints`: by the service's kind, then sorted. The older `getRegularServiceEndpoints` is the
newer one without draining: a container is live when running or starting. One unit of fuel per call. -/
def getServiceEndpoints (mf : LegacyVersion.MetadataFetcher) :
    Nat → Service → Int → String → String → Except Fault (List Endpoint)
  | 0, _, _, _, _ => .error .outOfFuel
  | fuel + 1, svc, targetPort, selfHostUUID, localServicePreference => do
    let eps ←
      if equalFold svc.kind "externalService" then pure (getExternalServiceEndpoints svc targetPort)
      else if equalFold svc.kind "dnsService" then
        getAliasServiceEndpoints mf
          (fun s => getServiceEndpoints mf fuel s targetPort selfHostUUID localServicePreference) svc
      else pure (getRegularServiceEndpoints false svc targetPort selfHostUUID localServicePreference)
    pure (sortSort Endpoint.less eps)

/-- What a rule resolves to in the older loop, or `none` when it `continue`s: the service of the rule's link, looked up in
the LB's environment, skipped when nil or inactive; or the rule's container, whose nil pointer panics in
`getContainerEndpoint`. -/
def resolveRule (lbc : LegacyVersion.LoadBalancerController) (fuel : Nat)
    (envUUID selfHostUUID localServicePreference : String) (rule : PortRule) :
    Except Fault (Option (List Endpoint × HealthCheck)) :=
  if rule.service ≠ "" then do
    match ← getServiceOfLink lbc.metaFetcher.getService envUUID rule.service with
    | none => pure none
    | some service =>
      if !isActiveService service then pure none
      else do
        let eps ← getServiceEndpoints lbc.metaFetcher fuel service rule.targetPort selfHostUUID localServicePreference
        pure (some (eps, service.healthCheck))
  else do
    match ← lbc.metaFetcher.getContainer envUUID rule.container with
    | none => .error (.panic "runtime error: invalid memory address or nil pointer dereference")
    | some container =>
      match getContainerEndpoint false container rule.targetPort selfHostUUID localServicePreference with
      | none => pure none
      | some (ep, _) => pure (some ([ep], container.healthCheck))

/-- The older loop's step on the maps: that of the newer loop for the rule with the weight `""`. -/
def addRule (st : BuildState) (rule : PortRule) (eps : List Endpoint) (hc : HealthCheck) : BuildState :=
  st.addRule { rule with weight := "" } eps hc

/-- One turn of the older rule loop: a rule on a source port below 1 is skipped, the others are resolved and added. -/
def processRule (lbc : LegacyVersion.LoadBalancerController) (fuel : Nat)
    (envUUID selfHostUUID localServicePreference : String) (st : BuildState) (rule : PortRule) :
    Except Fault BuildState :=
  if rule.sourcePort < 1 then pure st
  else do
    match ← resolveRule lbc fuel envUUID selfHostUUID localServicePreference rule with
    | none => pure st
    | some (eps, hc) => pure (addRule st rule eps hc)

/-- The certificates of the older builder and its default certificate. With the label `io.rancher.lb_service.cert_dir`
or `io.rancher.lb_service.default_cert_dir`, the default certificate is read from its directory and the others from
theirs; otherwise each certificate named by the LB metadata is fetched and appended (a nil one too), then the default
certificate, appended when not nil. -/
def certificates (cf : LegacyVersion.CertificateFetcher) (lbMeta : LBMetadata) (lbLabels : List (String × String)) :
    Except Fault (List (Option Certificate) × Option Certificate) :=
  let certDir := mapGet lbLabels "io.rancher.lb_service.cert_dir"
  let defaultCertDir := mapGet lbLabels "io.rancher.lb_service.default_cert_dir"
  if certDir.isSome || defaultCertDir.isSome then do
    let defaultCert ← match defaultCertDir with
      | some dir => liftError (cf.readDefaultCertificate dir)
      | none => pure none
    let certsFromDir ← match certDir with
      | some dir => liftError (cf.readAllCertificatesFromDir dir)
      | none => pure []
    pure ((defaultCert.map some).toList ++ certsFromDir, defaultCert)
  else do
    let certs ← lbMeta.certs.mapM fun certName => liftError (cf.fetchCertificate certName)
    let defaultCert ← liftError (cf.fetchCertificate lbMeta.defaultCert)
    pure (certs ++ (defaultCert.map some).toList, defaultCert)

/-- The older `BuildConfigFromMetadata`: the certificates, the rule loop, the frontends collected and sorted as in the
newer version, and `ProcessCustomConfig`; one config, in a list. `lbLabels` are the labels of the LB service. -/
def buildConfigFromMetadata (lbc : LegacyVersion.LoadBalancerController) (fuel : Nat)
    (lbName envUUID selfHostUUID localServicePreference : String) (lbMeta : Option LBMetadata)
    (lbLabels : List (String × String)) : Except Fault (List LegacyVersion.LoadBalancerConfig) := do
  let lbMeta := lbMeta.getD {}
  let (certs, defaultCert) ← certificates lbc.certFetcher lbMeta lbLabels
  let st ← lbMeta.portRules.foldlM (processRule lbc fuel envUUID selfHostUUID localServicePreference)
    BuildState.empty
  let lbConfig : LegacyVersion.LoadBalancerConfig :=
    { name := lbName, frontendServices := st.frontends, certs, defaultCert, stickinessPolicy := lbMeta.stickinessPolicy }
  liftError (lbc.lbProvider.processCustomConfig lbConfig lbMeta.config)
  pure [lbConfig]

/-! ## The loop as a fold -/

section Loop

variable (lbc : LegacyVersion.LoadBalancerController) (fuel : Nat) (envUUID selfHostUUID localServicePreference : String)

/-- The rules the older loop keeps, in order, with the weight `""` and what they resolved to. -/
def survivors (rules : List PortRule) : List (PortRule × List Endpoint × HealthCheck) :=
  rules.filterMap fun rule =>
    if rule.sourcePort < 1 then none
    else match resolveRule lbc fuel envUUID selfHostUUID localServicePreference rule with
      | .ok (some (eps, hc)) => some ({ rule with weight := "" }, eps, hc)
      | _ => none

variable {lbc fuel envUUID selfHostUUID localServicePreference}

/-- The older loop returned a state: it is the fold of `addRule` over the rules that survive. -/
theorem foldlM_processRule {rules : List PortRule} {st0 st : BuildState}
    (h : rules.foldlM (processRule lbc fuel envUUID selfHostUUID localServicePreference) st0 = .ok st) :
    st = st0.addAll (survivors lbc fuel envUUID selfHostUUID localServicePreference rules) := by
  induction rules generalizing st0 with
  | nil => exact (Except.ok.inj h).symm
  | cons r rs ih =>
    rw [List.foldlM_cons] at h
    obtain ⟨st1, h1, h2⟩ := bind_eq_ok h
    rw [ih h2]
    simp only [processRule] at h1
    simp only [survivors, List.filterMap_cons]
    split at h1
    · rename_i hp
      cases h1
      simp only [hp, if_true]
    · rename_i hp
      obtain ⟨o, hres, h1⟩ := bind_eq_ok h1
      simp only [hp, if_false, hres]
      rcases o with _ | ⟨eps, hc⟩ <;> cases h1 <;> rfl

/-- The older builder returned: its config holds the frontends of the fold over the surviving rules. -/
theorem buildConfigFromMetadata_state {lbName : String} {lbMeta : Option LBMetadata} {lbLabels : List (String × String)}
    {cfg : LegacyVersion.LoadBalancerConfig}
    (h : buildConfigFromMetadata lbc fuel lbName envUUID selfHostUUID localServicePreference lbMeta lbLabels =
      .ok [cfg]) :
    cfg.frontendServices = (BuildState.empty.addAll
      (survivors lbc fuel envUUID selfHostUUID localServicePreference (lbMeta.getD {}).portRules)).frontends := by
  simp only [buildConfigFromMetadata] at h
  obtain ⟨_, -, h⟩ := bind_eq_ok h
  obtain ⟨st, hst, h⟩ := bind_eq_ok h
  obtain ⟨_, -, h⟩ := bind_eq_ok h
  rw [← foldlM_processRule hst, ← List.singleton_inj.mp (Except.ok.inj h)]

end Loop

/-! ## A link that names no service -/

/-- The older lookup of a `stack/name` link that no service of the environment matches finds the zero service. -/
theorem getServiceOfLink_missing {svcs : List Service} {envUUID stack name : String} (hstack : '/' ∉ stack.data)
    (hmiss : ∀ s ∈ svcs, ¬ (equalFold s.environmentUUID envUUID = true ∧ equalFold s.name name = true ∧
      equalFold s.stackName stack = true)) :
    getServiceOfLink (LegacyVersion.RMetaFetcher.getService (.ok svcs)) envUUID (stack ++ "/" ++ name) =
      .ok (some {}) := by
  have hfind : svcs.find? (fun svc => equalFold svc.environmentUUID envUUID && equalFold svc.name name &&
      equalFold svc.stackName stack) = none :=
    List.find?_eq_none.mpr fun s hs => by simpa [Bool.and_eq_true, and_assoc] using hmiss s hs
  simp only [getServiceOfLink, show stack ++ "/" ++ name = stack ++ String.singleton '/' ++ name from rfl,
    splitN2_append_sep hstack]
  simp only [index, List.getElem?_cons_succ, List.getElem?_cons_zero, ok_bind, LegacyVersion.RMetaFetcher.getService,
    liftError, Except.mapError, hfind]
  rfl

/-- A rule whose `stack/name` link names no service of the LB's environment resolves, at every fuel, to no endpoints and
the zero health check: the zero service is active, of no kind, with no container. -/
theorem resolveRule_missing {c : MetadataClient} {svcs : List Service} (hc : c.getServices = .ok svcs)
    (cf : LegacyVersion.CertificateFetcher) (lp : LegacyVersion.LBProvider) (fuel : Nat)
    {envUUID selfHostUUID localServicePreference : String} {rule : PortRule} (stack name : String)
    (hlink : rule.service = stack ++ "/" ++ name) (hstack : '/' ∉ stack.data)
    (hmiss : ∀ s ∈ svcs, ¬ (equalFold s.environmentUUID envUUID = true ∧ equalFold s.name name = true ∧
      equalFold s.stackName stack = true)) :
    resolveRule ⟨RMetaFetcher c, cf, lp⟩ (fuel + 1) envUUID selfHostUUID localServicePreference rule =
      .ok (some ([], {})) := by
  have hne : rule.service ≠ "" := by
    rw [hlink]
    intro h
    simpa [show "/".length = 1 from rfl] using congrArg String.length h
  have hget : getServiceOfLink (RMetaFetcher c).getService envUUID rule.service = .ok (some {}) := by
    rw [hlink, show (RMetaFetcher c).getService = LegacyVersion.RMetaFetcher.getService c.getServices from rfl, hc]
    exact getServiceOfLink_missing hstack hmiss
  rw [resolveRule, if_pos hne]
  simp only [hget, ok_bind, show isActiveService {} = true by decide, Bool.not_true, Bool.false_eq_true, if_false,
    getServiceEndpoints, show equalFold "" "externalService" = false by decide,
    show equalFold "" "dnsService" = false by decide]
  simp [getRegularServiceEndpoints, sortSort]
  rfl

theorem sourcePort_of_mem_survivors {lbc : LegacyVersion.LoadBalancerController} {fuel : Nat}
    {envUUID selfHostUUID localServicePreference : String} {rules : List PortRule}
    {x : PortRule × List Endpoint × HealthCheck}
    (hx : x ∈ survivors lbc fuel envUUID selfHostUUID localServicePreference rules) : 1 ≤ x.1.sourcePort := by
  obtain ⟨r, -, h⟩ := List.mem_filterMap.mp hx
  split at h
  · cases h
  · rename_i hp
    split at h
    · cases h
      dsimp only
      omega
    · cases h

/-- For every snapshot, a rule on a port of at least 1 whose `stack/name` link names no service of the LB's environment
gets, in the config of the older builder, a frontend on its port with a backend of its key: the zero service that
`GetService` returns for it is not skipped. -/
theorem buildConfigFromMetadata_missing_service {c : MetadataClient} {svcs : List Service} (hc : c.getServices = .ok svcs)
    {cf : LegacyVersion.CertificateFetcher} {lp : LegacyVersion.LBProvider} {fuel : Nat}
    {lbName envUUID selfHostUUID localServicePreference : String} {lbMeta : Option LBMetadata}
    {lbLabels : List (String × String)} {cfg : LegacyVersion.LoadBalancerConfig}
    (h : buildConfigFromMetadata ⟨RMetaFetcher c, cf, lp⟩ (fuel + 1) lbName envUUID selfHostUUID localServicePreference
      lbMeta lbLabels = .ok [cfg])
    {R : PortRule} (hR : R ∈ (lbMeta.getD {}).portRules) (hp : 1 ≤ R.sourcePort) (stack name : String)
    (hlink : R.service = stack ++ "/" ++ name) (hstack : '/' ∉ stack.data)
    (hmiss : ∀ s ∈ svcs, ¬ (equalFold s.environmentUUID envUUID = true ∧ equalFold s.name name = true ∧
      equalFold s.stackName stack = true)) :
    ∃ F ∈ cfg.frontendServices, F.port = R.sourcePort ∧ ∃ B ∈ F.backendServices, pathUUID F.port B.host B.path = R.key := by
  have hx : ({ R with weight := "" }, [], {}) ∈ survivors ⟨RMetaFetcher c, cf, lp⟩ (fuel + 1) envUUID selfHostUUID
      localServicePreference (lbMeta.getD {}).portRules :=
    List.mem_filterMap.mpr ⟨R, hR, by
      simp only [show ¬ R.sourcePort < 1 by omega, if_false,
        resolveRule_missing hc cf lp fuel stack name hlink hstack hmiss]⟩
  have hL : ∀ x ∈ survivors ⟨RMetaFetcher c, cf, lp⟩ (fuel + 1) envUUID selfHostUUID localServicePreference
      (lbMeta.getD {}).portRules, 1 ≤ x.1.sourcePort := fun _ hx => sourcePort_of_mem_survivors hx
  obtain ⟨hi, ht⟩ := BuildAux.inv_addAll _ hL _ [] BuildAux.inv_empty BuildAux.tracks_empty
  obtain ⟨e, he, hport, k, hk, B, hB, hkey, -⟩ := ConfigAux.backend_of_added hi ht hL hx
  rw [buildConfigFromMetadata_state h]
  exact ⟨_, ConfigAux.mem_frontends.mpr ⟨e, he, rfl⟩, hport, B, ConfigAux.mem_readFrontend.mpr ⟨k, hk, hB⟩, hkey⟩

/-- The older controller over a snapshot of `services` and no container, with no certificate and a provider that takes
every config. -/
def legacySnapshotLbc (services : List Service) : LegacyVersion.LoadBalancerController :=
  ⟨RMetaFetcher (snapshotClient services []), ⟨fun _ => .ok none, fun _ => .ok none, fun _ => .ok []⟩,
    ⟨fun _ _ => .ok ()⟩⟩

/-- A rule on port 80 for `stack/missing`. -/
def missingRule : PortRule := { sourcePort := 80, protocol := "http", service := "stack/missing" }

/-- What the older builder returns for it in a snapshot with no service: a frontend on port 80 with an empty backend. -/
def missingConfig : LegacyVersion.LoadBalancerConfig :=
  { name := "lb", frontendServices := [{ name := "80", port := 80, protocol := "http", backendServices :=
      [{ uuid := "80_", protocol := "http" }] }] }

/-- In a snapshot with no service the rule for `stack/missing` gets a frontend and a backend, where the same rule for an
inactive `stack/missing` adds nothing. -/
theorem buildConfigFromMetadata_missing_service_empty :
    buildConfigFromMetadata (legacySnapshotLbc []) 1 "lb" "" "" "any" (some { portRules := [missingRule] }) [] =
        .ok [missingConfig] ∧
      (∃ F ∈ missingConfig.frontendServices, F.port = missingRule.sourcePort ∧
        ∃ B ∈ F.backendServices, pathUUID F.port B.host B.path = missingRule.key) ∧
      buildConfigFromMetadata (legacySnapshotLbc [{ name := "missing", stackName := "stack", state := "inactive" }]) 1
        "lb" "" "" "any" (some { portRules := [missingRule] }) [] = .ok [{ name := "lb" }] := by
  have h : buildConfigFromMetadata (legacySnapshotLbc []) 1 "lb" "" "" "any" (some { portRules := [missingRule] }) [] =
      .ok [missingConfig] := rfl
  exact ⟨h, buildConfigFromMetadata_missing_service rfl h (List.mem_singleton_self _) (by decide) "stack" "missing" rfl
    (by decide) (fun _ hs => absurd hs (List.not_mem_nil _)), rfl⟩

end LegacyVersion

end RancherLb
