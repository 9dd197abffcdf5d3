import RancherLb.Grouping

/-!
# The config: frontends by port, backends by key

What the config that `BuildConfigFromMetadata` returns holds, read off the loop's last state through `BuildState.Inv` and
`BuildState.Tracks`: one frontend per port of a surviving rule; in the frontend of a rule's port, the backend of the rule's
key with the rule's endpoints; every endpoint of a backend is one that a surviving rule of that key resolved.

The key is `pathUUID`, the port and the normalised hostname and path joined by `_`. The rule comparator is not part of it:
a rule `*foo.com` (comparator end) and a rule `foo.com` (comparator eq) on one port share the backend of the first, and the
second finds no backend of its own comparator. The UUID of a backend is its key with every run of non-alphanumerics
collapsed to one `_`, which maps the keys of the paths `""` and `"/"` to one UUID.
-/

namespace RancherLb

open Go

namespace ConfigAux

open BuildAux MapAux

variable {st : BuildState}

/-- A frontend of the config is read from an entry of `frontendsMap`. -/
theorem mem_frontends {F : FrontendService} : F ∈ st.frontends ↔ ∃ e ∈ st.frontendsMap, F = st.readFrontend e.2 := by
  simp only [BuildState.frontends, GoAux.mem_sortSort, List.mem_map]
  exact ⟨fun ⟨e, he, h⟩ => ⟨e, he, h.symm⟩, fun ⟨e, he, h⟩ => ⟨e, he, h.symm⟩⟩

/-- A backend of a frontend is the backend of one of its keys. -/
theorem mem_readFrontend {f : Frontend} {B : BackendService} :
    B ∈ (st.readFrontend f).backendServices ↔ ∃ k ∈ f.backendServices, st.allBe k = some B := by
  simp [BuildState.readFrontend]

/-- The ports of the frontends are those of the entries of `frontendsMap`, in some order. -/
theorem frontends_ports_perm : (st.frontends.map (·.port)).Perm (st.frontendsMap.map (·.2.port)) := by
  have h := (GoAux.sortSort_perm FrontendService.less (st.frontendsMap.map fun e => st.readFrontend e.2)).map (·.port)
  simpa [BuildState.frontends, BuildState.readFrontend, Function.comp_def] using h

/-- The frontends have distinct ports: the entries have distinct names, and a name is its port's numeral. -/
theorem frontends_ports_nodup (hi : st.Inv) : (st.frontends.map (·.port)).Nodup := by
  refine frontends_ports_perm.nodup_iff.mpr (List.Nodup.of_map itoa ?_)
  have : (st.frontendsMap.map (·.2.port)).map itoa = st.frontendsMap.map (·.1) := by
    simp only [List.map_map]
    exact List.map_congr_left fun e he => (hi.names e he).1.symm
  exact this ▸ hi.nodupNames

/-- A key listed by a frontend is the key of its backend on the frontend's port. -/
theorem listed_key (hi : st.Inv) {e : String × Frontend} (he : e ∈ st.frontendsMap) {k : String}
    (hk : k ∈ e.2.backendServices) {B : BackendService} (hB : st.allBe k = some B) :
    k = pathUUID e.2.port B.host B.path := by
  obtain ⟨b, hb, hkb⟩ := hi.refs e he k hk
  rw [hB] at hb
  cases hb
  exact hkb

/-- A rule whose key is listed by a frontend is on the frontend's port. -/
theorem port_of_key (hi : st.Inv) {e : String × Frontend} (he : e ∈ st.frontendsMap) {rule : PortRule}
    (hp : 1 ≤ rule.sourcePort) {h x : String} (hk : rule.key = pathUUID e.2.port h x) : rule.sourcePort = e.2.port :=
  pathUUID_port (by omega) (by have := (hi.names e he).2; omega) hk

/-- The backend of a rule added: listed by the frontend of the rule's port, with the rule's endpoint IPs. -/
theorem backend_of_added (hi : st.Inv) {L : List (PortRule × List Endpoint × HealthCheck)} (ht : st.Tracks L)
    (hL : ∀ x ∈ L, 1 ≤ x.1.sourcePort) {x : PortRule × List Endpoint × HealthCheck} (hx : x ∈ L) :
    ∃ e ∈ st.frontendsMap, e.2.port = x.1.sourcePort ∧ ∃ k ∈ e.2.backendServices, ∃ B, st.allBe k = some B ∧
      pathUUID e.2.port B.host B.path = x.1.key ∧ ∀ ep ∈ x.2.1, ep.ip ∈ B.endpoints.map (·.ip) := by
  obtain ⟨B, hB, hips⟩ := ht.covers x hx
  obtain ⟨e, he, hk⟩ := hi.owned _ _ hB
  have hkey := listed_key hi he hk hB
  exact ⟨e, he, (port_of_key hi he (hL x hx) hkey).symm, _, hk, B, hB, hkey.symm, hips⟩

/-- Reading the backends of keys that all name a backend, and taking their keys back, gives the keys. -/
theorem map_filterMap_allBe {keys : List String} {g : BackendService → String}
    (h : ∀ k ∈ keys, ∃ B, st.allBe k = some B ∧ g B = k) : (keys.filterMap st.allBe).map g = keys := by
  induction keys with
  | nil => rfl
  | cons k ks ih =>
    obtain ⟨B, hB, hg⟩ := h k (List.mem_cons_self _ _)
    simp [hB, hg, ih fun k hk => h k (List.mem_cons_of_mem _ hk)]

/-- The keys of a frontend's backends on its port are the keys it lists, in some order. -/
theorem keys_readFrontend (hi : st.Inv) {e : String × Frontend} (he : e ∈ st.frontendsMap) :
    ((st.readFrontend e.2).backendServices.map fun B => pathUUID e.2.port B.host B.path).Perm e.2.backendServices := by
  have hsort := (GoAux.sortSort_perm BackendService.less (e.2.backendServices.filterMap st.allBe)).map
    fun B => pathUUID e.2.port B.host B.path
  rwa [map_filterMap_allBe fun k hk => ?_] at hsort
  obtain ⟨B, hB, hkB⟩ := hi.refs e he k hk
  exact ⟨B, hB, hkB.symm⟩

/-- The keys of all backends of all frontends are distinct. -/
theorem frontends_keys_nodup (hi : st.Inv) :
    (st.frontends.flatMap fun F => F.backendServices.map fun B => pathUUID F.port B.host B.path).Nodup := by
  have hperm := (GoAux.sortSort_perm FrontendService.less (st.frontendsMap.map fun e => st.readFrontend e.2)).flatMap_right
    fun F => F.backendServices.map fun B => pathUUID F.port B.host B.path
  rw [List.flatMap_map] at hperm
  refine hperm.nodup_iff.mpr (List.nodup_flatMap.mpr ⟨fun e he => ?_, ?_⟩)
  · exact (keys_readFrontend hi he).nodup_iff.mpr (hi.nodupKeys e he)
  · refine (List.pairwise_map.mp hi.nodupNames).imp_of_mem fun {e₁ e₂} he₁ he₂ hne k hk₁ hk₂ => ?_
    exact hi.disjointKeys e₁ he₁ e₂ he₂ hne k ((keys_readFrontend hi he₁).mem_iff.mp hk₁)
      ((keys_readFrontend hi he₂).mem_iff.mp hk₂)

end ConfigAux

open ConfigAux BuildAux

section Build

variable {lbc : LoadBalancerController} {drain : Bool} {fuel : Nat}
  {lbName envUUID selfHostUUID localServicePreference : String} {lbMeta : Option LBMetadata} {cfg : LoadBalancerConfig}

/-- The config returned holds the frontends of a state that keeps both invariants over the surviving rules. -/
theorem buildConfigFromMetadata_state
    (h : buildConfigFromMetadata lbc drain fuel lbName envUUID selfHostUUID localServicePreference lbMeta = .ok [cfg]) :
    ∃ st : BuildState, st.Inv ∧
      st.Tracks (survivors lbc drain fuel envUUID selfHostUUID localServicePreference (lbMeta.getD {}).portRules) ∧
      cfg.frontendServices = st.frontends ∧
      (∀ x ∈ survivors lbc drain fuel envUUID selfHostUUID localServicePreference (lbMeta.getD {}).portRules,
        1 ≤ x.1.sourcePort) ∧
      st = BuildState.empty.addAll
        (survivors lbc drain fuel envUUID selfHostUUID localServicePreference (lbMeta.getD {}).portRules) := by
  obtain ⟨st, hst, cfg', hc, hf⟩ := buildConfigFromMetadata_ok h
  have hS : ∀ x ∈ survivors lbc drain fuel envUUID selfHostUUID localServicePreference (lbMeta.getD {}).portRules,
      1 ≤ x.1.sourcePort := fun x hx => (mem_survivors.mp hx).2.1
  obtain ⟨hi, ht⟩ := inv_addAll _ hS _ [] inv_empty tracks_empty
  rw [List.singleton_inj.mp hc, hf, foldlM_processRule hst]
  exact ⟨_, hi, ht, rfl, hS, rfl⟩

/-- Every endpoint of a backend of the config was resolved, with the rule's weight, for a surviving rule on the frontend's
port whose key is the backend's. -/
theorem buildConfigFromMetadata_endpoint_sourced
    (h : buildConfigFromMetadata lbc drain fuel lbName envUUID selfHostUUID localServicePreference lbMeta = .ok [cfg]) :
    ∀ F ∈ cfg.frontendServices, ∀ B ∈ F.backendServices, ∀ ep ∈ B.endpoints, ∃ R ∈ (lbMeta.getD {}).portRules,
      ∃ eps hc, Survives lbc drain fuel envUUID selfHostUUID localServicePreference R eps hc ∧ R.sourcePort = F.port ∧
        R.key = pathUUID F.port B.host B.path ∧ ∃ e ∈ eps, ep = { e with weight := R.weight } := by
  obtain ⟨st, hi, ht, hf, -, -⟩ := buildConfigFromMetadata_state h
  intro F hF B hB ep hep
  rw [hf] at hF
  obtain ⟨e, he, rfl⟩ := mem_frontends.mp hF
  obtain ⟨k, hk, hB⟩ := mem_readFrontend.mp hB
  obtain ⟨x, hx, hxk, e', he', rfl⟩ := ht.sourced k B hB ep hep
  have hkey : x.1.key = pathUUID e.2.port B.host B.path := hxk.trans (listed_key hi he hk hB)
  obtain ⟨hR, hs⟩ := mem_survivors.mp hx
  exact ⟨x.1, hR, x.2.1, x.2.2, hs, port_of_key hi he hs.1 hkey, hkey, e', he', rfl⟩

/-- A snapshot of the region `region1` that holds `services` and `containers`; a lookup by stack and name finds the
first service of that stack and name, in any environment, or the zero service. -/
def snapshotClient (services : List Service) (containers : List Container) : MetadataClient where
  getServices := .ok services
  getRegionName := .ok "region1"
  getServiceByName stack name := .ok ((services.find? fun s => s.stackName = stack && s.name = name).getD {})
  getServiceByEnvironment _ stack name := .ok ((services.find? fun s => s.stackName = stack && s.name = name).getD {})
  getServiceByRegionEnvironment _ _ stack name :=
    .ok ((services.find? fun s => s.stackName = stack && s.name = name).getD {})
  getServicesByEnvironment _ := .ok services
  getServicesByRegionEnvironment _ _ := .ok services
  getContainers := .ok containers

/-- The controller over a snapshot, with no certificates and a provider that takes every config. -/
def snapshotLbc (services : List Service) (containers : List Container) : LoadBalancerController :=
  ⟨RMetaFetcher (snapshotClient services containers), ⟨fun _ _ => .ok []⟩, ⟨fun _ _ => .ok ()⟩⟩

/-- The controller over a snapshot with one running container `c`, at `10.0.0.1`. -/
def singleContainerLbc : LoadBalancerController :=
  snapshotLbc [] [{ name := "c", primaryIp := "10.0.0.1", state := "running" }]

/-- The endpoint of container `c`. -/
def singleContainerEndpoint : Endpoint := { name := hashIP "10.0.0.1", ip := "10.0.0.1" }

/-- Every backend of the config has its own key, port, host and path joined by `_`, and is named by the key with every
run of non-alphanumerics replaced by `_`. -/
def NamedByDistinctKeys (cfg : LoadBalancerConfig) : Prop :=
  (cfg.frontendServices.flatMap fun F => F.backendServices.map fun B => pathUUID F.port B.host B.path).Nodup ∧
  ∀ F ∈ cfg.frontendServices, ∀ B ∈ F.backendServices, B.uuid = replaceNonAlnum (pathUUID F.port B.host B.path)

/-- With no rule setting `BackendName`, the backends of the config have distinct keys and are named by them. -/
theorem buildConfigFromMetadata_uuid_of_key
    (h : buildConfigFromMetadata lbc drain fuel lbName envUUID selfHostUUID localServicePreference lbMeta = .ok [cfg])
    (hn : ∀ R ∈ (lbMeta.getD {}).portRules, R.backendName = "") : NamedByDistinctKeys cfg := by
  obtain ⟨st, hi, ht, hf, -, -⟩ := buildConfigFromMetadata_state h
  rw [NamedByDistinctKeys, hf]
  refine ⟨frontends_keys_nodup hi, fun F hF B hB => ?_⟩
  obtain ⟨e, he, rfl⟩ := mem_frontends.mp hF
  obtain ⟨k, hk, hB⟩ := mem_readFrontend.mp hB
  obtain ⟨x, hx, hxk, hu⟩ := ht.named k B hB
  rw [hu, if_pos (hn x.1 (mem_survivors.mp hx).1)]
  exact congrArg replaceNonAlnum (listed_key hi he hk hB)

/-- Two rules on port 80 for container `c`, host `foo`, with the paths `""` and `"/"`. -/
def slashRules : List PortRule :=
  [{ sourcePort := 80, protocol := "http", hostname := "foo", container := "c" },
   { sourcePort := 80, protocol := "http", hostname := "foo", path := "/", container := "c" }]

/-- What the builder returns for them: the keys `80_foo_` and `80_foo_/`, both named `80_foo_`. -/
def slashConfig : LoadBalancerConfig :=
  { name := "lb", frontendServices := [{ name := "80", port := 80, protocol := "http", backendServices :=
      [{ uuid := "80_foo_", host := "foo", protocol := "http", endpoints := [singleContainerEndpoint] },
       { uuid := "80_foo_", host := "foo", path := "/", protocol := "http", endpoints := [singleContainerEndpoint] }] }] }

theorem buildConfigFromMetadata_uuid_of_key_slash :
    (buildConfigFromMetadata singleContainerLbc false 1 "lb" "" "" "any" (some { portRules := slashRules }) =
        .ok [slashConfig] ∧ ∀ R ∈ slashRules, R.backendName = "") ∧ NamedByDistinctKeys slashConfig := by
  have h : buildConfigFromMetadata singleContainerLbc false 1 "lb" "" "" "any" (some { portRules := slashRules }) =
      .ok [slashConfig] := rfl
  have hn : ∀ R ∈ slashRules, R.backendName = "" := by decide
  exact ⟨⟨h, hn⟩, buildConfigFromMetadata_uuid_of_key h hn⟩

/-- No rule sets `BackendName`, and two backends of the config have the same UUID. -/
theorem buildConfigFromMetadata_uuid_collision :
    buildConfigFromMetadata singleContainerLbc false 1 "lb" "" "" "any" (some { portRules := slashRules }) =
        .ok [slashConfig] ∧ (∀ R ∈ slashRules, R.backendName = "") ∧
      ¬ (slashConfig.frontendServices.flatMap fun F => F.backendServices.map (·.uuid)).Nodup :=
  ⟨rfl, by decide, by decide⟩

/-- A container `c` at `10.0.0.1` that is stopping. -/
def stoppingContainer : Container := { name := "c", primaryIp := "10.0.0.1", state := "stopping" }

/-- In the draining version, the endpoint of a stopping container has weight `"0"`, and the builder then gives it the
rule's weight `""`. -/
theorem buildConfigFromMetadata_stopping_weight :
    getContainerEndpoint true stoppingContainer 0 "" "any" = some ({ singleContainerEndpoint with weight := "0" }, false) ∧
      buildConfigFromMetadata (snapshotLbc [] [stoppingContainer]) true 1 "lb" "" "" "any"
          (some { portRules := [{ sourcePort := 80, protocol := "http", container := "c" }] }) =
        .ok [{ name := "lb", frontendServices := [{ name := "80", port := 80, protocol := "http", backendServices :=
          [{ uuid := "80_", protocol := "http", endpoints := [singleContainerEndpoint] }] }] }] :=
  ⟨rfl, rfl⟩

/-- Every endpoint of the config carries the weight of a surviving rule of its backend's key; the weight the resolver
gave it, such as the `"0"` of a stopping container under draining, is not kept. -/
theorem buildConfigFromMetadata_endpoint_weight
    (h : buildConfigFromMetadata lbc drain fuel lbName envUUID selfHostUUID localServicePreference lbMeta = .ok [cfg]) :
    ∀ F ∈ cfg.frontendServices, ∀ B ∈ F.backendServices, ∀ ep ∈ B.endpoints, ∃ R ∈ (lbMeta.getD {}).portRules,
      (∃ eps hc, Survives lbc drain fuel envUUID selfHostUUID localServicePreference R eps hc) ∧
        R.key = pathUUID F.port B.host B.path ∧ ep.weight = R.weight := by
  intro F hF B hB ep hep
  obtain ⟨R, hR, eps, hc, hs, -, hkey, e, -, rfl⟩ := buildConfigFromMetadata_endpoint_sourced h F hF B hB ep hep
  exact ⟨R, hR, ⟨eps, hc, hs⟩, hkey, rfl⟩

/-- A rule on port 80 for container `c`. -/
def containerRule : PortRule := { sourcePort := 80, protocol := "http", container := "c" }

/-- The config of rules on port 80 for container `c`, at `10.0.0.1`. -/
def containerConfig : LoadBalancerConfig :=
  { name := "lb", frontendServices := [{ name := "80", port := 80, protocol := "http", backendServices :=
      [{ uuid := "80_", protocol := "http", endpoints := [singleContainerEndpoint] }] }] }

theorem buildConfigFromMetadata_endpoint_weight_stopping :
    buildConfigFromMetadata (snapshotLbc [] [stoppingContainer]) true 1 "lb" "" "" "any"
        (some { portRules := [containerRule] }) = .ok [containerConfig] ∧
      ∀ F ∈ containerConfig.frontendServices, ∀ B ∈ F.backendServices, ∀ ep ∈ B.endpoints, ∃ R ∈ [containerRule],
        (∃ eps hc, Survives (snapshotLbc [] [stoppingContainer]) true 1 "" "" "any" R eps hc) ∧
          R.key = pathUUID F.port B.host B.path ∧ ep.weight = R.weight :=
  have h : buildConfigFromMetadata (snapshotLbc [] [stoppingContainer]) true 1 "lb" "" "" "any"
      (some { portRules := [containerRule] }) = .ok [containerConfig] := rfl
  ⟨h, buildConfigFromMetadata_endpoint_weight h⟩

/-- When every listed rule that survives resolves to endpoints of distinct IPs, every backend of the config has distinct
endpoint IPs: the merge skips the IPs a backend has, but a new backend takes its first rule's endpoints as they are. -/
theorem buildConfigFromMetadata_ips_nodup
    (h : buildConfigFromMetadata lbc drain fuel lbName envUUID selfHostUUID localServicePreference lbMeta = .ok [cfg])
    (hd : ∀ R ∈ (lbMeta.getD {}).portRules, ∀ eps hc,
      Survives lbc drain fuel envUUID selfHostUUID localServicePreference R eps hc → (eps.map (·.ip)).Nodup) :
    ∀ F ∈ cfg.frontendServices, ∀ B ∈ F.backendServices, (B.endpoints.map (·.ip)).Nodup := by
  obtain ⟨st, -, -, hf, hS, rfl⟩ := buildConfigFromMetadata_state h
  have hd' := distinctIps_addAll _ hS (fun x hx => hd _ (mem_survivors.mp hx).1 _ _ (mem_survivors.mp hx).2) _ []
    inv_empty tracks_empty (fun _ _ hb => by simp [BuildState.empty] at hb)
  intro F hF B hB
  rw [hf] at hF
  obtain ⟨e, -, rfl⟩ := mem_frontends.mp hF
  obtain ⟨k, -, hB⟩ := mem_readFrontend.mp hB
  exact hd' k B hB

/-- The rule for container `c` twice: the second finds the IP of `c` in the backend and adds nothing. -/
theorem buildConfigFromMetadata_ips_nodup_repeated :
    (buildConfigFromMetadata singleContainerLbc false 1 "lb" "" "" "any" (some { portRules := [containerRule, containerRule] }) =
        .ok [containerConfig] ∧
      ∀ R ∈ [containerRule, containerRule], ∀ eps hc,
        Survives singleContainerLbc false 1 "" "" "any" R eps hc → (eps.map (·.ip)).Nodup) ∧
    ∀ F ∈ containerConfig.frontendServices, ∀ B ∈ F.backendServices, (B.endpoints.map (·.ip)).Nodup := by
  have h : buildConfigFromMetadata singleContainerLbc false 1 "lb" "" "" "any"
      (some { portRules := [containerRule, containerRule] }) = .ok [containerConfig] := rfl
  have hd : ∀ R ∈ [containerRule, containerRule], ∀ eps hc,
      Survives singleContainerLbc false 1 "" "" "any" R eps hc → (eps.map (·.ip)).Nodup := by
    intro R hR eps hc hs
    rw [or_self_iff.mp (List.mem_pair.mp hR), Survives,
      show resolveRule singleContainerLbc false 1 "" "" "any" containerRule = .ok (some ([singleContainerEndpoint], {}))
        from rfl] at hs
    cases hs.2
    decide
  exact ⟨⟨h, hd⟩, buildConfigFromMetadata_ips_nodup h hd⟩

/-- A running service `stack/web` whose two containers share the IP `10.0.0.5`, as containers on the host's network do. -/
def hostNetworkService : Service :=
  { name := "web", stackName := "stack", state := "active",
    containers := [{ name := "web-1", primaryIp := "10.0.0.5", state := "running" },
      { name := "web-2", primaryIp := "10.0.0.5", state := "running" }] }

/-- The endpoint at `10.0.0.5`. -/
def hostNetworkEndpoint : Endpoint := { name := hashIP "10.0.0.5", ip := "10.0.0.5" }

/-- A rule for `stack/web` creates its backend with both endpoints, of one IP. -/
theorem buildConfigFromMetadata_repeated_ip :
    buildConfigFromMetadata (snapshotLbc [hostNetworkService] []) false 1 "lb" "" "" "any"
        (some { portRules := [{ sourcePort := 80, protocol := "http", service := "stack/web" }] }) =
      .ok [{ name := "lb", frontendServices := [{ name := "80", port := 80, protocol := "http", backendServices :=
        [{ uuid := "80_", protocol := "http", endpoints := [hostNetworkEndpoint, hostNetworkEndpoint] }] }] }] :=
  rfl

end Build

end RancherLb
