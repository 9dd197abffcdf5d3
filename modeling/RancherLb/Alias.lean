import RancherLb.Locality

/-!
# What an alias resolves to

`getServiceEndpoints` follows the links of a DNS alias through the fetcher, then the links of every alias it finds
there, and gathers what the services that are not aliases give of their own: an external service its external IPs and
CNAME, a regular service the endpoints of its live containers. `Reaches` is that search as a relation, and
`ownEndpoints` what one service gives. When the recursion returns, its endpoints are exactly the own endpoints of the
services the alias reaches: none is lost on the way, and none comes from elsewhere. The order is the sort's, and no
service's state is looked at.

Traced back through the rule loop, this says where every endpoint of a config comes from. Under `only-local` it is the
endpoint of an external service or of a container on this host, reached from a rule's service through any chain of
aliases, or else the endpoint of the container a rule names: that branch drops the contingency flag, so such a rule
serves its container from any host.
-/

namespace RancherLb

open Go GoAux

/-- The services a service reaches through links: itself, and whatever the services its links name reach, when it is an
alias. -/
inductive Reaches (mf : MetadataFetcher) : Service → Service → Prop
  | refl (s : Service) : Reaches mf s s
  | link {s s' t : Service} : LinksTo mf s' s → Reaches mf s' t → Reaches mf s t

/-- The endpoints a service gives of its own, by its kind: an external service's and a regular service's; none for an
alias. -/
def ownEndpoints (drain : Bool) (svc : Service) (targetPort : Int) (selfHostUUID localServicePreference : String) :
    List Endpoint :=
  if equalFold svc.kind "externalService" then getExternalServiceEndpoints svc targetPort
  else if equalFold svc.kind "dnsService" then []
  else getRegularServiceEndpoints drain svc targetPort selfHostUUID localServicePreference

namespace AliasAux

variable {mf : MetadataFetcher} {drain : Bool} {targetPort : Int} {selfHostUUID localServicePreference : String}

/-- A service that is not an alias reaches only itself. -/
theorem reaches_of_not_alias {s t : Service}
    (hk : ¬ (equalFold s.kind "externalService" = false ∧ equalFold s.kind "dnsService" = true)) (h : Reaches mf s t) :
    t = s := by
  cases h with
  | refl => rfl
  | link hl _ => exact absurd ⟨hl.1, hl.2.1⟩ hk

/-- When every service found for a link resolves, what the link adds is what its service resolves to. -/
theorem mem_aliasPart {f : Service → Except Fault (List Endpoint)} {link : String}
    (hok : ∀ s, mf.getService link = .ok (some s) → ∃ r, f s = .ok r) {ep : Endpoint} :
    ep ∈ ResolutionAux.aliasPart mf f link ↔ ∃ s r, mf.getService link = .ok (some s) ∧ f s = .ok r ∧ ep ∈ r := by
  unfold ResolutionAux.aliasPart
  split
  · rename_i s hs
    obtain ⟨r, hr⟩ := hok s hs
    simp only [hr]
    constructor
    · exact fun h => ⟨s, r, hs, hr, h⟩
    · rintro ⟨s', r', hs', hr', h⟩
      rw [hs] at hs'
      cases hs'
      rw [hr] at hr'
      cases hr'
      exact h
  · rename_i hs
    simp only [List.not_mem_nil, false_iff, not_exists, not_and]
    exact fun s _ h => absurd h (hs s)

/-- A service that is not an alias reaches only itself, so its own endpoints are those of the services it reaches. -/
theorem mem_own_iff {s : Service} (hk : ¬ (equalFold s.kind "externalService" = false ∧
    equalFold s.kind "dnsService" = true)) {ep : Endpoint} :
    ep ∈ ownEndpoints drain s targetPort selfHostUUID localServicePreference ↔
      ∃ t, Reaches mf s t ∧ ep ∈ ownEndpoints drain t targetPort selfHostUUID localServicePreference :=
  ⟨fun h => ⟨s, .refl s, h⟩, fun ⟨_, ht, h⟩ => reaches_of_not_alias hk ht ▸ h⟩

/-- The recursion of `getServiceEndpoints`, service by service: an alias's endpoints are what its links resolve to one
level down, another service's are its own. -/
theorem mem_getServiceEndpoints :
    ∀ (n : Nat) (svc : Service) {eps : List Endpoint},
      getServiceEndpoints mf drain n svc targetPort selfHostUUID localServicePreference = .ok eps →
      ∀ ep, ep ∈ eps ↔ ∃ t, Reaches mf svc t ∧ ep ∈ ownEndpoints drain t targetPort selfHostUUID localServicePreference
  | 0, _, _, h => by cases h
  | n + 1, svc, eps, h => by
    have h₀ := h
    rw [ResolutionAux.getServiceEndpoints_succ] at h₀
    obtain ⟨eps', h', he⟩ := bind_eq_ok h₀
    cases he
    intro ep
    by_cases hk : equalFold svc.kind "externalService" = false ∧ equalFold svc.kind "dnsService" = true
    · -- an alias: link by link, each service found resolved one level down
      rw [if_neg (by simp [hk.1]), if_pos hk.2] at h'
      have hok := LocalityAux.foldlM_aliasStep_ok _ _ _ h'
      constructor
      · intro hep
        rw [mem_sortSort, ResolutionAux.foldlM_aliasStep_eq _ _ _ h', List.nil_append, List.mem_flatMap] at hep
        obtain ⟨link, hl, hep⟩ := hep
        obtain ⟨s, r, hs, hr, hep⟩ := (mem_aliasPart (hok link hl)).mp hep
        obtain ⟨t, ht, hep⟩ := (mem_getServiceEndpoints n s hr ep).mp hep
        exact ⟨t, .link ⟨hk.1, hk.2, link, hl, hs⟩ ht, hep⟩
      · rintro ⟨t, ht, hep⟩
        cases ht with
        | refl => simp [ownEndpoints, hk.1, hk.2] at hep
        | link hl ht =>
          obtain ⟨-, -, link, hlink, hs⟩ := hl
          obtain ⟨r, hr⟩ := hok link hlink _ hs
          exact getServiceEndpoints_alias_mem hk.1 hk.2 h hlink hs hr ep
            ((mem_getServiceEndpoints n _ hr ep).mpr ⟨t, ht, hep⟩)
    · -- an external or a regular service: its own endpoints
      rw [mem_sortSort, ← mem_own_iff hk]
      unfold ownEndpoints
      split at h'
      · rw [← Except.ok.inj h', if_pos ‹_›]
      · rename_i hx
        split at h'
        · exact absurd ⟨by simpa using hx, ‹_›⟩ hk
        · rw [← Except.ok.inj h', if_neg hx, if_neg ‹_›]


end AliasAux

open AliasAux

/-- When `getServiceEndpoints` returns, at any fuel, its endpoints are exactly the own endpoints of the services the
service reaches through links. -/
theorem getServiceEndpoints_reaches {mf : MetadataFetcher} {drain : Bool} {targetPort : Int}
    {selfHostUUID localServicePreference : String} :
    ∀ (n : Nat) (svc : Service) {eps : List Endpoint},
      getServiceEndpoints mf drain n svc targetPort selfHostUUID localServicePreference = .ok eps →
      ∀ ep, ep ∈ eps ↔ ∃ t, Reaches mf svc t ∧ ep ∈ ownEndpoints drain t targetPort selfHostUUID localServicePreference :=
  mem_getServiceEndpoints

/-- The alias `stack/alias` resolves to the endpoint of the deactivating service it links to, the one service it
reaches that gives endpoints of its own. -/
theorem getServiceEndpoints_reaches_alias :
    getServiceEndpoints (snapshotLbc [aliasService, deactivatingService] []).metaFetcher false 2 aliasService 0 "" "any" =
        .ok [{ name := hashIP "10.0.0.7", ip := "10.0.0.7" }] ∧
      ∀ ep, ep ∈ [({ name := hashIP "10.0.0.7", ip := "10.0.0.7" } : Endpoint)] ↔
        ∃ t, Reaches (snapshotLbc [aliasService, deactivatingService] []).metaFetcher aliasService t ∧
          ep ∈ ownEndpoints false t 0 "" "any" :=
  have h : getServiceEndpoints (snapshotLbc [aliasService, deactivatingService] []).metaFetcher false 2 aliasService 0 ""
      "any" = .ok [{ name := hashIP "10.0.0.7", ip := "10.0.0.7" }] := rfl
  ⟨h, getServiceEndpoints_reaches 2 aliasService h⟩

/-! ## What a config serves under `only-local` -/

namespace AliasAux

variable {lbc : LoadBalancerController} {drain : Bool} {fuel : Nat}
  {envUUID selfHostUUID localServicePreference : String}

/-- What a rule resolves to, when it resolves: the endpoints of the service its link names, or the endpoint of its live
container. -/
theorem resolveRule_cases {rule : PortRule} {eps : List Endpoint} {hc : HealthCheck}
    (h : resolveRule lbc drain fuel envUUID selfHostUUID localServicePreference rule = .ok (some (eps, hc))) :
    (rule.service ≠ "" ∧ ∃ svc, lbc.metaFetcher.getService rule.service = .ok (some svc) ∧
      getServiceEndpoints lbc.metaFetcher drain fuel svc rule.targetPort selfHostUUID localServicePreference = .ok eps) ∨
    (rule.service = "" ∧ ∃ c, lbc.metaFetcher.getContainer envUUID rule.container = .ok (some c) ∧
      IsLive drain c = true ∧ eps = [containerEndpoint drain c rule.targetPort]) := by
  unfold resolveRule at h
  split at h
  · rename_i hs
    obtain ⟨o, ho, h⟩ := bind_eq_ok h
    rcases o with _ | svc
    · cases h
    · dsimp only at h
      split at h
      · cases h
      · obtain ⟨eps', h₁, h⟩ := bind_eq_ok h
        cases h
        exact .inl ⟨hs, svc, ho, h₁⟩
  · rename_i hs
    obtain ⟨o, ho, h⟩ := bind_eq_ok h
    rcases o with _ | c
    · cases h
    · -- the flag of a contingency endpoint is not read
      dsimp only at h
      rw [LocalityAux.getContainerEndpoint_eq] at h
      cases hl : IsLive drain c
      · simp only [hl] at h
        cases h
      · simp only [hl, if_true] at h
        cases h
        exact .inr ⟨not_not.mp hs, c, ho, hl, rfl⟩

/-- Under `only-local` a service's own endpoints are an external service's, or those of its live containers on this
host. -/
theorem mem_ownEndpoints_only_local {t : Service} {targetPort : Int} {ep : Endpoint}
    (h : ep ∈ ownEndpoints drain t targetPort selfHostUUID "only-local") :
    (equalFold t.kind "externalService" = true ∧ ep ∈ getExternalServiceEndpoints t targetPort) ∨
      ∃ c ∈ t.containers, IsLive drain c = true ∧ equalFold c.hostUUID selfHostUUID = true ∧
        ep = containerEndpoint drain c targetPort := by
  unfold ownEndpoints at h
  split at h
  · exact .inl ⟨‹_›, h⟩
  · split at h
    · exact absurd h (List.not_mem_nil _)
    · rw [LocalityAux.getRegularServiceEndpoints_only_local] at h
      simp only [localEndpoints, List.mem_map, List.mem_filter] at h
      obtain ⟨c, ⟨⟨hc, hl⟩, hh⟩, rfl⟩ := h
      exact .inr ⟨c, hc, hl, hh, rfl⟩

end AliasAux

open BuildAux ConfigAux

/-- Under `only-local`, every endpoint of the config is, with its rule's weight, the endpoint of an external service or
of a live container on this host, of a service that the service of a rule reaches through its links, however many aliases
lie between; or else the endpoint of the live container a rule names, on whatever host that container runs: the
container branch does not read the contingency flag. -/
theorem buildConfigFromMetadata_only_local {lbc : LoadBalancerController} {drain : Bool} {fuel : Nat}
    {lbName envUUID selfHostUUID : String} {lbMeta : Option LBMetadata} {cfg : LoadBalancerConfig}
    (h : buildConfigFromMetadata lbc drain fuel lbName envUUID selfHostUUID "only-local" lbMeta = .ok [cfg]) :
    ∀ F ∈ cfg.frontendServices, ∀ B ∈ F.backendServices, ∀ ep ∈ B.endpoints, ∃ R ∈ (lbMeta.getD {}).portRules,
      (R.service ≠ "" ∧ ∃ svc t, lbc.metaFetcher.getService R.service = .ok (some svc) ∧ Reaches lbc.metaFetcher svc t ∧
        ((equalFold t.kind "externalService" = true ∧
            ∃ e ∈ getExternalServiceEndpoints t R.targetPort, ep = { e with weight := R.weight }) ∨
          ∃ c ∈ t.containers, IsLive drain c = true ∧ equalFold c.hostUUID selfHostUUID = true ∧
            ep = { containerEndpoint drain c R.targetPort with weight := R.weight })) ∨
      (R.service = "" ∧ ∃ c, lbc.metaFetcher.getContainer envUUID R.container = .ok (some c) ∧ IsLive drain c = true ∧
        ep = { containerEndpoint drain c R.targetPort with weight := R.weight }) := by
  obtain ⟨st, -, ht, hf, -, -⟩ := buildConfigFromMetadata_state h
  intro F hF B hB ep hep
  rw [hf] at hF
  obtain ⟨e, -, rfl⟩ := mem_frontends.mp hF
  obtain ⟨k, -, hB⟩ := mem_readFrontend.mp hB
  obtain ⟨⟨R, eps, hc⟩, hx, -, e', he', rfl⟩ := ht.sourced k B hB ep hep
  obtain ⟨hR, -, hres⟩ := mem_survivors.mp hx
  refine ⟨R, hR, ?_⟩
  rcases resolveRule_cases hres with ⟨hs, svc, hsvc, heps⟩ | ⟨hs, c, hc, hl, heps⟩
  · -- a service rule: an own endpoint of a service its links reach
    obtain ⟨t, hreach, hown⟩ := (mem_getServiceEndpoints fuel svc heps e').mp he'
    refine .inl ⟨hs, svc, t, hsvc, hreach, ?_⟩
    rcases mem_ownEndpoints_only_local hown with ⟨hk, hext⟩ | ⟨c, hc, hl, hh, rfl⟩
    · exact .inl ⟨hk, e', hext, rfl⟩
    · exact .inr ⟨c, hc, hl, hh, rfl⟩
  · -- a container rule: its container's endpoint
    rw [heps, List.mem_singleton] at he'
    exact .inr ⟨hs, c, hc, hl, by rw [he']⟩


/-- A service `stack/web` with a running container on host `h1`, at `10.0.0.5`, and one on host `h2`, at
`10.0.0.6`. -/
def splitHostService : Service :=
  { name := "web", stackName := "stack", state := "active",
    containers := [{ name := "web-1", primaryIp := "10.0.0.5", state := "running", hostUUID := "h1" },
      { name := "web-2", primaryIp := "10.0.0.6", state := "running", hostUUID := "h2" }] }

/-- The controller over a snapshot of that service and a running container `c` on host `h2`, at `10.0.0.1`. -/
def splitHostLbc : LoadBalancerController :=
  snapshotLbc [splitHostService] [{ name := "c", primaryIp := "10.0.0.1", state := "running", hostUUID := "h2" }]

/-- A rule on port 80 for `stack/web`, and one on port 81 for container `c`. -/
def splitHostRules : List PortRule :=
  [{ sourcePort := 80, protocol := "http", service := "stack/web" }, { sourcePort := 81, protocol := "http", container := "c" }]

/-- What the builder returns for them on host `h1` under `only-local`: port 80 serves only the container of `h1`,
port 81 the container of `h2`. -/
def splitHostConfig : LoadBalancerConfig :=
  { name := "lb", frontendServices :=
      [{ name := "80", port := 80, protocol := "http", backendServices :=
          [{ uuid := "80_", protocol := "http", endpoints := [{ name := hashIP "10.0.0.5", ip := "10.0.0.5" }] }] },
       { name := "81", port := 81, protocol := "http", backendServices :=
          [{ uuid := "81_", protocol := "http", endpoints := [{ name := hashIP "10.0.0.1", ip := "10.0.0.1" }] }] }] }

theorem buildConfigFromMetadata_only_local_remote :
    buildConfigFromMetadata splitHostLbc false 1 "lb" "" "h1" "only-local" (some { portRules := splitHostRules }) =
        .ok [splitHostConfig] ∧
      ∀ F ∈ splitHostConfig.frontendServices, ∀ B ∈ F.backendServices, ∀ ep ∈ B.endpoints, ∃ R ∈ splitHostRules,
        (R.service ≠ "" ∧ ∃ svc t, splitHostLbc.metaFetcher.getService R.service = .ok (some svc) ∧
          Reaches splitHostLbc.metaFetcher svc t ∧
          ((equalFold t.kind "externalService" = true ∧
              ∃ e ∈ getExternalServiceEndpoints t R.targetPort, ep = { e with weight := R.weight }) ∨
            ∃ c ∈ t.containers, IsLive false c = true ∧ equalFold c.hostUUID "h1" = true ∧
              ep = { containerEndpoint false c R.targetPort with weight := R.weight })) ∨
        (R.service = "" ∧ ∃ c, splitHostLbc.metaFetcher.getContainer "" R.container = .ok (some c) ∧
          IsLive false c = true ∧ ep = { containerEndpoint false c R.targetPort with weight := R.weight }) :=
  have h : buildConfigFromMetadata splitHostLbc false 1 "lb" "" "h1" "only-local" (some { portRules := splitHostRules }) =
      .ok [splitHostConfig] := rfl
  ⟨h, buildConfigFromMetadata_only_local h⟩

end RancherLb
