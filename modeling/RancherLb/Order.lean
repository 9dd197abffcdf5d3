import RancherLb.Resolution

/-!
# The order of the config: frontends by port, endpoints in sorted runs

`BuildConfigFromMetadata` sorts the frontends by port, and `getServiceEndpoints` sorts what it resolves by IP (as Go
compares strings) and port. The merge branch of the rule loop appends the endpoints of a later rule of the same key to the
backend's list as they come, so a backend's endpoints are sorted runs, one per surviving rule of its key in rule order,
and not one sorted list: the first rule's resolution, then each later rule's endpoints of new IPs (`laterRuns`).
`BuildState.KeyRuns` is that invariant of the loop.
-/

namespace RancherLb

open Go GoAux

/-- The order `sortSort` leaves endpoints in: no endpoint is `Less` than one before it. -/
def EndpointOrdered (a b : Endpoint) : Prop := Endpoint.less b a = false

instance endpointOrderedDecidable : DecidableRel EndpointOrdered :=
  fun a b => inferInstanceAs (Decidable (Endpoint.less b a = false))

/-- The order `sortSort` leaves a frontend's backends in: no backend is `Less` than one before it. -/
def BackendOrdered (a b : BackendService) : Prop := BackendService.less b a = false

instance backendOrderedDecidable : DecidableRel BackendOrdered :=
  fun a b => inferInstanceAs (Decidable (BackendService.less b a = false))

namespace OrderAux

/-- Two strings are ordered one way or the other, or equal. -/
theorem stringLess_cases (a b : String) : stringLess a b = true ∨ stringLess b a = true ∨ a = b := by
  cases h₁ : stringLess a b
  · cases h₂ : stringLess b a
    · exact .inr (.inr (stringLess_trichotomy h₁ h₂))
    · exact .inr (.inl rfl)
  · exact .inl rfl

theorem endpoint_less_asymm (a b : Endpoint) (h : Endpoint.less a b = true) : Endpoint.less b a = false := by
  simp only [Endpoint.less, Bool.or_eq_true, Bool.and_eq_true, decide_eq_true_eq] at h
  simp only [Endpoint.less, Bool.or_eq_false_iff, Bool.and_eq_false_iff, decide_eq_false_iff_not]
  rcases h with h | ⟨h, hp⟩
  · exact ⟨stringLess_asymm h, .inl fun e => by simp [e, stringLess_irrefl] at h⟩
  · rw [h]
    exact ⟨stringLess_irrefl _, .inr (by omega)⟩

/-- Below `a`, `c` is below `b` or `b` is below `a`: with asymmetry, the order `Less` is a strict weak order. -/
theorem endpoint_less_neg_trans (a b c : Endpoint) (h : Endpoint.less c a = true) :
    Endpoint.less c b = true ∨ Endpoint.less b a = true := by
  simp only [Endpoint.less, Bool.or_eq_true, Bool.and_eq_true, decide_eq_true_eq] at h ⊢
  rcases stringLess_cases c.ip b.ip with hcb | hbc | hcb
  · exact .inl (.inl hcb)
  · rcases h with h | ⟨h, -⟩
    · exact .inr (.inl (stringLess_trans hbc h))
    · exact .inr (.inl (h ▸ hbc))
  · rcases h with h | ⟨h, hp⟩
    · exact .inr (.inl (hcb ▸ h))
    · by_cases hlt : c.port < b.port
      · exact .inl (.inr ⟨hcb, hlt⟩)
      · exact .inr (.inr ⟨hcb.symm.trans h, by omega⟩)

/-- What `sortSort Endpoint.less` returns is ordered. -/
theorem sortSort_endpoints (eps : List Endpoint) : (sortSort Endpoint.less eps).Sorted EndpointOrdered :=
  sortSort_sorted endpoint_less_asymm endpoint_less_neg_trans eps

theorem frontend_less_asymm (a b : FrontendService) (h : a.less b = true) : b.less a = false := by
  simp only [FrontendService.less, decide_eq_true_eq, decide_eq_false_iff_not] at h ⊢
  omega

theorem frontend_less_neg_trans (a b c : FrontendService) (h : c.less a = true) : c.less b = true ∨ b.less a = true := by
  simp only [FrontendService.less, decide_eq_true_eq] at h ⊢
  omega

/-- What `sortSort FrontendService.less` returns is in ascending port order. -/
theorem sortSort_frontends (l : List FrontendService) :
    ((sortSort FrontendService.less l).map (·.port)).Sorted (· ≤ ·) :=
  List.Pairwise.map _ (fun a b (h : b.less a = false) => by simpa [FrontendService.less] using h)
    (sortSort_sorted frontend_less_asymm frontend_less_neg_trans l)

theorem backend_less_asymm (a b : BackendService) (h : a.less b = true) : b.less a = false := by
  simp only [BackendService.less, Bool.or_eq_true, Bool.and_eq_true, decide_eq_true_eq] at h
  simp only [BackendService.less, Bool.or_eq_false_iff, Bool.and_eq_false_iff, decide_eq_false_iff_not]
  rcases h with h | ⟨hp, h | ⟨hr, hu⟩⟩
  · exact ⟨by omega, .inl (by omega)⟩
  · exact ⟨by omega, .inr ⟨by omega, .inl (by omega)⟩⟩
  · exact ⟨by omega, .inr ⟨by omega, .inr (stringLess_asymm hu)⟩⟩

/-- The order of backends, by priority, comparator and UUID, is a strict weak order: below `a`, `c` is below `b` or `b`
is below `a`. -/
theorem backend_less_neg_trans (a b c : BackendService) (h : c.less a = true) : c.less b = true ∨ b.less a = true := by
  simp only [BackendService.less, Bool.or_eq_true, Bool.and_eq_true, decide_eq_true_eq] at h ⊢
  rcases lt_trichotomy c.priority b.priority with hp | hp | hp
  · exact .inl (.inl hp)
  · rcases lt_trichotomy c.ruleComparator.rank b.ruleComparator.rank with hr | hr | hr
    · exact .inl (.inr ⟨hp, .inl hr⟩)
    · rcases stringLess_cases c.uuid b.uuid with hu | hu | hu
      · exact .inl (.inr ⟨hp, .inr ⟨hr, hu⟩⟩)
      · refine .inr ?_
        rcases h with h | ⟨h, h' | ⟨h', hu'⟩⟩
        · exact .inl (by omega)
        · exact .inr ⟨by omega, .inl (by omega)⟩
        · exact .inr ⟨by omega, .inr ⟨by omega, stringLess_trans hu hu'⟩⟩
      · refine .inr ?_
        rcases h with h | ⟨h, h' | ⟨h', hu'⟩⟩
        · exact .inl (by omega)
        · exact .inr ⟨by omega, .inl (by omega)⟩
        · exact .inr ⟨by omega, .inr ⟨by omega, hu ▸ hu'⟩⟩
    · refine .inr ?_
      rcases h with h | ⟨h, h' | ⟨h', -⟩⟩
      · exact .inl (by omega)
      · exact .inr ⟨by omega, .inl (by omega)⟩
      · exact .inr ⟨by omega, .inl (by omega)⟩
  · exact .inr (.inl (by rcases h with h | ⟨h, -⟩ <;> omega))

/-- The weight is not part of the order. -/
theorem sorted_map_weight {eps : List Endpoint} (h : eps.Sorted EndpointOrdered) (w : String) :
    (eps.map fun ep => { ep with weight := w }).Sorted EndpointOrdered :=
  List.Pairwise.map _ (fun _ _ hab => hab) h

/-- The endpoints a merge adds are, in order, some of the endpoints merged, with the rule's weight. -/
theorem mergeEndpoints_sublist (m : List String) (w : String) (eps : List Endpoint) :
    List.Sublist (mergeEndpoints m w eps).2 (eps.map fun ep => { ep with weight := w }) := by
  induction eps generalizing m with
  | nil => exact List.Sublist.slnil
  | cons ep eps ih =>
    simp only [mergeEndpoints, List.map_cons]
    split
    · exact (ih m).cons _
    · exact (ih _).cons₂ _

variable {mf : MetadataFetcher} {drain : Bool} {targetPort : Int} {selfHostUUID localServicePreference : String}

/-- What `getServiceEndpoints` returns is ordered, for every kind of service. -/
theorem getServiceEndpoints_sorted {n : Nat} {svc : Service} {eps : List Endpoint}
    (h : getServiceEndpoints mf drain n svc targetPort selfHostUUID localServicePreference = .ok eps) :
    eps.Sorted EndpointOrdered := by
  cases n with
  | zero => cases h
  | succ n =>
    rw [ResolutionAux.getServiceEndpoints_succ] at h
    obtain ⟨eps', -, h⟩ := bind_eq_ok h
    rw [← Except.ok.inj h]
    exact sortSort_endpoints eps'

/-- Reordering an alias's links reorders its endpoints, when both orders resolve: the loop appends each link's endpoints
as they come. The kinds that read no link resolve to the same list. -/
theorem getServiceEndpoints_perm_links {n : Nat} {svc : Service} {links : List String} (hp : svc.links.Perm links)
    {eps₁ eps₂ : List Endpoint}
    (h₁ : getServiceEndpoints mf drain n svc targetPort selfHostUUID localServicePreference = .ok eps₁)
    (h₂ : getServiceEndpoints mf drain n { svc with links } targetPort selfHostUUID localServicePreference = .ok eps₂) :
    eps₁.Perm eps₂ := by
  cases n with
  | zero => cases h₁
  | succ n =>
    rw [ResolutionAux.getServiceEndpoints_succ] at h₁ h₂
    obtain ⟨r₁, hr₁, he₁⟩ := bind_eq_ok h₁
    obtain ⟨r₂, hr₂, he₂⟩ := bind_eq_ok h₂
    cases he₁
    cases he₂
    refine ((sortSort_perm _ _).trans ?_).trans (sortSort_perm _ _).symm
    dsimp only at hr₂
    by_cases hx : equalFold svc.kind "externalService"
    · rw [if_pos hx] at hr₁ hr₂
      cases hr₁
      cases hr₂
      rfl
    · rw [if_neg hx] at hr₁ hr₂
      by_cases hd : equalFold svc.kind "dnsService"
      · rw [if_pos hd] at hr₁ hr₂
        exact ResolutionAux.foldlM_aliasStep_perm hp hr₁ hr₂
      · rw [if_neg hd] at hr₁ hr₂
        cases hr₁
        cases hr₂
        rfl

/-- The order `Less` puts on the (IP, port) keys of endpoints: no key below one before it. -/
def KeyOrdered (a b : String × Int) : Prop := (stringLess b.1 a.1 || (b.1 = a.1 && b.2 < a.2)) = false

/-- Read on keys, the order is antisymmetric: two keys each ordered before the other are equal. -/
theorem keyOrdered_antisymm (a b : String × Int) (h₁ : KeyOrdered a b) (h₂ : KeyOrdered b a) : a = b := by
  obtain ⟨ip₁, p₁⟩ := a
  obtain ⟨ip₂, p₂⟩ := b
  simp only [KeyOrdered, Bool.or_eq_false_iff, Bool.and_eq_false_iff, decide_eq_false_iff_not] at h₁ h₂
  rcases stringLess_cases ip₁ ip₂ with h | h | rfl
  · exact absurd h (by rw [h₂.1]; decide)
  · exact absurd h (by rw [h₁.1]; decide)
  · have h₁₂ := h₁.2.resolve_left (not_not.mpr rfl)
    have h₂₁ := h₂.2.resolve_left (not_not.mpr rfl)
    rw [show p₁ = p₂ by omega]

instance keyOrderedAntisymm : IsAntisymm (String × Int) KeyOrdered := ⟨keyOrdered_antisymm⟩

/-- An ordered list of endpoints has ordered keys. -/
theorem sorted_map_key {eps : List Endpoint} (h : eps.Sorted EndpointOrdered) :
    (eps.map fun ep => (ep.ip, ep.port)).Sorted KeyOrdered :=
  List.Pairwise.map _ (fun _ _ hab => hab) h

variable {lbc : LoadBalancerController} {fuel : Nat} {envUUID : String}

/-- What a rule resolves to is ordered: the endpoints of its service, or its container's one endpoint. -/
theorem resolveRule_sorted {rule : PortRule} {eps : List Endpoint} {hc : HealthCheck}
    (h : resolveRule lbc drain fuel envUUID selfHostUUID localServicePreference rule = .ok (some (eps, hc))) :
    eps.Sorted EndpointOrdered := by
  unfold resolveRule at h
  split at h
  · obtain ⟨o, -, h⟩ := bind_eq_ok h
    rcases o with _ | svc
    · cases h
    · dsimp only at h
      split at h
      · cases h
      · obtain ⟨eps', h₁, h⟩ := bind_eq_ok h
        cases h
        exact getServiceEndpoints_sorted h₁
  · obtain ⟨o, -, h⟩ := bind_eq_ok h
    rcases o with _ | c
    · cases h
    · dsimp only at h
      split at h
      · cases h
      · cases h
        exact List.sorted_singleton _

end OrderAux

/-- The runs the later rules `xs` of one key add to its backend after the IPs `ips` it holds: each rule adds the endpoints
of its resolution whose IP is new, with its weight, and the IPs grow by them. The IPs at the end, and the runs in rule
order. -/
def laterRuns (ips : List String) : List (PortRule × List Endpoint × HealthCheck) → List String × List (List Endpoint)
  | [] => (ips, [])
  | x :: xs =>
    ((laterRuns (mergeEndpoints ips x.1.weight x.2.1).1 xs).1,
      (mergeEndpoints ips x.1.weight x.2.1).2 :: (laterRuns (mergeEndpoints ips x.1.weight x.2.1).1 xs).2)

/-- Every backend holds, in rule order, the resolution of the first rule of its key among the resolved rules `L` with that
rule's weight, then the runs of the later rules of its key; the key's IP set is the one those runs leave. -/
def BuildState.KeyRuns (st : BuildState) (L : List (PortRule × List Endpoint × HealthCheck)) : Prop :=
  ∀ k b, st.allBe k = some b → ∃ x xs, L.filter (fun y => y.1.key = k) = x :: xs ∧
    b.endpoints = x.2.1.map (fun ep => { ep with weight := x.1.weight }) ++ (laterRuns (x.2.1.map (·.ip)) xs).2.flatten ∧
    st.allEps k = (laterRuns (x.2.1.map (·.ip)) xs).1

namespace OrderAux

open BuildAux MergeAux

/-- A later rule adds its run last. -/
theorem laterRuns_append (ips : List String) (xs : List (PortRule × List Endpoint × HealthCheck))
    (y : PortRule × List Endpoint × HealthCheck) :
    laterRuns ips (xs ++ [y]) = ((mergeEndpoints (laterRuns ips xs).1 y.1.weight y.2.1).1,
      (laterRuns ips xs).2 ++ [(mergeEndpoints (laterRuns ips xs).1 y.1.weight y.2.1).2]) := by
  induction xs generalizing ips with
  | nil => rfl
  | cons x xs ih => simp only [List.cons_append, laterRuns.eq_2, ih]

/-- Each later run is a part, in order, of its rule's resolution with that rule's weight. -/
theorem laterRuns_sublist : ∀ (ips : List String) (xs : List (PortRule × List Endpoint × HealthCheck)),
    ∀ run ∈ (laterRuns ips xs).2, ∃ y ∈ xs, run.Sublist (y.2.1.map fun ep => { ep with weight := y.1.weight })
  | _, [], _, h => absurd h (List.not_mem_nil _)
  | ips, x :: xs, run, h => by
    rcases List.mem_cons.mp h with rfl | h
    · exact ⟨x, List.mem_cons_self _ _, mergeEndpoints_sublist _ _ _⟩
    · obtain ⟨y, hy, hs⟩ := laterRuns_sublist _ xs run h
      exact ⟨y, List.mem_cons_of_mem _ hy, hs⟩

variable {st : BuildState} {rule : PortRule} {eps : List Endpoint} {hc : HealthCheck}
  {L : List (PortRule × List Endpoint × HealthCheck)}

/-- A rule makes the backend of a new key from its resolution, merges its new IPs into the backend of a key it shares as
the key's last run, and leaves the other keys alone. -/
theorem KeyRuns.addRule (hs : st.KeyRuns L) (ht : st.Tracks L) :
    (st.addRule rule eps hc).KeyRuns (L ++ [(rule, eps, hc)]) := by
  intro k b hb
  rw [List.filter_append]
  rcases addRule_allBe_cases hb with ⟨rfl, hnone, rfl, hE⟩ | ⟨rfl, b₀, hb₀, rfl, hE⟩ | ⟨hk, hb, hE⟩
  · -- no rule of the key came before
    have h0 : L.filter (fun y => y.1.key = rule.key) = [] := List.filter_eq_nil_iff.mpr fun x hx hkey => by
      obtain ⟨b, hb, -⟩ := ht.covers x hx
      rw [of_decide_eq_true hkey, hnone] at hb
      cases hb
    exact ⟨(rule, eps, hc), [], by simp [h0], by simp [newBackend, laterRuns], hE⟩
  · obtain ⟨x, xs, hL, he, hips⟩ := hs _ b₀ hb₀
    refine ⟨x, xs ++ [(rule, eps, hc)], by simp [hL], ?_, ?_⟩
    · simp [he, laterRuns_append, hips]
    · rw [hE, laterRuns_append, hips]
  · obtain ⟨x, xs, hL, he, hips⟩ := hs k b hb
    exact ⟨x, xs, by simp [hL, Ne.symm hk], he, hE.trans hips⟩

/-- Adding resolved rules keeps every backend made of the runs of the rules of its key. -/
theorem keyRuns_addAll (L : List (PortRule × List Endpoint × HealthCheck)) (hL : ∀ x ∈ L, 1 ≤ x.1.sourcePort) :
    ∀ (st : BuildState) (L₀ : List (PortRule × List Endpoint × HealthCheck)), st.Inv → st.Tracks L₀ →
      st.KeyRuns L₀ → (st.addAll L).KeyRuns (L₀ ++ L) := by
  induction L with
  | nil => intro st L₀ _ _ hs; simpa using hs
  | cons x L ih =>
    intro st L₀ hi ht hs
    obtain ⟨rule, eps, hc⟩ := x
    have hx : 1 ≤ rule.sourcePort := hL _ (List.mem_cons_self _ _)
    simpa using ih (fun y hy => hL y (List.mem_cons_of_mem _ hy)) _ _ (Inv.addRule hi hx) (Tracks.addRule ht hi hx)
      (KeyRuns.addRule hs ht)

/-- The frontends of the config are the same for every order in which a `range` over `frontendsMap` visits its entries:
no two entries have the same port, so the sort by port leaves nothing to the order of its input. -/
theorem frontends_of_perm {st : BuildState} (hi : st.Inv) {l : List (String × Frontend)} (hl : l.Perm st.frontendsMap) :
    sortSort FrontendService.less (l.map fun e => st.readFrontend e.2) = st.frontends := by
  refine sortSort_eq_of_perm frontend_less_asymm frontend_less_neg_trans (hl.map _) ?_
  simp only [List.mem_map]
  rintro _ ⟨e₁, he₁, rfl⟩ _ ⟨e₂, he₂, rfl⟩ h₁ h₂
  have hport : e₁.2.port = e₂.2.port := by
    simp only [FrontendService.less, BuildState.readFrontend, decide_eq_false_iff_not] at h₁ h₂
    omega
  have hname : e₁.1 = e₂.1 := by
    rw [(hi.names _ (hl.subset he₁)).1, (hi.names _ (hl.subset he₂)).1, hport]
  rw [List.inj_on_of_nodup_map hi.nodupNames (hl.subset he₁) (hl.subset he₂) hname]

end OrderAux

open ConfigAux BuildAux OrderAux

section Build

variable {lbc : LoadBalancerController} {drain : Bool} {fuel : Nat}
  {lbName envUUID selfHostUUID localServicePreference : String} {lbMeta : Option LBMetadata} {cfg : LoadBalancerConfig}

/-- The order of a config over the resolved rules `L`: the frontends in ascending port order; the endpoints of each
backend, in rule order, the resolution of the first rule of `L` with the backend's key, with that rule's weight, then the
run of each later rule of the key, its endpoints of IPs the backend did not have; and every run ordered by (IP, port). -/
def OrderedByRuns (L : List (PortRule × List Endpoint × HealthCheck)) (cfg : LoadBalancerConfig) : Prop :=
  (cfg.frontendServices.map (·.port)).Sorted (· < ·) ∧
  ∀ F ∈ cfg.frontendServices, ∀ B ∈ F.backendServices, ∃ x xs,
    L.filter (fun y => y.1.key = pathUUID F.port B.host B.path) = x :: xs ∧
    B.endpoints = x.2.1.map (fun ep => { ep with weight := x.1.weight }) ++ (laterRuns (x.2.1.map (·.ip)) xs).2.flatten ∧
    ∀ run ∈ x.2.1.map (fun ep => { ep with weight := x.1.weight }) :: (laterRuns (x.2.1.map (·.ip)) xs).2,
      run.Sorted EndpointOrdered

/-- The config is ordered over the surviving rules: the first rule of a key gives its backend its sorted resolution, and
each later rule of the key appends the sorted run of its new IPs. -/
theorem buildConfigFromMetadata_sorted_runs
    (h : buildConfigFromMetadata lbc drain fuel lbName envUUID selfHostUUID localServicePreference lbMeta = .ok [cfg]) :
    OrderedByRuns (survivors lbc drain fuel envUUID selfHostUUID localServicePreference (lbMeta.getD {}).portRules) cfg := by
  obtain ⟨st, hi, -, hf, hS, rfl⟩ := buildConfigFromMetadata_state h
  have hsorted : ∀ x ∈ survivors lbc drain fuel envUUID selfHostUUID localServicePreference (lbMeta.getD {}).portRules,
      x.2.1.Sorted EndpointOrdered := fun x hx => resolveRule_sorted (mem_survivors.mp hx).2.2
  have hkr := keyRuns_addAll _ hS _ [] inv_empty tracks_empty (fun _ _ hb => by simp [BuildState.empty] at hb)
  rw [OrderedByRuns, hf]
  refine ⟨(sortSort_frontends _).lt_of_le (frontends_ports_nodup hi), fun F hF B hB => ?_⟩
  obtain ⟨e, he, rfl⟩ := mem_frontends.mp hF
  obtain ⟨k, hk, hB⟩ := mem_readFrontend.mp hB
  obtain ⟨x, xs, hL, hE, -⟩ := hkr k B hB
  rw [List.nil_append, listed_key hi he hk hB] at hL
  -- every run is a part of a sorted resolution, with its rule's weight
  have hmem : ∀ y ∈ x :: xs, y.2.1.Sorted EndpointOrdered := fun y hy =>
    hsorted y (List.mem_of_mem_filter (hL ▸ hy))
  refine ⟨x, xs, hL, hE, fun run hrun => ?_⟩
  rcases List.mem_cons.mp hrun with rfl | hrun
  · exact sorted_map_weight (hmem x (List.mem_cons_self _ _)) _
  · obtain ⟨y, hy, hsub⟩ := laterRuns_sublist _ xs run hrun
    exact (sorted_map_weight (hmem y (List.mem_cons_of_mem _ hy)) _).sublist hsub

/-- Whatever order an alias's links are in, it resolves, when it does, to the same endpoints with the same (IP, port) keys
in the same order: two orders can only swap endpoints of one IP and port, such as a CNAME endpoint and an IP endpoint. -/
theorem getServiceEndpoints_links_order {mf : MetadataFetcher} {targetPort : Int} {n : Nat} {svc : Service}
    {links : List String} (hp : svc.links.Perm links) {eps₁ eps₂ : List Endpoint}
    (h₁ : getServiceEndpoints mf drain n svc targetPort selfHostUUID localServicePreference = .ok eps₁)
    (h₂ : getServiceEndpoints mf drain n { svc with links } targetPort selfHostUUID localServicePreference = .ok eps₂) :
    eps₁.Perm eps₂ ∧ eps₁.map (fun ep => (ep.ip, ep.port)) = eps₂.map (fun ep => (ep.ip, ep.port)) :=
  have hperm := getServiceEndpoints_perm_links hp h₁ h₂
  ⟨hperm, List.eq_of_perm_of_sorted (hperm.map _) (sorted_map_key (getServiceEndpoints_sorted h₁))
    (sorted_map_key (getServiceEndpoints_sorted h₂))⟩

theorem getServiceEndpoints_links_order_both :
    (["stack/cname", "stack/ext"].Perm ["stack/ext", "stack/cname"] ∧
      getServiceEndpoints (snapshotLbc [cnameService, externalIpService] []).metaFetcher false 2
          (bothAlias ["stack/cname", "stack/ext"]) 0 "" "any" = .ok [cnameEndpoint, externalIpEndpoint] ∧
      getServiceEndpoints (snapshotLbc [cnameService, externalIpService] []).metaFetcher false 2
          { bothAlias ["stack/cname", "stack/ext"] with links := ["stack/ext", "stack/cname"] } 0 "" "any" =
        .ok [externalIpEndpoint, cnameEndpoint]) ∧
    [cnameEndpoint, externalIpEndpoint].Perm [externalIpEndpoint, cnameEndpoint] ∧
      [cnameEndpoint, externalIpEndpoint].map (fun ep => (ep.ip, ep.port)) =
        [externalIpEndpoint, cnameEndpoint].map (fun ep => (ep.ip, ep.port)) :=
  have hp : ["stack/cname", "stack/ext"].Perm ["stack/ext", "stack/cname"] := List.Perm.swap _ _ []
  have h₁ : getServiceEndpoints (snapshotLbc [cnameService, externalIpService] []).metaFetcher false 2
      (bothAlias ["stack/cname", "stack/ext"]) 0 "" "any" = .ok [cnameEndpoint, externalIpEndpoint] := rfl
  have h₂ : getServiceEndpoints (snapshotLbc [cnameService, externalIpService] []).metaFetcher false 2
      { bothAlias ["stack/cname", "stack/ext"] with links := ["stack/ext", "stack/cname"] } 0 "" "any" =
        .ok [externalIpEndpoint, cnameEndpoint] := rfl
  ⟨⟨hp, h₁, h₂⟩, getServiceEndpoints_links_order hp h₁ h₂⟩

/-- A running service `stack/db` with one container, at `10.0.0.1`. -/
def dbService : Service :=
  { name := "db", stackName := "stack", state := "active",
    containers := [{ name := "db-1", primaryIp := "10.0.0.1", state := "running" }] }

/-- Two rules on port 80, for `stack/web` (at `10.0.0.5`) and then `stack/db` (at `10.0.0.1`): one key, `80__`. -/
def mergeRules : List PortRule :=
  [{ sourcePort := 80, protocol := "http", service := "stack/web" },
   { sourcePort := 80, protocol := "http", service := "stack/db" }]

/-- What the builder returns for them: the endpoint of `stack/db` merges after those of `stack/web`. -/
def mergeConfig : LoadBalancerConfig :=
  { name := "lb", frontendServices := [{ name := "80", port := 80, protocol := "http", backendServices :=
      [{ uuid := "80_", protocol := "http",
         endpoints := [hostNetworkEndpoint, hostNetworkEndpoint, singleContainerEndpoint] }] }] }

theorem buildConfigFromMetadata_sorted_runs_merge :
    buildConfigFromMetadata (snapshotLbc [hostNetworkService, dbService] []) false 1 "lb" "" "" "any"
        (some { portRules := mergeRules }) = .ok [mergeConfig] ∧
      OrderedByRuns (survivors (snapshotLbc [hostNetworkService, dbService] []) false 1 "" "" "any" mergeRules)
        mergeConfig := by
  have h : buildConfigFromMetadata (snapshotLbc [hostNetworkService, dbService] []) false 1 "lb" "" "" "any"
      (some { portRules := mergeRules }) = .ok [mergeConfig] := rfl
  exact ⟨h, buildConfigFromMetadata_sorted_runs h⟩

/-- The backend of the two rules is not sorted: `10.0.0.1` comes after `10.0.0.5`. -/
theorem buildConfigFromMetadata_merge_unsorted :
    buildConfigFromMetadata (snapshotLbc [hostNetworkService, dbService] []) false 1 "lb" "" "" "any"
        (some { portRules := mergeRules }) = .ok [mergeConfig] ∧
      ¬ ∀ F ∈ mergeConfig.frontendServices, ∀ B ∈ F.backendServices, B.endpoints.Sorted EndpointOrdered :=
  ⟨rfl, by decide⟩

/-- Whatever order the `range` over `frontendsMap` visits the loop's frontends in, the config's frontends are those of
that order, sorted: the config does not depend on the order of Go's map iteration. -/
theorem buildConfigFromMetadata_frontends_map_order
    (h : buildConfigFromMetadata lbc drain fuel lbName envUUID selfHostUUID localServicePreference lbMeta = .ok [cfg])
    {l : List (String × Frontend)}
    (hl : l.Perm (BuildState.empty.addAll
      (survivors lbc drain fuel envUUID selfHostUUID localServicePreference (lbMeta.getD {}).portRules)).frontendsMap) :
    cfg.frontendServices = sortSort FrontendService.less (l.map fun e => (BuildState.empty.addAll
      (survivors lbc drain fuel envUUID selfHostUUID localServicePreference (lbMeta.getD {}).portRules)).readFrontend e.2) := by
  obtain ⟨st, hi, -, hf, -, rfl⟩ := buildConfigFromMetadata_state h
  rw [hf, frontends_of_perm hi hl]

/-- Two rules for container `c`, on port 443 and then on port 80. -/
def twoPortRules : List PortRule :=
  [{ sourcePort := 443, protocol := "https", container := "c" }, { sourcePort := 80, protocol := "http", container := "c" }]

/-- What the builder returns for them: the frontend of port 80 first. -/
def twoPortConfig : LoadBalancerConfig :=
  { name := "lb", frontendServices :=
      [{ name := "80", port := 80, protocol := "http", backendServices :=
          [{ uuid := "80_", protocol := "http", endpoints := [singleContainerEndpoint] }] },
       { name := "443", port := 443, protocol := "https", backendServices :=
          [{ uuid := "443_", protocol := "https", endpoints := [singleContainerEndpoint] }] }] }

theorem buildConfigFromMetadata_frontends_map_order_reversed :
    (buildConfigFromMetadata singleContainerLbc false 1 "lb" "" "" "any" (some { portRules := twoPortRules }) =
        .ok [twoPortConfig] ∧
      (BuildState.empty.addAll (survivors singleContainerLbc false 1 "" "" "any" twoPortRules)).frontendsMap.reverse.Perm
        (BuildState.empty.addAll (survivors singleContainerLbc false 1 "" "" "any" twoPortRules)).frontendsMap) ∧
    twoPortConfig.frontendServices = sortSort FrontendService.less
      ((BuildState.empty.addAll (survivors singleContainerLbc false 1 "" "" "any" twoPortRules)).frontendsMap.reverse.map
        fun e => (BuildState.empty.addAll (survivors singleContainerLbc false 1 "" "" "any" twoPortRules)).readFrontend e.2) :=
  have h : buildConfigFromMetadata singleContainerLbc false 1 "lb" "" "" "any" (some { portRules := twoPortRules }) =
      .ok [twoPortConfig] := rfl
  ⟨⟨h, List.reverse_perm _⟩, buildConfigFromMetadata_frontends_map_order h (List.reverse_perm _)⟩

/-- Every frontend's backends are in the order of `Less`: by priority, then eq before beg before end, then by UUID. -/
theorem buildConfigFromMetadata_backends_ordered
    (h : buildConfigFromMetadata lbc drain fuel lbName envUUID selfHostUUID localServicePreference lbMeta = .ok [cfg]) :
    ∀ F ∈ cfg.frontendServices, F.backendServices.Sorted BackendOrdered := by
  obtain ⟨st, -, -, hf, -, -⟩ := buildConfigFromMetadata_state h
  intro F hF
  rw [hf] at hF
  obtain ⟨e, -, rfl⟩ := mem_frontends.mp hF
  exact sortSort_sorted backend_less_asymm backend_less_neg_trans _

end Build

end RancherLb
