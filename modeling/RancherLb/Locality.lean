import RancherLb.Resolution

/-!
# Locality: the endpoints under `any`, `only-local` and `prefer-local`

`getRegularServiceEndpoints` sorts the live containers of a service into primary and contingency endpoints by the
locality preference: under `any` every live container is primary; otherwise the containers on this host are, and the
others are the contingency. `only-local` keeps the primaries, `prefer-local` falls back to the contingency when there is
no primary. Below, `anyEndpoints` and `localEndpoints` say what the two lists are in the words of the preference, and the
first results read the three preferences off them. An alias decides the fallback per linked service, inside the
recursion of `getServiceEndpoints`; the inclusion of the IPs holds service by service and is carried up the links.
-/

namespace RancherLb

open Go GoAux

/-- A container is live when it is running or starting, or, in the draining version, stopping. -/
def IsLive (drain : Bool) (c : Container) : Bool :=
  equalFold c.state "running" || equalFold c.state "starting" || (drain && equalFold c.state "stopping")

/-- The endpoint of a live container: its primary IP, hashed for the name, at the target port; weight `"0"` when it is
stopping. -/
def containerEndpoint (drain : Bool) (c : Container) (targetPort : Int) : Endpoint :=
  { name := hashIP c.primaryIp, ip := c.primaryIp, port := targetPort,
    weight := if drain && equalFold c.state "stopping" then "0" else "" }

/-- The endpoints of the live containers of a service, in container order. -/
def anyEndpoints (drain : Bool) (svc : Service) (targetPort : Int) : List Endpoint :=
  (svc.containers.filter (IsLive drain)).map (containerEndpoint drain · targetPort)

/-- The endpoints of the live containers on this host (its UUID compared case-insensitively), in container order. -/
def localEndpoints (drain : Bool) (svc : Service) (targetPort : Int) (selfHostUUID : String) : List Endpoint :=
  ((svc.containers.filter (IsLive drain)).filter fun c => equalFold c.hostUUID selfHostUUID).map
    (containerEndpoint drain · targetPort)

namespace LocalityAux

variable {drain : Bool} {targetPort : Int} {selfHostUUID localServicePreference : String}

/-- `getContainerEndpoint` gives the endpoint of a live container, flagged as contingency when it is not on this host
under a preference other than `any`. -/
theorem getContainerEndpoint_eq (c : Container) :
    getContainerEndpoint drain c targetPort selfHostUUID localServicePreference =
      if IsLive drain c then
        some (containerEndpoint drain c targetPort,
          localServicePreference != "any" && !equalFold c.hostUUID selfHostUUID)
      else none :=
  rfl

/-- The primary endpoints of the loop: the live containers not flagged. -/
theorem filterMap_primary (cs : List Container) :
    cs.filterMap (fun c => match getContainerEndpoint drain c targetPort selfHostUUID localServicePreference with
      | some (ep, false) => some ep
      | _ => none) =
    ((cs.filter (IsLive drain)).filter fun c => !(localServicePreference != "any" && !equalFold c.hostUUID selfHostUUID)).map
      (containerEndpoint drain · targetPort) := by
  induction cs with
  | nil => rfl
  | cons c cs ih =>
    rw [List.filterMap_cons, ih, getContainerEndpoint_eq]
    cases hl : IsLive drain c <;>
      cases hf : (localServicePreference != "any" && !equalFold c.hostUUID selfHostUUID) <;>
      simp only [List.filter_cons, hl, hf, if_true, if_false, Bool.not_false, Bool.not_true, Bool.false_eq_true,
        List.map_cons]

/-- The contingency endpoints of the loop: the live containers flagged. -/
theorem filterMap_contingency (cs : List Container) :
    cs.filterMap (fun c => match getContainerEndpoint drain c targetPort selfHostUUID localServicePreference with
      | some (ep, true) => some ep
      | _ => none) =
    ((cs.filter (IsLive drain)).filter fun c => localServicePreference != "any" && !equalFold c.hostUUID selfHostUUID).map
      (containerEndpoint drain · targetPort) := by
  induction cs with
  | nil => rfl
  | cons c cs ih =>
    rw [List.filterMap_cons, ih, getContainerEndpoint_eq]
    cases hl : IsLive drain c <;>
      cases hf : (localServicePreference != "any" && !equalFold c.hostUUID selfHostUUID) <;>
      simp only [List.filter_cons, hl, hf, if_true, if_false, Bool.not_false, Bool.not_true, Bool.false_eq_true,
        List.map_cons]

variable (drain) (targetPort) (selfHostUUID)

theorem getRegularServiceEndpoints_any (svc : Service) :
    getRegularServiceEndpoints drain svc targetPort selfHostUUID "any" = anyEndpoints drain svc targetPort := by
  simp only [getRegularServiceEndpoints]
  erw [filterMap_primary]
  simp [anyEndpoints]

theorem getRegularServiceEndpoints_only_local (svc : Service) :
    getRegularServiceEndpoints drain svc targetPort selfHostUUID "only-local" =
      localEndpoints drain svc targetPort selfHostUUID := by
  simp only [getRegularServiceEndpoints]
  erw [filterMap_primary]
  simp [localEndpoints]

/-- With no live container on this host, every live container is one of another host. -/
theorem filter_not_local {cs : List Container}
    (h : (cs.filter fun c => equalFold c.hostUUID selfHostUUID).map (containerEndpoint drain · targetPort) = []) :
    cs.filter (fun c => !equalFold c.hostUUID selfHostUUID) = cs := by
  rw [List.map_eq_nil_iff, List.filter_eq_nil_iff] at h
  exact List.filter_eq_self.mpr fun c hc => by simpa using h c hc

theorem getRegularServiceEndpoints_prefer_local (svc : Service) :
    getRegularServiceEndpoints drain svc targetPort selfHostUUID "prefer-local" =
      if localEndpoints drain svc targetPort selfHostUUID = [] then anyEndpoints drain svc targetPort
      else localEndpoints drain svc targetPort selfHostUUID := by
  simp only [getRegularServiceEndpoints, localEndpoints, anyEndpoints]
  erw [filterMap_primary, filterMap_contingency]
  simp only [show ("prefer-local" != "any") = true by decide, Bool.true_and, Bool.not_not]
  by_cases h : ((svc.containers.filter (IsLive drain)).filter fun c => equalFold c.hostUUID selfHostUUID).map
      (containerEndpoint drain · targetPort) = []
  · rw [filter_not_local drain targetPort selfHostUUID h, h]
    rfl
  · simp only [Bool.and_eq_true, List.isEmpty_iff, h, and_false, if_false]

/-- The local endpoints are some of the endpoints of the live containers. -/
theorem localEndpoints_sublist (svc : Service) :
    List.Sublist (localEndpoints drain svc targetPort selfHostUUID) (anyEndpoints drain svc targetPort) :=
  (List.filter_sublist _).map _

theorem regular_only_local_subset (svc : Service) :
    (getRegularServiceEndpoints drain svc targetPort selfHostUUID "only-local").map (·.ip) ⊆
      (getRegularServiceEndpoints drain svc targetPort selfHostUUID "prefer-local").map (·.ip) := by
  rw [getRegularServiceEndpoints_only_local, getRegularServiceEndpoints_prefer_local]
  split
  · rename_i h
    simp [h]
  · exact List.Subset.refl _

theorem regular_prefer_local_subset (svc : Service) :
    (getRegularServiceEndpoints drain svc targetPort selfHostUUID "prefer-local").map (·.ip) ⊆
      (getRegularServiceEndpoints drain svc targetPort selfHostUUID "any").map (·.ip) := by
  rw [getRegularServiceEndpoints_prefer_local, getRegularServiceEndpoints_any]
  split
  · exact List.Subset.refl _
  · exact ((localEndpoints_sublist drain targetPort selfHostUUID svc).map _).subset

variable {mf : MetadataFetcher} {drain targetPort selfHostUUID}

/-- An alias loop that succeeds resolved every service it found. -/
theorem foldlM_aliasStep_ok {f : Service → Except Fault (List Endpoint)} :
    ∀ (links : List String) (acc eps : List Endpoint), links.foldlM (aliasStep mf f) acc = .ok eps →
      ∀ link ∈ links, ∀ s, mf.getService link = .ok (some s) → ∃ r, f s = .ok r
  | [], _, _, _, _, hl, _, _ => absurd hl (List.not_mem_nil _)
  | link :: links, acc, eps, h, l, hl, s, hs => by
    rw [List.foldlM_cons] at h
    obtain ⟨acc', hstep, hrest⟩ := bind_eq_ok h
    rcases List.mem_cons.mp hl with rfl | hl
    · unfold aliasStep at hstep
      rw [hs, ok_bind] at hstep
      obtain ⟨r, hr, -⟩ := bind_eq_ok hstep
      exact ⟨r, hr⟩
    · exact foldlM_aliasStep_ok links acc' eps hrest l hl s hs

/-- Two alias loops over the same links, the second succeeding: when each service's endpoints under the first resolver
have their IPs among those under the second, so do the endpoints of the loops. -/
theorem flatMap_aliasPart_subset {f g : Service → Except Fault (List Endpoint)} {links : List String}
    {acc eps : List Endpoint} (hg : links.foldlM (aliasStep mf g) acc = .ok eps)
    (hfg : ∀ s r r', f s = .ok r → g s = .ok r' → r.map (·.ip) ⊆ r'.map (·.ip)) :
    (links.flatMap (ResolutionAux.aliasPart mf f)).map (·.ip) ⊆
      (links.flatMap (ResolutionAux.aliasPart mf g)).map (·.ip) := by
  intro ip hip
  obtain ⟨ep, hep, rfl⟩ := List.mem_map.mp hip
  obtain ⟨link, hl, hep⟩ := List.mem_flatMap.mp hep
  unfold ResolutionAux.aliasPart at hep
  split at hep
  · rename_i s hs
    split at hep
    · rename_i r hr
      obtain ⟨r', hr'⟩ := foldlM_aliasStep_ok _ _ _ hg link hl s hs
      obtain ⟨ep', hep', he⟩ := List.mem_map.mp (hfg s r r' hr hr' (List.mem_map_of_mem _ hep))
      exact List.mem_map.mpr ⟨ep', List.mem_flatMap.mpr ⟨link, hl, by
        simp only [ResolutionAux.aliasPart, hs, hr']; exact hep'⟩, he⟩
    · exact absurd hep (List.not_mem_nil _)
  · exact absurd hep (List.not_mem_nil _)

/-- When, for every service, the regular endpoints under the preference `p` have their IPs among those under `q`, so do
the endpoints `getServiceEndpoints` returns, for every kind of service: an external service does not depend on the
preference, and an alias's endpoints are those of the services it links to, each resolved under the same preference. -/
theorem getServiceEndpoints_ips_subset {p q : String}
    (hreg : ∀ svc, (getRegularServiceEndpoints drain svc targetPort selfHostUUID p).map (·.ip) ⊆
      (getRegularServiceEndpoints drain svc targetPort selfHostUUID q).map (·.ip)) :
    ∀ (n : Nat) (svc : Service) {O P : List Endpoint},
      getServiceEndpoints mf drain n svc targetPort selfHostUUID p = .ok O →
      getServiceEndpoints mf drain n svc targetPort selfHostUUID q = .ok P → O.map (·.ip) ⊆ P.map (·.ip)
  | 0, _, _, _, h, _ => by cases h
  | n + 1, svc, O, P, hO, hP => by
    rw [ResolutionAux.getServiceEndpoints_succ] at hO hP
    obtain ⟨O', hO', hO⟩ := bind_eq_ok hO
    obtain ⟨P', hP', hP⟩ := bind_eq_ok hP
    rw [← Except.ok.inj hO, ← Except.ok.inj hP]
    -- the sort keeps the IPs
    refine ((sortSort_perm _ _).map _).subset.trans (List.Subset.trans ?_ ((sortSort_perm _ _).map _).symm.subset)
    split at hO' <;> rename_i hx
    · -- an external service
      rw [if_pos hx] at hP'
      rw [← Except.ok.inj hO', ← Except.ok.inj hP']
      exact List.Subset.refl _
    · rw [if_neg hx] at hP'
      split at hO' <;> rename_i hd
      · -- an alias, link by link
        rw [if_pos hd] at hP'
        rw [ResolutionAux.foldlM_aliasStep_eq _ _ _ hO', ResolutionAux.foldlM_aliasStep_eq _ _ _ hP', List.nil_append,
          List.nil_append]
        exact flatMap_aliasPart_subset hP' fun s _ _ hr hr' => getServiceEndpoints_ips_subset hreg n s hr hr'
      · -- a regular service
        rw [if_neg hd] at hP'
        rw [← Except.ok.inj hO', ← Except.ok.inj hP']
        exact hreg svc

end LocalityAux

open LocalityAux

/-- Under `any` a regular service gives the endpoints of its live containers, under `only-local` those on this host, and
under `prefer-local` those on this host, or all when none is. For every service that `getServiceEndpoints` resolves
under the three preferences, of any kind, the IPs under `only-local` are among those under `prefer-local`, which are among
those under `any`. -/
theorem getServiceEndpoints_locality :
    (∀ (drain : Bool) (svc : Service) (targetPort : Int) (selfHostUUID : String),
      getRegularServiceEndpoints drain svc targetPort selfHostUUID "any" = anyEndpoints drain svc targetPort ∧
      getRegularServiceEndpoints drain svc targetPort selfHostUUID "only-local" =
        localEndpoints drain svc targetPort selfHostUUID ∧
      getRegularServiceEndpoints drain svc targetPort selfHostUUID "prefer-local" =
        if localEndpoints drain svc targetPort selfHostUUID = [] then anyEndpoints drain svc targetPort
        else localEndpoints drain svc targetPort selfHostUUID) ∧
    ∀ (mf : MetadataFetcher) (drain : Bool) (n₁ n₂ n₃ : Nat) (svc : Service) (targetPort : Int) (selfHostUUID : String)
      (O P A : List Endpoint),
      getServiceEndpoints mf drain n₁ svc targetPort selfHostUUID "only-local" = .ok O →
      getServiceEndpoints mf drain n₂ svc targetPort selfHostUUID "prefer-local" = .ok P →
      getServiceEndpoints mf drain n₃ svc targetPort selfHostUUID "any" = .ok A →
      O.map (·.ip) ⊆ P.map (·.ip) ∧ P.map (·.ip) ⊆ A.map (·.ip) := by
  refine ⟨fun drain svc targetPort selfHostUUID => ⟨getRegularServiceEndpoints_any drain targetPort selfHostUUID svc,
    getRegularServiceEndpoints_only_local drain targetPort selfHostUUID svc,
    getRegularServiceEndpoints_prefer_local drain targetPort selfHostUUID svc⟩, ?_⟩
  intro mf drain n₁ n₂ n₃ svc targetPort selfHostUUID O P A hO hP hA
  -- one fuel for the three: a result that is not out of fuel stays at every larger fuel
  have lift : ∀ {n : Nat} {pref : String} {R : List Endpoint}, n ≤ max n₁ (max n₂ n₃) →
      getServiceEndpoints mf drain n svc targetPort selfHostUUID pref = .ok R →
      getServiceEndpoints mf drain (max n₁ (max n₂ n₃)) svc targetPort selfHostUUID pref = .ok R :=
    fun hle h => (ResolutionAux.getServiceEndpoints_mono hle (by rw [h]; exact Except.noConfusion)).trans h
  have hO' := lift (by omega) hO
  have hP' := lift (by omega) hP
  have hA' := lift (by omega) hA
  exact ⟨getServiceEndpoints_ips_subset (regular_only_local_subset drain targetPort selfHostUUID) _ svc hO' hP',
    getServiceEndpoints_ips_subset (regular_prefer_local_subset drain targetPort selfHostUUID) _ svc hP' hA'⟩

end RancherLb
