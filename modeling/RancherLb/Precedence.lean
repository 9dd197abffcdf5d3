import RancherLb.Config

/-!
# The first rule decides

The rule loop creates a frontend for the first surviving rule on a port, and a backend for the first surviving rule of a
key; a later rule on the same port only adds backends to it, and a later rule of the same key only adds endpoints. So a
frontend's name and protocol, and every field of a backend but its endpoints (UUID, host, path, comparator, target port,
protocol, priority and health check), are those of the first rule. A later rule that asks for another protocol, target
port, priority or backend name is merged under the first one's, and nothing reports it.
-/

namespace RancherLb

open Go

/-- `x` is the first of the resolved rules `L` whose rule has the property `p`. -/
def IsFirst (p : PortRule → Prop) (L : List (PortRule × List Endpoint × HealthCheck))
    (x : PortRule × List Endpoint × HealthCheck) : Prop :=
  ∃ pre post, L = pre ++ x :: post ∧ p x.1 ∧ ∀ y ∈ pre, ¬ p y.1

section IsFirst

variable {p : PortRule → Prop} {L : List (PortRule × List Endpoint × HealthCheck)}
  {x : PortRule × List Endpoint × HealthCheck}

/-- A rule stays first when rules are added after it. -/
theorem IsFirst.append (h : IsFirst p L x) (M : List (PortRule × List Endpoint × HealthCheck)) :
    IsFirst p (L ++ M) x := by
  obtain ⟨pre, post, rfl, hx, hpre⟩ := h
  exact ⟨pre, post ++ M, by simp, hx, hpre⟩

/-- A rule added last is first when no rule before it has the property. -/
theorem IsFirst.last (hx : p x.1) (hL : ∀ y ∈ L, ¬ p y.1) : IsFirst p (L ++ [x]) x :=
  ⟨L, [], rfl, hx, hL⟩

end IsFirst

/-- What the first rules fix in the maps of the loop, relative to the resolved rules `L` added so far. -/
structure BuildState.FirstWins (st : BuildState) (L : List (PortRule × List Endpoint × HealthCheck)) : Prop where
  /-- Every backend is the one the first rule of its key created, but for its endpoints. -/
  backend : ∀ k b, st.allBe k = some b →
    ∃ x, IsFirst (fun r => r.key = k) L x ∧ b = { newBackend x.1 x.2.1 x.2.2 with endpoints := b.endpoints }
  /-- Every frontend has the name and protocol of the first rule on its port. -/
  frontend : ∀ e ∈ st.frontendsMap,
    ∃ x, IsFirst (fun r => r.sourcePort = e.2.port) L x ∧ e.2.name = itoa x.1.sourcePort ∧ e.2.protocol = x.1.protocol

namespace PrecedenceAux

open BuildAux MapAux ConfigAux

variable {L : List (PortRule × List Endpoint × HealthCheck)}

theorem firstWins_empty : BuildState.empty.FirstWins [] :=
  ⟨fun _ _ h => by simp [BuildState.empty] at h, fun _ h => by simp [BuildState.empty] at h⟩

variable {st : BuildState} {rule : PortRule} {eps : List Endpoint} {hc : HealthCheck}

/-- The frontend written back for a rule has the name, port and protocol of the frontend it goes to. -/
theorem written_fields (st : BuildState) (rule : PortRule) :
    (written st rule).name = (st.frontendOf rule).name ∧ (written st rule).port = (st.frontendOf rule).port ∧
      (written st rule).protocol = (st.frontendOf rule).protocol := by
  unfold written
  split <;> exact ⟨rfl, rfl, rfl⟩

/-- The invariant is kept over a rule: a new frontend or backend is the rule's own, and no rule
before it is on its port or of its key; an old one keeps its first rule. -/
theorem FirstWins.addRule (hf : st.FirstWins L) (hi : st.Inv) (ht : st.Tracks L) (hL : ∀ y ∈ L, 1 ≤ y.1.sourcePort) :
    (st.addRule rule eps hc).FirstWins (L ++ [(rule, eps, hc)]) where
  backend := by
    intro k b hb
    rcases addRule_allBe_cases hb with ⟨rfl, hnone, rfl, -⟩ | ⟨rfl, b₀, hb₀, rfl, -⟩ | ⟨-, hb, -⟩
    · -- a new backend: every rule before it has a backend under its key
      refine ⟨_, IsFirst.last rfl fun y hy hk => ?_, rfl⟩
      obtain ⟨b, hb, -⟩ := ht.covers y hy
      rw [hk, hnone] at hb
      cases hb
    · obtain ⟨x, hx, hb₀'⟩ := hf.backend _ _ hb₀
      refine ⟨x, hx.append _, ?_⟩
      rw [hb₀']
    · obtain ⟨x, hx, hb'⟩ := hf.backend _ _ hb
      exact ⟨x, hx.append _, hb'⟩
  frontend := by
    intro e he
    rw [addRule_frontendsMap'] at he
    rcases mem_mapSet he with rfl | ⟨he, -⟩
    · obtain ⟨hn, hport, hpr⟩ := written_fields st rule
      simp only [hn, hport, hpr]
      unfold BuildState.frontendOf
      cases hg : mapGet st.frontendsMap (itoa rule.sourcePort) with
      | some f =>
        -- the frontend of the port was there: its first rule stays first
        obtain ⟨x, hx, hxn, hxp⟩ := hf.frontend _ (mem_of_mapGet hg)
        exact ⟨x, hx.append _, hxn, hxp⟩
      | none =>
        -- a new frontend: no rule before it is on its port
        refine ⟨_, IsFirst.last rfl fun y hy hy' => ?_, rfl, rfl⟩
        obtain ⟨e', he', hport', -⟩ := backend_of_added hi ht hL hy
        have hname : e'.1 = itoa rule.sourcePort := by rw [(hi.names e' he').1, hport']; exact congrArg itoa hy'
        rw [← hname, mapGet_of_mem hi.nodupNames he'] at hg
        cases hg
    · obtain ⟨x, hx, hxn, hxp⟩ := hf.frontend e he
      exact ⟨x, hx.append _, hxn, hxp⟩

/-- Adding resolved rules on ports of at least 1 keeps the invariant. -/
theorem firstWins_addAll (L : List (PortRule × List Endpoint × HealthCheck)) :
    ∀ (st : BuildState) (L₀ : List (PortRule × List Endpoint × HealthCheck)), (∀ y ∈ L₀ ++ L, 1 ≤ y.1.sourcePort) →
      st.Inv → st.Tracks L₀ → st.FirstWins L₀ → (st.addAll L).FirstWins (L₀ ++ L) := by
  induction L with
  | nil => intro st L₀ _ _ _ hf; simpa [BuildState.addAll] using hf
  | cons x L ih =>
    intro st L₀ hL hi ht hf
    obtain ⟨rule, eps, hc⟩ := x
    have hL₀ : ∀ y ∈ L₀, 1 ≤ y.1.sourcePort := fun y hy => hL y (List.mem_append_left _ hy)
    have hx : 1 ≤ rule.sourcePort := hL _ (List.mem_append_right _ (List.mem_cons_self _ _))
    have := ih _ (L₀ ++ [(rule, eps, hc)]) (fun y hy => hL y (by simpa using hy)) (Inv.addRule hi hx)
      (Tracks.addRule ht hi hx) (FirstWins.addRule hf hi ht hL₀)
    simpa [BuildState.addAll] using this

end PrecedenceAux

open PrecedenceAux BuildAux ConfigAux

section Build

variable {lbc : LoadBalancerController} {drain : Bool} {fuel : Nat}
  {lbName envUUID selfHostUUID localServicePreference : String} {lbMeta : Option LBMetadata} {cfg : LoadBalancerConfig}

/-- Every frontend of the config has the name and protocol of the first surviving rule on its port, and every backend is
the one the first surviving rule of its key creates (its UUID, host, path, comparator, target port, protocol, priority and
the health check it resolved to), with the endpoints of all rules of the key. -/
theorem buildConfigFromMetadata_first_rule
    (h : buildConfigFromMetadata lbc drain fuel lbName envUUID selfHostUUID localServicePreference lbMeta = .ok [cfg]) :
    ∀ F ∈ cfg.frontendServices,
      (∃ x, IsFirst (fun r => r.sourcePort = F.port)
          (survivors lbc drain fuel envUUID selfHostUUID localServicePreference (lbMeta.getD {}).portRules) x ∧
        F.name = itoa x.1.sourcePort ∧ F.protocol = x.1.protocol) ∧
      ∀ B ∈ F.backendServices, ∃ x, IsFirst (fun r => r.key = pathUUID F.port B.host B.path)
          (survivors lbc drain fuel envUUID selfHostUUID localServicePreference (lbMeta.getD {}).portRules) x ∧
        B = { newBackend x.1 x.2.1 x.2.2 with endpoints := B.endpoints } := by
  obtain ⟨st, hi, -, hf, hS, rfl⟩ := buildConfigFromMetadata_state h
  have hw := firstWins_addAll _ BuildState.empty [] (by simpa using hS) inv_empty tracks_empty firstWins_empty
  rw [List.nil_append] at hw
  intro F hF
  rw [hf] at hF
  obtain ⟨e, he, rfl⟩ := mem_frontends.mp hF
  refine ⟨hw.frontend e he, fun B hB => ?_⟩
  obtain ⟨k, hk, hB⟩ := mem_readFrontend.mp hB
  obtain ⟨x, hx, hb⟩ := hw.backend k B hB
  rw [listed_key hi he hk hB] at hx
  exact ⟨x, hx, hb⟩

/-- Two rules for container `c` on port 80 with one key, `80__`: http to port 8080, then tcp to port 9090 at priority
5. -/
def shadowRules : List PortRule :=
  [{ sourcePort := 80, protocol := "http", container := "c", targetPort := 8080 },
   { sourcePort := 80, protocol := "tcp", container := "c", targetPort := 9090, priority := 5 }]

/-- What the builder returns for them: the frontend and backend of the http rule; the tcp rule's endpoint has an IP the
backend has, and is dropped. -/
def shadowConfig : LoadBalancerConfig :=
  { name := "lb", frontendServices := [{ name := "80", port := 80, protocol := "http", backendServices :=
      [{ uuid := "80_", port := 8080, protocol := "http",
         endpoints := [{ singleContainerEndpoint with port := 8080 }] }] }] }

theorem buildConfigFromMetadata_first_rule_shadowed :
    buildConfigFromMetadata singleContainerLbc false 1 "lb" "" "" "any" (some { portRules := shadowRules }) =
        .ok [shadowConfig] ∧
      ∀ F ∈ shadowConfig.frontendServices,
        (∃ x, IsFirst (fun r => r.sourcePort = F.port) (survivors singleContainerLbc false 1 "" "" "any" shadowRules) x ∧
          F.name = itoa x.1.sourcePort ∧ F.protocol = x.1.protocol) ∧
        ∀ B ∈ F.backendServices, ∃ x, IsFirst (fun r => r.key = pathUUID F.port B.host B.path)
            (survivors singleContainerLbc false 1 "" "" "any" shadowRules) x ∧
          B = { newBackend x.1 x.2.1 x.2.2 with endpoints := B.endpoints } :=
  have h : buildConfigFromMetadata singleContainerLbc false 1 "lb" "" "" "any" (some { portRules := shadowRules }) =
      .ok [shadowConfig] := rfl
  ⟨h, buildConfigFromMetadata_first_rule h⟩

end Build

end RancherLb
