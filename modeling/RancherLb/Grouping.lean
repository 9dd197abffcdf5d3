import RancherLb.Build

/-!
# The rule loop's maps: what every state of the loop keeps

`BuildState.Inv` is what the three maps of `BuildConfigFromMetadata` keep from one rule to the next: every key a frontend
lists names a backend of `allBe` whose host and path, with the frontend's port, give back the key; a frontend is filed
under its port's numeral; every backend is listed by a frontend; and no key is listed twice. The one fact about strings it
needs is that a key gives back its port (`pathUUID_port`): a numeral holds no `_`, so the first `_` of a key ends it.
-/

namespace RancherLb

open Go

namespace BuildAux

/-- A key gives back its port: the numeral of a non-negative port holds no `_`, and numerals are distinct. -/
theorem pathUUID_port {p₁ p₂ : Int} {h₁ x₁ h₂ x₂ : String} (hp₁ : 0 ≤ p₁) (hp₂ : 0 ≤ p₂)
    (h : pathUUID p₁ h₁ x₁ = pathUUID p₂ h₂ x₂) : p₁ = p₂ := by
  have hd := congrArg String.data h
  have hu : "_".data = ['_'] := rfl
  simp only [pathUUID, String.data_append, hu, List.append_assoc, List.singleton_append] at hd
  obtain ⟨hi, -⟩ := GoAux.append_sep_inj (GoAux.underscore_not_mem_itoa hp₁) (GoAux.underscore_not_mem_itoa hp₂) hd
  exact GoAux.itoa_injective hp₁ hp₂ (String.ext hi)

end BuildAux

open BuildAux MapAux

/-- What the maps of the rule loop keep. -/
structure BuildState.Inv (st : BuildState) : Prop where
  /-- Every key a frontend lists names a backend, and the frontend's port with the backend's host and path give it back. -/
  refs : ∀ e ∈ st.frontendsMap, ∀ k ∈ e.2.backendServices,
    ∃ b, st.allBe k = some b ∧ k = pathUUID e.2.port b.host b.path
  /-- A frontend is filed under its port's numeral, and its port is at least 1. -/
  names : ∀ e ∈ st.frontendsMap, e.1 = itoa e.2.port ∧ 1 ≤ e.2.port
  nodupNames : (st.frontendsMap.map (·.1)).Nodup
  /-- Every backend is listed by a frontend. -/
  owned : ∀ k b, st.allBe k = some b → ∃ e ∈ st.frontendsMap, k ∈ e.2.backendServices
  nodupKeys : ∀ e ∈ st.frontendsMap, e.2.backendServices.Nodup
  disjointKeys : ∀ e₁ ∈ st.frontendsMap, ∀ e₂ ∈ st.frontendsMap, e₁.1 ≠ e₂.1 →
    ∀ k ∈ e₁.2.backendServices, k ∉ e₂.2.backendServices

namespace BuildAux

theorem inv_empty : BuildState.empty.Inv := by
  constructor <;> simp [BuildState.empty]

variable {st : BuildState} {rule : PortRule} {eps : List Endpoint} {hc : HealthCheck}

/-- The frontend a rule goes to is filed under the rule's port's numeral, or is new and lists no backend. -/
theorem frontendOf_cases (st : BuildState) (rule : PortRule) :
    (itoa rule.sourcePort, st.frontendOf rule) ∈ st.frontendsMap ∨
      ((st.frontendOf rule).backendServices = [] ∧ (st.frontendOf rule).port = rule.sourcePort) := by
  unfold BuildState.frontendOf
  cases h : mapGet st.frontendsMap (itoa rule.sourcePort) with
  | none => exact .inr ⟨rfl, rfl⟩
  | some v => exact .inl (mem_of_mapGet h)

theorem frontendOf_port (hi : st.Inv) (hp : 1 ≤ rule.sourcePort) : (st.frontendOf rule).port = rule.sourcePort := by
  rcases frontendOf_cases st rule with h | ⟨-, h⟩
  · have h₁ : itoa rule.sourcePort = itoa (st.frontendOf rule).port := (hi.names _ h).1
    have h₂ : 1 ≤ (st.frontendOf rule).port := (hi.names _ h).2
    exact (GoAux.itoa_injective (by omega) (by omega) h₁).symm
  · exact h

/-- A listed key names a backend. -/
theorem allBe_of_listed (hi : st.Inv) {e : String × Frontend} (he : e ∈ st.frontendsMap) {k : String}
    (hk : k ∈ e.2.backendServices) : (st.allBe k).isSome := by
  obtain ⟨b, hb, -⟩ := hi.refs e he k hk
  simp [hb]

/-- The frontend value written back for the rule. -/
def written (st : BuildState) (rule : PortRule) : Frontend :=
  if (st.allBe rule.key).isSome then st.frontendOf rule
  else { st.frontendOf rule with backendServices := (st.frontendOf rule).backendServices ++ [rule.key] }

theorem addRule_frontendsMap' :
    (st.addRule rule eps hc).frontendsMap = mapSet st.frontendsMap (itoa rule.sourcePort) (written st rule) :=
  BuildState.addRule_frontendsMap st rule eps hc

theorem written_port : (written st rule).port = (st.frontendOf rule).port := by
  unfold written; split <;> rfl

/-- A key of the written frontend: one of the frontend it was, or the rule's key, new. -/
theorem mem_written {k : String} (hk : k ∈ (written st rule).backendServices) :
    k ∈ (st.frontendOf rule).backendServices ∨ (k = rule.key ∧ st.allBe rule.key = none) := by
  unfold written at hk
  split at hk
  · exact .inl hk
  · rename_i h
    rcases List.mem_append.mp hk with hk | hk
    · exact .inl hk
    · exact .inr ⟨List.mem_singleton.mp hk, by simpa using h⟩

theorem frontendOf_subset_written {k : String} (hk : k ∈ (st.frontendOf rule).backendServices) :
    k ∈ (written st rule).backendServices := by
  unfold written
  split
  · exact hk
  · exact List.mem_append_left _ hk

/-- A key of the frontend a rule goes to is listed under the rule's port's numeral. -/
theorem mem_frontendOf {k : String} (hk : k ∈ (st.frontendOf rule).backendServices) :
    (itoa rule.sourcePort, st.frontendOf rule) ∈ st.frontendsMap := by
  rcases frontendOf_cases st rule with h | ⟨h, -⟩
  · exact h
  · simp [h] at hk

/-- A backend keeps its host, path and name, and only gains endpoints. -/
theorem addRule_allBe_of_some (rule : PortRule) (eps : List Endpoint) (hc : HealthCheck) {k : String}
    {b : BackendService} (hk : st.allBe k = some b) :
    ∃ b', (st.addRule rule eps hc).allBe k = some b' ∧ b'.host = b.host ∧ b'.path = b.path ∧ b'.uuid = b.uuid ∧
      b.endpoints <+: b'.endpoints := by
  rw [BuildState.addRule_allBe]
  split
  · rename_i h
    subst h
    simp only [hk, Option.elim]
    exact ⟨_, rfl, rfl, rfl, rfl, List.prefix_append _ _⟩
  · exact ⟨b, hk, rfl, rfl, rfl, List.prefix_refl _⟩

/-- What a backend after a rule can be: the new backend under the rule's key, the backend that was there with the merged
endpoints, or, under another key, the backend that was there; with the IP set written beside it. -/
theorem addRule_allBe_cases {k : String} {b : BackendService} (hb : (st.addRule rule eps hc).allBe k = some b) :
    (k = rule.key ∧ st.allBe k = none ∧ b = newBackend rule eps hc ∧
      (st.addRule rule eps hc).allEps k = eps.map (·.ip)) ∨
    (k = rule.key ∧ ∃ b₀, st.allBe k = some b₀ ∧
      b = { b₀ with endpoints := b₀.endpoints ++ (mergeEndpoints (st.allEps k) rule.weight eps).2 } ∧
      (st.addRule rule eps hc).allEps k = (mergeEndpoints (st.allEps k) rule.weight eps).1) ∨
    (k ≠ rule.key ∧ st.allBe k = some b ∧ (st.addRule rule eps hc).allEps k = st.allEps k) := by
  rw [BuildState.addRule_allBe] at hb
  split at hb
  · rename_i hk
    subst hk
    cases h : st.allBe rule.key with
    | none =>
      simp only [h, Option.elim, Option.some.injEq] at hb
      exact .inl ⟨rfl, rfl, hb.symm, by simp [BuildState.addRule_allEps, h]⟩
    | some b₀ =>
      simp only [h, Option.elim, Option.some.injEq] at hb
      exact .inr (.inl ⟨rfl, b₀, rfl, hb.symm, by simp [BuildState.addRule_allEps, h]⟩)
  · rename_i hk
    exact .inr (.inr ⟨hk, hb, by simp [BuildState.addRule_allEps, hk]⟩)

/-- A key listed by a frontend stays listed by one. -/
theorem addRule_listed (hi : st.Inv) {e : String × Frontend} (he : e ∈ st.frontendsMap) {k : String}
    (hk : k ∈ e.2.backendServices) : ∃ e' ∈ (st.addRule rule eps hc).frontendsMap, k ∈ e'.2.backendServices := by
  rw [addRule_frontendsMap']
  by_cases hn : e.1 = itoa rule.sourcePort
  · have hg : mapGet st.frontendsMap (itoa rule.sourcePort) = some e.2 := hn ▸ mapGet_of_mem hi.nodupNames he
    have hf : st.frontendOf rule = e.2 := by simp [BuildState.frontendOf, hg]
    exact ⟨_, mem_mapSet_self _ _ _, frontendOf_subset_written (hf ▸ hk)⟩
  · exact ⟨e, mem_mapSet_of_ne he hn, hk⟩

/-- The loop's maps keep `Inv` over a rule on a port of at least 1. -/
theorem Inv.addRule (hi : st.Inv) (hp : 1 ≤ rule.sourcePort) : (st.addRule rule eps hc).Inv where
  refs := by
    intro e he k hk
    rw [addRule_frontendsMap'] at he
    rcases mem_mapSet he with rfl | ⟨he, -⟩
    · rcases mem_written hk with hk | ⟨rfl, hnone⟩
      · obtain ⟨b, hb, hkb⟩ := hi.refs _ (mem_frontendOf hk) k hk
        obtain ⟨b', hb', hh, hpth, -⟩ := addRule_allBe_of_some rule eps hc hb
        exact ⟨b', hb', by rw [hh, hpth, written_port]; exact hkb⟩
      · refine ⟨newBackend rule eps hc, by simp [BuildState.addRule_allBe, hnone], ?_⟩
        rw [written_port, frontendOf_port hi hp]
        rfl
    · obtain ⟨b, hb, hkb⟩ := hi.refs e he k hk
      obtain ⟨b', hb', hh, hpth, -⟩ := addRule_allBe_of_some rule eps hc hb
      exact ⟨b', hb', by rw [hh, hpth]; exact hkb⟩
  names := by
    intro e he
    rw [addRule_frontendsMap'] at he
    rcases mem_mapSet he with rfl | ⟨he, -⟩
    · simpa [written_port, frontendOf_port hi hp] using hp
    · exact hi.names e he
  nodupNames := by
    rw [addRule_frontendsMap']
    exact nodup_keys_mapSet hi.nodupNames _ _
  owned := by
    intro k b hb
    rcases addRule_allBe_cases hb with ⟨rfl, hnone, -⟩ | ⟨-, b₀, hb₀, -⟩ | ⟨-, hb₀, -⟩
    · exact ⟨_, addRule_frontendsMap' ▸ mem_mapSet_self _ _ _, by simp [written, hnone]⟩
    all_goals
      obtain ⟨e, he, hke⟩ := hi.owned _ _ hb₀
      exact addRule_listed hi he hke
  nodupKeys := by
    intro e he
    rw [addRule_frontendsMap'] at he
    rcases mem_mapSet he with rfl | ⟨he, -⟩
    · have hf : (st.frontendOf rule).backendServices.Nodup := by
        rcases frontendOf_cases st rule with h | ⟨h, -⟩
        · exact hi.nodupKeys _ h
        · simp [h]
      unfold written
      split
      · exact hf
      · rename_i hnone
        refine List.nodup_append.mpr ⟨hf, List.nodup_singleton _, ?_⟩
        intro k hk hk'
        rw [List.mem_singleton.mp hk'] at hk
        exact hnone (allBe_of_listed hi (mem_frontendOf hk) hk)
    · exact hi.nodupKeys e he
  disjointKeys := by
    intro e₁ he₁ e₂ he₂ hne k hk₁ hk₂
    rw [addRule_frontendsMap'] at he₁ he₂
    rcases mem_mapSet he₁ with rfl | ⟨he₁, hn₁⟩ <;> rcases mem_mapSet he₂ with rfl | ⟨he₂, hn₂⟩
    · exact hne rfl
    · rcases mem_written hk₁ with hk₁ | ⟨rfl, hnone⟩
      · exact hi.disjointKeys _ (mem_frontendOf hk₁) _ he₂ (Ne.symm hn₂) k hk₁ hk₂
      · simpa [hnone] using allBe_of_listed hi he₂ hk₂
    · rcases mem_written hk₂ with hk₂ | ⟨rfl, hnone⟩
      · exact hi.disjointKeys _ he₁ _ (mem_frontendOf hk₂) hn₁ k hk₁ hk₂
      · simpa [hnone] using allBe_of_listed hi he₁ hk₁
    · exact hi.disjointKeys _ he₁ _ he₂ hne k hk₁ hk₂

end BuildAux

/-- What the maps hold, relative to the resolved rules `L` added so far. -/
structure BuildState.Tracks (st : BuildState) (L : List (PortRule × List Endpoint × HealthCheck)) : Prop where
  /-- Every rule added has a backend under its key, holding the IPs of its endpoints. -/
  covers : ∀ x ∈ L, ∃ b, st.allBe x.1.key = some b ∧ ∀ ep ∈ x.2.1, ep.ip ∈ b.endpoints.map (·.ip)
  /-- Every endpoint of a backend is one that a rule of the same key resolved, with that rule's weight. -/
  sourced : ∀ k b, st.allBe k = some b → ∀ ep ∈ b.endpoints,
    ∃ x ∈ L, x.1.key = k ∧ ∃ e ∈ x.2.1, ep = { e with weight := x.1.weight }
  /-- Every frontend is on the port of a rule added. -/
  ports : ∀ e ∈ st.frontendsMap, ∃ x ∈ L, x.1.sourcePort = e.2.port
  /-- A backend is named by a rule of its key. -/
  named : ∀ k b, st.allBe k = some b →
    ∃ x ∈ L, x.1.key = k ∧ b.uuid = if x.1.backendName = "" then replaceNonAlnum k else x.1.backendName
  /-- The IP set of a key is the set of its backend's endpoint IPs. -/
  ips : ∀ k b, st.allBe k = some b → ∀ ip, ip ∈ st.allEps k ↔ ip ∈ b.endpoints.map (·.ip)

namespace BuildAux

open MergeAux

variable {st : BuildState} {rule : PortRule} {eps : List Endpoint} {hc : HealthCheck}
  {L : List (PortRule × List Endpoint × HealthCheck)}

theorem tracks_empty : BuildState.empty.Tracks [] := by
  constructor <;> simp [BuildState.empty]

/-- The backend under the rule's key after the rule: the new one, or the old one with the merged endpoints. -/
theorem addRule_allBe_key (st : BuildState) (rule : PortRule) (eps : List Endpoint) (hc : HealthCheck) :
    (st.addRule rule eps hc).allBe rule.key = some (newBackend rule eps hc) ∨
      ∃ b₀, st.allBe rule.key = some b₀ ∧ (st.addRule rule eps hc).allBe rule.key =
        some { b₀ with endpoints := b₀.endpoints ++ (mergeEndpoints (st.allEps rule.key) rule.weight eps).2 } := by
  rw [BuildState.addRule_allBe]
  cases st.allBe rule.key with
  | none => exact .inl (by simp)
  | some b₀ => exact .inr ⟨b₀, rfl, by simp⟩

/-- The relative invariant is kept over a rule on a port of at least 1. -/
theorem Tracks.addRule (ht : st.Tracks L) (hi : st.Inv) (hp : 1 ≤ rule.sourcePort) :
    (st.addRule rule eps hc).Tracks (L ++ [(rule, eps, hc)]) where
  covers := by
    intro x hx
    rcases List.mem_append.mp hx with hx | hx
    · obtain ⟨b, hb, hips⟩ := ht.covers x hx
      obtain ⟨b', hb', -, -, -, hpre⟩ := addRule_allBe_of_some rule eps hc hb
      exact ⟨b', hb', fun ep hep => List.map_subset _ hpre.subset (hips ep hep)⟩
    · rw [List.mem_singleton.mp hx]
      rcases addRule_allBe_key st rule eps hc with hb | ⟨b₀, hb₀, hb⟩
      · exact ⟨_, hb, fun ep hep => by simp [newBackend]; exact ⟨ep, hep, rfl⟩⟩
      · refine ⟨_, hb, fun ep hep => ?_⟩
        rcases mergeEndpoints_cover (st.allEps rule.key) rule.weight eps ep hep with h | h
        · exact List.map_subset _ (List.subset_append_left _ _) ((ht.ips _ _ hb₀ _).mp h)
        · simpa using Or.inr (List.mem_map.mp h)
  sourced := by
    intro k b hb ep hep
    have hlast : (rule, eps, hc) ∈ L ++ [(rule, eps, hc)] := List.mem_append_right _ (List.mem_singleton_self _)
    rcases addRule_allBe_cases hb with ⟨rfl, -, rfl, -⟩ | ⟨rfl, b₀, hb₀, rfl, -⟩ | ⟨-, hb, -⟩
    · obtain ⟨e, he, rfl⟩ := List.mem_map.mp hep
      exact ⟨_, hlast, rfl, e, he, rfl⟩
    · rcases List.mem_append.mp hep with hep | hep
      · obtain ⟨x, hx, hxk, h⟩ := ht.sourced _ _ hb₀ ep hep
        exact ⟨x, List.mem_append_left _ hx, hxk, h⟩
      · obtain ⟨e, he, rfl⟩ := mergeEndpoints_snd _ _ _ ep hep
        exact ⟨_, hlast, rfl, e, he, rfl⟩
    · obtain ⟨x, hx, hxk, h⟩ := ht.sourced _ _ hb ep hep
      exact ⟨x, List.mem_append_left _ hx, hxk, h⟩
  ports := by
    intro e he
    rw [addRule_frontendsMap'] at he
    rcases mem_mapSet he with rfl | ⟨he, -⟩
    · exact ⟨_, List.mem_append_right _ (List.mem_singleton_self _), by
        simp [written_port, frontendOf_port hi hp]⟩
    · obtain ⟨x, hx, h⟩ := ht.ports e he
      exact ⟨x, List.mem_append_left _ hx, h⟩
  named := by
    intro k b hb
    rcases addRule_allBe_cases hb with ⟨rfl, -, rfl, -⟩ | ⟨-, b₀, hb₀, rfl, -⟩ | ⟨-, hb₀, -⟩
    · exact ⟨_, List.mem_append_right _ (List.mem_singleton_self _), rfl, rfl⟩
    all_goals
      obtain ⟨x, hx, hxk, h⟩ := ht.named _ _ hb₀
      exact ⟨x, List.mem_append_left _ hx, hxk, h⟩
  ips := by
    intro k b hb ip
    rcases addRule_allBe_cases hb with ⟨-, -, rfl, heps⟩ | ⟨-, b₀, hb₀, rfl, heps⟩ | ⟨-, hb, heps⟩ <;> rw [heps]
    · simp [newBackend, Function.comp_def]
    · rw [mem_mergeEndpoints_fst, ht.ips _ _ hb₀, List.map_append, List.mem_append]
    · exact ht.ips _ _ hb ip

/-- Both invariants hold after adding any list of rules on ports of at least 1. -/
theorem inv_addAll (L : List (PortRule × List Endpoint × HealthCheck)) (hL : ∀ x ∈ L, 1 ≤ x.1.sourcePort) :
    ∀ (st : BuildState) (L₀ : List (PortRule × List Endpoint × HealthCheck)), st.Inv → st.Tracks L₀ →
      (st.addAll L).Inv ∧ (st.addAll L).Tracks (L₀ ++ L) := by
  induction L with
  | nil => intro st L₀ hi ht; simpa [BuildState.addAll] using And.intro hi ht
  | cons x L ih =>
    intro st L₀ hi ht
    obtain ⟨rule, eps, hc⟩ := x
    have hx : 1 ≤ rule.sourcePort := hL _ (List.mem_cons_self _ _)
    have hi' : (st.addRule rule eps hc).Inv := Inv.addRule hi hx
    have := ih (fun y hy => hL y (List.mem_cons_of_mem _ hy)) _ _ hi' (Tracks.addRule ht hi hx)
    simpa [BuildState.addAll] using this

end BuildAux

/-- Every backend's endpoint IPs are distinct. -/
def BuildState.DistinctIps (st : BuildState) : Prop :=
  ∀ k b, st.allBe k = some b → (b.endpoints.map (·.ip)).Nodup

namespace BuildAux

open MergeAux

variable {st : BuildState} {rule : PortRule} {eps : List Endpoint} {hc : HealthCheck}
  {L : List (PortRule × List Endpoint × HealthCheck)}

/-- A rule whose endpoints have distinct IPs keeps every backend's IPs distinct: a new backend takes its endpoints as they
are, and the merge adds only IPs not yet in the backend's set. -/
theorem DistinctIps.addRule (hd : st.DistinctIps) (ht : st.Tracks L) (heps : (eps.map (·.ip)).Nodup) :
    (st.addRule rule eps hc).DistinctIps := by
  intro k b hb
  rcases addRule_allBe_cases hb with ⟨-, -, rfl, -⟩ | ⟨-, b₀, hb₀, rfl, -⟩ | ⟨-, hb, -⟩
  · simpa [newBackend, Function.comp_def] using heps
  · obtain ⟨hnd, hfresh⟩ := mergeEndpoints_fresh (st.allEps k) rule.weight eps
    rw [List.map_append]
    refine List.nodup_append.mpr ⟨hd _ _ hb₀, hnd, fun ip h₁ h₂ => ?_⟩
    obtain ⟨a, ha, rfl⟩ := List.mem_map.mp h₂
    exact hfresh a ha ((ht.ips _ _ hb₀ _).mpr h₁)
  · exact hd k b hb

/-- Adding rules whose endpoints have distinct IPs keeps every backend's IPs distinct. -/
theorem distinctIps_addAll (L : List (PortRule × List Endpoint × HealthCheck)) (hL : ∀ x ∈ L, 1 ≤ x.1.sourcePort)
    (hd : ∀ x ∈ L, (x.2.1.map (·.ip)).Nodup) :
    ∀ (st : BuildState) (L₀ : List (PortRule × List Endpoint × HealthCheck)), st.Inv → st.Tracks L₀ →
      st.DistinctIps → (st.addAll L).DistinctIps := by
  induction L with
  | nil => intro st L₀ _ _ hd₀; exact hd₀
  | cons x L ih =>
    intro st L₀ hi ht hd₀
    obtain ⟨rule, eps, hc⟩ := x
    have hx : 1 ≤ rule.sourcePort := hL _ (List.mem_cons_self _ _)
    have hi' : (st.addRule rule eps hc).Inv := Inv.addRule hi hx
    exact ih (fun y hy => hL y (List.mem_cons_of_mem _ hy)) (fun y hy => hd y (List.mem_cons_of_mem _ hy)) _ _ hi'
      (Tracks.addRule ht hi hx) (DistinctIps.addRule hd₀ ht (hd _ (List.mem_cons_self _ _)))

end BuildAux

end RancherLb
