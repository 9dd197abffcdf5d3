import RancherLb.Endpoints
import Mathlib.Logic.Function.Basic

/-!
# BuildConfigFromMetadata

The builder turns the expanded port rules into the one `LoadBalancerConfig` it returns in a list. Its rule loop keeps three
Go maps: `frontendsMap` from the source port's numeral to the frontend, `allBe` from the key `pathUUID` to the backend,
and `allEps` from the key to the set of the backend's endpoint IPs. A frontend holds pointers to backends that `allBe` also
holds, and a later rule with the same key appends to that shared backend. The model keeps the backends once, in `allBe`,
and a frontend lists them by key: a backend is created under a key only when `allBe` has none for it, and never moves, so
the key names it as the pointer does.

A rule is resolved first (`resolveRule`): to the endpoints and health check of its service or of its container, or to
nothing when the loop `continue`s. What the loop does with a resolved rule is pure (`BuildState.addRule`), so that the whole
loop is a fold of `addRule` over the rules that survive (`foldlM_processRule`).
-/

namespace RancherLb

open Go

/-- The certificate fetcher, an external collaborator: what `FetchCertificates` answers for the LB metadata, the default
certificates when the flag is set and the others when it is not. -/
structure CertificateFetcher where
  fetchCertificates : LBMetadata → Bool → Except String (List Certificate)

/-- The provider, an external collaborator, by the one method the builder calls: `ProcessCustomConfig` may refuse the
config and the custom config text. -/
structure LBProvider where
  processCustomConfig : LoadBalancerConfig → String → Except String Unit

/-- The collaborators of `LoadBalancerController` that `BuildConfigFromMetadata` reads. -/
structure LoadBalancerController where
  metaFetcher : MetadataFetcher
  certFetcher : CertificateFetcher
  lbProvider : LBProvider

/-- A Go map of string keys, held as the list of its entries. -/
def mapGet {α : Type} (m : List (String × α)) (k : String) : Option α := (m.find? fun e => e.1 == k).map (·.2)

/-- Writing a Go map held as a list of entries: the entry of the key is replaced in place, or a new entry is added last. -/
def mapSet {α : Type} (m : List (String × α)) (k : String) (v : α) : List (String × α) :=
  if m.any (fun e => e.1 == k) then m.map fun e => if e.1 == k then (k, v) else e else m ++ [(k, v)]

namespace MapAux

variable {α : Type}

theorem mem_of_mapGet {m : List (String × α)} {k : String} {v : α} (h : mapGet m k = some v) : (k, v) ∈ m := by
  simp only [mapGet, Option.map_eq_some'] at h
  obtain ⟨e, he, rfl⟩ := h
  have hk := List.find?_some he
  simp only [beq_iff_eq] at hk
  rw [← hk]
  exact List.mem_of_find?_eq_some he

theorem not_mem_of_mapGet {m : List (String × α)} {k : String} (h : mapGet m k = none) : ∀ e ∈ m, e.1 ≠ k := by
  simp only [mapGet, Option.map_eq_none', List.find?_eq_none, beq_iff_eq] at h
  exact h

/-- With distinct keys, reading the key of an entry gives the entry's value. -/
theorem mapGet_of_mem {m : List (String × α)} (hnd : (m.map (·.1)).Nodup) {e : String × α} (he : e ∈ m) :
    mapGet m e.1 = some e.2 := by
  induction m with
  | nil => simp at he
  | cons a m ih =>
    simp only [List.map_cons, List.nodup_cons, List.mem_map] at hnd
    rcases List.mem_cons.mp he with rfl | he
    · simp [mapGet]
    · have hne : a.1 ≠ e.1 := fun h => hnd.1 ⟨e, he, h.symm⟩
      simpa [mapGet, hne] using ih hnd.2 he

/-- An entry of the map after a write: the one written, or an entry of another key that was there. -/
theorem mem_mapSet {m : List (String × α)} {k : String} {v : α} {e : String × α} (h : e ∈ mapSet m k v) :
    e = (k, v) ∨ (e ∈ m ∧ e.1 ≠ k) := by
  by_cases hany : m.any (fun e => e.1 == k) = true
  · simp only [mapSet, hany, if_true] at h
    obtain ⟨e', he', rfl⟩ := List.mem_map.mp h
    by_cases hk : e'.1 = k
    · simp [hk]
    · simp only [beq_iff_eq, hk, if_false]
      exact .inr ⟨he', hk⟩
  · simp only [mapSet, hany, if_false] at h
    rcases List.mem_append.mp h with h | h
    · exact .inr ⟨h, fun hk => hany (List.any_eq_true.mpr ⟨e, h, by simp [hk]⟩)⟩
    · exact .inl (List.mem_singleton.mp h)

/-- The entry written is in the map. -/
theorem mem_mapSet_self (m : List (String × α)) (k : String) (v : α) : (k, v) ∈ mapSet m k v := by
  unfold mapSet
  split
  · rename_i h
    obtain ⟨e, he, hk⟩ := List.any_eq_true.mp h
    exact List.mem_map.mpr ⟨e, he, by simp only [hk, if_true, beq_iff_eq] at hk ⊢⟩
  · simp

/-- An entry of another key survives a write. -/
theorem mem_mapSet_of_ne {m : List (String × α)} {k : String} {v : α} {e : String × α} (he : e ∈ m) (hk : e.1 ≠ k) :
    e ∈ mapSet m k v := by
  unfold mapSet
  split
  · exact List.mem_map.mpr ⟨e, he, by simp [hk]⟩
  · exact List.mem_append_left _ he

/-- The keys after a write: unchanged, or the new key added last. -/
theorem keys_mapSet (m : List (String × α)) (k : String) (v : α) :
    (mapSet m k v).map (·.1) = if k ∈ m.map (·.1) then m.map (·.1) else m.map (·.1) ++ [k] := by
  unfold mapSet
  by_cases h : k ∈ m.map (·.1)
  · have : m.any (fun e => e.1 == k) = true := by
      obtain ⟨e, he, rfl⟩ := List.mem_map.mp h
      exact List.any_eq_true.mpr ⟨e, he, by simp⟩
    simp only [this, if_true, h, List.map_map]
    exact List.map_congr_left fun e _ => by by_cases hk : e.1 = k <;> simp [hk]
  · have : m.any (fun e => e.1 == k) = false := by
      simp only [List.any_eq_false, beq_iff_eq]
      exact fun e he hk => h (List.mem_map.mpr ⟨e, he, hk⟩)
    simp [this, h]

/-- A write keeps the keys of a map distinct. -/
theorem nodup_keys_mapSet {m : List (String × α)} (h : (m.map (·.1)).Nodup) (k : String) (v : α) :
    ((mapSet m k v).map (·.1)).Nodup := by
  rw [keys_mapSet]
  split
  · exact h
  · rename_i hk
    exact List.nodup_append.mpr ⟨h, List.nodup_singleton k, by simpa using hk⟩

end MapAux

/-- What a rule resolves to in the loop of `BuildConfigFromMetadata`: its endpoints and health check, or `none` when the
loop `continue`s (the rule's service is nil or inactive, or its container gives no endpoint). A nil container panics in
`getContainerEndpoint`. -/
def resolveRule (lbc : LoadBalancerController) (drain : Bool) (fuel : Nat)
    (envUUID selfHostUUID localServicePreference : String) (rule : PortRule) :
    Except Fault (Option (List Endpoint × HealthCheck)) :=
  if rule.service ≠ "" then do
    match ← lbc.metaFetcher.getService rule.service with
    | none => pure none
    | some service =>
      if !isActiveService service then pure none
      else do
        let eps ← getServiceEndpoints lbc.metaFetcher drain fuel service rule.targetPort selfHostUUID
          localServicePreference
        pure (some (eps, service.healthCheck))
  else do
    match ← lbc.metaFetcher.getContainer envUUID rule.container with
    | none => .error (.panic "runtime error: invalid memory address or nil pointer dereference")
    | some container =>
      match getContainerEndpoint drain container rule.targetPort selfHostUUID localServicePreference with
      | none => pure none
      | some (ep, _) => pure (some ([ep], container.healthCheck))

/-- The match condition of a rule: comparator, hostname and path. Both are cleared for a protocol other than http, https
and sni; a hostname of more than two bytes loses a leading `*` (comparator end), or else a trailing `*` (comparator beg). -/
def normalizeRule (rule : PortRule) : RuleComparator × String × String :=
  let httpish :=
    equalFold rule.protocol HTTPSProto || equalFold rule.protocol HTTPProto || equalFold rule.protocol SNIProto
  let path := if httpish then rule.path else ""
  let hostname := if httpish then rule.hostname else ""
  if hostname.utf8ByteSize > 2 then
    if hasPrefix hostname "*" then (.endRuleComparator, String.mk (hostname.data.drop 1), path)
    else if hasSuffix hostname "*" then (.begRuleComparator, String.mk hostname.data.dropLast, path)
    else (.eqRuleComparator, hostname, path)
  else (.eqRuleComparator, hostname, path)

/-- `pathUUID`, the key `fmt.Sprintf("%v_%s_%s", rule.SourcePort, hostname, path)` of a backend. -/
def pathUUID (sourcePort : Int) (hostname path : String) : String := itoa sourcePort ++ "_" ++ hostname ++ "_" ++ path

/-- The key of the backend a rule joins. -/
def PortRule.key (rule : PortRule) : String := pathUUID rule.sourcePort (normalizeRule rule).2.1 (normalizeRule rule).2.2

/-- A frontend while the loop builds it: its backends are pointers into `allBe`, by key. -/
structure Frontend where
  name : String
  port : Int
  protocol : String
  backendServices : List String

/-- The three maps of the rule loop. -/
structure BuildState where
  frontendsMap : List (String × Frontend)
  allBe : String → Option BackendService
  allEps : String → List String

/-- The maps before the first rule. -/
def BuildState.empty : BuildState := ⟨[], fun _ => none, fun _ => []⟩

/-- The merge loop: each endpoint whose IP is not yet in the backend's IP set joins the backend, with the rule's weight,
and its IP joins the set. -/
def mergeEndpoints (epMap : List String) (weight : String) : List Endpoint → List String × List Endpoint
  | [] => (epMap, [])
  | ep :: eps =>
    if ep.ip ∈ epMap then mergeEndpoints epMap weight eps
    else
      let r := mergeEndpoints (ep.ip :: epMap) weight eps
      (r.1, { ep with weight := weight } :: r.2)

namespace MergeAux

/-- The IP set after the merge: the set before, and the IPs of the endpoints that joined. -/
theorem mem_mergeEndpoints_fst (m : List String) (w : String) (eps : List Endpoint) (ip : String) :
    ip ∈ (mergeEndpoints m w eps).1 ↔ ip ∈ m ∨ ip ∈ (mergeEndpoints m w eps).2.map (·.ip) := by
  induction eps generalizing m with
  | nil => simp [mergeEndpoints]
  | cons ep eps ih =>
    simp only [mergeEndpoints]
    split
    · exact ih m
    · rw [ih]
      simp only [List.mem_cons, List.map_cons]
      tauto

/-- Every endpoint merged has its IP in the set before or among the endpoints that joined. -/
theorem mergeEndpoints_cover (m : List String) (w : String) (eps : List Endpoint) :
    ∀ ep ∈ eps, ep.ip ∈ m ∨ ep.ip ∈ (mergeEndpoints m w eps).2.map (·.ip) := by
  intro a ha
  rw [← mem_mergeEndpoints_fst]
  induction eps generalizing m with
  | nil => cases ha
  | cons ep eps ih =>
    simp only [mergeEndpoints]
    split
    · rcases List.mem_cons.mp ha with rfl | ha
      · exact (mem_mergeEndpoints_fst _ _ _ _).mpr (.inl ‹_›)
      · exact ih m ha
    · rcases List.mem_cons.mp ha with rfl | ha
      · exact (mem_mergeEndpoints_fst _ _ _ _).mpr (.inl (List.mem_cons_self _ _))
      · exact ih _ ha

/-- An endpoint that joined is one of the endpoints merged, with the rule's weight. -/
theorem mergeEndpoints_snd (m : List String) (w : String) (eps : List Endpoint) :
    ∀ a ∈ (mergeEndpoints m w eps).2, ∃ e ∈ eps, a = { e with weight := w } := by
  induction eps generalizing m with
  | nil => simp [mergeEndpoints]
  | cons ep eps ih =>
    intro a ha
    simp only [mergeEndpoints] at ha
    split at ha
    · obtain ⟨e, he, rfl⟩ := ih m a ha
      exact ⟨e, List.mem_cons_of_mem _ he, rfl⟩
    · rcases List.mem_cons.mp ha with rfl | ha
      · exact ⟨ep, List.mem_cons_self _ _, rfl⟩
      · obtain ⟨e, he, rfl⟩ := ih _ a ha
        exact ⟨e, List.mem_cons_of_mem _ he, rfl⟩

/-- The endpoints that joined have distinct IPs, none of them in the set before. -/
theorem mergeEndpoints_fresh (m : List String) (w : String) (eps : List Endpoint) :
    ((mergeEndpoints m w eps).2.map (·.ip)).Nodup ∧ ∀ a ∈ (mergeEndpoints m w eps).2, a.ip ∉ m := by
  induction eps generalizing m with
  | nil => simp [mergeEndpoints]
  | cons ep eps ih =>
    simp only [mergeEndpoints]
    split
    · exact ih m
    · rename_i hn
      obtain ⟨hnd, hfresh⟩ := ih (ep.ip :: m)
      refine ⟨List.nodup_cons.mpr ⟨fun h => ?_, hnd⟩, fun a ha => ?_⟩
      · obtain ⟨a, ha, hip⟩ := List.mem_map.mp h
        exact hfresh a ha (hip ▸ List.mem_cons_self _ _)
      · rcases List.mem_cons.mp ha with rfl | ha
        · exact hn
        · exact fun h => hfresh a ha (List.mem_cons_of_mem _ h)

end MergeAux

/-- The backend the loop creates for a rule: host, path and comparator of its match condition, the rule's target port,
protocol and priority, named by `BackendName` or else by the key with every run of non-alphanumerics replaced by `_`; every
endpoint takes the rule's weight. -/
def newBackend (rule : PortRule) (eps : List Endpoint) (hc : HealthCheck) : BackendService :=
  { uuid := if rule.backendName = "" then replaceNonAlnum rule.key else rule.backendName,
    host := (normalizeRule rule).2.1, path := (normalizeRule rule).2.2, port := rule.targetPort, protocol := rule.protocol,
    ruleComparator := (normalizeRule rule).1, endpoints := eps.map fun ep => { ep with weight := rule.weight },
    healthCheck := hc, priority := rule.priority }

/-- What the loop does with a rule that resolved to `eps` and `hc`: the rule's frontend is the one of its port's numeral,
or a new one with the rule's protocol; the endpoints merge into the backend of the rule's key, or a new backend is created
under the key and appended to the frontend. -/
def BuildState.addRule (st : BuildState) (rule : PortRule) (eps : List Endpoint) (hc : HealthCheck) : BuildState :=
  let name := itoa rule.sourcePort
  let frontend := (mapGet st.frontendsMap name).getD
    { name, port := rule.sourcePort, protocol := rule.protocol, backendServices := [] }
  match st.allBe rule.key with
  | some backend =>
    let (epMap, added) := mergeEndpoints (st.allEps rule.key) rule.weight eps
    { frontendsMap := mapSet st.frontendsMap name frontend
      allBe := Function.update st.allBe rule.key (some { backend with endpoints := backend.endpoints ++ added })
      allEps := Function.update st.allEps rule.key epMap }
  | none =>
    { frontendsMap :=
        mapSet st.frontendsMap name { frontend with backendServices := frontend.backendServices ++ [rule.key] }
      allBe := Function.update st.allBe rule.key (some (newBackend rule eps hc))
      allEps := Function.update st.allEps rule.key (eps.map (·.ip)) }

/-- The frontend a rule goes to, before its backend is added: the one of its port's numeral, or a new one. -/
def BuildState.frontendOf (st : BuildState) (rule : PortRule) : Frontend :=
  (mapGet st.frontendsMap (itoa rule.sourcePort)).getD
    { name := itoa rule.sourcePort, port := rule.sourcePort, protocol := rule.protocol, backendServices := [] }

/-- The backends after a rule: the rule's key holds the merged or the new backend, every other key is unchanged. -/
theorem BuildState.addRule_allBe (st : BuildState) (rule : PortRule) (eps : List Endpoint) (hc : HealthCheck) (k : String) :
    (st.addRule rule eps hc).allBe k =
      if k = rule.key then
        some ((st.allBe rule.key).elim (newBackend rule eps hc) fun b =>
          { b with endpoints := b.endpoints ++ (mergeEndpoints (st.allEps rule.key) rule.weight eps).2 })
      else st.allBe k := by
  unfold BuildState.addRule
  cases h : st.allBe rule.key <;> simp [Function.update_apply, h]

/-- The IP sets after a rule. -/
theorem BuildState.addRule_allEps (st : BuildState) (rule : PortRule) (eps : List Endpoint) (hc : HealthCheck) (k : String) :
    (st.addRule rule eps hc).allEps k =
      if k = rule.key then
        (if (st.allBe rule.key).isSome then (mergeEndpoints (st.allEps rule.key) rule.weight eps).1 else eps.map (·.ip))
      else st.allEps k := by
  unfold BuildState.addRule
  cases h : st.allBe rule.key <;> simp [Function.update_apply, h]

/-- The frontends after a rule: the rule's frontend is written back, with the rule's key appended when its backend is new. -/
theorem BuildState.addRule_frontendsMap (st : BuildState) (rule : PortRule) (eps : List Endpoint) (hc : HealthCheck) :
    (st.addRule rule eps hc).frontendsMap =
      mapSet st.frontendsMap (itoa rule.sourcePort)
        (if (st.allBe rule.key).isSome then st.frontendOf rule
         else { st.frontendOf rule with backendServices := (st.frontendOf rule).backendServices ++ [rule.key] }) := by
  unfold BuildState.addRule BuildState.frontendOf
  cases h : st.allBe rule.key <;> simp [h]

/-- One turn of the rule loop of `BuildConfigFromMetadata`: a rule on a source port below 1 is skipped, the others are
resolved and added. -/
def processRule (lbc : LoadBalancerController) (drain : Bool) (fuel : Nat)
    (envUUID selfHostUUID localServicePreference : String) (st : BuildState) (rule : PortRule) :
    Except Fault BuildState :=
  if rule.sourcePort < 1 then pure st
  else do
    match ← resolveRule lbc drain fuel envUUID selfHostUUID localServicePreference rule with
    | none => pure st
    | some (eps, hc) => pure (st.addRule rule eps hc)

/-- A frontend of the config: its backends read through their pointers, sorted. -/
def BuildState.readFrontend (st : BuildState) (f : Frontend) : FrontendService :=
  { name := f.name, port := f.port, protocol := f.protocol,
    backendServices := sortSort BackendService.less (f.backendServices.filterMap st.allBe) }

/-- The frontends of the config: the entries of `frontendsMap` in one order of its `range`, each with its backends sorted,
sorted by port. -/
def BuildState.frontends (st : BuildState) : List FrontendService :=
  sortSort FrontendService.less (st.frontendsMap.map fun e => st.readFrontend e.2)

/-- `BuildConfigFromMetadata`: the certificates, the rule loop, the frontends collected and sorted, and the provider's
`ProcessCustomConfig`; one config, returned in a list. `fuel` bounds the alias recursion of every rule. -/
def buildConfigFromMetadata (lbc : LoadBalancerController) (drain : Bool) (fuel : Nat)
    (lbName envUUID selfHostUUID localServicePreference : String) (lbMeta : Option LBMetadata) :
    Except Fault (List LoadBalancerConfig) := do
  let lbMeta := lbMeta.getD {}
  let defCerts ← liftError (lbc.certFetcher.fetchCertificates lbMeta true)
  let defaultCert := defCerts.head?
  let alternateCerts ← liftError (lbc.certFetcher.fetchCertificates lbMeta false)
  let certs := defaultCert.toList ++ alternateCerts
  let st ← lbMeta.portRules.foldlM (processRule lbc drain fuel envUUID selfHostUUID localServicePreference)
    BuildState.empty
  let lbConfig : LoadBalancerConfig :=
    { name := lbName, frontendServices := st.frontends, certs, defaultCert, stickinessPolicy := lbMeta.stickinessPolicy }
  liftError (lbc.lbProvider.processCustomConfig lbConfig lbMeta.config)
  pure [lbConfig]

/-! ## The rule loop as a fold -/

/-- Adding resolved rules one after the other. -/
def BuildState.addAll (st : BuildState) (l : List (PortRule × List Endpoint × HealthCheck)) : BuildState :=
  l.foldl (fun st x => st.addRule x.1 x.2.1 x.2.2) st

section Loop

variable (lbc : LoadBalancerController) (drain : Bool) (fuel : Nat) (envUUID selfHostUUID localServicePreference : String)

/-- A rule the loop keeps, with what it resolved to: its source port is at least 1 and it resolves. -/
def Survives (rule : PortRule) (eps : List Endpoint) (hc : HealthCheck) : Prop :=
  1 ≤ rule.sourcePort ∧ resolveRule lbc drain fuel envUUID selfHostUUID localServicePreference rule = .ok (some (eps, hc))

/-- The rules the loop keeps, in order, with what they resolved to. -/
def survivors (rules : List PortRule) : List (PortRule × List Endpoint × HealthCheck) :=
  rules.filterMap fun rule =>
    if rule.sourcePort < 1 then none
    else match resolveRule lbc drain fuel envUUID selfHostUUID localServicePreference rule with
      | .ok (some (eps, hc)) => some (rule, eps, hc)
      | _ => none

variable {lbc drain fuel envUUID selfHostUUID localServicePreference}

theorem mem_survivors {rules : List PortRule} {x : PortRule × List Endpoint × HealthCheck} :
    x ∈ survivors lbc drain fuel envUUID selfHostUUID localServicePreference rules ↔
      x.1 ∈ rules ∧ Survives lbc drain fuel envUUID selfHostUUID localServicePreference x.1 x.2.1 x.2.2 := by
  obtain ⟨r, eps, hc⟩ := x
  simp only [survivors, List.mem_filterMap, Survives]
  constructor
  · rintro ⟨r', hr', h⟩
    split at h
    · cases h
    · split at h
      · simp only [Option.some.injEq, Prod.mk.injEq] at h
        obtain ⟨rfl, rfl, rfl⟩ := h
        exact ⟨hr', by omega, by assumption⟩
      · cases h
  · rintro ⟨hr, hp, h⟩
    exact ⟨r, hr, by simp only [show ¬ r.sourcePort < 1 by omega, if_false, h]⟩

/-- The loop returned a state: it is the fold of `addRule` over the rules that survive. -/
theorem foldlM_processRule {rules : List PortRule} {st0 st : BuildState}
    (h : rules.foldlM (processRule lbc drain fuel envUUID selfHostUUID localServicePreference) st0 = .ok st) :
    st = st0.addAll (survivors lbc drain fuel envUUID selfHostUUID localServicePreference rules) := by
  induction rules generalizing st0 with
  | nil => exact (Except.ok.inj h).symm
  | cons r rs ih =>
    rw [List.foldlM_cons] at h
    obtain ⟨st1, h1, h2⟩ := GoAux.bind_eq_ok h
    rw [ih h2]
    simp only [processRule] at h1
    simp only [survivors, List.filterMap_cons]
    split at h1
    · rename_i hp
      cases h1
      simp only [hp, if_true]
    · rename_i hp
      obtain ⟨o, hres, h1⟩ := GoAux.bind_eq_ok h1
      simp only [hp, if_false, hres]
      rcases o with _ | ⟨eps, hc⟩ <;> cases h1 <;> rfl

/-- `BuildConfigFromMetadata` returned: the loop returned a state, and the one config holds its frontends. -/
theorem buildConfigFromMetadata_ok {lbName : String} {lbMeta : Option LBMetadata} {cfgs : List LoadBalancerConfig}
    (h : buildConfigFromMetadata lbc drain fuel lbName envUUID selfHostUUID localServicePreference lbMeta = .ok cfgs) :
    ∃ st, (lbMeta.getD {}).portRules.foldlM (processRule lbc drain fuel envUUID selfHostUUID localServicePreference)
        BuildState.empty = .ok st ∧ ∃ cfg, cfgs = [cfg] ∧ cfg.frontendServices = st.frontends := by
  simp only [buildConfigFromMetadata] at h
  obtain ⟨_, -, h⟩ := GoAux.bind_eq_ok h
  obtain ⟨_, -, h⟩ := GoAux.bind_eq_ok h
  obtain ⟨st, hst, h⟩ := GoAux.bind_eq_ok h
  obtain ⟨_, -, h⟩ := GoAux.bind_eq_ok h
  exact ⟨st, hst, _, (Except.ok.inj h).symm, rfl⟩

end Loop

end RancherLb
