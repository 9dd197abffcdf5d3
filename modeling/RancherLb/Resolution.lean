import RancherLb.Config

/-!
# The alias recursion: fuel, termination and link order

`getServiceEndpoints` recurses through `getAliasServiceEndpoints` into every service an alias links to, with no bound of its
own and no set of the services visited. The model's fuel makes that recursion a total function; the results here say how
the fuel relates to the Go function. A result that is not `Fault.outOfFuel` stays the result at every larger fuel
(`getServiceEndpoints_mono`), so it is the Go function's result. The recursion ends when the links relation is
well-founded from the service (`getServiceEndpoints_terminates`), and an alias that links to itself runs out of every fuel:
the Go function does not return on it.
-/

namespace RancherLb

open Go

/-- An alias links to `s'`: the service is of kind `dnsService` (and not `externalService`, the test made first), and the
fetcher finds `s'` for one of its links. -/
def LinksTo (mf : MetadataFetcher) (s' s : Service) : Prop :=
  equalFold s.kind "externalService" = false ∧ equalFold s.kind "dnsService" = true ∧
    ∃ link ∈ s.links, mf.getService link = .ok (some s')

namespace ResolutionAux

variable {mf : MetadataFetcher} {drain : Bool} {targetPort : Int} {selfHostUUID localServicePreference : String}

/-- A step that does not run out of fuel with one resolver is the same step with a resolver that agrees with it wherever it
does not run out. -/
theorem aliasStep_congr {f g : Service → Except Fault (List Endpoint)}
    (hfg : ∀ s, f s ≠ .error .outOfFuel → g s = f s) {eps : List Endpoint} {link : String}
    (h : aliasStep mf f eps link ≠ .error .outOfFuel) : aliasStep mf g eps link = aliasStep mf f eps link := by
  refine GoAux.bind_congr_ne h fun o _ ho => ?_
  cases o with
  | none => rfl
  | some s => exact congrArg (· >>= _) (hfg s (GoAux.ne_of_bind_ne ho))

/-- The alias loop, likewise. -/
theorem foldlM_aliasStep_congr {f g : Service → Except Fault (List Endpoint)}
    (hfg : ∀ s, f s ≠ .error .outOfFuel → g s = f s) :
    ∀ (links : List String) (acc : List Endpoint), links.foldlM (aliasStep mf f) acc ≠ .error .outOfFuel →
      links.foldlM (aliasStep mf g) acc = links.foldlM (aliasStep mf f) acc
  | [], _, _ => rfl
  | link :: links, acc, h => by
    simp only [List.foldlM_cons] at h ⊢
    rw [aliasStep_congr hfg (GoAux.ne_of_bind_ne h)]
    exact GoAux.bind_congr_ne h fun acc' _ hne => foldlM_aliasStep_congr hfg links acc' hne

/-- The alias loop does not run out of fuel when no linked service's resolution does. -/
theorem foldlM_aliasStep_ne {f : Service → Except Fault (List Endpoint)} :
    ∀ (links : List String), (∀ link ∈ links, ∀ s, mf.getService link = .ok (some s) → f s ≠ .error .outOfFuel) →
      ∀ acc, links.foldlM (aliasStep mf f) acc ≠ .error .outOfFuel
  | [], _, _ => Except.noConfusion
  | link :: links, h, acc => by
    rw [List.foldlM_cons]
    refine GoAux.bind_ne_outOfFuel ?_ fun acc' _ =>
      foldlM_aliasStep_ne links (fun l hl => h l (List.mem_cons_of_mem _ hl)) acc'
    refine GoAux.bind_ne_outOfFuel (mf.getService_ne_outOfFuel link) fun o hs => ?_
    cases o with
    | none => intro h; cases h
    | some s => exact GoAux.bind_ne_outOfFuel (h link (List.mem_cons_self _ _) s hs) fun _ _ h => by cases h

/-- One call, by the kind of the service; the alias recursion gets one unit of fuel less. -/
theorem getServiceEndpoints_succ (n : Nat) (svc : Service) :
    getServiceEndpoints mf drain (n + 1) svc targetPort selfHostUUID localServicePreference =
      (if equalFold svc.kind "externalService" then pure (getExternalServiceEndpoints svc targetPort)
        else if equalFold svc.kind "dnsService" then
          getAliasServiceEndpoints mf
            (fun s => getServiceEndpoints mf drain n s targetPort selfHostUUID localServicePreference) svc
        else pure (getRegularServiceEndpoints drain svc targetPort selfHostUUID localServicePreference)) >>=
        fun eps => pure (sortSort Endpoint.less eps) := by
  rw [getServiceEndpoints]
  split
  · rfl
  · split <;> rfl

/-- One more unit of fuel gives the same result, when the result is not `outOfFuel`. -/
theorem getServiceEndpoints_succ_of : ∀ (n : Nat) (svc : Service),
    getServiceEndpoints mf drain n svc targetPort selfHostUUID localServicePreference ≠ .error .outOfFuel →
      getServiceEndpoints mf drain (n + 1) svc targetPort selfHostUUID localServicePreference =
        getServiceEndpoints mf drain n svc targetPort selfHostUUID localServicePreference
  | 0, _, h => absurd rfl h
  | n + 1, svc, h => by
    rw [getServiceEndpoints_succ] at h ⊢
    rw [getServiceEndpoints_succ n]
    split
    · rfl
    · split
      · rename_i hx hd
        simp only [hx, hd, if_false, if_true, Bool.false_eq_true] at h
        rw [getAliasServiceEndpoints,
          foldlM_aliasStep_congr (fun s hs => getServiceEndpoints_succ_of n s hs) _ _ (GoAux.ne_of_bind_ne h)]
        rfl
      · rfl

/-- A result that is not `outOfFuel` is the result at every larger fuel. -/
theorem getServiceEndpoints_mono {n m : Nat} (hle : n ≤ m) {svc : Service}
    (h : getServiceEndpoints mf drain n svc targetPort selfHostUUID localServicePreference ≠ .error .outOfFuel) :
    getServiceEndpoints mf drain m svc targetPort selfHostUUID localServicePreference =
      getServiceEndpoints mf drain n svc targetPort selfHostUUID localServicePreference := by
  obtain ⟨d, rfl⟩ : ∃ d, m = n + d := ⟨m - n, by omega⟩
  induction d with
  | zero => rfl
  | succ d ih => rw [← Nat.add_assoc, getServiceEndpoints_succ_of _ _ (ih (by omega) ▸ h), ih (by omega)]

/-- Finitely many things, each with a fuel that suffices, and a property kept by more fuel: one fuel suffices for all. -/
theorem exists_fuel_forall_mem {α : Type} (P : α → Nat → Prop) (hmono : ∀ a n m, n ≤ m → P a n → P a m) :
    ∀ (l : List α), (∀ a ∈ l, ∃ n, P a n) → ∃ N, ∀ a ∈ l, P a N
  | [], _ => ⟨0, by simp⟩
  | a :: l, h => by
    obtain ⟨n, hn⟩ := h a (List.mem_cons_self _ _)
    obtain ⟨N, hN⟩ := exists_fuel_forall_mem P hmono l fun b hb => h b (List.mem_cons_of_mem _ hb)
    refine ⟨max n N, fun b hb => ?_⟩
    rcases List.mem_cons.mp hb with rfl | hb
    · exact hmono _ _ _ (le_max_left _ _) hn
    · exact hmono _ _ _ (le_max_right _ _) (hN b hb)

/-- The recursion ends when the links relation is well-founded from the service: some fuel gives a result that is not
`outOfFuel`. -/
theorem getServiceEndpoints_terminates {svc : Service} (hacc : Acc (LinksTo mf) svc) :
    ∃ n, getServiceEndpoints mf drain n svc targetPort selfHostUUID localServicePreference ≠ .error .outOfFuel := by
  induction hacc with
  | intro s _ ih =>
    by_cases hk : equalFold s.kind "externalService" = false ∧ equalFold s.kind "dnsService" = true
    · obtain ⟨N, hN⟩ := exists_fuel_forall_mem
        (fun link n => ∀ s', mf.getService link = .ok (some s') →
          getServiceEndpoints mf drain n s' targetPort selfHostUUID localServicePreference ≠ .error .outOfFuel)
        (fun _ n m hle h s' hs => (getServiceEndpoints_mono hle (h s' hs)).symm ▸ h s' hs) s.links
        (fun link hl => by
          cases hs : mf.getService link with
          | error e => exact ⟨0, fun s' h => by rw [hs] at h; cases h⟩
          | ok o =>
            cases o with
            | none => exact ⟨0, fun s' h => by rw [hs] at h; cases h⟩
            | some s' =>
              obtain ⟨n, hn⟩ := ih s' ⟨hk.1, hk.2, link, hl, hs⟩
              exact ⟨n, fun s'' h => by rw [hs] at h; cases h; exact hn⟩)
      refine ⟨N + 1, ?_⟩
      rw [getServiceEndpoints_succ]
      simp only [hk.1, hk.2, if_true, Bool.false_eq_true, if_false]
      exact GoAux.bind_ne_outOfFuel (foldlM_aliasStep_ne s.links hN []) fun _ _ h => by cases h
    · refine ⟨1, ?_⟩
      rw [getServiceEndpoints_succ]
      split
      · exact Except.noConfusion
      · split
        · rename_i hx hd
          exact absurd ⟨by simpa using hx, hd⟩ hk
        · exact Except.noConfusion

/-- What one link adds to an alias's endpoints: those of the service the fetcher finds, none for a nil one. -/
def aliasPart (mf : MetadataFetcher) (f : Service → Except Fault (List Endpoint)) (link : String) : List Endpoint :=
  match mf.getService link with
  | .ok (some s) => match f s with
    | .ok r => r
    | .error _ => []
  | _ => []

/-- An alias loop that succeeds appends, link after link, the endpoints of every service found: no test of the service's
state is made. -/
theorem foldlM_aliasStep_eq {f : Service → Except Fault (List Endpoint)} :
    ∀ (links : List String) (acc eps : List Endpoint), links.foldlM (aliasStep mf f) acc = .ok eps →
      eps = acc ++ links.flatMap (aliasPart mf f)
  | [], acc, eps, h => by cases h; simp
  | link :: links, acc, eps, h => by
    rw [List.foldlM_cons] at h
    obtain ⟨acc', hstep, hrest⟩ := GoAux.bind_eq_ok h
    rw [foldlM_aliasStep_eq links acc' eps hrest, List.flatMap_cons, ← List.append_assoc]
    congr 1
    unfold aliasStep at hstep
    obtain ⟨o, hs, hstep⟩ := GoAux.bind_eq_ok hstep
    unfold aliasPart
    rw [hs]
    cases o with
    | none => cases hstep; simp
    | some s =>
      obtain ⟨r, hf, hstep⟩ := GoAux.bind_eq_ok hstep
      cases hstep
      simp [hf]

/-- Two orders of the same links give, when both succeed, the same endpoints in two orders. -/
theorem foldlM_aliasStep_perm {f : Service → Except Fault (List Endpoint)} {links₁ links₂ : List String}
    (hp : links₁.Perm links₂) {eps₁ eps₂ : List Endpoint} (h₁ : links₁.foldlM (aliasStep mf f) [] = .ok eps₁)
    (h₂ : links₂.foldlM (aliasStep mf f) [] = .ok eps₂) : eps₁.Perm eps₂ := by
  rw [foldlM_aliasStep_eq _ _ _ h₁, foldlM_aliasStep_eq _ _ _ h₂]
  exact (hp.flatMap_right _).append_left []

variable {lbc : LoadBalancerController} {envUUID : String}

/-- Resolving a rule at a fuel that suffices gives the same result at every larger fuel. -/
theorem resolveRule_mono {n m : Nat} (hle : n ≤ m) {rule : PortRule}
    (h : resolveRule lbc drain n envUUID selfHostUUID localServicePreference rule ≠ .error .outOfFuel) :
    resolveRule lbc drain m envUUID selfHostUUID localServicePreference rule =
      resolveRule lbc drain n envUUID selfHostUUID localServicePreference rule := by
  unfold resolveRule at h ⊢
  split
  · rename_i hsvc
    rw [if_pos hsvc] at h
    refine GoAux.bind_congr_ne h fun o _ ho => ?_
    cases o with
    | none => rfl
    | some svc =>
      dsimp only at ho ⊢
      split
      · rfl
      · rename_i hact
        rw [if_neg hact] at ho
        rw [getServiceEndpoints_mono hle (GoAux.ne_of_bind_ne ho)]
  · rfl

/-- A rule resolves at some fuel when the links relation is well-founded. -/
theorem resolveRule_terminates (hwf : WellFounded (LinksTo lbc.metaFetcher)) (rule : PortRule) :
    ∃ n, resolveRule lbc drain n envUUID selfHostUUID localServicePreference rule ≠ .error .outOfFuel := by
  by_cases hsvc : rule.service ≠ ""
  · -- the fuel the service found needs, if one is found
    obtain ⟨n, hn⟩ : ∃ n, ∀ svc, lbc.metaFetcher.getService rule.service = .ok (some svc) →
        getServiceEndpoints lbc.metaFetcher drain n svc rule.targetPort selfHostUUID localServicePreference ≠
          .error .outOfFuel := by
      rcases hs : lbc.metaFetcher.getService rule.service with _ | _ | svc
      · exact ⟨0, fun _ h => by cases h⟩
      · exact ⟨0, fun _ h => by cases h⟩
      · exact (getServiceEndpoints_terminates (hwf.apply svc)).imp fun n hn _ h => by cases h; exact hn
    refine ⟨n, ?_⟩
    rw [resolveRule, if_pos hsvc]
    refine GoAux.bind_ne_outOfFuel (lbc.metaFetcher.getService_ne_outOfFuel _) fun o hs => ?_
    split
    · intro h; cases h
    · split
      · intro h; cases h
      · exact GoAux.bind_ne_outOfFuel (hn _ hs) fun _ _ h => by cases h
  · refine ⟨0, ?_⟩
    rw [resolveRule, if_neg hsvc]
    refine GoAux.bind_ne_outOfFuel (lbc.metaFetcher.getContainer_ne_outOfFuel _ _) fun o _ => ?_
    split
    · intro h; cases h
    · split <;> (intro h; cases h)

/-- The rule loop at a fuel where every rule resolves does not run out of fuel. -/
theorem foldlM_processRule_ne {n : Nat} :
    ∀ (rules : List PortRule),
      (∀ r ∈ rules, resolveRule lbc drain n envUUID selfHostUUID localServicePreference r ≠ .error .outOfFuel) →
      ∀ st, rules.foldlM (processRule lbc drain n envUUID selfHostUUID localServicePreference) st ≠ .error .outOfFuel
  | [], _, _ => Except.noConfusion
  | r :: rules, h, st => by
    rw [List.foldlM_cons]
    refine GoAux.bind_ne_outOfFuel ?_ fun st' _ =>
      foldlM_processRule_ne rules (fun r' hr => h r' (List.mem_cons_of_mem _ hr)) st'
    unfold processRule
    split
    · intro h; cases h
    · exact GoAux.bind_ne_outOfFuel (h r (List.mem_cons_self _ _)) fun o _ => by split <;> (intro h; cases h)

/-- The rule loop at a larger fuel is the loop at a fuel where every rule resolves. -/
theorem foldlM_processRule_mono {n m : Nat} (hle : n ≤ m) :
    ∀ (rules : List PortRule),
      (∀ r ∈ rules, resolveRule lbc drain n envUUID selfHostUUID localServicePreference r ≠ .error .outOfFuel) →
      ∀ st, rules.foldlM (processRule lbc drain m envUUID selfHostUUID localServicePreference) st =
        rules.foldlM (processRule lbc drain n envUUID selfHostUUID localServicePreference) st
  | [], _, _ => rfl
  | r :: rules, h, st => by
    have hr := resolveRule_mono hle (h r (List.mem_cons_self _ _))
    have ih := foldlM_processRule_mono hle rules fun r' hr' => h r' (List.mem_cons_of_mem _ hr')
    simp only [List.foldlM_cons, processRule, hr, ih]

end ResolutionAux

open ResolutionAux

/-- When the links relation of the snapshot is well-founded (no alias cycle, no endless chain of links),
`BuildConfigFromMetadata` terminates for every port-rule list: some fuel gives a result that is not `outOfFuel`, and every
larger fuel gives the same result. -/
theorem buildConfigFromMetadata_terminates {lbc : LoadBalancerController} {drain : Bool}
    {lbName envUUID selfHostUUID localServicePreference : String} {lbMeta : Option LBMetadata}
    (hwf : WellFounded (LinksTo lbc.metaFetcher)) :
    ∃ fuel, buildConfigFromMetadata lbc drain fuel lbName envUUID selfHostUUID localServicePreference lbMeta ≠
        .error .outOfFuel ∧
      ∀ fuel' ≥ fuel, buildConfigFromMetadata lbc drain fuel' lbName envUUID selfHostUUID localServicePreference lbMeta =
        buildConfigFromMetadata lbc drain fuel lbName envUUID selfHostUUID localServicePreference lbMeta := by
  obtain ⟨N, hN⟩ := exists_fuel_forall_mem
    (fun r n => resolveRule lbc drain n envUUID selfHostUUID localServicePreference r ≠ .error .outOfFuel)
    (fun _ _ _ hle h => by dsimp only; rw [resolveRule_mono hle h]; exact h) (lbMeta.getD {}).portRules
    (fun r _ => resolveRule_terminates hwf r)
  refine ⟨N, ?_, fun fuel' hle => ?_⟩
  · simp only [buildConfigFromMetadata]
    refine GoAux.bind_ne_outOfFuel (GoAux.liftError_ne_outOfFuel _) fun _ _ => ?_
    refine GoAux.bind_ne_outOfFuel (GoAux.liftError_ne_outOfFuel _) fun _ _ => ?_
    refine GoAux.bind_ne_outOfFuel (foldlM_processRule_ne _ hN _) fun _ _ => ?_
    exact GoAux.bind_ne_outOfFuel (GoAux.liftError_ne_outOfFuel _) fun _ _ h => by cases h
  · simp only [buildConfigFromMetadata, foldlM_processRule_mono hle _ hN]

theorem getService_snapshotClient {services : List Service} {cs : List Container} {link : String} {s : Service}
    (h : (snapshotLbc services cs).metaFetcher.getService link = .ok (some s)) : s ∈ services ∨ s = {} := by
  have getD_find_mem : ∀ {p : Service → Bool}, (services.find? p).getD {} ∈ services ∨ (services.find? p).getD {} = {} := by
    intro p
    cases hf : services.find? p with
    | none => exact .inr rfl
    | some s => exact .inl (List.mem_of_find?_eq_some hf)
  change RMetaFetcher.getService (snapshotClient services cs) link = .ok (some s) at h
  unfold RMetaFetcher.getService at h
  simp only [snapshotClient, liftError, Except.mapError, GoAux.ok_bind] at h
  split at h
  · split at h <;> (cases h; exact getD_find_mem)
  · cases h; exact getD_find_mem
  · unfold index at h
    split at h
    · split at h
      · cases h; exact getD_find_mem
      · cases h
    · cases h

/-- An alias `stack/alias` of `stack/old`. -/
def aliasService : Service :=
  { name := "alias", stackName := "stack", kind := "dnsService", state := "active", links := ["stack/old"] }

/-- A service `stack/old` being deactivated, its container still running at `10.0.0.7`. -/
def deactivatingService : Service :=
  { name := "old", stackName := "stack", state := "deactivating",
    containers := [{ name := "old-1", primaryIp := "10.0.0.7", state := "running" }] }

/-- In the snapshot of the alias and the service it links to, the links relation is well-founded: a lookup finds one of
the two or the zero service, the last two are no alias, and the alias's one link finds the deactivating service. -/
theorem linksTo_wellFounded_alias :
    WellFounded (LinksTo (snapshotLbc [aliasService, deactivatingService] []).metaFetcher) := by
  have hzero : Acc (LinksTo (snapshotLbc [aliasService, deactivatingService] []).metaFetcher) {} :=
    Acc.intro _ fun _ h => absurd h.2.1 (by decide)
  have hold : Acc (LinksTo (snapshotLbc [aliasService, deactivatingService] []).metaFetcher) deactivatingService :=
    Acc.intro _ fun _ h => absurd h.2.1 (by decide)
  have halias : Acc (LinksTo (snapshotLbc [aliasService, deactivatingService] []).metaFetcher) aliasService := by
    refine Acc.intro _ fun s ⟨_, _, link, hl, hs⟩ => ?_
    rw [show aliasService.links = ["stack/old"] from rfl, List.mem_singleton] at hl
    subst hl
    rw [show (snapshotLbc [aliasService, deactivatingService] []).metaFetcher.getService "stack/old" =
      .ok (some deactivatingService) from rfl] at hs
    cases hs
    exact hold
  refine ⟨fun s => Acc.intro s fun s' ⟨_, _, link, _, hs⟩ => ?_⟩
  rcases getService_snapshotClient hs with h | rfl
  · rcases List.mem_pair.mp h with rfl | rfl
    · exact halias
    · exact hold
  · exact hzero

theorem buildConfigFromMetadata_terminates_alias :
    WellFounded (LinksTo (snapshotLbc [aliasService, deactivatingService] []).metaFetcher) ∧
      ∃ fuel, buildConfigFromMetadata (snapshotLbc [aliasService, deactivatingService] []) false fuel "lb" "" "" "any"
          (some { portRules := [{ sourcePort := 80, protocol := "http", service := "stack/alias" }] }) ≠
          .error .outOfFuel ∧
        ∀ fuel' ≥ fuel, buildConfigFromMetadata (snapshotLbc [aliasService, deactivatingService] []) false fuel' "lb" ""
            "" "any" (some { portRules := [{ sourcePort := 80, protocol := "http", service := "stack/alias" }] }) =
          buildConfigFromMetadata (snapshotLbc [aliasService, deactivatingService] []) false fuel "lb" "" "" "any"
            (some { portRules := [{ sourcePort := 80, protocol := "http", service := "stack/alias" }] }) :=
  ⟨linksTo_wellFounded_alias, buildConfigFromMetadata_terminates linksTo_wellFounded_alias⟩

/-- An alias `stack/loop` whose one link names itself. -/
def loopService : Service := { name := "loop", stackName := "stack", kind := "dnsService", links := ["stack/loop"] }

/-- The alias runs out of every fuel: the Go recursion does not return on it. -/
theorem getServiceEndpoints_loop : ∀ n,
    getServiceEndpoints (snapshotLbc [loopService] []).metaFetcher false n loopService 0 "" "any" = .error .outOfFuel
  | 0 => rfl
  | n + 1 => by
    have hs : (snapshotLbc [loopService] []).metaFetcher.getService "stack/loop" = .ok (some loopService) := rfl
    rw [getServiceEndpoints_succ, if_neg (by decide), if_pos (by decide), getAliasServiceEndpoints]
    show (List.foldlM _ [] ["stack/loop"] >>= _) = _
    simp only [List.foldlM_cons, aliasStep, hs, GoAux.ok_bind, getServiceEndpoints_loop n, GoAux.error_bind]

/-- A rule on the self-linked alias: `BuildConfigFromMetadata` runs out of every fuel. -/
theorem buildConfigFromMetadata_loop_outOfFuel (fuel : Nat) :
    buildConfigFromMetadata (snapshotLbc [loopService] []) false fuel "lb" "" "" "any"
      (some { portRules := [{ sourcePort := 80, protocol := "http", service := "stack/loop" }] }) = .error .outOfFuel := by
  have hs : (snapshotLbc [loopService] []).metaFetcher.getService "stack/loop" = .ok (some loopService) := rfl
  have hr : resolveRule (snapshotLbc [loopService] []) false fuel "" "" "any"
      { sourcePort := 80, protocol := "http", service := "stack/loop" } = .error .outOfFuel := by
    rw [resolveRule, if_pos (by decide), hs, GoAux.ok_bind]
    dsimp only
    rw [if_neg (by decide), getServiceEndpoints_loop]
    rfl
  have hf : [{ sourcePort := 80, protocol := "http", service := "stack/loop" }].foldlM
      (processRule (snapshotLbc [loopService] []) false fuel "" "" "any") BuildState.empty = .error .outOfFuel := by
    rw [List.foldlM_cons, processRule, if_neg (by decide), hr]
    rfl
  simp only [buildConfigFromMetadata, Option.getD_some, hf]
  rfl

/-- No fuel makes `BuildConfigFromMetadata` return on a rule for the self-linked alias. -/
theorem buildConfigFromMetadata_loop_never_returns :
    ¬ ∃ fuel, buildConfigFromMetadata (snapshotLbc [loopService] []) false fuel "lb" "" "" "any"
      (some { portRules := [{ sourcePort := 80, protocol := "http", service := "stack/loop" }] }) ≠ .error .outOfFuel :=
  fun ⟨fuel, h⟩ => h (buildConfigFromMetadata_loop_outOfFuel fuel)

/-! ## Aliases -/

/-- An alias's endpoints include those of every service one of its links names, whatever that service's state. -/
theorem getServiceEndpoints_alias_mem {mf : MetadataFetcher} {drain : Bool} {n : Nat} {svc : Service} {targetPort : Int}
    {selfHostUUID localServicePreference : String} {eps : List Endpoint}
    (hk : equalFold svc.kind "externalService" = false) (hd : equalFold svc.kind "dnsService" = true)
    (h : getServiceEndpoints mf drain (n + 1) svc targetPort selfHostUUID localServicePreference = .ok eps)
    {link : String} (hl : link ∈ svc.links) {s : Service} (hs : mf.getService link = .ok (some s)) {r : List Endpoint}
    (hr : getServiceEndpoints mf drain n s targetPort selfHostUUID localServicePreference = .ok r) : ∀ ep ∈ r, ep ∈ eps := by
  rw [getServiceEndpoints_succ, hk, hd, if_neg Bool.false_ne_true, if_pos rfl] at h
  obtain ⟨eps₀, h₀, he⟩ := GoAux.bind_eq_ok h
  cases he
  intro ep hep
  rw [GoAux.mem_sortSort, foldlM_aliasStep_eq _ _ _ h₀, List.nil_append, List.mem_flatMap]
  exact ⟨link, hl, by simp only [aliasPart, hs, hr]; exact hep⟩

/-- A rule on the alias: the inactive service behind it gives the backend its endpoint. -/
theorem buildConfigFromMetadata_inactive_alias_target :
    isActiveService deactivatingService = false ∧
      buildConfigFromMetadata (snapshotLbc [aliasService, deactivatingService] []) false 2 "lb" "" "" "any"
          (some { portRules := [{ sourcePort := 80, protocol := "http", service := "stack/alias" }] }) =
        .ok [{ name := "lb", frontendServices := [{ name := "80", port := 80, protocol := "http", backendServices :=
          [{ uuid := "80_", protocol := "http", endpoints := [{ name := hashIP "10.0.0.7", ip := "10.0.0.7" }] }] }] }] :=
  ⟨rfl, rfl⟩

/-- An external service whose hostname, its CNAME, is the string `10.0.0.9`. -/
def cnameService : Service := { name := "cname", stackName := "stack", kind := "externalService", hostname := "10.0.0.9" }

/-- An external service with the external IP `10.0.0.9`. -/
def externalIpService : Service :=
  { name := "ext", stackName := "stack", kind := "externalService", externalIps := ["10.0.0.9"] }

/-- The alias `stack/both` of the two, with its links in one order of the `range`. -/
def bothAlias (links : List String) : Service := { name := "both", stackName := "stack", kind := "dnsService", links }

/-- The config of one rule on `stack/both`, with the backend's endpoints. -/
def bothConfig (eps : List Endpoint) : LoadBalancerConfig :=
  { name := "lb", frontendServices := [{ name := "80", port := 80, protocol := "http", backendServices :=
      [{ uuid := "80_", protocol := "http", endpoints := eps }] }] }

/-- The CNAME endpoint and the IP endpoint: the same IP and port, so that `Less` orders neither before the other. -/
def cnameEndpoint : Endpoint := { name := "10.0.0.9", ip := "10.0.0.9", isCname := true }

/-- The IP endpoint of `stack/ext`. -/
def externalIpEndpoint : Endpoint := { name := hashIP "10.0.0.9", ip := "10.0.0.9" }

/-- Two orders of the alias's links give two configs. -/
theorem buildConfigFromMetadata_link_order :
    buildConfigFromMetadata (snapshotLbc [bothAlias ["stack/cname", "stack/ext"], cnameService, externalIpService] [])
        false 2 "lb" "" "" "any" (some { portRules := [{ sourcePort := 80, protocol := "http", service := "stack/both" }] }) =
      .ok [bothConfig [cnameEndpoint, externalIpEndpoint]] ∧
    buildConfigFromMetadata (snapshotLbc [bothAlias ["stack/ext", "stack/cname"], cnameService, externalIpService] [])
        false 2 "lb" "" "" "any" (some { portRules := [{ sourcePort := 80, protocol := "http", service := "stack/both" }] }) =
      .ok [bothConfig [externalIpEndpoint, cnameEndpoint]] ∧
    bothConfig [cnameEndpoint, externalIpEndpoint] ≠ bothConfig [externalIpEndpoint, cnameEndpoint] := by
  refine ⟨rfl, rfl, fun h => ?_⟩
  have := congrArg (fun c : LoadBalancerConfig =>
    c.frontendServices.flatMap fun F => F.backendServices.flatMap fun B => B.endpoints.map (·.isCname)) h
  exact absurd this (by decide)

end RancherLb
