import RancherLb.Selector
import RancherLb.Reconcile

/-!
# GetLBConfigs: what a sync builds, and when it fails

`GetLBConfigs` is the work of every tick of `sync`. It reads the LB's own service, collects its LB metadata
(`CollectLBMetadata`: the metadata of the service's `LBConfig`, its selector rules expanded by `processSelector`), reads the
locality target from the label `io.rancher.lb_service.target`, and builds the configs. When the label is set, the host's
UUID is read first, and the label's value must then be `any`, `only-local` or `prefer-local`.

So the builder only ever runs on rules with no selector, under one of the three preferences, with no host and `any` when
the label is absent (`getLBConfigs_builds`). A label of another value fails every tick, whatever the metadata holds; the
retries then sleep one interval longer each time, with no bound (`invalidTarget_backoff`).
-/

namespace RancherLb

open Go SelectorAux

/-- The lookups of the LB's own place that `GetLBConfigs` calls on the fetcher: `GetSelfService`, and `GetSelfHostUUID`,
the UUID of `GetSelfHost`. -/
structure SelfFetcher where
  getSelfService : Except String Service
  getSelfHostUUID : Except String String

/-- `CollectLBMetadata`: the LB metadata of the service's `LBConfig`, its selector rules expanded. -/
def collectLBMetadata (mf : MetadataFetcher) (isSelectorMatch : String → List (String × String) → Bool)
    (lbSvc : Service) : Except Fault LBMetadata :=
  processSelector mf isSelectorMatch (getLBMetadata lbSvc.lbConfig)

/-- The locality block of `GetLBConfigs`: no host and `any` without the label `io.rancher.lb_service.target`; with it, the
host's UUID, read first, and the label's value, which must be one of the three preferences. -/
def lbServiceTarget (self : SelfFetcher) (lbSvc : Service) : Except Fault (String × String) :=
  match mapGet lbSvc.labels "io.rancher.lb_service.target" with
  | none => pure ("", "any")
  | some val => do
    let selfHostUUID ← liftError self.getSelfHostUUID
    if val ≠ "any" ∧ val ≠ "only-local" ∧ val ≠ "prefer-local" then
      .error (.error ("Invalid label value for label io.rancher.lb_service.target=" ++ val))
    else pure (selfHostUUID, val)

/-- `GetLBConfigs`: the LB's own service, its collected metadata, the locality target, and the configs built from them. -/
def getLBConfigs (lbc : LoadBalancerController) (self : SelfFetcher)
    (isSelectorMatch : String → List (String × String) → Bool) (drain : Bool) (fuel : Nat) :
    Except Fault (List LoadBalancerConfig) := do
  let lbSvc ← liftError self.getSelfService
  let lbMeta ← collectLBMetadata lbc.metaFetcher isSelectorMatch lbSvc
  let (selfHostUUID, localServicePreference) ← lbServiceTarget self lbSvc
  buildConfigFromMetadata lbc drain fuel lbSvc.name lbSvc.environmentUUID selfHostUUID localServicePreference
    (some lbMeta)

/-- What a tick of `sync` reports: `GetLBConfigs` returned configs and `ApplyConfig` accepted every one (the loop applies
them all, and one failure is enough to requeue). A panic ends the process in Go; the model reports it as a failure. -/
def syncOk (configs : Except Fault (List LoadBalancerConfig)) (applyConfig : LoadBalancerConfig → Except String Unit) :
    Bool :=
  match configs with
  | .ok cfgs => cfgs.all fun cfg => (applyConfig cfg).toBool
  | .error _ => false

namespace PipelineAux

variable {self : SelfFetcher} {lbSvc : Service}

/-- With the label set to a value that is none of the three, the block fails: with the host's error when the host's UUID
cannot be read, which is read first, and with the label's error otherwise. -/
theorem lbServiceTarget_invalid {val : String} (hl : mapGet lbSvc.labels "io.rancher.lb_service.target" = some val)
    (hv : val ≠ "any" ∧ val ≠ "only-local" ∧ val ≠ "prefer-local") :
    lbServiceTarget self lbSvc = .error (.error (match self.getSelfHostUUID with
      | .error e => e
      | .ok _ => "Invalid label value for label io.rancher.lb_service.target=" ++ val)) := by
  cases hu : self.getSelfHostUUID with
  | error e => simp only [lbServiceTarget, hl, hu, liftError, Except.mapError, GoAux.error_bind]
  | ok u =>
    simp only [lbServiceTarget, hl, hu, liftError, Except.mapError, GoAux.ok_bind]
    rw [if_pos hv]

end PipelineAux

open PipelineAux

section GetLBConfigs

variable {lbc : LoadBalancerController} {self : SelfFetcher} {isSelectorMatch : String → List (String × String) → Bool}
  {drain : Bool} {fuel : Nat}

/-- With the label `io.rancher.lb_service.target` of the LB's own service set to a value that is none of the three
preferences, `GetLBConfigs` fails once the metadata is collected: with the error of `GetSelfHost` when it fails, and with
the error that names the label and its value otherwise. -/
theorem getLBConfigs_invalidTarget {lbSvc : Service} {lbMeta : LBMetadata} {val : String}
    (hs : self.getSelfService = .ok lbSvc) (hc : collectLBMetadata lbc.metaFetcher isSelectorMatch lbSvc = .ok lbMeta)
    (hl : mapGet lbSvc.labels "io.rancher.lb_service.target" = some val)
    (hv : val ≠ "any" ∧ val ≠ "only-local" ∧ val ≠ "prefer-local") :
    getLBConfigs lbc self isSelectorMatch drain fuel = .error (.error (match self.getSelfHostUUID with
      | .error e => e
      | .ok _ => "Invalid label value for label io.rancher.lb_service.target=" ++ val)) := by
  simp only [getLBConfigs, hs, liftError, Except.mapError, GoAux.ok_bind, hc, lbServiceTarget_invalid hl hv,
    GoAux.error_bind]

/-- With the label `io.rancher.lb_service.target` of the LB's own service set to a value that is none of the three
preferences, no tick of `sync` succeeds, whatever the metadata and the provider. -/
theorem syncOk_invalidTarget {lbSvc : Service} {val : String} (hs : self.getSelfService = .ok lbSvc)
    (hl : mapGet lbSvc.labels "io.rancher.lb_service.target" = some val)
    (hv : val ≠ "any" ∧ val ≠ "only-local" ∧ val ≠ "prefer-local")
    (applyConfig : LoadBalancerConfig → Except String Unit) :
    syncOk (getLBConfigs lbc self isSelectorMatch drain fuel) applyConfig = false := by
  -- `GetLBConfigs` fails at the metadata, or else at the label
  cases hc : collectLBMetadata lbc.metaFetcher isSelectorMatch lbSvc with
  | error f =>
    rw [show getLBConfigs lbc self isSelectorMatch drain fuel = .error f by
      simp only [getLBConfigs, hs, liftError, Except.mapError, GoAux.ok_bind, hc, GoAux.error_bind]]
    rfl
  | ok lbMeta =>
    rw [getLBConfigs_invalidTarget hs hc hl hv]
    rfl

/-- A label `io.rancher.lb_service.target` of none of the three values, on a controller that keeps retrying: after `k`
retries, each a failed tick followed by its worker, the backoff is `k` intervals of 5 seconds, and grows with every
retry. -/
theorem invalidTarget_backoff {lbSvc : Service} {val : String} (hs : self.getSelfService = .ok lbSvc)
    (hl : mapGet lbSvc.labels "io.rancher.lb_service.target" = some val)
    (hv : val ≠ "any" ∧ val ≠ "only-local" ∧ val ≠ "prefer-local")
    (applyConfig : LoadBalancerConfig → Except String Unit) (k : Nat) :
    (newLoadBalancerController.run
        (List.replicate k [.tick (syncOk (getLBConfigs lbc self isSelectorMatch drain fuel) applyConfig), .increment,
          .wake]).flatten).incrementalBackoff = 5 * k := by
  rw [syncOk_invalidTarget hs hl hv applyConfig,
    show [Event.tick false, .increment, .wake] = failedRound from rfl,
    run_failedRounds k newLoadBalancerController rfl rfl rfl]
  show 0 + k * 5 = 5 * k
  omega

/-- An LB service whose label `io.rancher.lb_service.target` is `nearby`, on the host `host-1`. -/
def nearbySelf : SelfFetcher := ⟨.ok { labels := [("io.rancher.lb_service.target", "nearby")] }, .ok "host-1"⟩

theorem invalidTarget_backoff_nearby :
    (nearbySelf.getSelfService = .ok { labels := [("io.rancher.lb_service.target", "nearby")] } ∧
      mapGet ({ labels := [("io.rancher.lb_service.target", "nearby")] } : Service).labels "io.rancher.lb_service.target" =
        some "nearby" ∧
      ("nearby" ≠ "any" ∧ "nearby" ≠ "only-local" ∧ "nearby" ≠ "prefer-local")) ∧
    (newLoadBalancerController.run (List.replicate 3
      [.tick (syncOk (getLBConfigs (snapshotLbc [] []) nearbySelf (fun _ _ => true) false 1) fun _ => .ok ()), .increment,
        .wake]).flatten).incrementalBackoff = 5 * 3 :=
  have hs : nearbySelf.getSelfService = .ok { labels := [("io.rancher.lb_service.target", "nearby")] } := rfl
  have hl : mapGet ({ labels := [("io.rancher.lb_service.target", "nearby")] } : Service).labels
      "io.rancher.lb_service.target" = some "nearby" := rfl
  have hv : "nearby" ≠ "any" ∧ "nearby" ≠ "only-local" ∧ "nearby" ≠ "prefer-local" := by decide
  ⟨⟨hs, hl, hv⟩, invalidTarget_backoff hs hl hv _ 3⟩

end GetLBConfigs

end RancherLb
