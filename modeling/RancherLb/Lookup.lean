import RancherLb.Resolution

/-!
# Service links and the lookups they ask for

A link names a service as `stack/name`, `env/stack/name` or `region/env/stack/name`. `RMetaFetcher.GetService` splits it
on `/` and picks the lookup by the number of parts; every other number of parts falls to the two-part lookup, which reads
the second part: a link with no `/` panics, and a link of five parts or more is looked up by its first two.

The two other versions of the repository look links up the same way or worse: `GetService` of the draining version has
the same fall-through, and the older version cuts a link with `SplitN(link, "/", 2)` and reads `svcName[1]`, which a
link with no `/` does not have.
-/

namespace RancherLb

open Go

/-- Where a link says its service is: in the local environment, in an environment of the local region, or in an
environment of another region. -/
inductive Scope where
  | localEnvironment
  | localRegion (env : String)
  | otherRegion (region env : String)
  deriving DecidableEq, Repr

/-- The client's lookup of a service of a scope by stack and name. -/
def Scope.lookup (c : MetadataClient) : Scope → String → String → Except String Service
  | .localEnvironment, stack, name => c.getServiceByName stack name
  | .localRegion env, stack, name => c.getServiceByEnvironment env stack name
  | .otherRegion region env, stack, name => c.getServiceByRegionEnvironment region env stack name

namespace LookupAux

variable {a b e g : String}

/-- A link of two parts that hold no `/` splits back into them. -/
theorem split_join₂ (ha : '/' ∉ a.data) (hb : '/' ∉ b.data) : split (a ++ "/" ++ b) '/' = [a, b] := by
  rw [show a ++ "/" ++ b = a ++ String.singleton '/' ++ b from rfl, GoAux.split_append_sep ha, GoAux.split_of_not_mem hb]

/-- A link of three parts, likewise. -/
theorem split_join₃ (he : '/' ∉ e.data) (ha : '/' ∉ a.data) (hb : '/' ∉ b.data) :
    split (e ++ "/" ++ a ++ "/" ++ b) '/' = [e, a, b] := by
  rw [show e ++ "/" ++ a ++ "/" ++ b = e ++ String.singleton '/' ++ (a ++ "/" ++ b) by
    simp only [String.append_assoc]; rfl, GoAux.split_append_sep he, split_join₂ ha hb]

/-- A link of four parts, likewise. -/
theorem split_join₄ (hg : '/' ∉ g.data) (he : '/' ∉ e.data) (ha : '/' ∉ a.data) (hb : '/' ∉ b.data) :
    split (g ++ "/" ++ e ++ "/" ++ a ++ "/" ++ b) '/' = [g, e, a, b] := by
  rw [show g ++ "/" ++ e ++ "/" ++ a ++ "/" ++ b = g ++ String.singleton '/' ++ (e ++ "/" ++ a ++ "/" ++ b) by
    simp only [String.append_assoc]; rfl, GoAux.split_append_sep hg, split_join₃ he ha hb]

end LookupAux

open LookupAux

section Grammar

variable {c : MetadataClient} {r : String} {a b e g : String}

/-- Once the region is read, `GetService` is the lookup its parts ask for. -/
theorem getService_of_region (hr : c.getRegionName = .ok r) (link : String) :
    RMetaFetcher.getService c link =
      match split link '/' with
      | [p0, p1, p2, p3] =>
        if p0 = trimQuotes r then some <$> liftError (c.getServiceByEnvironment p1 p2 p3)
        else some <$> liftError (c.getServiceByRegionEnvironment p0 p1 p2 p3)
      | [p0, p1, p2] => some <$> liftError (c.getServiceByEnvironment p0 p1 p2)
      | _ => index (split link '/') 0 >>= fun p0 => index (split link '/') 1 >>= fun p1 =>
        some <$> liftError (c.getServiceByName p0 p1) := by
  unfold RMetaFetcher.getService
  rw [hr]
  rfl

/-- `stack/name` is looked up in the local environment. -/
theorem getService_two (hr : c.getRegionName = .ok r) (ha : '/' ∉ a.data) (hb : '/' ∉ b.data) :
    RMetaFetcher.getService c (a ++ "/" ++ b) = some <$> liftError (Scope.localEnvironment.lookup c a b) := by
  rw [getService_of_region hr, split_join₂ ha hb]
  rfl

/-- `env/stack/name` is looked up in the local region. -/
theorem getService_three (hr : c.getRegionName = .ok r) (he : '/' ∉ e.data) (ha : '/' ∉ a.data) (hb : '/' ∉ b.data) :
    RMetaFetcher.getService c (e ++ "/" ++ a ++ "/" ++ b) = some <$> liftError ((Scope.localRegion e).lookup c a b) := by
  rw [getService_of_region hr, split_join₃ he ha hb]
  rfl

/-- `region/env/stack/name` is looked up in the local region when the region is the local one, and in that region
otherwise. -/
theorem getService_four (hr : c.getRegionName = .ok r) (hg : '/' ∉ g.data) (he : '/' ∉ e.data) (ha : '/' ∉ a.data)
    (hb : '/' ∉ b.data) :
    RMetaFetcher.getService c (g ++ "/" ++ e ++ "/" ++ a ++ "/" ++ b) =
      some <$> liftError ((if g = trimQuotes r then Scope.localRegion e else Scope.otherRegion g e).lookup c a b) := by
  rw [getService_of_region hr, split_join₄ hg he ha hb]
  dsimp only
  by_cases hgr : g = trimQuotes r
  · rw [if_pos hgr, if_pos hgr]
    rfl
  · rw [if_neg hgr, if_neg hgr]
    rfl

/-- A link with no `/` panics: the fall-through reads a second part it does not have. -/
theorem getService_one_part (hr : c.getRegionName = .ok r) {link : String} (hl : '/' ∉ link.data) :
    RMetaFetcher.getService c link = .error (.panic "runtime error: index out of range") := by
  rw [getService_of_region hr, GoAux.split_of_not_mem hl]
  rfl

/-- A link of five parts or more is looked up in the local environment by its first two parts. -/
theorem getService_many_parts (hr : c.getRegionName = .ok r) {p0 p1 p2 p3 p4 : String} {ps : List String}
    {link : String} (hl : split link '/' = p0 :: p1 :: p2 :: p3 :: p4 :: ps) :
    RMetaFetcher.getService c link = some <$> liftError (c.getServiceByName p0 p1) := by
  rw [getService_of_region hr, hl]
  rfl

end Grammar

/-! ## When the region cannot be read

`GetService` reads the region's name before it looks at the link, so that it can tell the local region in a link of four
parts. When the metadata does not give the name, every lookup fails with that error, a `stack/name` link too, and the
builder fails on the first service rule it resolves. -/

namespace LookupAux

variable {lbc : LoadBalancerController} {drain : Bool} {fuel : Nat} {envUUID selfHostUUID localServicePreference : String}

end LookupAux

/-- The lookups of the metadata client that `GetService` of the draining version calls. -/
structure DrainVersion.MetadataClient where
  getServiceFromRegionEnvironment : String → String → String → String → Except String Service
  getServiceInLocalRegion : String → String → String → Except String Service
  getServiceInLocalEnvironment : String → String → Except String Service

/-- `RMetaFetcher.GetService` of the draining version: by the number of parts, with no test of the region; every other
number of parts falls to the two-part lookup. -/
def DrainVersion.RMetaFetcher.getService (c : DrainVersion.MetadataClient) (link : String) :
    Except Fault (Option Service) :=
  let splitSvcName := split link '/'
  match splitSvcName with
  | [p0, p1, p2, p3] => some <$> liftError (c.getServiceFromRegionEnvironment p0 p1 p2 p3)
  | [p0, p1, p2] => some <$> liftError (c.getServiceInLocalRegion p0 p1 p2)
  | _ => do some <$> liftError (c.getServiceInLocalEnvironment (← index splitSvcName 0) (← index splitSvcName 1))

/-- `RMetaFetcher.GetService` of the older version: the first service of the environment with the name and stack asked for,
compared case-insensitively, or the zero service. -/
def LegacyVersion.RMetaFetcher.getService (services : Except String (List Service)) (envUUID svcName stackName : String) :
    Except Fault (Option Service) := do
  let svcs ← liftError services
  let found := svcs.find? fun svc =>
    equalFold svc.environmentUUID envUUID && equalFold svc.name svcName && equalFold svc.stackName stackName
  pure (some (found.getD {}))

/-- How the older version looks a `stack/name` link up, in `BuildConfigFromMetadata` (`rule.Service`, in the LB's
environment) and in `getAliasServiceEndpoints` (a link, in the alias's environment): `SplitN(link, "/", 2)`, then
`GetService(envUUID, svcName[1], svcName[0])`, its arguments read from left to right. -/
def LegacyVersion.getServiceOfLink (getService : String → String → String → Except Fault (Option Service))
    (envUUID link : String) : Except Fault (Option Service) := do
  let svcName := splitN2 link '/'
  let name ← index svcName 1
  let stack ← index svcName 0
  getService envUUID name stack

/-- A link with no `/` panics in the older version's lookup, whatever the fetcher. -/
theorem getServiceOfLink_one_part (getService : String → String → String → Except Fault (Option Service))
    (envUUID : String) {link : String} (hl : '/' ∉ link.data) :
    LegacyVersion.getServiceOfLink getService envUUID link = .error (.panic "runtime error: index out of range") := by
  simp only [LegacyVersion.getServiceOfLink, GoAux.splitN2_of_not_mem hl]
  rfl

/-- A link with no `/` panics in the lookup of the draining version too: it has the same fall-through. -/
theorem drain_getService_one_part (c : DrainVersion.MetadataClient) {link : String} (hl : '/' ∉ link.data) :
    DrainVersion.RMetaFetcher.getService c link = .error (.panic "runtime error: index out of range") := by
  simp only [DrainVersion.RMetaFetcher.getService, GoAux.split_of_not_mem hl]
  rfl

/-- A client of the draining version that finds the zero service everywhere. -/
def zeroDrainClient : DrainVersion.MetadataClient := ⟨fun _ _ _ _ => .ok {}, fun _ _ _ => .ok {}, fun _ _ => .ok {}⟩

/-- The link `web`, with no `/`, panics in all three versions, and a link of five parts resolves the service its first
two parts name. -/
theorem getService_bad_part_counts :
    RMetaFetcher.getService (snapshotClient [] []) "web" = .error (.panic "runtime error: index out of range") ∧
    DrainVersion.RMetaFetcher.getService zeroDrainClient "web" = .error (.panic "runtime error: index out of range") ∧
    LegacyVersion.getServiceOfLink (LegacyVersion.RMetaFetcher.getService (.ok [])) "env" "web" =
      .error (.panic "runtime error: index out of range") ∧
    RMetaFetcher.getService (snapshotClient [hostNetworkService] []) "stack/web/extra/more/parts" =
      .ok (some hostNetworkService) :=
  have hweb : '/' ∉ "web".data := by decide
  have hparts : split "stack/web/extra/more/parts" '/' = ["stack", "web", "extra", "more", "parts"] := rfl
  ⟨getService_one_part rfl hweb, drain_getService_one_part _ hweb, getServiceOfLink_one_part _ _ hweb,
    (getService_many_parts rfl hparts).trans rfl⟩

end RancherLb
