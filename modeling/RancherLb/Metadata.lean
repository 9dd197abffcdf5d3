import RancherLb.GoLib

/-!
# The data model: port rules, services, containers, and the load balancer config

The records of `go-rancher-metadata` that the controller reads (`PortRule`, `Container`, `Service`, the LB metadata of a
service), the records of the `config` package it writes (`Endpoint`, `BackendService`, `FrontendService`,
`LoadBalancerConfig`), and the two views of the metadata store: the client's answers (`MetadataClient`, one snapshot) and
the `MetadataFetcher` interface the controller calls, with `RMetaFetcher`, its implementation over a client.

Only the fields the controller reads or writes are kept. The `config` package is not among the repository's files: its
constants (protocol names, rule comparators) and the orders its `Less` methods define are modelled from the spec.
-/

namespace RancherLb

open Go

/-- A service's or container's health check, copied field for field into the backend (`getConfigServiceHealthCheck`
round-trips it through JSON between two records of the same fields). -/
structure HealthCheck where
  port : Int := 0
  interval : Int := 0
  responseTimeout : Int := 0
  healthyThreshold : Int := 0
  unhealthyThreshold : Int := 0
  requestLine : String := ""
  deriving DecidableEq, Repr

/-- Modelled from the spec: the stickiness policy of the LB metadata, an opaque record copied into the config verbatim. -/
structure StickinessPolicy where
  raw : String := ""
  deriving DecidableEq, Repr

/-- A port rule of the LB metadata (`metadata.PortRule`), with Go's zero values as defaults. -/
structure PortRule where
  sourcePort : Int := 0
  protocol : String := ""
  path : String := ""
  hostname : String := ""
  service : String := ""
  container : String := ""
  targetPort : Int := 0
  backendName : String := ""
  selector : String := ""
  region : String := ""
  environment : String := ""
  priority : Int := 0
  weight : String := ""
  deriving DecidableEq, Repr

/-- The LB metadata of a service (`LBMetadata`, and the `LBConfig` of `metadata.Service`, which `GetLBMetadata` converts
into it field for field). -/
structure LBMetadata where
  portRules : List PortRule := []
  certs : List String := []
  defaultCert : String := ""
  config : String := ""
  stickinessPolicy : StickinessPolicy := {}
  deriving DecidableEq, Repr

/-- `GetLBMetadata`: the JSON round trip between two records of the same fields. -/
def getLBMetadata (lbConfig : LBMetadata) : LBMetadata := lbConfig

/-- A container (`metadata.Container`). -/
structure Container where
  name : String := ""
  primaryIp : String := ""
  state : String := ""
  hostUUID : String := ""
  environmentUUID : String := ""
  healthCheck : HealthCheck := {}
  deriving DecidableEq, Repr

/-- A service (`metadata.Service`). `links` holds the keys of the `Links` map in the order one `range` over it visits
them: Go fixes no order, and two runs may visit the keys in two orders. -/
structure Service where
  name : String := ""
  stackName : String := ""
  environmentUUID : String := ""
  kind : String := ""
  state : String := ""
  labels : List (String × String) := []
  containers : List Container := []
  externalIps : List String := []
  hostname : String := ""
  links : List String := []
  lbConfig : LBMetadata := {}
  healthCheck : HealthCheck := {}
  deriving DecidableEq, Repr

/-! ## The config package -/

/-- Modelled from the spec: `config.HTTPProto`. -/
def HTTPProto : String := "http"

/-- Modelled from the spec: `config.HTTPSProto`. -/
def HTTPSProto : String := "https"

/-- Modelled from the spec: `config.SNIProto`. -/
def SNIProto : String := "sni"

/-- Modelled from the spec: how a backend matches a hostname (`config.EqRuleComparator`, `BegRuleComparator`,
`EndRuleComparator`). -/
inductive RuleComparator where
  | eqRuleComparator
  | begRuleComparator
  | endRuleComparator
  deriving DecidableEq, Repr

/-- An endpoint of a backend (`config.Endpoint`). -/
structure Endpoint where
  name : String := ""
  ip : String := ""
  port : Int := 0
  isCname : Bool := false
  weight : String := ""
  deriving DecidableEq, Repr

/-- A backend (`config.BackendService`). -/
structure BackendService where
  uuid : String := ""
  host : String := ""
  path : String := ""
  port : Int := 0
  protocol : String := ""
  ruleComparator : RuleComparator := .eqRuleComparator
  endpoints : List Endpoint := []
  healthCheck : HealthCheck := {}
  priority : Int := 0
  deriving DecidableEq, Repr

/-- A frontend (`config.FrontendService`). -/
structure FrontendService where
  name : String := ""
  port : Int := 0
  protocol : String := ""
  backendServices : List BackendService := []
  deriving DecidableEq, Repr

/-- A certificate (`config.Certificate`). -/
structure Certificate where
  name : String := ""
  cert : String := ""
  key : String := ""
  deriving DecidableEq, Repr

/-- The config handed to the provider (`config.LoadBalancerConfig`). -/
structure LoadBalancerConfig where
  name : String := ""
  frontendServices : List FrontendService := []
  certs : List Certificate := []
  defaultCert : Option Certificate := none
  stickinessPolicy : StickinessPolicy := {}
  deriving DecidableEq, Repr

/-- Modelled from the spec: the `Less` of `config.Endpoints`, by IP and then by port. -/
def Endpoint.less (a b : Endpoint) : Bool := stringLess a.ip b.ip || (a.ip = b.ip && a.port < b.port)

/-- The rank of a comparator in the order of backends: the more specific match first. -/
def RuleComparator.rank : RuleComparator → Nat
  | .eqRuleComparator => 0
  | .begRuleComparator => 1
  | .endRuleComparator => 2

/-- Modelled from the spec: the `Less` of `config.BackendServices`, by priority, then by comparator (eq before beg before
end), then by UUID. -/
def BackendService.less (a b : BackendService) : Bool :=
  a.priority < b.priority ||
    (a.priority = b.priority && (a.ruleComparator.rank < b.ruleComparator.rank ||
      (a.ruleComparator.rank = b.ruleComparator.rank && stringLess a.uuid b.uuid)))

/-- Modelled from the spec: the `Less` of `config.FrontendServices`, by port. -/
def FrontendService.less (a b : FrontendService) : Bool := a.port < b.port

/-! ## The metadata store -/

/-- One snapshot of the metadata store, as the `metadata.Client` answers it; a Go `error` is its message. A lookup by name
answers with a service record, the zero one when there is no such service. -/
structure MetadataClient where
  getServices : Except String (List Service)
  getRegionName : Except String String
  getServiceByName : String → String → Except String Service
  getServiceByEnvironment : String → String → String → Except String Service
  getServiceByRegionEnvironment : String → String → String → String → Except String Service
  getServicesByEnvironment : String → Except String (List Service)
  getServicesByRegionEnvironment : String → String → Except String (List Service)
  getContainers : Except String (List Container)

/-- The `MetadataFetcher` interface, the methods the core calls. `getService` and `getContainer` return a pointer, which may
be nil (`none`), and may panic; like every Go function they never exhaust the model's fuel. -/
structure MetadataFetcher where
  getServices : Except String (List Service)
  getService : String → Except Fault (Option Service)
  getContainer : String → String → Except Fault (Option Container)
  getRegionName : Except String String
  getServicesByEnvironment : String → Except String (List Service)
  getServicesByRegionEnvironment : String → String → Except String (List Service)
  getService_ne_outOfFuel : ∀ link, getService link ≠ .error .outOfFuel
  getContainer_ne_outOfFuel : ∀ envUUID name, getContainer envUUID name ≠ .error .outOfFuel

/-- The self region's name with its wrapping quotes stripped (`TrimSuffix` then `TrimPrefix` of `"`). -/
def trimQuotes (regionName : String) : String := trimPrefix (trimSuffix regionName "\"") "\""

namespace RMetaFetcher

/-- `RMetaFetcher.GetService`: a link `region/env/stack/name`, `env/stack/name` or `stack/name`, split on `/` and looked up
by the number of its parts. Any other number of parts falls to the two-part lookup, which reads the second part. The
result is a pointer to the service found, never nil. -/
def getService (c : MetadataClient) (link : String) : Except Fault (Option Service) := do
  let splitSvcName := split link '/'
  let regionName := trimQuotes (← liftError c.getRegionName)
  match splitSvcName with
  | [p0, p1, p2, p3] =>
    if p0 = regionName then some <$> liftError (c.getServiceByEnvironment p1 p2 p3)
    else some <$> liftError (c.getServiceByRegionEnvironment p0 p1 p2 p3)
  | [p0, p1, p2] => some <$> liftError (c.getServiceByEnvironment p0 p1 p2)
  | _ => some <$> liftError (c.getServiceByName (← index splitSvcName 0) (← index splitSvcName 1))

/-- `RMetaFetcher.GetContainer`: the first container of the environment with the name asked for, compared case-insensitively;
the zero container when there is none. -/
def getContainer (c : MetadataClient) (envUUID containerName : String) : Except Fault (Option Container) := do
  let cs ← liftError c.getContainers
  let found := cs.find? fun ct => equalFold ct.environmentUUID envUUID && equalFold ct.name containerName
  pure (some (found.getD {}))

end RMetaFetcher

namespace RMetaFetcherAux

theorem map_liftError_ne {α β : Type} (f : α → β) (x : Except String α) : f <$> liftError x ≠ .error .outOfFuel := by
  cases x <;> simp [liftError, Except.mapError, Functor.map, Except.map]

theorem index_bind_ne {β : Type} (xs : List String) (i : Nat) (f : String → Except Fault β)
    (h : ∀ x, f x ≠ .error .outOfFuel) : index xs i >>= f ≠ .error .outOfFuel := by
  unfold index
  split
  · exact h _
  · simp

theorem getService_ne_outOfFuel (c : MetadataClient) (link : String) :
    RMetaFetcher.getService c link ≠ .error .outOfFuel := by
  unfold RMetaFetcher.getService
  cases hr : c.getRegionName with
  | error e => simp [liftError, Except.mapError]
  | ok r =>
    simp only [liftError, Except.mapError, GoAux.ok_bind]
    split
    · split <;> exact map_liftError_ne _ _
    · exact map_liftError_ne _ _
    · exact index_bind_ne _ _ _ fun _ => index_bind_ne _ _ _ fun _ => map_liftError_ne _ _

theorem getContainer_ne_outOfFuel (c : MetadataClient) (envUUID name : String) :
    RMetaFetcher.getContainer c envUUID name ≠ .error .outOfFuel := by
  unfold RMetaFetcher.getContainer
  cases c.getContainers <;> simp [liftError, Except.mapError]

end RMetaFetcherAux

/-- `RMetaFetcher`: the fetcher over a metadata client; every other method forwards to the client. -/
def RMetaFetcher (c : MetadataClient) : MetadataFetcher where
  getServices := c.getServices
  getService := RMetaFetcher.getService c
  getContainer := RMetaFetcher.getContainer c
  getRegionName := c.getRegionName
  getServicesByEnvironment := c.getServicesByEnvironment
  getServicesByRegionEnvironment := c.getServicesByRegionEnvironment
  getService_ne_outOfFuel := RMetaFetcherAux.getService_ne_outOfFuel c
  getContainer_ne_outOfFuel := RMetaFetcherAux.getContainer_ne_outOfFuel c

/-- `IsActiveService`: a service is active unless its state is, case-insensitively, one of the four inactive states. -/
def isActiveService (svc : Service) : Bool :=
  !(["inactive", "deactivating", "removed", "removing"].any fun state => equalFold svc.state state)

/-- `hashIP`: the SHA-1 of an IP, hex-encoded: the name of an endpoint built from an address. -/
def hashIP (ip : String) : String := hexEncode (sha1 ip.toUTF8.toList)

end RancherLb
