import RancherLb.Metadata

/-!
# Endpoint resolution

`getServiceEndpoints` and the functions it dispatches to, for the three kinds of service: an external service gives its
external IPs and its CNAME, a regular service the endpoints of its live containers under the locality preference, and a
DNS alias the endpoints of every service its links name, found through the fetcher and resolved again. The last makes the
recursion `getServiceEndpoints → getAliasServiceEndpoints → getServiceEndpoints`, which carries no bound of its own: the
model gives it a fuel, one unit per call, and ends in `Fault.outOfFuel` when the fuel is spent.

Two versions of the repository differ in `getContainerEndpoint`: that of the draining version also admits a stopping
container and marks its endpoint with weight `"0"`, so that it drains. The flag `drain` selects that version.
-/

namespace RancherLb

open Go

/-- `getContainerEndpoint`: the endpoint of a live container, and whether it is a contingency endpoint (a container on
another host, under a locality preference other than `any`); `none` for a container that is not live. With `drain` (the
draining version), a stopping container is live and its endpoint gets weight `"0"`. -/
def getContainerEndpoint (drain : Bool) (c : Container) (targetPort : Int) (selfHostUUID localServicePreference : String) :
    Option (Endpoint × Bool) :=
  let stopping := drain && equalFold c.state "stopping"
  if equalFold c.state "running" || equalFold c.state "starting" || stopping then
    let ep : Endpoint :=
      { name := hashIP c.primaryIp, ip := c.primaryIp, port := targetPort, weight := if stopping then "0" else "" }
    some (ep, localServicePreference != "any" && !equalFold c.hostUUID selfHostUUID)
  else none

/-- `getRegularServiceEndpoints`: the loop over the containers puts each live endpoint in the primary list or the
contingency list; the contingency list is the answer only under `prefer-local` when the primary list is empty. -/
def getRegularServiceEndpoints (drain : Bool) (svc : Service) (targetPort : Int)
    (selfHostUUID localServicePreference : String) : List Endpoint :=
  let eps := svc.containers.filterMap fun c =>
    match getContainerEndpoint drain c targetPort selfHostUUID localServicePreference with
    | some (ep, false) => some ep
    | _ => none
  let contingencyEps := svc.containers.filterMap fun c =>
    match getContainerEndpoint drain c targetPort selfHostUUID localServicePreference with
    | some (ep, true) => some ep
    | _ => none
  if localServicePreference = "prefer-local" && eps.isEmpty then contingencyEps else eps

/-- `getExternalServiceEndpoints`: one endpoint per external IP, then the CNAME endpoint when the hostname is set. -/
def getExternalServiceEndpoints (svc : Service) (targetPort : Int) : List Endpoint :=
  svc.externalIps.map (fun e => { name := hashIP e, ip := e, port := targetPort }) ++
    if svc.hostname ≠ "" then [{ name := svc.hostname, ip := svc.hostname, port := targetPort, isCname := true }] else []

/-- One turn of the loop of `getAliasServiceEndpoints`: the service the fetcher finds for the link (a nil one is skipped),
resolved by `resolve` and appended. -/
def aliasStep (mf : MetadataFetcher) (resolve : Service → Except Fault (List Endpoint)) (eps : List Endpoint)
    (link : String) : Except Fault (List Endpoint) := do
  match ← mf.getService link with
  | none => pure eps
  | some service => pure (eps ++ (← resolve service))

/-- `getAliasServiceEndpoints`: every link of the alias, in the order the `range` visits them, through `aliasStep`. The
first error ends the loop. -/
def getAliasServiceEndpoints (mf : MetadataFetcher) (resolve : Service → Except Fault (List Endpoint)) (svc : Service) :
    Except Fault (List Endpoint) :=
  svc.links.foldlM (aliasStep mf resolve) []

/-- `getServiceEndpoints`: by the service's kind, then sorted by IP and port. One unit of fuel per call. -/
def getServiceEndpoints (mf : MetadataFetcher) (drain : Bool) :
    Nat → Service → Int → String → String → Except Fault (List Endpoint)
  | 0, _, _, _, _ => .error .outOfFuel
  | fuel + 1, svc, targetPort, selfHostUUID, localServicePreference => do
    let eps ←
      if equalFold svc.kind "externalService" then pure (getExternalServiceEndpoints svc targetPort)
      else if equalFold svc.kind "dnsService" then
        getAliasServiceEndpoints mf
          (fun s => getServiceEndpoints mf drain fuel s targetPort selfHostUUID localServicePreference) svc
      else pure (getRegularServiceEndpoints drain svc targetPort selfHostUUID localServicePreference)
    pure (sortSort Endpoint.less eps)

end RancherLb
