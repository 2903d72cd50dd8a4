import CqlDispatch.Cluster
import CqlDispatch.Description.Failure
import CqlDispatch.Description.Value
/-!
# Hosts and reports in JSON

A host is described by the address it is connected to, by what the cluster reports about it, or
by both; in a report it stands under the address that the cluster advertises.  A rule of distances
is the same for all hosts, goes by datacenter, or favours the first registered host.
-/
namespace CqlDispatch

namespace Json

open Reading

def asToken (j : Json) : Reading Token := (⟨·⟩) <$> j.asInt64

def usualPort : Nat := 9042

def asMetadata (j : Json) : Reading Metadata := do
  pure {
    datacenter := ← j.allow "dc" asString
    rack := ← j.allow "rack" asString
    tokens := ← j.each "tokens" asToken
    hostId := ← j.allow "host_id" asUuid }

def asPeer (j : Json) : Reading Peer := do
  let port ← j.allow "port" asNat
  pure ⟨⟨← j.want "ip" asIp, UInt16.ofNat (port.getD usualPort)⟩, ← j.asMetadata⟩

def asHost (j : Json) : Reading Host := do
  let address ← j.allow "addr" asAddress
  if (j.field? "ip").isSome then
    let p ← j.asPeer
    pure (.ofPeer (address.getD p.advertised) p)
  else pure { address := ← ofOption address }

def asPeers (j : Json) : Reading (Except Failure (List Peer)) := do
  match ← j.allow "error" asFailure with
  | some f => pure (.error f)
  | none => .ok <$> j.asList asPeer

def asConnectionEvent (j : Json) : Reading ConnectionEvent := do
  let a ← j.want "host" asAddress
  match ← j.want "kind" asString with
  | "up" => pure (.hostUp a)
  | "down" => pure (.hostDown a ((← j.allow "error" asString).getD "reset"))
  | "removed" => pure (.hostRemoved a)
  | _ => malformed

def asDistance (j : Json) : Reading Distance := do ofOption (Distance.ofName? (← j.asString))

def asDistanceRule (j : Json) : Reading (Registry → Host → Distance) := do
  match j with
  | string "lowest" =>
    pure fun r h => if r.topology.addresses.head? == some h.address then .near else .ignored
  | object [("all", d)] => do
    let d ← d.asDistance
    pure fun _ _ => d
  | j => do
    let table ← j.eachNamed "by_dc" asDistance
    let other ← j.want "else" asDistance
    pure fun _ h => (h.datacenter.bind fun dc => table.lookup dc).getD other

end Json

end CqlDispatch
