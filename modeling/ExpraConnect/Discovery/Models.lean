import ExpraConnect.Lib.Dict
import Mathlib.Data.List.Sort
import Mathlib.Data.Prod.Lex
import Mathlib.Data.Rat.Defs
import Mathlib.Data.String.Basic
import Mathlib.Tactic

/-!
# Discovered peers and their endpoints

`discovery/models.py`, and `endpoint_rank` of `discovery/candidates.py`.

* `EndpointCandidate`, `DiscoveredNodeCandidate`: a candidate without endpoints of its own derives
  them from its addresses when it is built (`DiscoveredNodeCandidate.new`), so that one with a port
  and addresses always has endpoints;
* `DiscoveredNodeCandidate.unseen`: a candidate up to the time at which it was seen;
* `byEndpointRank`: the order in which the routes of a candidate are tried.

Which source an address has (`endpoint_source`, the syntax of IP addresses) is a parameter.
-/

namespace ExpraConnect

open ExpraConnect.Lib

/-- Source: `discovery/models.py`, `EndpointSource`.  Kind: D -/
inductive EndpointSource where
  | configured | ipv4 | ipv6 | vpn | discovery
  deriving DecidableEq

/-- Source: `discovery/models.py`, `EndpointCandidate`.  Kind: D -/
structure EndpointCandidate where
  /-- `address` -/
  address : String
  /-- `port` -/
  port : ℕ
  /-- `source` -/
  source : EndpointSource
  /-- `validation` -/
  validation : String
  /-- `priority` -/
  priority : ℤ
  /-- `last_success` -/
  lastSuccess : Option ℚ
  /-- `last_failure` -/
  lastFailure : Option ℚ
  deriving DecidableEq

/-- Source: `discovery/models.py`, `EndpointCandidate.key`.  Kind: D -/
def EndpointCandidate.key (e : EndpointCandidate) : String × ℕ := (e.address, e.port)

/-- `EndpointCandidate(address, port, source=endpoint_source(address))`. -/
def EndpointCandidate.ofAddress (source : String → EndpointSource) (port : ℕ) (address : String) :
    EndpointCandidate :=
  ⟨address, port, source address, "validated", 0, none, none⟩

/-- The rank of a source. -/
def EndpointSource.rank : EndpointSource → ℤ
  | configured => 0
  | ipv4 => 1
  | ipv6 => 2
  | vpn => 3
  | discovery => 4

/-- Source: `discovery/candidates.py`, `endpoint_rank`.  Kind: D -/
def endpointRank (e : EndpointCandidate) : ℕ ×ₗ ℤ ×ₗ ℤ ×ₗ String ×ₗ ℕ :=
  toLex (if e.lastSuccess.isSome then 0 else 1, toLex (e.priority,
    toLex (e.source.rank + (if e.lastFailure.isSome then 1 else 0), toLex (e.address, e.port))))

/-- `sorted(endpoints, key=endpoint_rank)`. -/
def byEndpointRank (endpoints : List EndpointCandidate) : List EndpointCandidate :=
  endpoints.insertionSort fun a b => endpointRank a ≤ endpointRank b

/-- Source: `discovery/models.py`, `DiscoveredNodeCandidate`.  Kind: D -/
structure DiscoveredNodeCandidate where
  /-- `stable_id` -/
  stableId : String
  /-- `hostname` -/
  hostname : String
  /-- `addresses` -/
  addresses : List String
  /-- `port` -/
  port : Option ℕ
  /-- `service_name` -/
  serviceName : String
  /-- `app_version` -/
  appVersion : String
  /-- `protocol_version` -/
  protocolVersion : String
  /-- `platform` -/
  platform : Option String
  /-- `connectable` -/
  connectable : Bool
  /-- `compatible` -/
  compatible : Bool
  /-- `last_seen` -/
  lastSeen : ℚ
  /-- `identity_fingerprint` -/
  identityFingerprint : Option String
  /-- `transport_fingerprint` -/
  transportFingerprint : Option String
  /-- `endpoint_candidates` -/
  endpointCandidates : List EndpointCandidate
  /-- `root_public_key` -/
  rootPublicKey : Option String
  /-- `transport_generation` -/
  transportGeneration : Option ℤ
  /-- `transport_proof` -/
  transportProof : Option String
  /-- `pairing_port` -/
  pairingPort : Option ℕ
  /-- What `__post_init__` leaves. -/
  derived : endpointCandidates ≠ [] ∨ port = none ∨ addresses = []
  deriving DecidableEq

namespace DiscoveredNodeCandidate

/-- The endpoints that `__post_init__` leaves.
Source: `discovery/models.py`, `DiscoveredNodeCandidate.__post_init__`.  Kind: D -/
def postInit (source : String → EndpointSource) (endpoints : List EndpointCandidate)
    (port : Option ℕ) (addresses : List String) : List EndpointCandidate :=
  match endpoints, port with
  | [], some port => addresses.map (EndpointCandidate.ofAddress source port)
  | endpoints, _ => endpoints

/-- Endpoints are derived where a port and an address are known.  Kind: L -/
theorem postInit_derived (source : String → EndpointSource) (endpoints : List EndpointCandidate)
    (port : Option ℕ) (addresses : List String) :
    postInit source endpoints port addresses ≠ [] ∨ port = none ∨ addresses = [] := by
  cases endpoints with
  | cons e rest => exact .inl (by simp [postInit])
  | nil =>
      cases port with
      | none => exact .inr (.inl rfl)
      | some port =>
          cases addresses with
          | nil => exact .inr (.inr rfl)
          | cons a rest => exact .inl (by simp [postInit])

/-- `replace(self, addresses=addresses, endpoint_candidates=endpoints)`. -/
def withRoutes (source : String → EndpointSource) (c : DiscoveredNodeCandidate)
    (addresses : List String) (endpoints : List EndpointCandidate) : DiscoveredNodeCandidate :=
  { c with
    addresses := addresses
    endpointCandidates := postInit source endpoints c.port addresses
    derived := postInit_derived source endpoints c.port addresses }

/-- `replace(self, last_seen=now)`. -/
def seenAt (c : DiscoveredNodeCandidate) (now : ℚ) : DiscoveredNodeCandidate :=
  { c with lastSeen := now }

/-- The candidate up to `last_seen`. -/
def unseen (c : DiscoveredNodeCandidate) : DiscoveredNodeCandidate := c.seenAt 0

/-- The time of a sighting is not part of what consumers compare.  Kind: L -/
@[simp] theorem unseen_seenAt (c : DiscoveredNodeCandidate) (now : ℚ) :
    (c.seenAt now).unseen = c.unseen := rfl

/-- Other routes do not change whose candidate it is.  Kind: L -/
@[simp] theorem stableId_withRoutes (source : String → EndpointSource)
    (c : DiscoveredNodeCandidate) (addresses : List String) (endpoints : List EndpointCandidate) :
    (c.withRoutes source addresses endpoints).stableId = c.stableId := rfl

/-- Source: `discovery/models.py`, `pairing_endpoint_candidates`.  Kind: D -/
def pairingEndpointCandidates (c : DiscoveredNodeCandidate) : List EndpointCandidate :=
  match (c.pairingPort.filter (· ≠ 0)).or c.port with
  | none => []
  | some port => c.endpointCandidates.map fun e => { e with port := port }

end DiscoveredNodeCandidate

end ExpraConnect
