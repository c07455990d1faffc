import ExpraConnect.Base
import ExpraConnect.Discovery.Endpoints
import ExpraConnect.Lib.Digits
import ExpraConnect.Lib.Text

/-!
# Advertisements

`discovery/backend.py` and `discovery/network.py`: from a raw service record to the tables.

* `ServiceInfo`: a record of the local network, with free texts, any port and any addresses;
* `propertyMap`, `serviceAddressTexts`, `normalize`: what is read of it;
* `DiscoverySession`, `handleTransportEvent`: the call, which may raise; its state are the tables,
  and it returns the events that it emits when the lock is released.

Parameters are the decoding of bytes, `socket.inet_ntop` and the number of digits that `int` takes.
-/

namespace ExpraConnect

open ExpraConnect.Lib

/-- A key or a value of the TXT properties. -/
inductive TxtValue where
  | none
  | str (text : String)
  | bytes (packed : List UInt8)
  /-- an object, with `str(object)` -/
  | other (text : String)

/-- An address of a record. -/
inductive RawAddress where
  | str (text : String)
  | bytes (packed : List UInt8)
  | other

/-- What a record or a method says about addresses. -/
inductive RawAddresses where
  | none
  | str (text : String)
  | bytes (packed : List UInt8)
  | many (items : List RawAddress)
  /-- an object that is true and not iterable -/
  | other

/-- A raw service record. -/
structure ServiceInfo where
  /-- `properties.items()`, of a mapping -/
  properties : Option (List (TxtValue × TxtValue))
  /-- `port` -/
  port : Value
  /-- `parsed_scoped_addresses`: what the method returns or raises, if there is one -/
  parsedScopedAddresses : Option (Except PyError RawAddresses)
  /-- `parsed_addresses`, likewise -/
  parsedAddresses : Option (Except PyError RawAddresses)
  /-- `addresses` -/
  addresses : RawAddresses

/-- What discovery is built with, and the functions of the interpreter that it uses. -/
structure DiscoverySetup where
  /-- `_service_type` -/
  serviceType : String
  /-- `str(_local_node_id)` -/
  localNodeId : String
  /-- `endpoint_source` -/
  source : String → EndpointSource
  /-- `bytes.decode("utf-8", errors="replace")` -/
  decode : List UInt8 → String
  /-- `socket.inet_ntop`, by the length of the packed address; nothing is an `OSError` -/
  inetNtop : List UInt8 → Option String
  /-- `inet_ntop` writes no blank text. -/
  inetNtop_not_blank : ∀ packed text, inetNtop packed = some text → Text.isBlank text = false
  /-- `sys.get_int_max_str_digits()` -/
  maxDigits : Option ℕ

/-! ## Reading a record -/

section reading

variable (setup : DiscoverySetup)

/-- Source: `discovery/network.py`, `_to_text`.  Kind: D -/
def toText : TxtValue → String
  | .none => "None"
  | .str text => text
  | .bytes packed => setup.decode packed
  | .other text => text

/-- Source: `discovery/network.py`, `_property_map`.  Kind: D -/
def propertyMap (info : ServiceInfo) : Dict String String :=
  match info.properties with
  | none => Dict.empty
  | some items =>
      Dict.ofList <| items.filterMap fun item =>
        match item with
        | (.none, _) => none
        | (_, .none) => none
        | (key, value) => some (toText setup key, toText setup value)

/-- Source: `discovery/backend.py`, `_address_text`.  Kind: D -/
def addressText : RawAddress → Option String
  | .str text => if Text.strip text = "" then none else some (Text.strip text)
  | .bytes packed => if packed.length = 4 ∨ packed.length = 16 then setup.inetNtop packed else none
  | .other => none

/-- Add a text that has not been seen. -/
def addUnseen (texts : List String) : Option String → List String
  | none => texts
  | some text => if text ∈ texts then texts else texts ++ [text]

/-- Source: `discovery/backend.py`, `_address_texts`.  Kind: D -/
def addressTexts : RawAddresses → List String
  | .none => []
  | .str text => if text = "" then [] else addUnseen [] (addressText setup (.str text))
  | .bytes packed => if packed = [] then [] else addUnseen [] (addressText setup (.bytes packed))
  | .many items => items.foldl (fun texts item => addUnseen texts (addressText setup item)) []
  | .other => []

/-- `bool(parsed)` -/
def RawAddresses.isTrue : RawAddresses → Bool
  | .none => false
  | .str text => text ≠ ""
  | .bytes packed => packed ≠ []
  | .many items => !items.isEmpty
  | .other => true

/-- What a method returned, if it did not raise and there is something in it. -/
def parsedBy : Option (Except PyError RawAddresses) → Option RawAddresses
  | some (.ok parsed) => if parsed.isTrue then some parsed else none
  | _ => none

/-- Source: `discovery/backend.py`, `_service_address_texts`.  Kind: D -/
def serviceAddressTexts (info : ServiceInfo) : List String :=
  match parsedBy info.parsedScopedAddresses with
  | some parsed => addressTexts setup parsed
  | none =>
      match parsedBy info.parsedAddresses with
      | some parsed => addressTexts setup parsed
      | none => addressTexts setup info.addresses

/-- Source: `discovery/network.py`, `_node_id_for_service`.  Kind: D -/
def nodeIdForService (serviceName : String) : Option String :=
  if Text.endsWith serviceName setup.serviceType = false then none
  else
    let nodeId := Text.removeSuffix
      (Text.sliceBefore serviceName setup.serviceType.toList.length) "."
    if nodeId = "" then none else some nodeId

/-- Source: `discovery/network.py`, `_service_hostname`.  Kind: D -/
def serviceHostname (serviceName : String) : String :=
  if Text.endsWith serviceName setup.serviceType = false then serviceName
  else
    let nodeId := Text.removeSuffix
      (Text.sliceBefore serviceName setup.serviceType.toList.length) "."
    if nodeId = "" then serviceName else nodeId

/-- `int(text)` of digits. -/
def intOf (text : String) : Except PyError ℕ :=
  match Digits.intOfDigits? setup.maxDigits text with
  | none => .error ⟨.value, "invalid literal for int()"⟩
  | some n => .ok n

/-- `transport_generation`.  Source: `discovery/network.py`, `_normalize`.  Kind: D -/
def transportGenerationOf (raw : Option String) : Except PyError (Option ℤ) :=
  match raw with
  | none => .ok none
  | some text =>
      if Digits.isDigitText text then do
        let generation ← intOf setup text
        return some (generation : ℤ)
      else .ok none

/-- `pairing_port`.  Source: `discovery/network.py`, `_normalize`.  Kind: D -/
def pairingPortOf (raw : Option String) : Except PyError (Option ℕ) :=
  match raw with
  | none => .ok none
  | some text =>
      if isAscii text ∧ Digits.isDecimalText text then do
        let parsed ← intOf setup text
        return if 1 ≤ parsed ∧ parsed ≤ 65535 then some parsed else none
      else .ok none

/-- `port`.  Source: `discovery/network.py`, `_normalize`.  Kind: D -/
def portOf : Value → Option ℕ
  | .int n => if 1 ≤ n ∧ n ≤ 65535 then some n.toNat else none
  | _ => none

/-- `properties.get(name) or None` -/
def nonempty (text : Option String) : Option String := text.filter (· ≠ "")

/-- Source: `discovery/models.py`, `EndpointCandidate.__post_init__`.  Kind: D -/
def newEndpoint (address : String) (port : ℕ) : Except PyError EndpointCandidate := do
  raiseIf (Text.isBlank address = true) ⟨.value, "endpoint address must not be empty"⟩
  raiseIf (¬(1 ≤ port ∧ port ≤ 65535)) ⟨.value, "endpoint port is invalid"⟩
  return .ofAddress setup.source port address

/-- The endpoints that a candidate is built with, each of which may be refused.
Source: `discovery/models.py`, `DiscoveredNodeCandidate.__post_init__`.  Kind: D -/
def newEndpoints (endpoints : List EndpointCandidate) (port : Option ℕ) (addresses : List String) :
    Except PyError (List EndpointCandidate) :=
  match endpoints, port with
  | [], some port => addresses.mapM fun address => newEndpoint setup address port
  | endpoints, _ => .ok endpoints

/-- Source: `discovery/network.py`, `_MalformedAdvertisement`.  Kind: D -/
def malformedAdvertisement : PyError := ⟨.other, "service name must be a string"⟩

/-- Source: `discovery/network.py`, `SUPPORTED_PROTOCOL_VERSIONS`.  Kind: D -/
def supportedProtocolVersions : List String := ["1"]

/-- Only ASCII letters fold to the letters of `true`.  Source: `discovery/network.py`, `_normalize`,
`properties.get("connectable", "false").casefold() == "true"`.  Kind: D -/
def saysTrue (raw : Option String) : Bool := (raw.getD "false").toLower = "true"

/-- The candidate of a record, or nothing for a foreign, incomplete or own one; `none` is a service
name that is not a text.  Source: `discovery/network.py`, `_normalize`.  Kind: D -/
def normalize (serviceName : Option String) (info : ServiceInfo) (now : ℚ) :
    Except PyError (Option DiscoveredNodeCandidate) :=
  match serviceName with
  | none => .error malformedAdvertisement
  | some name =>
      if nodeIdForService setup name = none then .ok none
      else
        let properties := propertyMap setup info
        let stableId := (properties.get? "id").getD ""
        if stableId = "" then .ok none
        else if stableId = setup.localNodeId then .ok none
        else do
          let transportGeneration ←
            transportGenerationOf setup (properties.get? "transport_generation")
          let pairingPort ← pairingPortOf setup (properties.get? "pairing_port")
          let port := portOf info.port
          let addresses := serviceAddressTexts setup info
          let _ ← newEndpoints setup [] port addresses
          return some
            { stableId
              hostname := (nonempty (properties.get? "name")).getD (serviceHostname setup name)
              addresses
              port
              serviceName := name
              appVersion := (properties.get? "app_version").getD ""
              protocolVersion := (properties.get? "protocol_version").getD ""
              platform := nonempty (properties.get? "platform")
              connectable := saysTrue (properties.get? "connectable") && port.isSome
              compatible := (properties.get? "protocol_version").getD "" ∈ supportedProtocolVersions
              lastSeen := now
              identityFingerprint := nonempty (properties.get? "fingerprint")
              transportFingerprint := nonempty (properties.get? "tls_fingerprint")
              endpointCandidates := DiscoveredNodeCandidate.postInit setup.source [] port addresses
              rootPublicKey := nonempty (properties.get? "root_public_key")
              transportGeneration
              transportProof := nonempty (properties.get? "transport_proof")
              pairingPort
              derived := DiscoveredNodeCandidate.postInit_derived setup.source [] port addresses }

end reading

/-! ## The call -/

/-- The part of discovery that its lock protects. -/
structure DiscoverySession where
  /-- `_active` -/
  active : Bool
  /-- the tables -/
  tables : NetworkDiscovery

/-- The kind of a transport event. -/
inductive TransportEvent where
  | add
  | update
  | remove
  | unknown
  deriving DecidableEq

/-- The merged candidate of a node can be built: `replace` runs `__post_init__` again.
Source: `discovery/network.py`, `_rebuild_peer`.  Kind: D -/
def mergeEndpoints (setup : DiscoverySetup) (d : NetworkDiscovery) (nodeId : String) :
    Except PyError (List EndpointCandidate) :=
  match d.observations nodeId with
  | [] => .ok []
  | first :: rest =>
      newEndpoints setup (NetworkDiscovery.mergedEndpoints (first :: rest))
        (NetworkDiscovery.latest first rest).port
        (NetworkDiscovery.mergedAddresses (first :: rest))

/-- Source: `discovery/network.py`, `_rebuild_peer`.  Kind: D -/
def rebuildNode (setup : DiscoverySetup) (nodeId : String) :
    PyM DiscoverySession (List PeerEvent) := do
  let s ← get
  let _ ← PyM.ofExcept (mergeEndpoints setup s.tables nodeId)
  let (tables, events) := NetworkDiscovery.rebuildPeer setup.source s.tables nodeId
  set { s with tables }
  return events

/-- `_service_candidates.pop(service_name, None)`, and before it `_service_nodes.pop(service_name, None)`
if the service is gone. -/
def forgetService (service : String) (gone : Bool) : PyM DiscoverySession Unit :=
  modify fun s => { s with tables :=
    { s.tables with
      serviceNodes := if gone then s.tables.serviceNodes.erase service else s.tables.serviceNodes
      serviceCandidates := s.tables.serviceCandidates.erase service } }

/-- A record that was normalized.
Source: `discovery/network.py`, `_handle_transport_event_locked`.  Kind: D -/
def recordCandidate (setup : DiscoverySetup) (service : String) (c : DiscoveredNodeCandidate) :
    PyM DiscoverySession (List PeerEvent) := do
  let s ← get
  let moved ←
    match s.tables.serviceNodes.get? service with
    | some previous =>
        if previous ≠ c.stableId then do
          forgetService service false
          rebuildNode setup previous
        else pure []
    | none => pure []
  modify fun s => { s with tables :=
    { s.tables with
      serviceNodes := s.tables.serviceNodes.insert service c.stableId
      serviceCandidates := s.tables.serviceCandidates.insert service c } }
  let rebuilt ← rebuildNode setup c.stableId
  return moved ++ rebuilt

/-- A service that is gone.
Source: `discovery/network.py`, `_handle_transport_event_locked`.  Kind: D -/
def removeService (setup : DiscoverySetup) (service : String) :
    PyM DiscoverySession (List PeerEvent) := do
  let s ← get
  forgetService service true
  match s.tables.serviceNodes.get? service with
  | some nodeId => rebuildNode setup nodeId
  | none => pure []

/-- Source: `discovery/network.py`, `_handle_transport_event_locked`.  Kind: D -/
def handleTransportEvent (setup : DiscoverySetup) (event : TransportEvent)
    (serviceName : Option String) (info : ServiceInfo) (now : ℚ) :
    PyM DiscoverySession (List PeerEvent) := do
  let s ← get
  if s.active = false then return []
  else
    match event with
    | .unknown => return []
    | .remove =>
        match serviceName with
        | none => return []
        | some service => removeService setup service
    | .add | .update =>
        match normalize setup serviceName info now with
        | .error e => if e = malformedAdvertisement then return [] else throw e
        | .ok none => return []
        | .ok (some c) => recordCandidate setup c.serviceName c

end ExpraConnect
