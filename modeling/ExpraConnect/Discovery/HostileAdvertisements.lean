import ExpraConnect.Discovery.Advertisements

/-!
# What an advertisement can do to discovery

Anybody on the local network can advertise anything. `_handle_transport_event` catches
`_MalformedAdvertisement` only.

* `Routable`: a candidate with usable addresses and a possible port, as `normalize` makes them;
* `normalize_spec`: a record is passed over, raises because of a number (`Unreadable`), or has a
  candidate;
* `handleTransportEvent_spec`: with routable candidates in the tables nothing else raises, and a call
  does what `NetworkDiscovery.step` does;
* `advertisement_safe_iff`: in every run.
-/

namespace ExpraConnect

open ExpraConnect.Lib

variable {setup : DiscoverySetup} {info : ServiceInfo} {port : Option ℕ} {addresses : List String}
  {endpoints : List EndpointCandidate} {d : NetworkDiscovery} {c : DiscoveredNodeCandidate}
  {s : DiscoverySession} {name nodeId service : String} {now : ℚ}

/-! ## Addresses and ports -/

/-- An accepted address is not blank.  Kind: L -/
theorem addressText_not_blank {raw : RawAddress} {text : String}
    (h : addressText setup raw = some text) : Text.isBlank text = false := by
  unfold addressText at h
  split at h
  · split_ifs at h with hempty
    cases h
    exact Text.isBlank_strip hempty
  · split_ifs at h
    exact setup.inetNtop_not_blank _ _ h
  · cases h

/-- No text of the list is blank. -/
def NotBlank (texts : List String) : Prop := ∀ text ∈ texts, Text.isBlank text = false

theorem notBlank_nil : NotBlank [] := fun _ h => absurd h List.not_mem_nil

/-- Adding an accepted address keeps the texts from being blank.  Kind: L -/
theorem NotBlank.addUnseen {texts : List String} (h : NotBlank texts) (raw : RawAddress) :
    NotBlank (addUnseen texts (addressText setup raw)) := by
  unfold ExpraConnect.addUnseen
  split
  · exact h
  · next text htext =>
      split_ifs
      · exact h
      · intro other hother
        rcases List.mem_append.mp hother with hmem | hmem
        · exact h other hmem
        · rw [List.mem_singleton.mp hmem]
          exact addressText_not_blank htext

/-- Accepted addresses are not blank.  Kind: L -/
theorem notBlank_addressTexts (raw : RawAddresses) : NotBlank (addressTexts setup raw) := by
  unfold addressTexts
  split
  · exact notBlank_nil
  · split_ifs
    · exact notBlank_nil
    · exact notBlank_nil.addUnseen _
  · split_ifs
    · exact notBlank_nil
    · exact notBlank_nil.addUnseen _
  · next items =>
      have hfold (texts : List String) (h : NotBlank texts) : NotBlank
          (items.foldl (fun texts item => addUnseen texts (addressText setup item)) texts) := by
        induction items generalizing texts with
        | nil => exact h
        | cons item items ih => exact ih _ (h.addUnseen item)
      exact hfold [] notBlank_nil
  · exact notBlank_nil

/-- The addresses of a service are not blank.  Kind: L -/
theorem notBlank_serviceAddressTexts (info : ServiceInfo) :
    NotBlank (serviceAddressTexts setup info) := by
  unfold serviceAddressTexts
  split
  · exact notBlank_addressTexts _
  · split
    · exact notBlank_addressTexts _
    · exact notBlank_addressTexts _

/-- The port, if there is one, is in range. -/
def PortInRange (port : Option ℕ) : Prop := ∀ p ∈ port, 1 ≤ p ∧ p ≤ 65535

/-- An accepted port is in range.  Kind: L -/
theorem portInRange_portOf (raw : Value) : PortInRange (portOf raw) := by
  intro p hp
  unfold portOf at hp
  split at hp
  · next n =>
      split_ifs at hp with hrange
      · cases hp
        omega
      · cases hp
  · cases hp

/-- No endpoint of usable addresses and a possible port is refused.  Kind: L -/
theorem newEndpoints_eq (haddresses : NotBlank addresses) (hport : PortInRange port) :
    newEndpoints setup endpoints port addresses =
      .ok (DiscoveredNodeCandidate.postInit setup.source endpoints port addresses) := by
  rcases endpoints with _ | ⟨e, rest⟩
  · rcases port with _ | port
    · rfl
    · show (addresses.mapM fun address => newEndpoint setup address port) = .ok (addresses.map _)
      have hrange : 1 ≤ port ∧ port ≤ 65535 := hport port rfl
      have hnew : ∀ address ∈ addresses, newEndpoint setup address port =
          .ok (EndpointCandidate.ofAddress setup.source port address) := by
        intro address haddress
        have hblank : ¬Text.isBlank address = true := by
          rw [haddresses address haddress]
          exact Bool.false_ne_true
        rw [newEndpoint, raiseIf, if_neg hblank, raiseIf, if_neg (not_not.mpr hrange)]
        rfl
      induction addresses with
      | nil => rfl
      | cons address rest ih =>
          have hrest := ih (fun a ha => haddresses a (List.mem_cons_of_mem _ ha))
            fun a ha => hnew a (List.mem_cons_of_mem _ ha)
          rw [List.mapM_cons, hnew address List.mem_cons_self, hrest]
          rfl
  · rcases port <;> rfl

/-- A candidate that `normalize` can make: its addresses and its port are usable. -/
structure Routable (c : DiscoveredNodeCandidate) : Prop where
  addresses : NotBlank c.addresses
  port : PortInRange c.port

/-! ## Numbers -/

/-- A number of the record is one that is tried and cannot be converted: the generation has a digit
that is not decimal, or it or the pairing port has too many digits. -/
def Unreadable (setup : DiscoverySetup) (info : ServiceInfo) : Prop :=
  (∃ text, (propertyMap setup info).get? "transport_generation" = some text ∧
    Digits.isDigitText text = true ∧
      (¬Digits.isDecimalText text ∨ Digits.Overlong setup.maxDigits text)) ∨
  ∃ text, (propertyMap setup info).get? "pairing_port" = some text ∧ isAscii text = true ∧
    Digits.isDecimalText text = true ∧ Digits.Overlong setup.maxDigits text

/-- The error of `int`. -/
def intError : PyError := ⟨.value, "invalid literal for int()"⟩

/-- What becomes of the text of a generation.  Kind: L -/
theorem transportGenerationOf_cases (setup : DiscoverySetup) (raw : Option String) :
    (transportGenerationOf setup raw = .error intError ∧
      ∃ text, raw = some text ∧ Digits.isDigitText text = true ∧
        (¬Digits.isDecimalText text ∨ Digits.Overlong setup.maxDigits text)) ∨
    ((∃ generation, transportGenerationOf setup raw = .ok generation) ∧
      ¬∃ text, raw = some text ∧ Digits.isDigitText text = true ∧
        (¬Digits.isDecimalText text ∨ Digits.Overlong setup.maxDigits text)) := by
  rcases raw with _ | text
  · refine .inr ⟨⟨none, rfl⟩, ?_⟩
    rintro ⟨_, h, -⟩
    cases h
  rw [transportGenerationOf]
  by_cases hdigits : Digits.isDigitText text = true
  · rw [if_pos hdigits, intOf]
    rcases hint : Digits.intOfDigits? setup.maxDigits text with _ | n
    · exact .inl ⟨rfl, text, rfl, hdigits, Digits.intOfDigits?_eq_none_iff.mp hint⟩
    · refine .inr ⟨⟨some (n : ℤ), rfl⟩, ?_⟩
      rintro ⟨_, heq, -, hnone⟩
      cases heq
      rw [Digits.intOfDigits?_eq_none_iff.mpr hnone] at hint
      cases hint
  · rw [if_neg hdigits]
    refine .inr ⟨⟨none, rfl⟩, ?_⟩
    rintro ⟨_, heq, hdigits', -⟩
    cases heq
    exact hdigits hdigits'

/-- What becomes of the text of a pairing port.  Kind: L -/
theorem pairingPortOf_cases (setup : DiscoverySetup) (raw : Option String) :
    (pairingPortOf setup raw = .error intError ∧
      ∃ text, raw = some text ∧ isAscii text = true ∧ Digits.isDecimalText text = true ∧
        Digits.Overlong setup.maxDigits text) ∨
    ((∃ port, pairingPortOf setup raw = .ok port) ∧
      ¬∃ text, raw = some text ∧ isAscii text = true ∧ Digits.isDecimalText text = true ∧
        Digits.Overlong setup.maxDigits text) := by
  rcases raw with _ | text
  · refine .inr ⟨⟨none, rfl⟩, ?_⟩
    rintro ⟨_, h, -⟩
    cases h
  rw [pairingPortOf]
  by_cases hdecimal : isAscii text ∧ Digits.isDecimalText text
  · rw [if_pos hdecimal, intOf]
    rcases hint : Digits.intOfDigits? setup.maxDigits text with _ | n
    · have hlong : Digits.Overlong setup.maxDigits text :=
        (Digits.intOfDigits?_eq_none_iff.mp hint).resolve_left (not_not.mpr hdecimal.2)
      exact .inl ⟨rfl, text, rfl, hdecimal.1, hdecimal.2, hlong⟩
    · refine .inr ⟨⟨_, rfl⟩, ?_⟩
      rintro ⟨_, heq, -, -, hlong⟩
      cases heq
      rw [Digits.intOfDigits?_eq_none_iff.mpr (.inr hlong)] at hint
      cases hint
  · rw [if_neg hdecimal]
    refine .inr ⟨⟨none, rfl⟩, ?_⟩
    rintro ⟨_, heq, hascii, hdecimal', -⟩
    cases heq
    exact hdecimal ⟨hascii, hdecimal'⟩

/-! ## Records -/

/-- The record has the service type that is looked for, and the id of another node. -/
def Usable (setup : DiscoverySetup) (serviceName : Option String) (info : ServiceInfo) : Prop :=
  ∃ name, serviceName = some name ∧ nodeIdForService setup name ≠ none ∧
    ∃ id, (propertyMap setup info).get? "id" = some id ∧ id ≠ "" ∧ id ≠ setup.localNodeId

/-- A record is passed over, or one of its numbers raises, or it has a routable candidate.
Kind: L -/
theorem normalize_spec (setup : DiscoverySetup) (serviceName : Option String) (info : ServiceInfo)
    (now : ℚ) :
    (¬Usable setup serviceName info ∧
      (normalize setup serviceName info now = .error malformedAdvertisement ∨
        normalize setup serviceName info now = .ok none)) ∨
    (Usable setup serviceName info ∧ Unreadable setup info ∧
      normalize setup serviceName info now = .error intError) ∨
    (Usable setup serviceName info ∧ ¬Unreadable setup info ∧
      ∃ c, normalize setup serviceName info now = .ok (some c) ∧ Routable c ∧
        serviceName = some c.serviceName) := by
  rcases serviceName with _ | name
  · refine .inl ⟨?_, .inl rfl⟩
    rintro ⟨_, h, -⟩
    cases h
  rw [normalize]
  by_cases hforeign : nodeIdForService setup name = none
  · refine .inl ⟨?_, .inr (if_pos hforeign)⟩
    rintro ⟨_, heq, hown, -⟩
    cases heq
    exact hown hforeign
  rw [if_neg hforeign]
  dsimp only
  rcases hid : (propertyMap setup info).get? "id" with _ | id
  · refine .inl ⟨?_, .inr (if_pos rfl)⟩
    rintro ⟨_, -, -, id, hid', -⟩
    rw [hid] at hid'
    cases hid'
  rw [Option.getD_some]
  have hunusable (h : id = "" ∨ id = setup.localNodeId) : ¬Usable setup (some name) info := by
    rintro ⟨_, -, -, id', hid', hne, hother⟩
    rw [hid] at hid'
    cases hid'
    exact h.elim hne hother
  by_cases hempty : id = ""
  · exact .inl ⟨hunusable (.inl hempty), .inr (if_pos hempty)⟩
  rw [if_neg hempty]
  by_cases hlocal : id = setup.localNodeId
  · exact .inl ⟨hunusable (.inr hlocal), .inr (if_pos hlocal)⟩
  rw [if_neg hlocal]
  have husable : Usable setup (some name) info := ⟨name, rfl, hforeign, id, hid, hempty, hlocal⟩
  rcases transportGenerationOf_cases setup
    ((propertyMap setup info).get? "transport_generation") with
    ⟨herror, hbad⟩ | ⟨⟨generation, hgeneration⟩, hgood⟩
  · refine .inr (.inl ⟨husable, .inl hbad, ?_⟩)
    rw [herror]
    rfl
  rcases pairingPortOf_cases setup ((propertyMap setup info).get? "pairing_port") with
    ⟨herror, hbad⟩ | ⟨⟨pairingPort, hpairing⟩, hgood'⟩
  · refine .inr (.inl ⟨husable, .inr hbad, ?_⟩)
    rw [hgeneration, herror]
    rfl
  · refine .inr (.inr ⟨husable, fun h => h.elim hgood hgood', ?_⟩)
    rw [hgeneration, hpairing,
      newEndpoints_eq (notBlank_serviceAddressTexts info) (portInRange_portOf info.port)]
    exact ⟨_, rfl, ⟨notBlank_serviceAddressTexts info, portInRange_portOf info.port⟩, rfl⟩

/-! ## Sessions -/

/-- The candidates of the services are routable. -/
def AllRoutable (d : NetworkDiscovery) : Prop :=
  ∀ service c, d.serviceCandidates.get? service = some c → Routable c

/-- A new session has no candidates.  Kind: L -/
theorem allRoutable_new : AllRoutable .new := by
  intro service c h
  cases h

/-- Whether all are routable depends on the candidates.  Kind: L -/
theorem AllRoutable.of_eq {d' : NetworkDiscovery} (h : AllRoutable d)
    (heq : d'.serviceCandidates = d.serviceCandidates) : AllRoutable d' := by
  intro service c hc
  rw [heq] at hc
  exact h service c hc

/-- Fewer candidates stay routable.  Kind: L -/
theorem AllRoutable.erase (h : AllRoutable d) {d' : NetworkDiscovery}
    (heq : d'.serviceCandidates = d.serviceCandidates.erase service) : AllRoutable d' := by
  intro other c hc
  rw [heq, Dict.get?_erase] at hc
  split_ifs at hc
  exact h other c hc

/-- One more routable candidate.  Kind: L -/
theorem AllRoutable.insert (h : AllRoutable d) (hc : Routable c) {d' : NetworkDiscovery}
    (heq : d'.serviceCandidates = d.serviceCandidates.insert service c) : AllRoutable d' := by
  intro other c' hc'
  rw [heq, Dict.get?_insert] at hc'
  split_ifs at hc'
  · cases hc'
    exact hc
  · exact h other c' hc'

/-- Rebuilding a peer leaves the candidates of the services alone.  Kind: L -/
theorem serviceCandidates_rebuildPeer (source : String → EndpointSource) (d : NetworkDiscovery)
    (nodeId : String) :
    (NetworkDiscovery.rebuildPeer source d nodeId).1.serviceCandidates = d.serviceCandidates :=
  (NetworkDiscovery.rebuilt_rebuildPeer source d nodeId).serviceCandidates

/-- The merged candidate of routable ones can be built.  Kind: L -/
theorem rebuildNode_apply (h : AllRoutable s.tables) (nodeId : String) :
    rebuildNode setup nodeId s =
      .ok (NetworkDiscovery.rebuildPeer setup.source s.tables nodeId).2
        { s with tables := (NetworkDiscovery.rebuildPeer setup.source s.tables nodeId).1 } := by
  have hmerge : ∃ endpoints, mergeEndpoints setup s.tables nodeId = .ok endpoints := by
    rw [mergeEndpoints]
    rcases hobs : s.tables.observations nodeId with _ | ⟨first, rest⟩
    · exact ⟨[], rfl⟩
    have hroutable : ∀ o ∈ first :: rest, Routable o := by
      intro o ho
      rw [← hobs] at ho
      obtain ⟨service, hservice, -⟩ := NetworkDiscovery.mem_observations_iff.mp ho
      exact h service o hservice
    have haddresses : NotBlank (NetworkDiscovery.mergedAddresses (first :: rest)) := by
      intro a ha
      obtain ⟨o, ho, hao⟩ := NetworkDiscovery.mem_mergedAddresses.mp ha
      exact (hroutable o ho).addresses a hao
    have hport : PortInRange (NetworkDiscovery.latest first rest).port :=
      (hroutable _ (NetworkDiscovery.latest_mem first rest)).port
    exact ⟨_, newEndpoints_eq haddresses hport⟩
  obtain ⟨endpoints, hendpoints⟩ := hmerge
  rw [rebuildNode, PyM.bind_apply, PyM.get_apply]
  dsimp only
  rw [PyM.bind_apply, PyM.ofExcept_apply, hendpoints]
  rfl

/-- A record with a routable candidate is announced.  Kind: L -/
theorem recordCandidate_apply (setup : DiscoverySetup) (h : AllRoutable s.tables) (hc : Routable c)
    (service : String) :
    recordCandidate setup service c s =
        .ok (NetworkDiscovery.announce setup.source s.tables service c).2
          { s with tables := (NetworkDiscovery.announce setup.source s.tables service c).1 } ∧
      AllRoutable (NetworkDiscovery.announce setup.source s.tables service c).1 := by
  -- the last part, with the tables that the first part leaves
  have hlast (d : NetworkDiscovery) (hd : AllRoutable d) (moved : List PeerEvent) :
      let recorded : NetworkDiscovery :=
        { d with
          serviceNodes := d.serviceNodes.insert service c.stableId
          serviceCandidates := d.serviceCandidates.insert service c }
      (do
        let rebuilt ← rebuildNode setup c.stableId
        return moved ++ rebuilt : PyM DiscoverySession (List PeerEvent)) { s with tables := recorded } =
        .ok (moved ++ (NetworkDiscovery.rebuildPeer setup.source recorded c.stableId).2)
          { s with tables := (NetworkDiscovery.rebuildPeer setup.source recorded c.stableId).1 } ∧
      AllRoutable (NetworkDiscovery.rebuildPeer setup.source recorded c.stableId).1 := by
    intro recorded
    have hrecorded : AllRoutable recorded := hd.insert hc rfl
    rw [PyM.bind_apply, rebuildNode_apply hrecorded]
    exact ⟨rfl, hrecorded.of_eq (serviceCandidates_rebuildPeer _ _ _)⟩
  rw [recordCandidate, PyM.bind_apply, PyM.get_apply, NetworkDiscovery.announce]
  dsimp only
  rcases s.tables.serviceNodes.get? service with _ | previous
  · exact hlast s.tables h []
  by_cases hprevious : previous ≠ c.stableId
  · dsimp only
    rw [if_pos hprevious, if_pos hprevious]
    have herased : AllRoutable { s.tables with
        serviceCandidates := s.tables.serviceCandidates.erase service } := h.erase rfl
    have hforget : forgetService service false s = .ok () { s with tables := { s.tables with
        serviceCandidates := s.tables.serviceCandidates.erase service } } := rfl
    rw [PyM.bind_apply, hforget]
    dsimp only
    rw [PyM.bind_apply, rebuildNode_apply herased]
    exact hlast _ (herased.of_eq (serviceCandidates_rebuildPeer _ _ _)) _
  · dsimp only
    rw [if_neg hprevious, if_neg hprevious]
    exact hlast s.tables h []

/-- So is a removal.  Kind: L -/
theorem removeService_apply (setup : DiscoverySetup) (h : AllRoutable s.tables) (service : String) :
    removeService setup service s =
        .ok (NetworkDiscovery.remove setup.source s.tables service).2
          { s with tables := (NetworkDiscovery.remove setup.source s.tables service).1 } ∧
      AllRoutable (NetworkDiscovery.remove setup.source s.tables service).1 := by
  set removed : NetworkDiscovery :=
    { s.tables with
      serviceNodes := s.tables.serviceNodes.erase service
      serviceCandidates := s.tables.serviceCandidates.erase service } with hremoved
  have hroutable : AllRoutable removed := h.erase rfl
  rw [NetworkDiscovery.remove]
  rcases hnode : s.tables.serviceNodes.get? service with _ | nodeId
  · have hcall : removeService setup service s = .ok [] { s with tables := removed } := by
      simp only [removeService, PyM.bind_apply, PyM.get_apply, hnode]
      rfl
    exact ⟨hcall, hroutable⟩
  · have hcall : removeService setup service s =
        rebuildNode setup nodeId { s with tables := removed } := by
      simp only [removeService, PyM.bind_apply, PyM.get_apply, hnode]
      rfl
    dsimp only
    rw [hcall, rebuildNode_apply hroutable]
    exact ⟨rfl, hroutable.of_eq (serviceCandidates_rebuildPeer _ _ _)⟩

/-- An event that announces a service. -/
def TransportEvent.isAdvertisement : TransportEvent → Bool
  | .add | .update => true
  | .remove | .unknown => false

/-- The call raises because of a number. -/
def Breaks (setup : DiscoverySetup) (s : DiscoverySession) (event : TransportEvent)
    (serviceName : Option String) (info : ServiceInfo) : Prop :=
  s.active = true ∧ event.isAdvertisement = true ∧ Usable setup serviceName info ∧
    Unreadable setup info

/-- What is done with the candidate that is read. -/
def recordRead (setup : DiscoverySetup) :
    Except PyError (Option DiscoveredNodeCandidate) → PyM DiscoverySession (List PeerEvent)
  | .error e => if e = malformedAdvertisement then return [] else throw e
  | .ok none => return []
  | .ok (some c) => recordCandidate setup c.serviceName c

/-- A call raises because of a number and changes nothing, or it returns. A record that is not usable
changes nothing.  Kind: L -/
theorem handleTransportEvent_spec (setup : DiscoverySetup) (h : AllRoutable s.tables)
    (event : TransportEvent) (serviceName : Option String) (info : ServiceInfo) (now : ℚ) :
    (Breaks setup s event serviceName info ∧
      handleTransportEvent setup event serviceName info now s = .error intError s) ∨
    (¬Breaks setup s event serviceName info ∧ ∃ events s',
      handleTransportEvent setup event serviceName info now s = .ok events s' ∧
      AllRoutable s'.tables ∧
      (event.isAdvertisement = true → ¬Usable setup serviceName info → events = [] ∧ s' = s)) := by
  unfold handleTransportEvent
  rw [PyM.bind_apply, PyM.get_apply]
  dsimp only
  by_cases hactive : s.active = false
  · rw [if_pos hactive]
    refine .inr ⟨?_, [], s, rfl, h, fun _ _ => ⟨rfl, rfl⟩⟩
    rintro ⟨htrue, -⟩
    rw [hactive] at htrue
    cases htrue
  rw [if_neg hactive]
  have hadvert (hevent : event.isAdvertisement = true) :
      (Breaks setup s event serviceName info ∧
        recordRead setup (normalize setup serviceName info now) s = .error intError s) ∨
      (¬Breaks setup s event serviceName info ∧ ∃ events s',
        recordRead setup (normalize setup serviceName info now) s = .ok events s' ∧
        AllRoutable s'.tables ∧
        (event.isAdvertisement = true → ¬Usable setup serviceName info → events = [] ∧ s' = s)) := by
    rcases normalize_spec setup serviceName info now with
      ⟨hunusable, hmalformed | hnone⟩ | ⟨husable, hunreadable, herror⟩ |
      ⟨husable, hreadable, c, hsome, hroutable, -⟩
    · rw [hmalformed]
      exact .inr ⟨fun hbreaks => hunusable hbreaks.2.2.1, [], s, rfl, h, fun _ _ => ⟨rfl, rfl⟩⟩
    · rw [hnone]
      exact .inr ⟨fun hbreaks => hunusable hbreaks.2.2.1, [], s, rfl, h, fun _ _ => ⟨rfl, rfl⟩⟩
    · rw [herror]
      exact .inl ⟨⟨eq_true_of_ne_false hactive, hevent, husable, hunreadable⟩, rfl⟩
    · rw [hsome]
      obtain ⟨hok, hall⟩ := recordCandidate_apply setup h hroutable c.serviceName
      exact .inr ⟨fun hbreaks => hreadable hbreaks.2.2.2, _, _, hok, hall,
        fun _ hunusable => (hunusable husable).elim⟩
  rcases event with _ | _ | _ | _
  · exact hadvert rfl
  · exact hadvert rfl
  · refine .inr ⟨fun hbreaks => Bool.false_ne_true hbreaks.2.1, ?_⟩
    rcases serviceName with _ | service
    · exact ⟨[], s, rfl, h, fun _ _ => ⟨rfl, rfl⟩⟩
    · obtain ⟨hok, hall⟩ := removeService_apply setup h service
      exact ⟨_, _, hok, hall, fun hfalse => absurd hfalse Bool.false_ne_true⟩
  · exact .inr ⟨fun hbreaks => Bool.false_ne_true hbreaks.2.1, [], s, rfl, h, fun _ _ => ⟨rfl, rfl⟩⟩

/-! ## Runs -/

/-- What happens to a session. -/
inductive DiscoveryMove where
  /-- `_handle_transport_event` -/
  | event (event : TransportEvent) (serviceName : Option String) (info : ServiceInfo) (now : ℚ)
  /-- `expire_stale` -/
  | expireStale (ttl now : ℚ)
  /-- `start`, as far as it marks the session active -/
  | start
  /-- `stop`, or a start whose backend raises -/
  | stop

namespace DiscoverySession

/-- Source: `discovery/network.py`, `NetworkDiscovery.__init__`.  Kind: D -/
def new : DiscoverySession := ⟨false, .new⟩

/-- The session after a move, whether it returns or raises. -/
def move (setup : DiscoverySetup) (s : DiscoverySession) : DiscoveryMove → DiscoverySession
  | .event event serviceName info now => (handleTransportEvent setup event serviceName info now).after s
  | .expireStale ttl now => { s with tables := (NetworkDiscovery.expireStale ttl now s.tables).1 }
  | .start => { s with active := true }
  | .stop => if s.active then new else s

/-- The session after a run. -/
def run (setup : DiscoverySetup) (moves : List DiscoveryMove) : DiscoverySession :=
  moves.foldl (move setup) new

/-- A move keeps the candidates routable.  Kind: L -/
theorem allRoutable_move (setup : DiscoverySetup) (h : AllRoutable s.tables) (m : DiscoveryMove) :
    AllRoutable (s.move setup m).tables := by
  rcases m with ⟨event, serviceName, info, now⟩ | ⟨ttl, now⟩ | _ | _
  · rw [move]
    rcases handleTransportEvent_spec setup h event serviceName info now with
      ⟨-, herror⟩ | ⟨-, events, s', hok, hall, -⟩
    · rw [PyM.after_of_error herror]
      exact h
    · rw [PyM.after_of_ok hok]
      exact hall
  · exact h.of_eq (NetworkDiscovery.dropPeers_spec _ _).2.1
  · exact h
  · rw [move]
    split_ifs
    · exact allRoutable_new
    · exact h

/-- A run keeps the candidates routable.  Kind: L -/
theorem allRoutable_run (setup : DiscoverySetup) (moves : List DiscoveryMove) :
    AllRoutable (run setup moves).tables := by
  have hfold (s : DiscoverySession) (h : AllRoutable s.tables) :
      AllRoutable (moves.foldl (move setup) s).tables := by
    induction moves generalizing s with
    | nil => exact h
    | cons m moves ih => exact ih _ (allRoutable_move setup h m)
  exact hfold new allRoutable_new

end DiscoverySession

/-- The call returns, and does nothing for an advertisement that is not usable. -/
def Safe (setup : DiscoverySetup) (s : DiscoverySession) (event : TransportEvent)
    (serviceName : Option String) (info : ServiceInfo) (now : ℚ) : Prop :=
  ∃ events s', handleTransportEvent setup event serviceName info now s = .ok events s' ∧
    (event.isAdvertisement = true → ¬Usable setup serviceName info → events = [] ∧ s' = s)

/-- **Hostile advertisements.**  After any run, a call is safe exactly if it does not break on a
number of a record that is otherwise usable.
Source: `discovery/network.py`, `_handle_transport_event_locked`.  Kind: P -/
theorem advertisement_safe_iff (setup : DiscoverySetup) (moves : List DiscoveryMove)
    (event : TransportEvent) (serviceName : Option String) (info : ServiceInfo) (now : ℚ) :
    Safe setup (.run setup moves) event serviceName info now ↔
      ¬Breaks setup (.run setup moves) event serviceName info := by
  rcases handleTransportEvent_spec setup (DiscoverySession.allRoutable_run setup moves) event
    serviceName info now with ⟨hbreaks, herror⟩ | ⟨hsafe, events, s', hok, -, hnothing⟩
  · refine iff_of_false ?_ (not_not.mpr hbreaks)
    rintro ⟨events, s', hok, -⟩
    rw [herror] at hok
    cases hok
  · exact iff_of_true ⟨events, s', hok, hnothing⟩ hsafe

/-- Discovery of a node, on an interpreter with the usual limit. -/
def localDiscovery : DiscoverySetup where
  serviceType := "_expra-peer._tcp.local."
  localNodeId := "local-node"
  source := fun _ => .ipv4
  decode := fun _ => "\uFFFD"
  inetNtop := fun _ => none
  inetNtop_not_blank := fun _ _ h => by cases h
  maxDigits := some 4300

/-- An advertisement whose generation is a superscript. -/
def superscriptGeneration : ServiceInfo where
  properties := some [(.str "id", .str "peer"), (.str "transport_generation", .str "²")]
  port := .int 8443
  parsedScopedAddresses := none
  parsedAddresses := none
  addresses := .none

/-- The call raises the `ValueError` of `int`. -/
theorem superscript_generation_raises :
    handleTransportEvent localDiscovery .add (some "peer._expra-peer._tcp.local.")
        superscriptGeneration 0 (.run localDiscovery [.start]) =
        .error ⟨.value, "invalid literal for int()"⟩ (.run localDiscovery [.start]) ∧
      ¬Safe localDiscovery (.run localDiscovery [.start]) .add
        (some "peer._expra-peer._tcp.local.") superscriptGeneration 0 := by
  have hraises : handleTransportEvent localDiscovery .add (some "peer._expra-peer._tcp.local.")
      superscriptGeneration 0 (.run localDiscovery [.start]) =
      .error ⟨.value, "invalid literal for int()"⟩ (.run localDiscovery [.start]) := by
    rfl
  refine ⟨hraises, ?_⟩
  rintro ⟨events, s', hok, -⟩
  rw [hraises] at hok
  cases hok

end ExpraConnect
