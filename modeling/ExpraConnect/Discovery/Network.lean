import ExpraConnect.Discovery.Models
import ExpraConnect.Lib.Notify

/-!
# What the consumers of discovery see

`discovery/network.py`: every call of `NetworkDiscovery` changes the table of peers under its lock,
collects the events that say so, and emits them when the lock is released.

* `NetworkDiscovery`, `DiscoveryCall`: the state and the atomic part of `_handle_transport_event`
  and `expire_stale`, within one active session;
* `reports`: the events of a call say what it did to `peers()`, up to `last_seen`;
* `consumers_converge_iff`: whatever the threads do, the consumer ends with `peers()` exactly if the
  last event delivered about each peer says what the last event produced about it says, as delivery
  in order ensures; `reordered_events_mislead`: two threads and one peer suffice for the converse.

A service record enters as what `_normalize` makes of it.
-/

namespace ExpraConnect

open ExpraConnect.Lib

/-- Source: `discovery/network.py`, `_PeerRecord`.  Kind: D -/
structure PeerRecord where
  /-- `candidate` -/
  candidate : DiscoveredNodeCandidate
  /-- `last_seen` -/
  lastSeen : ℚ
  deriving DecidableEq

/-- Source: `discovery/network.py`, `NetworkDiscovery`.  Kind: D -/
structure NetworkDiscovery where
  /-- `_peers` -/
  peers : Dict String PeerRecord
  /-- `_service_nodes` -/
  serviceNodes : Dict String String
  /-- `_service_candidates` -/
  serviceCandidates : Dict String DiscoveredNodeCandidate
  deriving DecidableEq

/-- Source: `discovery/network.py`, `EVENT_CANDIDATE` and `EVENT_LOST`.  Kind: D -/
inductive PeerEvent where
  | candidate (c : DiscoveredNodeCandidate)
  | lost (nodeId : String)
  deriving DecidableEq

/-- A call, with what `_normalize` makes of the record of an announcement: nothing for a record
that is malformed, incomplete or the node's own.
Source: `discovery/network.py`, `_handle_transport_event` and `expire_stale`.  Kind: D -/
inductive DiscoveryCall where
  /-- `add` or `update` -/
  | announce (service : String) (normalized : Option DiscoveredNodeCandidate)
  /-- `remove` -/
  | remove (service : String)
  /-- `expire_stale` -/
  | expireStale (now : ℚ)

namespace NetworkDiscovery

/-- A session that has just started. -/
def new : NetworkDiscovery := ⟨Dict.empty, Dict.empty, Dict.empty⟩

/-- `max(observations, key=lambda item: item.last_seen)`: the first of the latest. -/
def latest : DiscoveredNodeCandidate → List DiscoveredNodeCandidate → DiscoveredNodeCandidate
  | best, [] => best
  | best, c :: rest => latest (if best.lastSeen < c.lastSeen then c else best) rest

/-- The candidates announced for a node, in the order of their services. -/
def observations (d : NetworkDiscovery) (nodeId : String) : List DiscoveredNodeCandidate :=
  (d.serviceCandidates.entries.filter fun p => d.serviceNodes.get? p.1 = some nodeId).map Prod.snd

/-- Source: `discovery/network.py`, `_drop_peer`.  Kind: D -/
def dropPeer (d : NetworkDiscovery) (nodeId : String) : NetworkDiscovery × List PeerEvent :=
  if d.peers.contains nodeId then ({ d with peers := d.peers.erase nodeId }, [.lost nodeId])
  else (d, [])

/-- The merged candidate of a node that has observations. -/
def merged (source : String → EndpointSource) (first : DiscoveredNodeCandidate)
    (rest : List DiscoveredNodeCandidate) : DiscoveredNodeCandidate :=
  let all := first :: rest
  (latest first rest).withRoutes source
    (Dict.ofList ((all.flatMap (·.addresses)).map fun a => (a, ()))).keys
    (Dict.ofList ((all.flatMap (·.endpointCandidates)).map fun e => (e.key, e))).values

/-- Source: `discovery/network.py`, `_rebuild_peer`.  Kind: D -/
def rebuildPeer (source : String → EndpointSource) (d : NetworkDiscovery) (nodeId : String) :
    NetworkDiscovery × List PeerEvent :=
  match d.observations nodeId with
  | [] => d.dropPeer nodeId
  | first :: rest =>
      let updated := merged source first rest
      let stored : NetworkDiscovery :=
        { d with peers := d.peers.insert nodeId ⟨updated, (latest first rest).lastSeen⟩ }
      match d.peers.get? nodeId with
      | none => (stored, [.candidate updated])
      | some record =>
          (stored, if record.candidate.seenAt updated.lastSeen ≠ updated then [.candidate updated]
            else [])

/-- Source: `discovery/network.py`, `_handle_transport_event_locked`, on a record that was
normalized.  Kind: D -/
def announce (source : String → EndpointSource) (d : NetworkDiscovery) (service : String)
    (c : DiscoveredNodeCandidate) : NetworkDiscovery × List PeerEvent :=
  let (d, moved) :=
    match d.serviceNodes.get? service with
    | some previous =>
        if previous ≠ c.stableId then
          rebuildPeer source
            { d with serviceCandidates := d.serviceCandidates.erase service } previous
        else (d, [])
    | none => (d, [])
  let (d, rebuilt) := rebuildPeer source
    { d with
      serviceNodes := d.serviceNodes.insert service c.stableId
      serviceCandidates := d.serviceCandidates.insert service c } c.stableId
  (d, moved ++ rebuilt)

/-- Source: `discovery/network.py`, `_handle_transport_event_locked`, the event `remove`.
Kind: D -/
def remove (source : String → EndpointSource) (d : NetworkDiscovery) (service : String) :
    NetworkDiscovery × List PeerEvent :=
  let removed : NetworkDiscovery :=
    { d with
      serviceNodes := d.serviceNodes.erase service
      serviceCandidates := d.serviceCandidates.erase service }
  match d.serviceNodes.get? service with
  | some nodeId => rebuildPeer source removed nodeId
  | none => (removed, [])

/-- Drop the peers of a list, in order. -/
def dropPeers : List String → NetworkDiscovery → NetworkDiscovery × List PeerEvent
  | [], d => (d, [])
  | nodeId :: rest, d =>
      let (d, events) := d.dropPeer nodeId
      let (d, more) := dropPeers rest d
      (d, events ++ more)

/-- Source: `discovery/network.py`, `expire_stale`.  Kind: D -/
def expireStale (ttl now : ℚ) (d : NetworkDiscovery) : NetworkDiscovery × List PeerEvent :=
  dropPeers ((d.peers.entries.filter fun p => ttl < now - p.2.lastSeen).map Prod.fst) d

/-- The atomic part of a call, and the events it emits afterwards. -/
def step (source : String → EndpointSource) (ttl : ℚ) :
    DiscoveryCall → NetworkDiscovery → NetworkDiscovery × List PeerEvent
  | .announce _ none, d => (d, [])
  | .announce service (some c), d => announce source d service c
  | .remove service, d => remove source d service
  | .expireStale now, d => expireStale ttl now d

/-- `peers()`, by node id and up to `last_seen`. -/
def view (d : NetworkDiscovery) (nodeId : String) : Option DiscoveredNodeCandidate :=
  (d.peers.get? nodeId).map fun r => r.candidate.unseen

end NetworkDiscovery

/-- What an event tells a consumer: a candidate inserts or replaces its peer, a loss removes it. -/
def PeerEvent.note : PeerEvent → Note String DiscoveredNodeCandidate
  | .candidate c => ⟨c.stableId, some c.unseen⟩
  | .lost nodeId => ⟨nodeId, none⟩

/-! ## The events of a call say what it did -/

namespace NetworkDiscovery

variable {source : String → EndpointSource} {d d₁ d₂ : NetworkDiscovery} {nodeId service : String}

/-- The tables agree on which node a candidate is about. -/
structure Consistent (d : NetworkDiscovery) : Prop where
  /-- A service with a candidate is a service of the candidate's node. -/
  services : ∀ service c, d.serviceCandidates.get? service = some c →
    d.serviceNodes.get? service = some c.stableId
  /-- A peer is stored under its own id. -/
  peers : ∀ nodeId r, d.peers.get? nodeId = some r → r.candidate.stableId = nodeId

/-- The call leaves consistent tables and events that lead from the one view to the other. -/
def Reports (d : NetworkDiscovery) (out : NetworkDiscovery × List PeerEvent) : Prop :=
  out.1.Consistent ∧ out.1.view = Note.replay (out.2.map PeerEvent.note) d.view

/-- A new session is consistent.  Kind: L -/
theorem consistent_new : new.Consistent := by
  constructor
  · intro service c h
    cases h
  · intro nodeId r h
    cases h

theorem Consistent.reports_nil (h : d.Consistent) : d.Reports (d, []) := ⟨h, rfl⟩

theorem Reports.trans {events more : List PeerEvent} (h₁ : d.Reports (d₁, events))
    (h₂ : d₁.Reports (d₂, more)) : d.Reports (d₂, events ++ more) := by
  refine ⟨h₂.1, ?_⟩
  rw [List.map_append, Note.replay_append, ← h₁.2]
  exact h₂.2

/-- The view reads the peers only.  Kind: L -/
theorem Reports.of_view {out : NetworkDiscovery × List PeerEvent} (hview : d₁.view = d.view)
    (h : d₁.Reports out) : d.Reports out := ⟨h.1, hview ▸ h.2⟩

/-- What consumers see after a peer is written.  Kind: L -/
theorem view_insert (d : NetworkDiscovery) (nodeId : String) (r : PeerRecord) :
    view { d with peers := d.peers.insert nodeId r } =
      Function.update d.view nodeId (some r.candidate.unseen) := by
  funext k
  by_cases hk : nodeId = k
  · subst hk
    simp [view]
  · rw [Function.update_of_ne (Ne.symm hk)]
    simp [view, Dict.get?_insert_of_ne _ _ hk]

/-- What consumers see after a peer is removed.  Kind: L -/
theorem view_erase (d : NetworkDiscovery) (nodeId : String) :
    view { d with peers := d.peers.erase nodeId } = Function.update d.view nodeId none := by
  funext k
  by_cases hk : nodeId = k
  · subst hk
    simp [view]
  · rw [Function.update_of_ne (Ne.symm hk)]
    simp [view, Dict.get?_erase_of_ne _ hk]

/-- Dropping a peer reports what it did.  Kind: L -/
theorem reports_dropPeer (h : d.Consistent) (nodeId : String) :
    d.Reports (d.dropPeer nodeId) := by
  unfold dropPeer
  split
  · refine ⟨⟨h.services, fun k r hk => h.peers k r ?_⟩, view_erase d nodeId⟩
    change (d.peers.erase nodeId).get? k = some r at hk
    rw [Dict.get?_erase] at hk
    split at hk
    · cases hk
    · exact hk
  · exact h.reports_nil

/-- The observations of a node are the node's.  Kind: L -/
theorem stableId_of_mem_observations (h : d.Consistent) {c : DiscoveredNodeCandidate}
    (hc : c ∈ d.observations nodeId) : c.stableId = nodeId := by
  obtain ⟨p, hp, rfl⟩ := List.mem_map.mp hc
  obtain ⟨hmem, hnode⟩ := List.mem_filter.mp hp
  have hservice := h.services p.1 p.2 ((Dict.get?_eq_some_iff _).mpr hmem)
  rw [of_decide_eq_true hnode] at hservice
  exact (Option.some.inj hservice).symm

/-- The latest observation is one of them.  Kind: L -/
theorem latest_mem (best : DiscoveredNodeCandidate) (rest : List DiscoveredNodeCandidate) :
    latest best rest ∈ best :: rest := by
  induction rest generalizing best with
  | nil => simp [latest]
  | cons c rest ih =>
      rw [latest]
      rcases List.mem_cons.mp (ih (if best.lastSeen < c.lastSeen then c else best)) with hl | hl
      · rw [hl]
        split
        · simp
        · simp
      · exact List.mem_cons_of_mem _ (List.mem_cons_of_mem _ hl)

/-- A merged candidate is the node's.  Kind: L -/
theorem stableId_merged (source : String → EndpointSource) (h : d.Consistent)
    {first : DiscoveredNodeCandidate} {rest : List DiscoveredNodeCandidate}
    (hobs : d.observations nodeId = first :: rest) :
    (merged source first rest).stableId = nodeId := by
  change (latest first rest).stableId = nodeId
  refine stableId_of_mem_observations h ?_
  rw [hobs]
  exact latest_mem first rest

/-- The rebuilt peer is the merged candidate; nothing is said exactly when only `last_seen`
moved.  Kind: L -/
theorem reports_rebuildPeer (source : String → EndpointSource) (h : d.Consistent)
    (nodeId : String) :
    d.Reports (rebuildPeer source d nodeId) := by
  unfold rebuildPeer
  cases hobs : d.observations nodeId with
  | nil => exact reports_dropPeer h nodeId
  | cons first rest =>
      have hid := stableId_merged source h hobs
      have hstored : Consistent { d with
          peers := d.peers.insert nodeId ⟨merged source first rest,
            (latest first rest).lastSeen⟩ } := by
        refine ⟨h.services, fun k r hk => ?_⟩
        change (d.peers.insert nodeId _).get? k = some r at hk
        rw [Dict.get?_insert] at hk
        split at hk
        · rename_i hkey
          cases hk
          exact hid.trans hkey
        · exact h.peers k r hk
      have hreplay : ∀ (v : String → Option DiscoveredNodeCandidate),
          Note.replay ([PeerEvent.candidate (merged source first rest)].map PeerEvent.note) v =
            Function.update v nodeId (some (merged source first rest).unseen) := by
        intro v
        rw [← hid]
        rfl
      cases hget : d.peers.get? nodeId with
      | none => exact ⟨hstored, (view_insert d nodeId _).trans (hreplay d.view).symm⟩
      | some record =>
          refine ⟨hstored, (view_insert d nodeId _).trans ?_⟩
          simp only
          split
          · exact (hreplay d.view).symm
          · -- the peer is the one that was known, seen later
            rename_i hsame
            rw [not_not] at hsame
            have hview : d.view nodeId = some (merged source first rest).unseen := by
              rw [view, hget, Option.map_some, ← hsame,
                DiscoveredNodeCandidate.unseen_seenAt]
            rw [← hview]
            exact Function.update_eq_self nodeId d.view

/-- Dropping peers reports what it did.  Kind: L -/
theorem reports_dropPeers (ids : List String) (h : d.Consistent) :
    d.Reports (dropPeers ids d) := by
  induction ids generalizing d with
  | nil => exact h.reports_nil
  | cons nodeId rest ih =>
      have hdrop := reports_dropPeer h nodeId
      exact hdrop.trans (ih hdrop.1)

/-- Without a candidate a service can be a service of any node.  Kind: L -/
theorem Consistent.eraseService (h : d.Consistent) (service : String) :
    Consistent { d with serviceCandidates := d.serviceCandidates.erase service } := by
  refine ⟨fun s c hs => h.services s c ?_, h.peers⟩
  change (d.serviceCandidates.erase service).get? s = some c at hs
  rw [Dict.get?_erase] at hs
  split at hs
  · cases hs
  · exact hs

/-- Recording a service keeps the tables consistent.  Kind: L -/
theorem Consistent.insertService (h : d.Consistent) (service : String)
    (c : DiscoveredNodeCandidate) :
    Consistent { d with
      serviceNodes := d.serviceNodes.insert service c.stableId
      serviceCandidates := d.serviceCandidates.insert service c } := by
  refine ⟨fun s c' hs => ?_, h.peers⟩
  change (d.serviceCandidates.insert service c).get? s = some c' at hs
  change (d.serviceNodes.insert service c.stableId).get? s = some c'.stableId
  rw [Dict.get?_insert] at hs ⊢
  split at hs
  · rename_i hkey
    cases hs
    rw [if_pos hkey]
  · rename_i hkey
    rw [if_neg hkey]
    exact h.services s c' hs

/-- Removing a service keeps the tables consistent.  Kind: L -/
theorem Consistent.removeService (h : d.Consistent) (service : String) :
    Consistent { d with
      serviceNodes := d.serviceNodes.erase service
      serviceCandidates := d.serviceCandidates.erase service } := by
  refine ⟨fun s c hs => ?_, h.peers⟩
  change (d.serviceCandidates.erase service).get? s = some c at hs
  change (d.serviceNodes.erase service).get? s = some c.stableId
  rw [Dict.get?_erase] at hs ⊢
  split at hs
  · cases hs
  · rename_i hkey
    rw [if_neg hkey]
    exact h.services s c hs

/-- The last part of `_handle_transport_event_locked`: the service is recorded and its node
rebuilt.  Kind: L -/
theorem Reports.setService {events : List PeerEvent} (h : d.Reports (d₁, events))
    (service : String) (c : DiscoveredNodeCandidate)
    {out : NetworkDiscovery × List PeerEvent}
    (hout : out = rebuildPeer source { d₁ with
      serviceNodes := d₁.serviceNodes.insert service c.stableId
      serviceCandidates := d₁.serviceCandidates.insert service c } c.stableId) :
    d.Reports (out.1, events ++ out.2) := by
  subst hout
  have hrebuilt := reports_rebuildPeer source (h.1.insertService service c) c.stableId
  exact h.trans (hrebuilt.of_view rfl)

/-- `announce` reports what it did.  Kind: L -/
theorem reports_announce (h : d.Consistent) (service : String) (c : DiscoveredNodeCandidate) :
    d.Reports (announce source d service c) := by
  unfold announce
  cases d.serviceNodes.get? service with
  | none => exact h.reports_nil.setService service c rfl
  | some previous =>
      by_cases hprev : previous ≠ c.stableId
      · -- the service has moved to another node
        simp only [if_pos hprev]
        have hmoved := reports_rebuildPeer source (h.eraseService service) previous
        exact (hmoved.of_view rfl).setService service c rfl
      · simp only [if_neg hprev]
        exact h.reports_nil.setService service c rfl

/-- `remove` reports what it did.  Kind: L -/
theorem reports_remove (h : d.Consistent) (service : String) :
    d.Reports (remove source d service) := by
  unfold remove
  cases d.serviceNodes.get? service with
  | none => exact ((h.removeService service).reports_nil).of_view rfl
  | some nodeId =>
      exact (reports_rebuildPeer source (h.removeService service) nodeId).of_view rfl

/-- The events of a call say what it did to the peers.
Source: `discovery/network.py`, `_handle_transport_event` and `expire_stale`.  Kind: L -/
theorem reports_step (ttl : ℚ) (h : d.Consistent) (call : DiscoveryCall) :
    d.Reports (step source ttl call d) := by
  cases call with
  | announce service normalized =>
      cases normalized with
      | none => exact h.reports_nil
      | some c => exact reports_announce h service c
  | remove service => exact reports_remove h service
  | expireStale now => exact reports_dropPeers _ h

/-! ## The consumer -/

/-- Discovery as a component that reports on its calls. -/
def notifier (source : String → EndpointSource) (ttl : ℚ) :
    Notifier NetworkDiscovery DiscoveryCall PeerEvent String DiscoveredNodeCandidate where
  step := step source ttl
  note := PeerEvent.note
  view := view
  inv := Consistent
  keeps call _ h := (reports_step ttl h call).1
  reports call _ h := (reports_step ttl h call).2

end NetworkDiscovery

/-- A consumer's table after an event.
Source: `runtime/core.py`, `_on_discovery`, what it does to `_peers`.  Kind: D -/
def PeerEvent.consume (known : Dict String DiscoveredNodeCandidate) :
    PeerEvent → Dict String DiscoveredNodeCandidate
  | .candidate c => known.insert c.stableId c
  | .lost nodeId => known.erase nodeId

/-- What the last event about a peer says of it, up to `last_seen`. -/
def PeerEvent.lastWord (nodeId : String) (events : List PeerEvent) :
    Option DiscoveredNodeCandidate :=
  (Note.last nodeId (events.map PeerEvent.note)).join

/-- A consumer applies an event as a note.  Kind: L -/
theorem PeerEvent.get?_consume (known : Dict String DiscoveredNodeCandidate) (e : PeerEvent) :
    (fun id => ((e.consume known).get? id).map DiscoveredNodeCandidate.unseen) =
      Note.apply (fun id => (known.get? id).map DiscoveredNodeCandidate.unseen) e.note := by
  funext id
  cases e with
  | candidate c =>
      by_cases h : c.stableId = id
      · subst h
        simp [consume, note, Note.apply]
      · simp [consume, note, Note.apply, Dict.get?_insert_of_ne _ _ h,
          Function.update_of_ne (Ne.symm h)]
  | lost nodeId =>
      by_cases h : nodeId = id
      · subst h
        simp [consume, note, Note.apply]
      · simp [consume, note, Note.apply, Dict.get?_erase_of_ne _ h,
          Function.update_of_ne (Ne.symm h)]

/-- Folding the events is replaying their notes.  Kind: L -/
theorem PeerEvent.get?_foldl_consume (events : List PeerEvent)
    (known : Dict String DiscoveredNodeCandidate) :
    (fun id => ((events.foldl PeerEvent.consume known).get? id).map
        DiscoveredNodeCandidate.unseen) =
      Note.replay (events.map PeerEvent.note)
        (fun id => (known.get? id).map DiscoveredNodeCandidate.unseen) := by
  induction events generalizing known with
  | nil => rfl
  | cons e rest ih =>
      rw [List.foldl_cons, ih (e.consume known), e.get?_consume known]
      rfl

open NetworkDiscovery in
/-- **Convergence of the consumers.**  In every run of calls and deliveries, and so once all events
are delivered: the fold of the events in delivery order gives `peers()` up to `last_seen` exactly if
the last event delivered about each peer says what the last event produced about it says.  That is
so when all events are delivered, those of each peer in the order of their state changes.
Source: `discovery/network.py`, `_emit_events`.  Kind: P -/
theorem consumers_converge_iff (source : String → EndpointSource) (ttl : ℚ)
    (moves : List (Notifier.Move DiscoveryCall)) :
    let s := (notifier source ttl).run moves (Notifier.init NetworkDiscovery.new)
    ((∀ nodeId, ((s.delivered.foldl PeerEvent.consume Dict.empty).get? nodeId).map
        DiscoveredNodeCandidate.unseen = s.state.view nodeId) ↔
      ∀ nodeId, PeerEvent.lastWord nodeId s.delivered = PeerEvent.lastWord nodeId s.produced) ∧
    (Notifier.Delivered s → (notifier source ttl).InOrder s →
      ∀ nodeId, ((s.delivered.foldl PeerEvent.consume Dict.empty).get? nodeId).map
        DiscoveredNodeCandidate.unseen = s.state.view nodeId) := by
  intro s
  have hiff : (∀ nodeId, ((s.delivered.foldl PeerEvent.consume Dict.empty).get? nodeId).map
        DiscoveredNodeCandidate.unseen = s.state.view nodeId) ↔
      ∀ nodeId, PeerEvent.lastWord nodeId s.delivered = PeerEvent.lastWord nodeId s.produced := by
    have hfold := PeerEvent.get?_foldl_consume s.delivered Dict.empty
    have hconverges := (notifier source ttl).converges_iff consistent_new moves
    rw [← funext_iff, hfold]
    refine hconverges.trans (forall_congr' fun nodeId => ?_)
    have hgetD : ∀ o : Option (Option DiscoveredNodeCandidate), o.getD none = o.join := by
      intro o
      cases o <;> rfl
    change ((Note.last nodeId _).getD none = (Note.last nodeId _).getD none) ↔ _
    rw [hgetD, hgetD]
    rfl
  refine ⟨hiff, fun hdelivered horder => hiff.mpr fun nodeId => ?_⟩
  exact congrArg Option.join
    ((notifier source ttl).last_of_inOrder NetworkDiscovery.new moves hdelivered horder nodeId)

/-- A peer. -/
def announcedPeer : DiscoveredNodeCandidate where
  stableId := "peer"
  hostname := "host"
  addresses := ["10.0.0.1"]
  port := some 8443
  serviceName := "peer.service"
  appVersion := "1"
  protocolVersion := "1"
  platform := none
  connectable := true
  compatible := true
  lastSeen := 10
  identityFingerprint := none
  transportFingerprint := none
  endpointCandidates := [⟨"10.0.0.1", 8443, .ipv4, "validated", 0, none, none⟩]
  rootPublicKey := none
  transportGeneration := none
  transportProof := none
  pairingPort := none
  derived := .inl (by simp)

/-- The peer is announced by one thread and removed by another, which is the first to deliver. -/
def overtaken : Notifier.System NetworkDiscovery PeerEvent :=
  (NetworkDiscovery.notifier (fun _ => .ipv4) 4800).run
    [.perform 0 (.announce "peer.service" (some announcedPeer)),
      .perform 1 (.remove "peer.service"),
      .deliver 1, .deliver 0]
    (Notifier.init NetworkDiscovery.new)

/-- A notification that overtakes another one leaves the consumer with a peer that is gone. -/
theorem reordered_events_mislead :
    Notifier.Delivered overtaken ∧
      ¬∀ nodeId, ((overtaken.delivered.foldl PeerEvent.consume Dict.empty).get? nodeId).map
        DiscoveredNodeCandidate.unseen = overtaken.state.view nodeId := by
  constructor
  · intro i
    match i with
    | 0 => decide +kernel
    | 1 => decide +kernel
    | _ + 2 => rfl
  · intro h
    have hpeer := h "peer"
    revert hpeer
    decide +kernel

end ExpraConnect
