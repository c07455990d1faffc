import ExpraConnect.Discovery.Network

/-!
# Peers that have expired

`expire_stale` drops the peers that were last seen too long ago.  It drops the merged candidates
only: what each service announced stays in `_service_candidates` and is merged again by the next
rebuild of its node.

* `Watch`: a session, and beside it the nodes that `expire_stale` dropped and that were not
  announced since;
* `StaysGone`: what a call owes the peers that expired; `Undisturbed`: the states in which it pays;
* `Watched`: the invariant, a peer is the merge of what its services announced last;
* `expired_stay_gone_iff`: every call of a run keeps its promise exactly if every call of the run
  finds an undisturbed state.
-/

namespace ExpraConnect

open ExpraConnect.Lib

namespace NetworkDiscovery

variable {source : String → EndpointSource} {ttl : ℚ} {d : NetworkDiscovery}

/-! ## Observations -/

/-- The candidates that the other services of a node announced. -/
def othersOf (d : NetworkDiscovery) (service nodeId : String) : List DiscoveredNodeCandidate :=
  (d.serviceCandidates.entries.filter fun p =>
    decide (p.1 ≠ service) && decide (d.serviceNodes.get? p.1 = some nodeId)).map Prod.snd

/-- The observations of a node are its services' candidates.  Kind: L -/
theorem mem_observations_iff {nodeId : String} {o : DiscoveredNodeCandidate} :
    o ∈ d.observations nodeId ↔
      ∃ s, d.serviceCandidates.get? s = some o ∧ d.serviceNodes.get? s = some nodeId := by
  simp only [observations, List.mem_map, List.mem_filter, Prod.exists, exists_eq_right,
    decide_eq_true_eq, Dict.get?_eq_some_iff]

/-- The others are those of the node's other services.  Kind: L -/
theorem mem_othersOf_iff {service nodeId : String} {o : DiscoveredNodeCandidate} :
    o ∈ d.othersOf service nodeId ↔ ∃ s, s ≠ service ∧ d.serviceCandidates.get? s = some o ∧
      d.serviceNodes.get? s = some nodeId := by
  simp only [othersOf, List.mem_map, List.mem_filter, Prod.exists, exists_eq_right,
    Bool.and_eq_true, decide_eq_true_eq, Dict.get?_eq_some_iff]
  exact exists_congr fun s => and_left_comm

/-- The candidate is the merge of these observations. -/
def BuiltFrom (source : String → EndpointSource) (m : DiscoveredNodeCandidate)
    (obs : List DiscoveredNodeCandidate) : Prop :=
  ∃ first rest, obs = first :: rest ∧ m = merged source first rest

/-- The observations are not older than the TTL. -/
def Fresh (ttl now : ℚ) (obs : List DiscoveredNodeCandidate) : Prop :=
  ∀ o ∈ obs, now - o.lastSeen ≤ ttl

/-! ## Watching a session -/

/-- The node ids of the candidates that events announce. -/
def announced (events : List PeerEvent) : Finset String :=
  (events.filterMap fun
    | .candidate m => some m.stableId
    | .lost _ => none).toFinset

/-- The node ids that events report as lost. -/
def reportedLost (events : List PeerEvent) : Finset String :=
  (events.filterMap fun
    | .candidate _ => none
    | .lost nodeId => some nodeId).toFinset

/-- A node is announced if and only if a candidate of it is.  Kind: L -/
theorem mem_announced_iff {events : List PeerEvent} {nodeId : String} :
    nodeId ∈ announced events ↔ ∃ m, .candidate m ∈ events ∧ m.stableId = nodeId := by
  simp only [announced, List.mem_toFinset, List.mem_filterMap]
  constructor
  · rintro ⟨e, he, heq⟩
    cases e with
    | candidate m => exact ⟨m, he, Option.some.inj heq⟩
    | lost n => cases heq
  · rintro ⟨m, hm, rfl⟩
    exact ⟨.candidate m, hm, rfl⟩

theorem announced_append (events more : List PeerEvent) :
    announced (events ++ more) = announced events ∪ announced more := by
  ext nodeId
  simp only [Finset.mem_union, mem_announced_iff, List.mem_append]
  constructor
  · rintro ⟨m, hm | hm, heq⟩
    · exact .inl ⟨m, hm, heq⟩
    · exact .inr ⟨m, hm, heq⟩
  · rintro (⟨m, hm, heq⟩ | ⟨m, hm, heq⟩)
    · exact ⟨m, .inl hm, heq⟩
    · exact ⟨m, .inr hm, heq⟩

/-- A session, and the nodes that `expire_stale` dropped and that were not announced since.
Source: none: bookkeeping.  Kind: D -/
structure Watch where
  /-- The session. -/
  discovery : NetworkDiscovery
  /-- The nodes that are gone since `expire_stale` dropped them. -/
  expired : Finset String

/-- A call, watched. -/
def Watch.after (source : String → EndpointSource) (ttl : ℚ) (w : Watch) (call : DiscoveryCall) :
    Watch :=
  let out := step source ttl call w.discovery
  ⟨out.1, match call with
    | .expireStale _ => w.expired ∪ reportedLost out.2
    | _ => w.expired \ announced out.2⟩

/-- What a call owes the peers that expired.  After `expire_stale`, every peer is the merge of
observations that are not older than the TTL.  A node that is gone is not announced by a removal,
and by an announcement only if it is the announced one, from observations that are not older than
the TTL.  Kind: D -/
def StaysGone (source : String → EndpointSource) (ttl : ℚ) (w : Watch) : DiscoveryCall → Prop
  | .expireStale now =>
      let d' := (step source ttl (.expireStale now) w.discovery).1
      ∀ nodeId r, d'.peers.get? nodeId = some r →
        BuiltFrom source r.candidate (d'.observations nodeId) ∧
          Fresh ttl now (d'.observations nodeId)
  | .remove service =>
      ∀ m, .candidate m ∈ (step source ttl (.remove service) w.discovery).2 →
        m.stableId ∉ w.expired
  | .announce _ none => True
  | .announce service (some c) =>
      let out := step source ttl (.announce service (some c)) w.discovery
      ∀ m, .candidate m ∈ out.2 → m.stableId ∈ w.expired → m.stableId = c.stableId ∧
        BuiltFrom source m (out.1.observations m.stableId) ∧
          Fresh ttl c.lastSeen (out.1.observations m.stableId)

/-- The states in which a call keeps that promise.  For `expire_stale`: no peer that was seen in
time has an observation that was not.  For the removal of a service, or its move to another node:
the node it leaves is not a gone one with other services.  For an announcement: if the announced
node is gone, what its other services announced is not older than the TTL.
Kind: D -/
def Undisturbed (ttl : ℚ) (w : Watch) : DiscoveryCall → Prop
  | .expireStale now => ∀ nodeId r, w.discovery.peers.get? nodeId = some r →
      now - r.lastSeen ≤ ttl → Fresh ttl now (w.discovery.observations nodeId)
  | .remove service => ∀ nodeId, w.discovery.serviceNodes.get? service = some nodeId →
      nodeId ∈ w.expired → w.discovery.othersOf service nodeId = []
  | .announce _ none => True
  | .announce service (some c) =>
      (∀ previous, w.discovery.serviceNodes.get? service = some previous → previous ≠ c.stableId →
        previous ∈ w.expired → w.discovery.othersOf service previous = []) ∧
      (c.stableId ∈ w.expired →
        Fresh ttl c.lastSeen (c :: w.discovery.othersOf service c.stableId))

/-- A property of every call of a run, in the state that it finds. -/
def Throughout (source : String → EndpointSource) (ttl : ℚ) (P : Watch → DiscoveryCall → Prop) :
    List DiscoveryCall → Watch → Prop
  | [], _ => True
  | call :: rest, w => P w call ∧ Throughout source ttl P rest (w.after source ttl call)

/-! ## The invariant -/

/-- A peer is the merge of what its services announced last. -/
def Current (source : String → EndpointSource) (d : NetworkDiscovery) (nodeId : String) : Prop :=
  ∀ r, d.peers.get? nodeId = some r → ∃ first rest, d.observations nodeId = first :: rest ∧
    r = ⟨merged source first rest, (latest first rest).lastSeen⟩

/-- What holds of a watched session all along, except about the node that is to be rebuilt.
Kind: D -/
structure WatchedBut (source : String → EndpointSource) (d : NetworkDiscovery)
    (expired : Finset String) (node : String) : Prop where
  /-- The tables agree on which node a candidate is about. -/
  consistent : d.Consistent
  /-- The other peers are up to date. -/
  current : ∀ nodeId, nodeId ≠ node → Current source d nodeId
  /-- A node that is gone is no peer. -/
  gone : ∀ nodeId ∈ expired, d.peers.get? nodeId = none

/-- What holds of a watched session all along.  Kind: D -/
structure Watched (source : String → EndpointSource) (d : NetworkDiscovery)
    (expired : Finset String) : Prop where
  /-- The tables agree on which node a candidate is about. -/
  consistent : d.Consistent
  /-- Every peer is up to date. -/
  current : ∀ nodeId, Current source d nodeId
  /-- A node that is gone is no peer. -/
  gone : ∀ nodeId ∈ expired, d.peers.get? nodeId = none

/-! ## Rebuilding a peer -/

/-- What `_rebuild_peer` does to the peers, and what it says.  Kind: D -/
structure Rebuilt (source : String → EndpointSource) (d : NetworkDiscovery) (node : String)
    (out : NetworkDiscovery × List PeerEvent) : Prop where
  /-- The services are left alone. -/
  serviceNodes : out.1.serviceNodes = d.serviceNodes
  /-- So are their candidates. -/
  serviceCandidates : out.1.serviceCandidates = d.serviceCandidates
  /-- And the other peers. -/
  others : ∀ nodeId, nodeId ≠ node → out.1.peers.get? nodeId = d.peers.get? nodeId
  /-- Without an observation there is no peer, and none is announced. -/
  absent : d.observations node = [] → out.1.peers.get? node = none ∧ announced out.2 = ∅
  /-- Otherwise the peer is the merge, and that is what is announced, for certain if there was no
  peer before. -/
  present : ∀ first rest, d.observations node = first :: rest →
    out.1.peers.get? node = some ⟨merged source first rest, (latest first rest).lastSeen⟩ ∧
      (∀ m, .candidate m ∈ out.2 → m = merged source first rest) ∧
        (d.peers.get? node = none → .candidate (merged source first rest) ∈ out.2)

/-- What rebuilding a peer leaves.  Kind: L -/
theorem rebuilt_rebuildPeer (source : String → EndpointSource) (d : NetworkDiscovery)
    (node : String) : Rebuilt source d node (rebuildPeer source d node) := by
  unfold rebuildPeer
  cases hobs : d.observations node with
  | nil =>
      have hnone : ∀ first rest, ¬([] : List DiscoveredNodeCandidate) = first :: rest := by simp
      unfold dropPeer
      cases hpeer : d.peers.get? node with
      | none =>
          simp only [Dict.contains, hpeer, Option.isSome_none, Bool.false_eq_true, if_false]
          exact ⟨rfl, rfl, fun _ _ => rfl, fun _ => ⟨hpeer, rfl⟩,
            fun first rest h => absurd (hobs.symm.trans h) (hnone first rest)⟩
      | some r =>
          simp only [Dict.contains, hpeer, Option.isSome_some, if_true]
          exact ⟨rfl, rfl, fun k hk => Dict.get?_erase_of_ne _ (Ne.symm hk),
            fun _ => ⟨Dict.get?_erase_self _ _, rfl⟩,
            fun first rest h => absurd (hobs.symm.trans h) (hnone first rest)⟩
  | cons first rest =>
      have hpresent : ∀ first' rest', d.observations node = first' :: rest' →
          first' = first ∧ rest' = rest := by
        intro first' rest' h
        have heq := hobs.symm.trans h
        cases heq
        exact ⟨rfl, rfl⟩
      have habsent : d.observations node ≠ [] := by simp [hobs]
      cases hpeer : d.peers.get? node with
      | none =>
          refine ⟨rfl, rfl, fun k hk => Dict.get?_insert_of_ne _ _ (Ne.symm hk),
            fun h => absurd h habsent, fun first' rest' h => ?_⟩
          obtain ⟨rfl, rfl⟩ := hpresent first' rest' h
          exact ⟨Dict.get?_insert_self _ _ _, by simp, by simp⟩
      | some record =>
          refine ⟨rfl, rfl, fun k hk => Dict.get?_insert_of_ne _ _ (Ne.symm hk),
            fun h => absurd h habsent, fun first' rest' h => ?_⟩
          obtain ⟨rfl, rfl⟩ := hpresent first' rest' h
          refine ⟨Dict.get?_insert_self _ _ _, fun m hm => ?_, fun hnone => ?_⟩
          · dsimp only at hm
            split at hm
            · simpa using hm
            · simp at hm
          · rw [hpeer] at hnone
            cases hnone

/-- Observations depend on the tables of services.  Kind: L -/
theorem observations_congr {d₁ d₂ : NetworkDiscovery} (hn : d₁.serviceNodes = d₂.serviceNodes)
    (hc : d₁.serviceCandidates = d₂.serviceCandidates) (nodeId : String) :
    d₁.observations nodeId = d₂.observations nodeId := by
  unfold observations
  rw [hn, hc]

/-- Rebuilding a node brings it up to date, and a node that is announced is not gone.  Kind: L -/
theorem WatchedBut.rebuild {expired : Finset String} {node : String}
    (h : WatchedBut source d expired node) :
    Watched source (rebuildPeer source d node).1
      (expired \ announced (rebuildPeer source d node).2) := by
  have hr := rebuilt_rebuildPeer source d node
  have hobs : ∀ k, (rebuildPeer source d node).1.observations k = d.observations k :=
    observations_congr hr.serviceNodes hr.serviceCandidates
  refine ⟨(reports_rebuildPeer source h.consistent node).1, fun k r hget => ?_, fun k hk => ?_⟩
  · rw [hobs k]
    by_cases hkn : k = node
    · subst hkn
      cases hk : d.observations k with
      | nil =>
          rw [(hr.absent hk).1] at hget
          cases hget
      | cons first rest =>
          rw [(hr.present first rest hk).1] at hget
          exact ⟨first, rest, rfl, (Option.some.inj hget).symm⟩
    · rw [hr.others k hkn] at hget
      exact h.current k hkn r hget
  · obtain ⟨hexpired, hsilent⟩ := Finset.mem_sdiff.mp hk
    have hgone := h.gone k hexpired
    by_cases hkn : k = node
    · subst hkn
      cases hk : d.observations k with
      | nil => exact (hr.absent hk).1
      | cons first rest =>
          have hannounced := (hr.present first rest hk).2.2 hgone
          exact absurd (mem_announced_iff.mpr
            ⟨_, hannounced, stableId_merged source h.consistent hk⟩) hsilent
    · rw [hr.others k hkn]
      exact hgone

/-! ## Changing a service -/

/-- Of a node that the service is not a service of, all services are other services.  Kind: L -/
theorem othersOf_eq_observations {service nodeId : String}
    (h : ∀ o, d.serviceCandidates.get? service = some o →
      d.serviceNodes.get? service ≠ some nodeId) :
    d.othersOf service nodeId = d.observations nodeId := by
  unfold othersOf observations
  congr 1
  refine List.filter_congr fun p hp => ?_
  by_cases hs : p.1 = service
  · have hget := (Dict.get?_eq_some_iff _).mpr hp
    have hne := h p.2 (hs ▸ hget)
    rw [hs]
    simpa using hne
  · simp [hs]

/-- The observations without one service's candidate.  Kind: L -/
theorem observations_eraseCandidate (d : NetworkDiscovery) (service nodeId : String) :
    observations { d with serviceCandidates := d.serviceCandidates.erase service } nodeId =
      d.othersOf service nodeId := by
  unfold observations othersOf
  change ((d.serviceCandidates.entries.filter fun p => p.1 ≠ service).filter _).map _ = _
  rw [List.filter_filter]
  congr 1
  refine List.filter_congr fun p _ => ?_
  exact Bool.and_comm ..

/-- The others of a service do not include its own candidate.  Kind: L -/
theorem othersOf_eraseCandidate (d : NetworkDiscovery) (service nodeId : String) :
    othersOf { d with serviceCandidates := d.serviceCandidates.erase service } service nodeId =
      d.othersOf service nodeId := by
  unfold othersOf
  change ((d.serviceCandidates.entries.filter fun p => p.1 ≠ service).filter _).map _ = _
  rw [List.filter_filter]
  congr 1
  refine List.filter_congr fun p _ => ?_
  by_cases hs : p.1 = service
  · simp [hs]
  · simp [hs]

/-- The observations without one service.  Kind: L -/
theorem observations_removeService (d : NetworkDiscovery) (service nodeId : String) :
    observations { d with
      serviceNodes := d.serviceNodes.erase service
      serviceCandidates := d.serviceCandidates.erase service } nodeId =
        d.othersOf service nodeId := by
  unfold observations othersOf
  change ((d.serviceCandidates.entries.filter fun p => p.1 ≠ service).filter _).map _ = _
  rw [List.filter_filter]
  congr 1
  refine List.filter_congr fun p _ => ?_
  by_cases hs : p.1 = service
  · simp [hs]
  · simp [hs, Dict.get?_erase_of_ne _ (Ne.symm hs)]

/-- A filter that drops the written key does not see the write.  Kind: L -/
theorem filter_insertRaw_of_neg {κ ν : Type} [DecidableEq κ] {k : κ} {v : ν} {q : κ × ν → Bool}
    (h : ∀ w, q (k, w) = false) (l : List (κ × ν)) :
    (Dict.insertRaw k v l).filter q = l.filter q := by
  induction l with
  | nil => simp [Dict.insertRaw, h]
  | cons p l ih =>
      obtain ⟨k', w⟩ := p
      simp only [Dict.insertRaw]
      by_cases hk : k' = k
      · subst hk
        simp [h]
      · simp only [if_neg hk, List.filter_cons, ih]

/-- The other nodes do not see that a service is recorded.  Kind: L -/
theorem observations_insertService (d : NetworkDiscovery) (service : String)
    (c : DiscoveredNodeCandidate) {nodeId : String} (hne : nodeId ≠ c.stableId) :
    observations { d with
      serviceNodes := d.serviceNodes.insert service c.stableId
      serviceCandidates := d.serviceCandidates.insert service c } nodeId =
        d.othersOf service nodeId := by
  unfold observations othersOf
  congr 1
  change (Dict.insertRaw service c d.serviceCandidates.entries).filter _ = _
  rw [filter_insertRaw_of_neg fun w => ?_]
  · refine List.filter_congr fun p _ => ?_
    by_cases hs : p.1 = service
    · simp [hs, Ne.symm hne]
    · simp [hs, Dict.get?_insert_of_ne _ _ (Ne.symm hs)]
  · simp [Ne.symm hne]

/-- The node itself has the new candidate and those of its other services.  Kind: L -/
theorem mem_observations_insertService {service : String} {c o : DiscoveredNodeCandidate} :
    o ∈ observations { d with
      serviceNodes := d.serviceNodes.insert service c.stableId
      serviceCandidates := d.serviceCandidates.insert service c } c.stableId ↔
        o ∈ c :: d.othersOf service c.stableId := by
  rw [mem_observations_iff, List.mem_cons, mem_othersOf_iff]
  constructor
  · rintro ⟨s, hcandidate, hnode⟩
    change (d.serviceCandidates.insert service c).get? s = some o at hcandidate
    change (d.serviceNodes.insert service c.stableId).get? s = some c.stableId at hnode
    by_cases hs : service = s
    · subst hs
      rw [Dict.get?_insert_self] at hcandidate
      exact .inl (Option.some.inj hcandidate).symm
    · rw [Dict.get?_insert_of_ne _ _ hs] at hcandidate hnode
      exact .inr ⟨s, Ne.symm hs, hcandidate, hnode⟩
  · rintro (rfl | ⟨s, hs, hcandidate, hnode⟩)
    · exact ⟨service, Dict.get?_insert_self _ _ _, Dict.get?_insert_self _ _ _⟩
    · refine ⟨s, ?_, ?_⟩
      · change (d.serviceCandidates.insert service c).get? s = some o
        rwa [Dict.get?_insert_of_ne _ _ (Ne.symm hs)]
      · change (d.serviceNodes.insert service c.stableId).get? s = some c.stableId
        rwa [Dict.get?_insert_of_ne _ _ (Ne.symm hs)]

/-- A watched session in which one node's observations changed.  Kind: L -/
theorem Watched.but {expired : Finset String} (h : Watched source d expired) {d' : NetworkDiscovery}
    {node : String} (hc : d'.Consistent) (hpeers : d'.peers = d.peers)
    (hobs : ∀ k, k ≠ node → d'.observations k = d.observations k) :
    WatchedBut source d' expired node where
  consistent := hc
  current k hk r hget := by
    rw [hpeers] at hget
    rw [hobs k hk]
    exact h.current k r hget
  gone k hk := hpeers ▸ h.gone k hk

/-! ## The calls -/

/-- The first part of an announcement, in which a service leaves the node it was a service of. -/
def leave (source : String → EndpointSource) (d : NetworkDiscovery) (service : String)
    (c : DiscoveredNodeCandidate) : NetworkDiscovery × List PeerEvent :=
  match d.serviceNodes.get? service with
  | some previous =>
      if previous ≠ c.stableId then
        rebuildPeer source { d with serviceCandidates := d.serviceCandidates.erase service }
          previous
      else (d, [])
  | none => (d, [])

/-- The service is recorded as one of the announced node. -/
def record (d : NetworkDiscovery) (service : String) (c : DiscoveredNodeCandidate) :
    NetworkDiscovery :=
  { d with
    serviceNodes := d.serviceNodes.insert service c.stableId
    serviceCandidates := d.serviceCandidates.insert service c }

/-- What `announce` does, by the candidate before.  Kind: L -/
theorem announce_eq (source : String → EndpointSource) (d : NetworkDiscovery) (service : String)
    (c : DiscoveredNodeCandidate) :
    announce source d service c =
      let out := rebuildPeer source ((leave source d service c).1.record service c) c.stableId
      (out.1, (leave source d service c).2 ++ out.2) := rfl

/-- What a service's leaving does.  Kind: D -/
structure Left (source : String → EndpointSource) (d : NetworkDiscovery) (expired : Finset String)
    (service : String) (c : DiscoveredNodeCandidate)
    (out : NetworkDiscovery × List PeerEvent) : Prop where
  /-- The session stays a watched one. -/
  watched : Watched source out.1 (expired \ announced out.2)
  /-- The other services are left alone. -/
  others : ∀ nodeId, out.1.othersOf service nodeId = d.othersOf service nodeId
  /-- The service has no candidate for another node than the announced one. -/
  vacated : ∀ nodeId, nodeId ≠ c.stableId → ∀ o, out.1.serviceCandidates.get? service = some o →
    out.1.serviceNodes.get? service ≠ some nodeId
  /-- The announced node is left alone. -/
  target : out.1.peers.get? c.stableId = d.peers.get? c.stableId
  /-- What is announced is the node that the service leaves, and it has other services. -/
  announced_only : ∀ m, .candidate m ∈ out.2 → ∃ previous,
    d.serviceNodes.get? service = some previous ∧ previous ≠ c.stableId ∧ m.stableId = previous ∧
      d.othersOf service previous ≠ []
  /-- If it was no peer and has other services, it is announced. -/
  announces : ∀ previous, d.serviceNodes.get? service = some previous → previous ≠ c.stableId →
    d.peers.get? previous = none → d.othersOf service previous ≠ [] →
      ∃ m, .candidate m ∈ out.2 ∧ m.stableId = previous

/-- What a service leaves behind.  Kind: L -/
theorem left_leave {expired : Finset String} (h : Watched source d expired) (service : String)
    (c : DiscoveredNodeCandidate) : Left source d expired service c (leave source d service c) := by
  have hstay : (∀ nodeId, nodeId ≠ c.stableId → d.serviceNodes.get? service ≠ some nodeId) →
      Left source d expired service c (d, []) := by
    intro hnode
    refine ⟨?_, fun _ => rfl, fun k hk _ _ => hnode k hk, rfl, by simp, ?_⟩
    · simpa [announced] using h
    · exact fun previous hprevious hne => absurd hprevious (hnode previous hne)
  unfold leave
  cases hprevious : d.serviceNodes.get? service with
  | none =>
      refine hstay fun k _ heq => ?_
      rw [hprevious] at heq
      cases heq
  | some previous =>
      by_cases hne : previous ≠ c.stableId
      · simp only [if_pos hne]
        have hbut : WatchedBut source
            { d with serviceCandidates := d.serviceCandidates.erase service } expired previous := by
          refine h.but (h.consistent.eraseService service) rfl fun k hk => ?_
          rw [observations_eraseCandidate]
          refine othersOf_eq_observations fun o _ heq => hk ?_
          rw [hprevious] at heq
          exact (Option.some.inj heq).symm
        have hr := rebuilt_rebuildPeer source
          { d with serviceCandidates := d.serviceCandidates.erase service } previous
        have hobs := observations_eraseCandidate d service previous
        refine ⟨hbut.rebuild, fun k => ?_, fun k _ o hget => ?_, hr.others _ (Ne.symm hne),
          fun m hm => ⟨previous, hprevious, hne, ?_⟩,
          fun previous' hprevious' _ hgone hothers => ?_⟩
        · rw [← othersOf_eraseCandidate d service k]
          unfold othersOf
          rw [hr.serviceNodes, hr.serviceCandidates]
        · rw [hr.serviceCandidates, Dict.get?_erase_self] at hget
          cases hget
        · cases hlist : observations
              { d with serviceCandidates := d.serviceCandidates.erase service } previous with
          | nil =>
              have hmem : m.stableId ∈ announced _ := mem_announced_iff.mpr ⟨m, hm, rfl⟩
              rw [(hr.absent hlist).2] at hmem
              simp at hmem
          | cons first rest =>
              rw [(hr.present first rest hlist).2.1 m hm, ← hobs, hlist]
              exact ⟨stableId_merged source hbut.consistent hlist, by simp⟩
        · cases hprevious.symm.trans hprevious'
          rw [← hobs] at hothers
          obtain ⟨first, rest, hlist⟩ := List.exists_cons_of_ne_nil hothers
          exact ⟨_, (hr.present first rest hlist).2.2 hgone,
            stableId_merged source hbut.consistent hlist⟩
      · simp only [if_neg hne]
        refine hstay fun k hk heq => hk ?_
        rw [hprevious, not_not.mp hne] at heq
        exact (Option.some.inj heq).symm

/-- A service that has left and is recorded anew.  Kind: L -/
theorem Left.but {expired : Finset String} {service : String} {c : DiscoveredNodeCandidate}
    {out : NetworkDiscovery × List PeerEvent} (h : Left source d expired service c out) :
    WatchedBut source (out.1.record service c) (expired \ announced out.2) c.stableId := by
  refine h.watched.but (h.watched.consistent.insertService service c) rfl fun k hk => ?_
  exact (observations_insertService out.1 service c hk).trans
    (othersOf_eq_observations (h.vacated k hk))

/-- Announcing keeps the invariant.  Kind: L -/
theorem watched_announce {expired : Finset String} (h : Watched source d expired)
    (service : String) (c : DiscoveredNodeCandidate) :
    Watched source (announce source d service c).1
      (expired \ announced (announce source d service c).2) := by
  have hrebuilt := (left_leave h service c).but.rebuild
  rw [announce_eq]
  dsimp only
  rw [announced_append, Finset.sdiff_union_distrib, ← Finset.sdiff_sdiff_left']
  exact hrebuilt

/-- Removing a service keeps the session watched.  Kind: L -/
theorem watched_remove {expired : Finset String} (h : Watched source d expired)
    (service : String) :
    Watched source (remove source d service).1
      (expired \ announced (remove source d service).2) := by
  have hobs := observations_removeService d service
  unfold remove
  cases hnode : d.serviceNodes.get? service with
  | none =>
      have hbut : ∀ node, WatchedBut source { d with
          serviceNodes := d.serviceNodes.erase service
          serviceCandidates := d.serviceCandidates.erase service } expired node := by
        refine fun node => h.but (h.consistent.removeService service) rfl fun k _ => ?_
        rw [hobs k]
        exact othersOf_eq_observations fun o _ heq => by rw [hnode] at heq; cases heq
      simp only [announced, List.filterMap_nil, List.toFinset_nil, Finset.sdiff_empty]
      refine ⟨(hbut service).consistent, fun k r hget => ?_, h.gone⟩
      obtain ⟨first, rest, hlist, hr⟩ := h.current k r hget
      refine ⟨first, rest, ?_, hr⟩
      rw [hobs k, ← hlist]
      exact othersOf_eq_observations fun o _ heq => by rw [hnode] at heq; cases heq
  | some node =>
      refine (h.but (h.consistent.removeService service) rfl fun k hk => ?_).rebuild
      rw [hobs k]
      refine othersOf_eq_observations fun o _ heq => hk ?_
      rw [hnode] at heq
      exact (Option.some.inj heq).symm

/-- What dropping a list of peers does.  Kind: L -/
theorem dropPeers_spec (ids : List String) (d : NetworkDiscovery) :
    (dropPeers ids d).1.serviceNodes = d.serviceNodes ∧
      (dropPeers ids d).1.serviceCandidates = d.serviceCandidates ∧
        (∀ k, (dropPeers ids d).1.peers.get? k = if k ∈ ids then none else d.peers.get? k) ∧
          ∀ e ∈ (dropPeers ids d).2, ∃ k ∈ ids, e = .lost k := by
  induction ids generalizing d with
  | nil => exact ⟨rfl, rfl, fun _ => by simp [dropPeers], by simp [dropPeers]⟩
  | cons id rest ih =>
      have hdrop : (d.dropPeer id).1.serviceNodes = d.serviceNodes ∧
          (d.dropPeer id).1.serviceCandidates = d.serviceCandidates ∧
            (∀ k, (d.dropPeer id).1.peers.get? k = if id = k then none else d.peers.get? k) ∧
              ∀ e ∈ (d.dropPeer id).2, e = .lost id := by
        unfold dropPeer
        split
        · exact ⟨rfl, rfl, fun k => Dict.get?_erase _ _ _, by simp⟩
        · rename_i habsent
          refine ⟨rfl, rfl, fun k => ?_, by simp⟩
          split
          · rename_i hk
            subst hk
            simpa [Dict.contains] using habsent
          · rfl
      obtain ⟨hnodes, hcandidates, hpeers, hevents⟩ := hdrop
      obtain ⟨hnodes', hcandidates', hpeers', hevents'⟩ := ih (d.dropPeer id).1
      refine ⟨hnodes'.trans hnodes, hcandidates'.trans hcandidates, fun k => ?_, fun e he => ?_⟩
      · change (dropPeers rest (d.dropPeer id).1).1.peers.get? k = _
        rw [hpeers' k, hpeers k]
        by_cases hrest : k ∈ rest
        · simp [hrest]
        · by_cases hk : id = k
          · simp [hk]
          · simp [hrest, hk, Ne.symm hk]
      · rcases List.mem_append.mp he with hfirst | hmore
        · exact ⟨id, List.mem_cons_self, hevents e hfirst⟩
        · obtain ⟨k, hk, heq⟩ := hevents' e hmore
          exact ⟨k, List.mem_cons_of_mem _ hk, heq⟩

/-- The peers that `expire_stale` keeps are those seen in time.  Kind: L -/
theorem get?_expireStale {now : ℚ} {nodeId : String} {r : PeerRecord} :
    (expireStale ttl now d).1.peers.get? nodeId = some r ↔
      d.peers.get? nodeId = some r ∧ now - r.lastSeen ≤ ttl := by
  have hmem : ∀ k, k ∈ ((d.peers.entries.filter fun p => ttl < now - p.2.lastSeen).map Prod.fst) ↔
      ∃ r, d.peers.get? k = some r ∧ ttl < now - r.lastSeen := by
    intro k
    simp only [List.mem_map, List.mem_filter, Prod.exists, decide_eq_true_eq, exists_and_right,
      exists_eq_right, Dict.get?_eq_some_iff]
  unfold expireStale
  rw [(dropPeers_spec _ d).2.2.1 nodeId]
  constructor
  · intro h
    split at h
    · cases h
    · rename_i hkeep
      refine ⟨h, not_lt.mp fun hlt => hkeep ((hmem nodeId).mpr ⟨r, h, hlt⟩)⟩
  · rintro ⟨hget, hle⟩
    rw [if_neg, hget]
    intro hdrop
    obtain ⟨r', hget', hlt⟩ := (hmem nodeId).mp hdrop
    cases hget.symm.trans hget'
    exact absurd hle (not_le.mpr hlt)

/-- Expiring stale services keeps the session watched.  Kind: L -/
theorem watched_expireStale {expired : Finset String} (h : Watched source d expired) (now : ℚ) :
    Watched source (expireStale ttl now d).1
      (expired ∪ reportedLost (expireStale ttl now d).2) := by
  obtain ⟨hnodes, hcandidates, hpeers, hevents⟩ := dropPeers_spec
    ((d.peers.entries.filter fun p => ttl < now - p.2.lastSeen).map Prod.fst) d
  refine ⟨(reports_dropPeers _ h.consistent).1, fun k r hget => ?_, fun k hk => ?_⟩
  · obtain ⟨first, rest, hlist, hr⟩ := h.current k r (get?_expireStale.mp hget).1
    exact ⟨first, rest, (observations_congr hnodes hcandidates k).trans hlist, hr⟩
  · change (dropPeers _ d).1.peers.get? k = none
    rw [hpeers k]
    rcases Finset.mem_union.mp hk with hold | hlost
    · rw [h.gone k hold, ite_self]
    · have hdropped : k ∈
          ((d.peers.entries.filter fun p => ttl < now - p.2.lastSeen).map Prod.fst) := by
        simp only [reportedLost, List.mem_toFinset, List.mem_filterMap] at hlost
        obtain ⟨e, he, heq⟩ := hlost
        obtain ⟨k', hk', rfl⟩ := hevents e he
        cases heq
        exact hk'
      rw [if_pos hdropped]

/-- One call keeps the invariant.  Kind: L -/
theorem Watched.after {w : Watch} (h : Watched source w.discovery w.expired)
    (call : DiscoveryCall) :
    Watched source (w.after source ttl call).discovery (w.after source ttl call).expired := by
  cases call with
  | announce service normalized =>
      cases normalized with
      | none => simpa [Watch.after, step, announced] using h
      | some c => exact watched_announce h service c
  | remove service => exact watched_remove h service
  | expireStale now => exact watched_expireStale h now

/-! ## When a call keeps its promise -/

/-- When `expireStale` keeps the expired nodes gone.  Kind: L -/
theorem staysGone_expireStale_iff {w : Watch} (h : Watched source w.discovery w.expired) (now : ℚ) :
    StaysGone source ttl w (.expireStale now) ↔ Undisturbed ttl w (.expireStale now) := by
  obtain ⟨hnodes, hcandidates, -, -⟩ := dropPeers_spec
    ((w.discovery.peers.entries.filter fun p => ttl < now - p.2.lastSeen).map Prod.fst) w.discovery
  have hobs : ∀ k, (step source ttl (.expireStale now) w.discovery).1.observations k =
      w.discovery.observations k := observations_congr hnodes hcandidates
  have hkept : ∀ k r, (step source ttl (.expireStale now) w.discovery).1.peers.get? k = some r ↔
      w.discovery.peers.get? k = some r ∧ now - r.lastSeen ≤ ttl := fun k r => get?_expireStale
  simp only [StaysGone, Undisturbed]
  constructor
  · intro hstays k r hget hseen
    rw [← hobs k]
    exact (hstays k r ((hkept k r).mpr ⟨hget, hseen⟩)).2
  · intro hclean k r hget
    obtain ⟨hold, hseen⟩ := (hkept k r).mp hget
    obtain ⟨first, rest, hlist, rfl⟩ := h.current k r hold
    rw [hobs k]
    exact ⟨⟨first, rest, hlist, rfl⟩, hclean k _ hold hseen⟩

/-- When `remove` keeps the expired nodes gone.  Kind: L -/
theorem staysGone_remove_iff {w : Watch} (h : Watched source w.discovery w.expired)
    (service : String) :
    StaysGone source ttl w (.remove service) ↔ Undisturbed ttl w (.remove service) := by
  have hobs := observations_removeService w.discovery service
  have hconsistent := h.consistent.removeService service
  simp only [StaysGone, Undisturbed, step, remove]
  cases hnode : w.discovery.serviceNodes.get? service with
  | none => simp
  | some node =>
      have hr := rebuilt_rebuildPeer source { w.discovery with
        serviceNodes := w.discovery.serviceNodes.erase service
        serviceCandidates := w.discovery.serviceCandidates.erase service } node
      constructor
      · intro hstays k hk hexpired
        cases hk
        by_contra hothers
        rw [← hobs] at hothers
        obtain ⟨first, rest, hlist⟩ := List.exists_cons_of_ne_nil hothers
        have hannounced := (hr.present first rest hlist).2.2 (h.gone node hexpired)
        refine hstays _ hannounced ?_
        rwa [stableId_merged source hconsistent hlist]
      · intro hclean m hm hexpired
        cases hlist : observations { w.discovery with
            serviceNodes := w.discovery.serviceNodes.erase service
            serviceCandidates := w.discovery.serviceCandidates.erase service } node with
        | nil =>
            have hmem : m.stableId ∈ announced _ := mem_announced_iff.mpr ⟨m, hm, rfl⟩
            rw [(hr.absent hlist).2] at hmem
            simp at hmem
        | cons first rest =>
            have hid : m.stableId = node := by
              rw [(hr.present first rest hlist).2.1 m hm]
              exact stableId_merged source hconsistent hlist
            have hempty := hclean node rfl (hid ▸ hexpired)
            rw [← hobs, hlist] at hempty
            cases hempty

/-- When `announce` keeps the expired nodes gone.  Kind: L -/
theorem staysGone_announce_iff {w : Watch} (h : Watched source w.discovery w.expired)
    (service : String) (c : DiscoveredNodeCandidate) :
    StaysGone source ttl w (.announce service (some c)) ↔
      Undisturbed ttl w (.announce service (some c)) := by
  have hleft := left_leave h service c
  simp only [StaysGone, Undisturbed, step, announce_eq]
  generalize leave source w.discovery service c = left at hleft
  have hbut := hleft.but
  have hr := rebuilt_rebuildPeer source (left.1.record service c) c.stableId
  have hmem : ∀ o, o ∈ (left.1.record service c).observations c.stableId ↔
      o ∈ c :: w.discovery.othersOf service c.stableId := by
    intro o
    rw [← hleft.others]
    exact mem_observations_insertService
  have hsome : (left.1.record service c).observations c.stableId ≠ [] := by
    intro hnil
    have hc := (hmem c).mpr List.mem_cons_self
    rw [hnil] at hc
    cases hc
  obtain ⟨first, rest, hlist⟩ := List.exists_cons_of_ne_nil hsome
  obtain ⟨-, honly, hannounces⟩ := hr.present first rest hlist
  have hid := stableId_merged source hbut.consistent hlist
  have hobs : (rebuildPeer source (left.1.record service c) c.stableId).1.observations c.stableId =
      first :: rest :=
    (observations_congr hr.serviceNodes hr.serviceCandidates c.stableId).trans hlist
  have hfresh : Fresh ttl c.lastSeen (first :: rest) ↔
      Fresh ttl c.lastSeen (c :: w.discovery.othersOf service c.stableId) := by
    unfold Fresh
    simp only [← hlist, hmem]
  constructor
  · intro hstays
    refine ⟨fun previous hprevious hne hexpired => ?_, fun hexpired => ?_⟩
    · by_contra hothers
      obtain ⟨m, hm, rfl⟩ := hleft.announces previous hprevious hne
        (h.gone previous hexpired) hothers
      exact hne (hstays m (List.mem_append_left _ hm) hexpired).1
    · have hgone : (left.1.record service c).peers.get? c.stableId = none :=
        hleft.target.trans (h.gone _ hexpired)
      have hnew := (hstays _ (List.mem_append_right _ (hannounces hgone))
        (hid.symm ▸ hexpired)).2.2
      rw [hid, hobs] at hnew
      exact hfresh.mp hnew
  · rintro ⟨hmove, hnode⟩ m hm hexpired
    rcases List.mem_append.mp hm with hmoved | hrebuilt
    · obtain ⟨previous, hprevious, hne, heq, hothers⟩ := hleft.announced_only m hmoved
      exact absurd (hmove previous hprevious hne (heq ▸ hexpired)) hothers
    · have hmerged := honly m hrebuilt
      subst hmerged
      rw [hid] at hexpired ⊢
      rw [hobs]
      exact ⟨rfl, ⟨first, rest, rfl, rfl⟩, hfresh.mpr (hnode hexpired)⟩

/-- When a call keeps the expired nodes gone.  Kind: L -/
theorem staysGone_iff {w : Watch} (h : Watched source w.discovery w.expired)
    (call : DiscoveryCall) : StaysGone source ttl w call ↔ Undisturbed ttl w call := by
  cases call with
  | announce service normalized =>
      cases normalized with
      | none => exact Iff.rfl
      | some c => exact staysGone_announce_iff h service c
  | remove service => exact staysGone_remove_iff h service
  | expireStale now => exact staysGone_expireStale_iff h now

/-- A session that has just started. -/
def Watch.start : Watch := ⟨new, ∅⟩

/-- A new session is watched.  Kind: L -/
theorem watched_start : Watched source Watch.start.discovery Watch.start.expired := by
  refine ⟨consistent_new, fun k r hget => ?_, by simp [Watch.start]⟩
  cases hget

/-- A run keeps the promise throughout if and only if it is undisturbed throughout.  Kind: L -/
theorem throughout_iff {w : Watch} (h : Watched source w.discovery w.expired)
    (calls : List DiscoveryCall) :
    Throughout source ttl (StaysGone source ttl) calls w ↔
      Throughout source ttl (Undisturbed ttl) calls w := by
  induction calls generalizing w with
  | nil => exact Iff.rfl
  | cons call rest ih => exact and_congr (staysGone_iff h call) (ih (h.after call))

end NetworkDiscovery

open NetworkDiscovery in
/-- Over every sequence of calls: what expired stays gone throughout exactly if every call finds an
undisturbed state.
Source: `discovery/network.py`, `expire_stale` and `_rebuild_peer`.  Kind: P -/
theorem expired_stay_gone_iff (source : String → EndpointSource) (ttl : ℚ)
    (calls : List DiscoveryCall) :
    Throughout source ttl (StaysGone source ttl) calls Watch.start ↔
      Throughout source ttl (Undisturbed ttl) calls Watch.start :=
  throughout_iff watched_start calls

/-- When a call reads the clock. -/
def DiscoveryCall.time : DiscoveryCall → Option ℚ
  | announce _ normalized => normalized.map (·.lastSeen)
  | remove _ => none
  | expireStale now => some now

/-- A node announces two services and falls silent; one of the services is withdrawn after the node
has expired. -/
def withdrawnLate : List DiscoveryCall :=
  [.announce "one.service" (some announcedPeer),
    .announce "two.service" (some (announcedPeer.seenAt 20)),
    .expireStale 100, .remove "one.service"]

open NetworkDiscovery in
/-- The withdrawal brings the expired peer back. -/
theorem withdrawal_announces_expired :
    ¬∀ (source : String → EndpointSource) (ttl : ℚ) (calls : List DiscoveryCall),
      (calls.filterMap DiscoveryCall.time).Pairwise (· ≤ ·) →
        Throughout source ttl (StaysGone source ttl) calls Watch.start := by
  intro h
  obtain ⟨-, -, -, hremove, -⟩ := h (fun _ => .ipv4) 50 withdrawnLate (by decide +kernel)
  let w := ((Watch.start.after (fun _ => .ipv4) 50
    (.announce "one.service" (some announcedPeer))).after (fun _ => .ipv4) 50
      (.announce "two.service" (some (announcedPeer.seenAt 20)))).after (fun _ => .ipv4) 50
        (.expireStale 100)
  have hback : "peer" ∈ announced (step (fun _ => .ipv4) 50 (.remove "one.service") w.discovery).2 ∧
      "peer" ∈ w.expired := by decide +kernel
  obtain ⟨m, hm, hid⟩ := mem_announced_iff.mp hback.1
  exact hremove m hm (hid ▸ hback.2)

end ExpraConnect
