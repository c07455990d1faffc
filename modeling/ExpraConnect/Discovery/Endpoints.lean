import ExpraConnect.Discovery.Expiry

/-!
# The endpoints of a merged candidate

`_rebuild_peer` merges the observations of a node with `replace`, which runs `__post_init__` once
more: a merged candidate without endpoints gets some for its addresses, with the port of the latest
observation.

* `StoresOrEmits`: the candidates that `_rebuild_peer` stores or emits;
* `Observed`: endpoints that were observed, all of them, under different keys;
* `observed_merged`: so are the endpoints that are merged, before `__post_init__` runs;
* `endpoints_observed_iff`: and those of the candidates, unless an address of one observation is
  joined with the port of another (`Fabricates`).
-/

namespace ExpraConnect

open ExpraConnect.Lib

namespace NetworkDiscovery

variable {source : String → EndpointSource} {d : NetworkDiscovery} {nodeId : String}
  {first c : DiscoveredNodeCandidate} {rest obs : List DiscoveredNodeCandidate}

/-- A candidate that `_rebuild_peer` stores or emits. -/
def StoresOrEmits (source : String → EndpointSource) (d : NetworkDiscovery) (nodeId : String)
    (c : DiscoveredNodeCandidate) : Prop :=
  (∃ r, (rebuildPeer source d nodeId).1.peers.get? nodeId = some r ∧ r.candidate = c) ∨
    .candidate c ∈ (rebuildPeer source d nodeId).2

/-- The endpoints of the observations, with every key once. -/
structure Observed (obs : List DiscoveredNodeCandidate) (endpoints : List EndpointCandidate) :
    Prop where
  /-- Every endpoint was observed. -/
  sound : ∀ e ∈ endpoints, ∃ o ∈ obs, e.key ∈ o.endpointCandidates.map EndpointCandidate.key
  /-- Every endpoint that was observed is there. -/
  complete : ∀ o ∈ obs, ∀ e ∈ o.endpointCandidates, e.key ∈ endpoints.map EndpointCandidate.key
  /-- Keys are different. -/
  nodup : (endpoints.map EndpointCandidate.key).Nodup

/-- No observation has an endpoint, the latest has a port and another one an address. -/
def Fabricates : List DiscoveredNodeCandidate → Prop
  | [] => False
  | first :: rest =>
      (∀ o ∈ first :: rest, o.endpointCandidates = []) ∧ (latest first rest).port ≠ none ∧
        ∃ o ∈ first :: rest, o.addresses ≠ []

/-- The addresses of the observations. -/
def mergedAddresses (obs : List DiscoveredNodeCandidate) : List String :=
  (Dict.ofList ((obs.flatMap (·.addresses)).map fun a => (a, ()))).keys

/-- The endpoints of the observations. -/
def mergedEndpoints (obs : List DiscoveredNodeCandidate) : List EndpointCandidate :=
  (Dict.ofList ((obs.flatMap (·.endpointCandidates)).map fun e => (e.key, e))).values

/-- The endpoints of a merged candidate.  Kind: L -/
theorem endpoints_merged (first : DiscoveredNodeCandidate) (rest : List DiscoveredNodeCandidate) :
    (merged source first rest).endpointCandidates =
      DiscoveredNodeCandidate.postInit source (mergedEndpoints (first :: rest))
        (latest first rest).port (mergedAddresses (first :: rest)) := rfl

/-- A merged address is one observation's.  Kind: L -/
theorem mem_mergedAddresses {a : String} :
    a ∈ mergedAddresses obs ↔ ∃ o ∈ obs, a ∈ o.addresses := by
  rw [mergedAddresses, Dict.mem_keys_ofList, List.map_map]
  simp only [Function.comp_def, List.map_id', List.mem_flatMap]

/-- A merged endpoint is one observation's.  Kind: L -/
theorem mem_keys_mergedEndpoints {key : String × ℕ} :
    key ∈ (mergedEndpoints obs).map EndpointCandidate.key ↔
      ∃ o ∈ obs, key ∈ o.endpointCandidates.map EndpointCandidate.key := by
  rw [mergedEndpoints, Dict.map_values_ofList, Dict.mem_keys_ofList, List.map_map]
  simp only [Function.comp_def, List.map_flatMap, List.mem_flatMap]

/-- What is merged was observed.  Kind: L -/
theorem observed_merged (obs : List DiscoveredNodeCandidate) : Observed obs (mergedEndpoints obs) where
  sound := fun e he => mem_keys_mergedEndpoints.mp (List.mem_map_of_mem he)
  complete := fun o ho e he => mem_keys_mergedEndpoints.mpr ⟨o, ho, List.mem_map_of_mem he⟩
  nodup := by
    rw [mergedEndpoints, Dict.map_values_ofList]
    exact Dict.nodup _

/-- No endpoints are merged if and only if no observation has any.  Kind: L -/
theorem mergedEndpoints_eq_nil_iff :
    mergedEndpoints obs = [] ↔ ∀ o ∈ obs, o.endpointCandidates = [] := by
  have hkeys : mergedEndpoints obs = [] ↔ (mergedEndpoints obs).map EndpointCandidate.key = [] :=
    List.map_eq_nil_iff.symm
  rw [hkeys, List.eq_nil_iff_forall_not_mem]
  constructor
  · intro h o ho
    rw [← List.map_eq_nil_iff (f := EndpointCandidate.key), List.eq_nil_iff_forall_not_mem]
    exact fun key hkey => h key (mem_keys_mergedEndpoints.mpr ⟨o, ho, hkey⟩)
  · intro h key hkey
    obtain ⟨o, ho, hmem⟩ := mem_keys_mergedEndpoints.mp hkey
    rw [h o ho] at hmem
    exact List.not_mem_nil hmem

/-- No addresses are merged if and only if no observation has any.  Kind: L -/
theorem mergedAddresses_eq_nil_iff : mergedAddresses obs = [] ↔ ∀ o ∈ obs, o.addresses = [] := by
  rw [List.eq_nil_iff_forall_not_mem]
  constructor
  · intro h o ho
    exact List.eq_nil_iff_forall_not_mem.mpr fun a ha => h a (mem_mergedAddresses.mpr ⟨o, ho, ha⟩)
  · intro h a ha
    obtain ⟨o, ho, hmem⟩ := mem_mergedAddresses.mp ha
    rw [h o ho] at hmem
    exact List.not_mem_nil hmem

/-- `__post_init__` adds endpoints that were not observed, or none.  Kind: L -/
theorem observed_endpoints_iff :
    Observed (first :: rest) (merged source first rest).endpointCandidates ↔
      ¬Fabricates (first :: rest) := by
  rw [endpoints_merged]
  rcases hendpoints : mergedEndpoints (first :: rest) with _ | ⟨e, more⟩
  · have hnone := mergedEndpoints_eq_nil_iff.mp hendpoints
    rcases hport : (latest first rest).port with _ | port
    · have hobserved : Observed (first :: rest) [] := hendpoints ▸ observed_merged (first :: rest)
      exact iff_of_true hobserved fun h => h.2.1 hport
    rcases haddresses : mergedAddresses (first :: rest) with _ | ⟨a, addresses⟩
    · have hobserved : Observed (first :: rest) [] := hendpoints ▸ observed_merged (first :: rest)
      refine iff_of_true hobserved fun h => ?_
      obtain ⟨o, ho, hne⟩ := h.2.2
      exact hne (mergedAddresses_eq_nil_iff.mp haddresses o ho)
    · -- the first address, with the port of the latest observation, was never observed
      refine iff_of_false (fun hobserved => ?_) (not_not.mpr ⟨hnone, ?_, ?_⟩)
      · obtain ⟨o, ho, hkey⟩ := hobserved.sound _ List.mem_cons_self
        rw [hnone o ho] at hkey
        exact List.not_mem_nil hkey
      · rw [hport]
        exact Option.some_ne_none port
      · have hmem : a ∈ mergedAddresses (first :: rest) := by
          rw [haddresses]
          exact List.mem_cons_self
        obtain ⟨o, ho, hao⟩ := mem_mergedAddresses.mp hmem
        exact ⟨o, ho, List.ne_nil_of_mem hao⟩
  · have hobserved : Observed (first :: rest) (e :: more) :=
      hendpoints ▸ observed_merged (first :: rest)
    refine iff_of_true hobserved fun h => ?_
    rw [mergedEndpoints_eq_nil_iff.mpr h.1] at hendpoints
    cases hendpoints

/-- The candidate is the merged one.  Kind: L -/
theorem storesOrEmits_iff (hobs : d.observations nodeId = first :: rest) :
    StoresOrEmits source d nodeId c ↔ c = merged source first rest := by
  obtain ⟨hstored, hemitted, -⟩ :=
    (rebuilt_rebuildPeer source d nodeId).present first rest hobs
  constructor
  · rintro (⟨r, hr, rfl⟩ | hmem)
    · rw [hstored] at hr
      cases hr
      rfl
    · exact hemitted c hmem
  · rintro rfl
    exact .inl ⟨_, hstored, rfl⟩

/-- A node without observations has no candidate.  Kind: L -/
theorem not_storesOrEmits (hobs : d.observations nodeId = []) :
    ¬StoresOrEmits source d nodeId c := by
  obtain ⟨hstored, hemitted⟩ := (rebuilt_rebuildPeer source d nodeId).absent hobs
  rintro (⟨r, hr, -⟩ | hmem)
  · rw [hstored] at hr
    cases hr
  · have hannounced : c.stableId ∈ announced (rebuildPeer source d nodeId).2 :=
      mem_announced_iff.mpr ⟨c, hmem, rfl⟩
    rw [hemitted] at hannounced
    exact Finset.notMem_empty _ hannounced

/-- **Observed endpoints.**  The candidate that is stored and emitted has the endpoints that were
observed, each once, exactly if no address of one observation meets the port of another.
Source: `discovery/network.py`, `_rebuild_peer`.  Kind: P -/
theorem endpoints_observed_iff (source : String → EndpointSource) (d : NetworkDiscovery)
    (nodeId : String) :
    (∀ c, StoresOrEmits source d nodeId c → Observed (d.observations nodeId) c.endpointCandidates) ↔
      ¬Fabricates (d.observations nodeId) := by
  rcases hobs : d.observations nodeId with _ | ⟨first, rest⟩
  · exact iff_of_true (fun c hc => (not_storesOrEmits hobs hc).elim) id
  · simp only [storesOrEmits_iff hobs, forall_eq]
    exact observed_endpoints_iff

end NetworkDiscovery

/-- An observation of a service that has an address and no port. -/
def portless : DiscoveredNodeCandidate :=
  { announcedPeer with
    port := none
    serviceName := "presence.service"
    connectable := false
    lastSeen := 1
    endpointCandidates := []
    derived := .inr (.inl rfl) }

/-- An observation of a service that has a port and no address. -/
def addressless : DiscoveredNodeCandidate :=
  { announcedPeer with
    addresses := []
    lastSeen := 2
    endpointCandidates := []
    derived := .inr (.inr rfl) }

/-- Both services, when the later one has just been recorded. -/
def presenceAndPort : NetworkDiscovery :=
  let first := (NetworkDiscovery.announce (fun _ => .ipv4) .new "presence.service" portless).1
  { first with
    serviceNodes := first.serviceNodes.insert "peer.service" addressless.stableId
    serviceCandidates := first.serviceCandidates.insert "peer.service" addressless }

/-- The address of the service without a port is announced with the port of the other one. -/
theorem endpoint_not_observed :
    NetworkDiscovery.rebuildPeer (fun _ => .ipv4) presenceAndPort "peer" =
        NetworkDiscovery.announce (fun _ => .ipv4)
          (NetworkDiscovery.announce (fun _ => .ipv4) .new "presence.service" portless).1
          "peer.service" addressless ∧
      ¬∀ c, NetworkDiscovery.StoresOrEmits (fun _ => .ipv4) presenceAndPort "peer" c →
        NetworkDiscovery.Observed (presenceAndPort.observations "peer") c.endpointCandidates := by
  have hobs : presenceAndPort.observations "peer" = [portless, addressless] := by decide +kernel
  refine ⟨by decide +kernel, ?_⟩
  rw [hobs]
  intro h
  have hmerged : NetworkDiscovery.StoresOrEmits (fun _ => .ipv4) presenceAndPort "peer"
      (NetworkDiscovery.merged (fun _ => .ipv4) portless [addressless]) :=
    (NetworkDiscovery.storesOrEmits_iff hobs).mpr rfl
  refine NetworkDiscovery.observed_endpoints_iff.mp (h _ hmerged) ⟨?_, ?_, ?_⟩
  · decide +kernel
  · decide +kernel
  · decide +kernel

end ExpraConnect
