import ExpraConnect.Base
import ExpraConnect.Lib.Dict
import ExpraConnect.Lib.Provenance
import ExpraConnect.Lib.Text

/-!
# The surface registry

`surfaces/registry.py`: handlers of surfaces, and grants of access to them that peers and cluster
sources hold.

* `register`, `grantPeer`, `grantCluster`, `revokePeer`, `revokeSource`, `clearGrants`: the calls; a
  call that raises changes nothing;
* `authorizedHandler`: what an access is answered with;
* `peerTable`, `clusterTable`, `definitionTable`: the three tables as tables with a history;
* `authorizedHandler_run_eq_ok_iff`: who reaches which handler, told from the calls alone;
* `authorizedHandler_run_eq_error_iff`: who is refused, and that a surface nobody registered is
  refused like one that is not granted;
* `refused_after_revokeSource`: a revocation is final until the next grant.

Handlers are objects of a type `η`; a cluster source is a node or an object of a type `σ`.  Texts
stand where the calls check for a text, and cluster sources are hashable.
-/

set_option linter.unusedSectionVars false

namespace ExpraConnect

open ExpraConnect.Lib

/-! ## Data -/

/-- Source: `surfaces/protocol.py`, `MAX_SURFACE_ID_LENGTH`.  Kind: D -/
def maxSurfaceIdLength : ℕ := 128

/-- Source: `surfaces/registry.py`, `SurfaceAccess`.  Kind: D -/
inductive SurfaceAccess where
  | read | review | action
  deriving DecidableEq

namespace SurfaceAccess

/-- The value of the member. -/
def value : SurfaceAccess → String
  | read => "read"
  | review => "review"
  | action => "action"

/-- `SurfaceAccess(access)`, of a member or its value.
Source: `surfaces/registry.py`, `SurfaceRegistry._access`.  Kind: D -/
def new (access : String) : Except PyError SurfaceAccess :=
  if access = "read" then .ok read
  else if access = "review" then .ok review
  else if access = "action" then .ok action
  else .error ⟨.value, "invalid surface access"⟩

/-- An access's value names the access.  Kind: L -/
theorem new_value (access : SurfaceAccess) : new access.value = .ok access := by
  cases access with
  | read => decide
  | review => decide
  | action => decide

end SurfaceAccess

/-- What a grant of the cluster is made to. -/
inductive SurfaceSource (σ : Type) where
  /-- A node. -/
  | node (id : NodeId)
  /-- Any other object. -/
  | other (s : σ)
  deriving DecidableEq

/-- Source: `surfaces/registry.py`, `SurfaceDefinition`.  Kind: D -/
structure SurfaceDefinition (η : Type) where
  /-- `surface_id` -/
  surfaceId : String
  /-- `read` -/
  read : η
  /-- `review` -/
  review : Option η
  /-- `actions` -/
  actions : Dict String η

/-- Source: `surfaces/registry.py`, `SurfaceGrant`.  Kind: D -/
structure SurfaceGrant (σ : Type) where
  /-- `source` -/
  source : SurfaceSource σ
  /-- `surface_id` -/
  surfaceId : String
  /-- `access` -/
  access : SurfaceAccess
  /-- `expires_at` -/
  expiresAt : Option ℚ
  /-- `cluster` -/
  cluster : Bool

/-- Source: `surfaces/registry.py`, `SurfaceRegistry._valid`.  Kind: D -/
def SurfaceGrant.valid {σ : Type} (now : ℚ) (g : SurfaceGrant σ) : Bool :=
  g.expiresAt.all fun expiresAt => decide (now ≤ expiresAt)

/-- Source: `surfaces/registry.py`, `SurfaceRegistry`.  Kind: D -/
structure SurfaceRegistry (η σ : Type) where
  /-- `_definitions` -/
  definitions : Dict String (SurfaceDefinition η)
  /-- `_peer_grants` -/
  peerGrants : Dict (NodeId × String × SurfaceAccess) (SurfaceGrant σ)
  /-- `_cluster_grants` -/
  clusterGrants : Dict (SurfaceSource σ × String × SurfaceAccess) (SurfaceGrant σ)

/-! ## Checks -/

namespace SurfaceDefinition

variable {η : Type}

/-- Source: `surfaces/registry.py`, `SurfaceRegistry._validate_id`.  Kind: D -/
def validateId (value kind : String) : Except PyError Unit :=
  raiseIf (Text.isBlank value ∨ maxSurfaceIdLength < value.length)
    ⟨.value, "invalid " ++ kind ++ " id"⟩

/-- An object that has to be callable.  Source: `surfaces/registry.py`, `register`.  Kind: D -/
def callable (handler : Option η) : Except PyError η :=
  match handler with
  | some handler => .ok handler
  | none => .error ⟨.type, "surface handlers must be callable"⟩

/-- The loop over the actions.
Source: `surfaces/registry.py`, `SurfaceRegistry.register`.  Kind: D -/
def addActions : List (String × Option η) → Dict String η → Except PyError (Dict String η)
  | [], actions => .ok actions
  | (actionId, handler) :: rest, actions => do
      validateId actionId "action"
      raiseIf (actions.contains actionId) ⟨.value, "duplicate surface action"⟩
      let handler ← callable handler
      addActions rest (actions.insert actionId handler)

/-- The definition that is registered under a new id; no handler is an object that is not callable,
and an absent review is `none`.
Source: `surfaces/registry.py`, `SurfaceRegistry.register`.  Kind: D -/
def new (surfaceId : String) (read : Option η) (review : Option (Option η))
    (actions : List (String × Option η)) : Except PyError (SurfaceDefinition η) := do
  let read ← callable read
  let review ← review.mapM callable
  let actions ← addActions actions Dict.empty
  return ⟨surfaceId, read, review, actions⟩

/-- Source: `surfaces/registry.py`, `SurfaceRegistry._handler`.  Kind: D -/
def handler (d : SurfaceDefinition η) (access : SurfaceAccess) (action : Value) :
    Except PyError η :=
  match access with
  | .read => .ok d.read
  | .review =>
      match d.review with
      | none => .error ⟨.permission, "surface review is not available"⟩
      | some review => .ok review
  | .action =>
      match action with
      | .null => .error ⟨.value, "surface action is required"⟩
      | .str action =>
          match d.actions.get? action with
          | none => .error ⟨.value, "unknown surface action"⟩
          | some handler => .ok handler
      | _ => .error ⟨.type, "action id must be text"⟩

end SurfaceDefinition

/-- `_expiry`; `None` is `null`.  Source: `surfaces/registry.py`, `SurfaceRegistry._expiry`.
Kind: D -/
def surfaceExpiry (expiresAt : Value) : Except PyError (Option ℚ) :=
  match expiresAt with
  | .null => .ok none
  | .int _ | .float _ => do
      match ← expiresAt.finite? with
      | some q => return some q
      | none => throw ⟨.value, "expiry must be finite"⟩
  | _ => .error ⟨.type, "expiry must be numeric"⟩

/-! ## Calls -/

namespace SurfaceRegistry

variable {η σ : Type} [DecidableEq σ]

/-- Source: `surfaces/registry.py`, `SurfaceRegistry.__init__`.  Kind: D -/
def new : SurfaceRegistry η σ := ⟨Dict.empty, Dict.empty, Dict.empty⟩

/-- Source: `surfaces/registry.py`, `SurfaceRegistry.register`.  Kind: D -/
def register (surfaceId : String) (read : Option η) (review : Option (Option η))
    (actions : List (String × Option η)) (s : SurfaceRegistry η σ) :
    Except PyError (SurfaceRegistry η σ) := do
  SurfaceDefinition.validateId surfaceId "surface"
  raiseIf (s.definitions.contains surfaceId) ⟨.value, "duplicate surface"⟩
  let definition ← SurfaceDefinition.new surfaceId read review actions
  return { s with definitions := s.definitions.insert surfaceId definition }

/-- Source: `surfaces/registry.py`, `SurfaceRegistry._new_grant`.  Kind: D -/
def newGrant (source : SurfaceSource σ) (surfaceId access : String) (expiresAt : Value)
    (cluster : Bool) (s : SurfaceRegistry η σ) : Except PyError (SurfaceGrant σ) := do
  raiseIf (!s.definitions.contains surfaceId) ⟨.value, "unknown surface"⟩
  SurfaceDefinition.validateId surfaceId "surface"
  let expiresAt ← surfaceExpiry expiresAt
  let access ← SurfaceAccess.new access
  return ⟨source, surfaceId, access, expiresAt, cluster⟩

/-- Source: `surfaces/registry.py`, `SurfaceRegistry.grant_peer`.  Kind: D -/
def grantPeer (peerId : NodeId) (surfaceId access : String) (expiresAt : Value)
    (s : SurfaceRegistry η σ) : Except PyError (SurfaceRegistry η σ) := do
  let grant ← s.newGrant (.node peerId) surfaceId access expiresAt false
  return { s with peerGrants := s.peerGrants.insert (peerId, surfaceId, grant.access) grant }

/-- `grant_cluster(source, ...)`; no source is `None`.
Source: `surfaces/registry.py`, `SurfaceRegistry.grant_cluster` and `_validate_source`.  Kind: D -/
def grantCluster (source : Option (SurfaceSource σ)) (surfaceId access : String)
    (expiresAt : Value) (s : SurfaceRegistry η σ) : Except PyError (SurfaceRegistry η σ) :=
  match source with
  | none => .error ⟨.value, "invalid cluster source"⟩
  | some source => do
      let grant ← s.newGrant source surfaceId access expiresAt true
      return { s with
        clusterGrants := s.clusterGrants.insert (source, surfaceId, grant.access) grant }

/-- Source: `surfaces/registry.py`, `SurfaceRegistry.revoke_peer`.  Kind: D -/
def revokePeer (peerId : NodeId) (surfaceId : String) (access : Option String)
    (s : SurfaceRegistry η σ) : Except PyError (SurfaceRegistry η σ) :=
  match access with
  | none => .ok { s with
      peerGrants := s.peerGrants.filterEntries fun p =>
        !(p.1.1 = peerId && p.1.2.1 = surfaceId) }
  | some access => do
      let normalized ← SurfaceAccess.new access
      return { s with peerGrants := s.peerGrants.erase (peerId, surfaceId, normalized) }

/-- Source: `surfaces/registry.py`, `SurfaceRegistry.revoke_source`.  Kind: D -/
def revokeSource (source : SurfaceSource σ) (s : SurfaceRegistry η σ) : SurfaceRegistry η σ :=
  { s with
    peerGrants := s.peerGrants.filterEntries fun p => SurfaceSource.node p.1.1 ≠ source
    clusterGrants := s.clusterGrants.filterEntries fun p => p.1.1 ≠ source }

/-- Source: `surfaces/registry.py`, `SurfaceRegistry.clear_grants`.  Kind: D -/
def clearGrants (s : SurfaceRegistry η σ) : SurfaceRegistry η σ :=
  { s with peerGrants := Dict.empty, clusterGrants := Dict.empty }

/-- The grant that an access uses.
Source: `surfaces/registry.py`, `SurfaceRegistry._authorized_handler`.  Kind: D -/
def findGrant (s : SurfaceRegistry η σ) (peerId : NodeId) (surfaceId : String)
    (access : SurfaceAccess) (clusterSources : List (SurfaceSource σ)) (now : ℚ) :
    Option (SurfaceGrant σ) :=
  match (s.peerGrants.get? (peerId, surfaceId, access)).filter (SurfaceGrant.valid now) with
  | some grant => some grant
  | none => clusterSources.findSome? fun source =>
      (s.clusterGrants.get? (source, surfaceId, access)).filter (SurfaceGrant.valid now)

/-- The handler of a surface for an access.
Source: `surfaces/registry.py`, `SurfaceRegistry._authorized_handler`.  Kind: D -/
def definedHandler (s : SurfaceRegistry η σ) (surfaceId : String) (access : SurfaceAccess)
    (action : Value) : Except PyError η :=
  match s.definitions.get? surfaceId with
  | none => .error ⟨.value, "unknown surface"⟩
  | some definition => definition.handler access action

/-- Source: `surfaces/registry.py`, `SurfaceRegistry._authorized_handler`.  Kind: D -/
def authorizedHandler (s : SurfaceRegistry η σ) (peerId : NodeId) (surfaceId access : String)
    (action : Value) (clusterSources : List (SurfaceSource σ)) (now : ℚ) : Except PyError η := do
  let normalized ← SurfaceAccess.new access
  raiseIf (s.findGrant peerId surfaceId normalized clusterSources now).isNone
    ⟨.permission, "surface access is not authorized"⟩
  s.definedHandler surfaceId normalized action

end SurfaceRegistry

/-- A change of a surface registry.  Source: `surfaces/registry.py`, `SurfaceRegistry`.  Kind: D -/
inductive SurfaceOp (η σ : Type) where
  /-- `register(surface_id, read=..., review=..., actions=...)` -/
  | register (surfaceId : String) (read : Option η) (review : Option (Option η))
      (actions : List (String × Option η))
  /-- `grant_peer(peer_id, surface_id, access=..., expires_at=...)` -/
  | grantPeer (peerId : NodeId) (surfaceId access : String) (expiresAt : Value)
  /-- `grant_cluster(source, surface_id, access=..., expires_at=...)` -/
  | grantCluster (source : Option (SurfaceSource σ)) (surfaceId access : String)
      (expiresAt : Value)
  /-- `revoke_peer(peer_id, surface_id, access=...)`; `stop_peer` is the call without access. -/
  | revokePeer (peerId : NodeId) (surfaceId : String) (access : Option String)
  /-- `revoke_source(source)` -/
  | revokeSource (source : SurfaceSource σ)
  /-- `clear_grants()` -/
  | clearGrants

namespace SurfaceOp

variable {η σ : Type} [DecidableEq σ]

/-- The registry after a call that returns. -/
def call (o : SurfaceOp η σ) (s : SurfaceRegistry η σ) : Except PyError (SurfaceRegistry η σ) :=
  match o with
  | register surfaceId read review actions => s.register surfaceId read review actions
  | grantPeer peerId surfaceId access expiresAt => s.grantPeer peerId surfaceId access expiresAt
  | grantCluster source surfaceId access expiresAt =>
      s.grantCluster source surfaceId access expiresAt
  | revokePeer peerId surfaceId access => s.revokePeer peerId surfaceId access
  | revokeSource source => .ok (s.revokeSource source)
  | clearGrants => .ok s.clearGrants

/-- The registry after a call, whether it returns or raises. -/
def step (s : SurfaceRegistry η σ) (o : SurfaceOp η σ) : SurfaceRegistry η σ :=
  (o.call s).toOption.getD s

/-- The call defines a surface that has no definition yet.  Kind: D -/
def Registers (s : SurfaceRegistry η σ) (o : SurfaceOp η σ) (surfaceId : String)
    (d : SurfaceDefinition η) : Prop :=
  ∃ read review actions, o = register surfaceId read review actions ∧
    SurfaceDefinition.validateId surfaceId "surface" = .ok () ∧
      s.definitions.get? surfaceId = none ∧
        SurfaceDefinition.new surfaceId read review actions = .ok d

/-- The call makes a grant to a peer.  Kind: D -/
def GrantsPeer (s : SurfaceRegistry η σ) (o : SurfaceOp η σ)
    (k : NodeId × String × SurfaceAccess) (g : SurfaceGrant σ) : Prop :=
  ∃ access expiresAt, o = grantPeer k.1 k.2.1 access expiresAt ∧
    s.newGrant (.node k.1) k.2.1 access expiresAt false = .ok g ∧ g.access = k.2.2

/-- The call makes a grant to a cluster source.  Kind: D -/
def GrantsCluster (s : SurfaceRegistry η σ) (o : SurfaceOp η σ)
    (k : SurfaceSource σ × String × SurfaceAccess) (g : SurfaceGrant σ) : Prop :=
  ∃ access expiresAt, o = grantCluster (some k.1) k.2.1 access expiresAt ∧
    s.newGrant k.1 k.2.1 access expiresAt true = .ok g ∧ g.access = k.2.2

/-- The call withdraws the grants of a peer under a key.  Kind: D -/
def WithdrawsPeer (o : SurfaceOp η σ) (k : NodeId × String × SurfaceAccess) : Prop :=
  match o with
  | revokePeer peerId surfaceId access => k.1 = peerId ∧ k.2.1 = surfaceId ∧
      ∀ text, access = some text → SurfaceAccess.new text = .ok k.2.2
  | revokeSource source => .node k.1 = source
  | clearGrants => True
  | _ => False

/-- The call withdraws the grants of a cluster source under a key.  Kind: D -/
def WithdrawsCluster (o : SurfaceOp η σ) (k : SurfaceSource σ × String × SurfaceAccess) : Prop :=
  match o with
  | revokeSource source => k.1 = source
  | clearGrants => True
  | _ => False

end SurfaceOp

/-! ## What one call does to the tables -/

namespace SurfaceRegistry

variable {η σ : Type} [DecidableEq σ] {s s' : SurfaceRegistry η σ} {o : SurfaceOp η σ}
  {surfaceId access : String} {expiresAt : Value}

/-- When `register` returns, and what it leaves.  Kind: L -/
theorem register_eq_ok {read : Option η} {review : Option (Option η)}
    {actions : List (String × Option η)} :
    s.register surfaceId read review actions = .ok s' ↔
      ∃ d, SurfaceOp.Registers s (.register surfaceId read review actions) surfaceId d ∧
        s' = { s with definitions := s.definitions.insert surfaceId d } := by
  simp only [register, SurfaceOp.Registers, Except.bind_eq_ok, Except.raiseIf_eq_ok,
    Except.pure_eq_ok, Dict.contains, Option.isSome_iff_ne_none, not_not]
  constructor
  · rintro ⟨_, hid, _, hfresh, d, hd, rfl⟩
    exact ⟨d, ⟨read, review, actions, rfl, hid, hfresh, hd⟩, rfl⟩
  · rintro ⟨d, ⟨_, _, _, heq, hid, hfresh, hd⟩, rfl⟩
    cases heq
    exact ⟨(), hid, (), hfresh, d, hd, rfl⟩

/-- When `newGrant` returns, and what it leaves.  Kind: L -/
theorem newGrant_eq_ok {source : SurfaceSource σ} {cluster : Bool} {g : SurfaceGrant σ} :
    s.newGrant source surfaceId access expiresAt cluster = .ok g ↔
      (s.definitions.get? surfaceId).isSome = true ∧
        SurfaceDefinition.validateId surfaceId "surface" = .ok () ∧
          ∃ e a, surfaceExpiry expiresAt = .ok e ∧ SurfaceAccess.new access = .ok a ∧
            g = ⟨source, surfaceId, a, e, cluster⟩ := by
  simp only [newGrant, Except.bind_eq_ok, Except.raiseIf_eq_ok, Except.pure_eq_ok, Dict.contains,
    Bool.not_eq_true', Bool.not_eq_false]
  constructor
  · rintro ⟨_, hknown, _, hid, e, he, a, ha, rfl⟩
    exact ⟨hknown, hid, e, a, he, ha, rfl⟩
  · rintro ⟨hknown, hid, e, a, he, ha, rfl⟩
    exact ⟨(), hknown, (), hid, e, he, a, ha, rfl⟩

/-- When `grantPeer` returns, and what it leaves.  Kind: L -/
theorem grantPeer_eq_ok {peerId : NodeId} :
    s.grantPeer peerId surfaceId access expiresAt = .ok s' ↔
      ∃ g, s.newGrant (.node peerId) surfaceId access expiresAt false = .ok g ∧
        s' = { s with peerGrants := s.peerGrants.insert (peerId, surfaceId, g.access) g } := by
  simp only [grantPeer, Except.bind_eq_ok, Except.pure_eq_ok]
  exact exists_congr fun g => and_congr_right fun _ => eq_comm

/-- When `grantCluster` returns, and what it leaves.  Kind: L -/
theorem grantCluster_eq_ok {source : Option (SurfaceSource σ)} :
    s.grantCluster source surfaceId access expiresAt = .ok s' ↔
      ∃ k g, source = some k ∧ s.newGrant k surfaceId access expiresAt true = .ok g ∧
        s' = { s with
          clusterGrants := s.clusterGrants.insert (k, surfaceId, g.access) g } := by
  cases source with
  | none => simp [grantCluster]
  | some k =>
      simp only [grantCluster, Except.bind_eq_ok, Except.pure_eq_ok, Option.some.injEq]
      constructor
      · rintro ⟨g, hg, rfl⟩
        exact ⟨k, g, rfl, hg, rfl⟩
      · rintro ⟨_, g, rfl, hg, rfl⟩
        exact ⟨g, hg, rfl⟩

/-- A call that returns, or one that raises and changes nothing.  Kind: L -/
theorem step_cases (s : SurfaceRegistry η σ) (o : SurfaceOp η σ) :
    o.call s = .ok (SurfaceOp.step s o) ∨
      ((∃ e, o.call s = .error e) ∧ SurfaceOp.step s o = s) := by
  unfold SurfaceOp.step
  cases h : o.call s with
  | ok s' => exact .inl rfl
  | error e => exact .inr ⟨⟨e, rfl⟩, rfl⟩

/-- The handler of a registered surface is looked up in its definition.  Kind: L -/
theorem definedHandler_of_get? {d : SurfaceDefinition η} {a : SurfaceAccess} {action : Value}
    (h : s.definitions.get? surfaceId = some d) :
    s.definedHandler surfaceId a action = d.handler a action := by
  unfold definedHandler
  rw [h]

/-- A call that returns is a step.  Kind: L -/
theorem step_of_call (h : o.call s = .ok s') : SurfaceOp.step s o = s' := by
  unfold SurfaceOp.step
  rw [h]
  rfl

/-- A call changes the definitions only by registering.  Kind: L -/
theorem definitions_call (h : o.call s = .ok s') :
    s'.definitions = s.definitions ∨ ∃ surfaceId d, SurfaceOp.Registers s o surfaceId d ∧
      s'.definitions = s.definitions.insert surfaceId d := by
  cases o with
  | register surfaceId read review actions =>
      obtain ⟨d, hd, rfl⟩ := register_eq_ok.mp h
      exact .inr ⟨surfaceId, d, hd, rfl⟩
  | grantPeer peerId surfaceId access expiresAt =>
      obtain ⟨g, _, rfl⟩ := grantPeer_eq_ok.mp h
      exact .inl rfl
  | grantCluster source surfaceId access expiresAt =>
      obtain ⟨k, g, _, _, rfl⟩ := grantCluster_eq_ok.mp h
      exact .inl rfl
  | revokePeer peerId surfaceId access =>
      cases access with
      | none =>
          cases h
          exact .inl rfl
      | some text =>
          obtain ⟨a, _, h⟩ := Except.bind_eq_ok.mp h
          cases h
          exact .inl rfl
  | revokeSource source =>
      cases h
      exact .inl rfl
  | clearGrants =>
      cases h
      exact .inl rfl

/-- A call that returns makes a peer's grant, withdraws it, or leaves it alone.  Kind: L -/
theorem peerGrants_call (h : o.call s = .ok s') (k : NodeId × String × SurfaceAccess) :
    (∃ g, SurfaceOp.GrantsPeer s o k g ∧ s'.peerGrants.get? k = some g) ∨
      (o.WithdrawsPeer k ∧ s'.peerGrants.get? k = none) ∨
        (¬o.WithdrawsPeer k ∧ s'.peerGrants.get? k = s.peerGrants.get? k ∧
          ∀ g, ¬SurfaceOp.GrantsPeer s o k g) := by
  cases o with
  | register surfaceId read review actions =>
      obtain ⟨d, _, rfl⟩ := register_eq_ok.mp h
      refine .inr (.inr ⟨fun hw => hw, rfl, ?_⟩)
      rintro g ⟨_, _, heq, _⟩
      cases heq
  | grantPeer peerId surfaceId access expiresAt =>
      obtain ⟨g, hg, rfl⟩ := grantPeer_eq_ok.mp h
      by_cases hk : (peerId, surfaceId, g.access) = k
      · subst hk
        exact .inl ⟨g, ⟨access, expiresAt, rfl, hg, rfl⟩, Dict.get?_insert_self _ _ _⟩
      · refine .inr (.inr ⟨fun hw => hw, Dict.get?_insert_of_ne _ _ hk, ?_⟩)
        rintro g' ⟨_, _, heq, hg', haccess⟩
        cases heq
        cases hg.symm.trans hg'
        exact hk (by rw [haccess])
  | grantCluster source surfaceId access expiresAt =>
      obtain ⟨_, g, _, _, rfl⟩ := grantCluster_eq_ok.mp h
      refine .inr (.inr ⟨fun hw => hw, rfl, ?_⟩)
      rintro g ⟨_, _, heq, _⟩
      cases heq
  | revokePeer peerId surfaceId access =>
      have hnot : ∀ g, ¬SurfaceOp.GrantsPeer s (.revokePeer peerId surfaceId access) k g := by
        rintro g ⟨_, _, heq, _⟩
        cases heq
      cases access with
      | none =>
          cases h
          have hget := s.peerGrants.get?_filterKeys
            (fun k => !(decide (k.1 = peerId) && decide (k.2.1 = surfaceId))) k
          by_cases hk : k.1 = peerId ∧ k.2.1 = surfaceId
          · refine .inr (.inl ⟨⟨hk.1, hk.2, fun _ htext => by cases htext⟩, hget.trans ?_⟩)
            simp [hk.1, hk.2]
          · refine .inr (.inr ⟨fun hw => hk ⟨hw.1, hw.2.1⟩, hget.trans (if_pos ?_), hnot⟩)
            rw [not_and_or] at hk
            simpa using hk
      | some text =>
          obtain ⟨a, ha, h⟩ := Except.bind_eq_ok.mp h
          cases h
          by_cases hk : (peerId, surfaceId, a) = k
          · subst hk
            refine .inr (.inl ⟨⟨rfl, rfl, fun _ htext => ?_⟩, Dict.get?_erase_self _ _⟩)
            cases htext
            exact ha
          · refine .inr (.inr ⟨fun hw => hk ?_, Dict.get?_erase_of_ne _ hk, hnot⟩)
            obtain ⟨h₁, h₂, h₃⟩ := hw
            cases ha.symm.trans (h₃ text rfl)
            rw [← h₁, ← h₂]
  | revokeSource source =>
      cases h
      have hget := s.peerGrants.get?_filterKeys
        (fun k => decide (SurfaceSource.node k.1 ≠ source)) k
      by_cases hk : SurfaceSource.node k.1 = source
      · exact .inr (.inl ⟨hk, hget.trans (if_neg (by simp [hk]))⟩)
      · refine .inr (.inr ⟨hk, hget.trans (if_pos (by simp [hk])), ?_⟩)
        rintro g ⟨_, _, heq, _⟩
        cases heq
  | clearGrants =>
      cases h
      exact .inr (.inl ⟨trivial, rfl⟩)

/-- The same of a cluster source's grant.  Kind: L -/
theorem clusterGrants_call (h : o.call s = .ok s') (k : SurfaceSource σ × String × SurfaceAccess) :
    (∃ g, SurfaceOp.GrantsCluster s o k g ∧ s'.clusterGrants.get? k = some g) ∨
      (o.WithdrawsCluster k ∧ s'.clusterGrants.get? k = none) ∨
        (¬o.WithdrawsCluster k ∧ s'.clusterGrants.get? k = s.clusterGrants.get? k ∧
          ∀ g, ¬SurfaceOp.GrantsCluster s o k g) := by
  cases o with
  | register surfaceId read review actions =>
      obtain ⟨d, _, rfl⟩ := register_eq_ok.mp h
      refine .inr (.inr ⟨fun hw => hw, rfl, ?_⟩)
      rintro g ⟨_, _, heq, _⟩
      cases heq
  | grantPeer peerId surfaceId access expiresAt =>
      obtain ⟨g, _, rfl⟩ := grantPeer_eq_ok.mp h
      refine .inr (.inr ⟨fun hw => hw, rfl, ?_⟩)
      rintro g ⟨_, _, heq, _⟩
      cases heq
  | grantCluster source surfaceId access expiresAt =>
      obtain ⟨src, g, rfl, hg, rfl⟩ := grantCluster_eq_ok.mp h
      by_cases hk : (src, surfaceId, g.access) = k
      · subst hk
        exact .inl ⟨g, ⟨access, expiresAt, rfl, hg, rfl⟩, Dict.get?_insert_self _ _ _⟩
      · refine .inr (.inr ⟨fun hw => hw, Dict.get?_insert_of_ne _ _ hk, ?_⟩)
        rintro g' ⟨_, _, heq, hg', haccess⟩
        cases heq
        cases hg.symm.trans hg'
        exact hk (by rw [haccess])
  | revokePeer peerId surfaceId access =>
      have hsame : s'.clusterGrants = s.clusterGrants := by
        cases access with
        | none =>
            cases h
            rfl
        | some text =>
            obtain ⟨a, _, h⟩ := Except.bind_eq_ok.mp h
            cases h
            rfl
      refine .inr (.inr ⟨fun hw => hw, by rw [hsame], ?_⟩)
      rintro g ⟨_, _, heq, _⟩
      cases heq
  | revokeSource source =>
      cases h
      have hget := s.clusterGrants.get?_filterKeys (fun k => decide (k.1 ≠ source)) k
      by_cases hk : k.1 = source
      · exact .inr (.inl ⟨hk, hget.trans (if_neg (by simp [hk]))⟩)
      · refine .inr (.inr ⟨hk, hget.trans (if_pos (by simp [hk])), ?_⟩)
        rintro g ⟨_, _, heq, _⟩
        cases heq
  | clearGrants =>
      cases h
      exact .inr (.inl ⟨trivial, rfl⟩)

/-- A call that makes a grant or a definition returns and writes it.  Kind: L -/
theorem call_of_grantsPeer {k : NodeId × String × SurfaceAccess} {g : SurfaceGrant σ}
    (h : SurfaceOp.GrantsPeer s o k g) :
    o.call s = .ok { s with peerGrants := s.peerGrants.insert k g } := by
  obtain ⟨access, expiresAt, rfl, hg, haccess⟩ := h
  refine (grantPeer_eq_ok.mpr ⟨g, hg, ?_⟩ : s.grantPeer k.1 k.2.1 access expiresAt = _)
  rw [haccess]

/-- What a call that grants a cluster grant leaves.  Kind: L -/
theorem call_of_grantsCluster {k : SurfaceSource σ × String × SurfaceAccess} {g : SurfaceGrant σ}
    (h : SurfaceOp.GrantsCluster s o k g) :
    o.call s = .ok { s with clusterGrants := s.clusterGrants.insert k g } := by
  obtain ⟨access, expiresAt, rfl, hg, haccess⟩ := h
  refine (grantCluster_eq_ok.mpr ⟨k.1, g, rfl, hg, ?_⟩ :
    s.grantCluster (some k.1) k.2.1 access expiresAt = _)
  rw [haccess]

/-- What a registration leaves.  Kind: L -/
theorem call_of_registers {d : SurfaceDefinition η} (h : SurfaceOp.Registers s o surfaceId d) :
    o.call s = .ok { s with definitions := s.definitions.insert surfaceId d } := by
  obtain ⟨read, review, actions, rfl, hrest⟩ := h
  exact (register_eq_ok.mpr ⟨d, ⟨read, review, actions, rfl, hrest⟩, rfl⟩ :
    s.register surfaceId read review actions = _)

/-- A call that withdraws a peer's grant returns.  Kind: L -/
theorem call_of_withdrawsPeer {k : NodeId × String × SurfaceAccess} (h : o.WithdrawsPeer k) :
    ∃ s', o.call s = .ok s' := by
  cases o with
  | register surfaceId read review actions => exact h.elim
  | grantPeer peerId surfaceId access expiresAt => exact h.elim
  | grantCluster source surfaceId access expiresAt => exact h.elim
  | revokePeer peerId surfaceId access =>
      cases access with
      | none => exact ⟨_, rfl⟩
      | some text => exact ⟨_, Except.bind_eq_ok.mpr ⟨_, h.2.2 text rfl, rfl⟩⟩
  | revokeSource source => exact ⟨_, rfl⟩
  | clearGrants => exact ⟨_, rfl⟩

/-- What a call that withdraws a cluster grant leaves.  Kind: L -/
theorem call_of_withdrawsCluster {k : SurfaceSource σ × String × SurfaceAccess}
    (h : o.WithdrawsCluster k) : ∃ s', o.call s = .ok s' := by
  cases o with
  | register surfaceId read review actions => exact h.elim
  | grantPeer peerId surfaceId access expiresAt => exact h.elim
  | grantCluster source surfaceId access expiresAt => exact h.elim
  | revokePeer peerId surfaceId access => exact h.elim
  | revokeSource source => exact ⟨_, rfl⟩
  | clearGrants => exact ⟨_, rfl⟩

/-! ## The tables and their history -/

section tables

variable (η σ)

/-- The grants of peers.  Kind: D -/
def peerTable : Tabled (SurfaceRegistry η σ) (SurfaceOp η σ) (NodeId × String × SurfaceAccess)
    (SurfaceGrant σ) where
  step := SurfaceOp.step
  look s := s.peerGrants.get?
  Sets := SurfaceOp.GrantsPeer
  Drops _ := SurfaceOp.WithdrawsPeer
  look_of_sets := by
    intro s o k g hg
    rw [step_of_call (call_of_grantsPeer hg)]
    exact Dict.get?_insert_self _ _ _
  look_of_drops := by
    intro s o k hw
    obtain ⟨s', hcall⟩ := call_of_withdrawsPeer (s := s) hw
    rw [step_of_call hcall]
    rcases peerGrants_call hcall k with ⟨g, ⟨_, _, rfl, _⟩, _⟩ | ⟨_, hnone⟩ | ⟨hnot, _⟩
    · exact hw.elim
    · exact hnone
    · exact absurd hw hnot
  look_of_neither := by
    intro s o k hnoset hnodrop
    rcases step_cases s o with hcall | ⟨_, hsame⟩
    · rcases peerGrants_call hcall k with ⟨g, hg, _⟩ | ⟨hw, _⟩ | ⟨_, hkeep, _⟩
      · exact absurd hg (hnoset g)
      · exact absurd hw hnodrop
      · exact hkeep
    · rw [hsame]

/-- The grants of cluster sources.  Kind: D -/
def clusterTable : Tabled (SurfaceRegistry η σ) (SurfaceOp η σ)
    (SurfaceSource σ × String × SurfaceAccess) (SurfaceGrant σ) where
  step := SurfaceOp.step
  look s := s.clusterGrants.get?
  Sets := SurfaceOp.GrantsCluster
  Drops _ := SurfaceOp.WithdrawsCluster
  look_of_sets := by
    intro s o k g hg
    rw [step_of_call (call_of_grantsCluster hg)]
    exact Dict.get?_insert_self _ _ _
  look_of_drops := by
    intro s o k hw
    obtain ⟨s', hcall⟩ := call_of_withdrawsCluster (s := s) hw
    rw [step_of_call hcall]
    rcases clusterGrants_call hcall k with ⟨g, ⟨_, _, rfl, _⟩, _⟩ | ⟨_, hnone⟩ | ⟨hnot, _⟩
    · exact hw.elim
    · exact hnone
    · exact absurd hw hnot
  look_of_neither := by
    intro s o k hnoset hnodrop
    rcases step_cases s o with hcall | ⟨_, hsame⟩
    · rcases clusterGrants_call hcall k with ⟨g, hg, _⟩ | ⟨hw, _⟩ | ⟨_, hkeep, _⟩
      · exact absurd hg (hnoset g)
      · exact absurd hw hnodrop
      · exact hkeep
    · rw [hsame]

/-- The definitions, which are never dropped.  Kind: D -/
def definitionTable : Tabled (SurfaceRegistry η σ) (SurfaceOp η σ) String
    (SurfaceDefinition η) where
  step := SurfaceOp.step
  look s := s.definitions.get?
  Sets := SurfaceOp.Registers
  Drops _ _ _ := False
  look_of_sets := by
    intro s o k d hd
    rw [step_of_call (call_of_registers hd)]
    exact Dict.get?_insert_self _ _ _
  look_of_drops := fun h => h.elim
  look_of_neither := by
    intro s o k hnoset _
    rcases step_cases s o with hcall | ⟨_, hsame⟩
    · rcases definitions_call hcall with hkeep | ⟨surfaceId, d, hd, hinsert⟩
      · rw [hkeep]
      · by_cases hk : surfaceId = k
        · subst hk
          exact absurd hd (hnoset d)
        · rw [hinsert, Dict.get?_insert_of_ne _ _ hk]
    · rw [hsame]

end tables

/-- The registry after a sequence of calls. -/
def run (ops : List (SurfaceOp η σ)) : SurfaceRegistry η σ := ops.foldl SurfaceOp.step new

/-- A grant that the access may use stands: the peer's own, or one of its cluster sources'.
Kind: D -/
def Held (ops : List (SurfaceOp η σ)) (peerId : NodeId) (surfaceId : String)
    (access : SurfaceAccess) (sources : List (SurfaceSource σ)) (now : ℚ) : Prop :=
  (∃ g, (peerTable η σ).Stands new ops (peerId, surfaceId, access) g ∧ g.valid now = true) ∨
    ∃ source ∈ sources, ∃ g,
      (clusterTable η σ).Stands new ops (source, surfaceId, access) g ∧ g.valid now = true

section runs

variable {ops : List (SurfaceOp η σ)} {peerId : NodeId} {sources : List (SurfaceSource σ)}
  {now : ℚ} {a : SurfaceAccess} {action : Value}

/-- The peer grants after a run are those its history says.  Kind: L -/
theorem get?_peerGrants_run {k : NodeId × String × SurfaceAccess} {g : SurfaceGrant σ} :
    (run ops).peerGrants.get? k = some g ↔ (peerTable η σ).Stands new ops k g :=
  Tabled.look_run_eq_some_iff_stands (T := peerTable η σ) (s := new) rfl

/-- The cluster grants after a run are those its history says.  Kind: L -/
theorem get?_clusterGrants_run {k : SurfaceSource σ × String × SurfaceAccess}
    {g : SurfaceGrant σ} :
    (run ops).clusterGrants.get? k = some g ↔ (clusterTable η σ).Stands new ops k g :=
  Tabled.look_run_eq_some_iff_stands (T := clusterTable η σ) (s := new) rfl

/-- The definitions after a run are those its history says.  Kind: L -/
theorem get?_definitions_run {d : SurfaceDefinition η} :
    (run ops).definitions.get? surfaceId = some d ↔
      (definitionTable η σ).Stands new ops surfaceId d :=
  Tabled.look_run_eq_some_iff_stands (T := definitionTable η σ) (s := new) rfl

/-- An access finds a grant exactly if one stands.  Kind: L -/
theorem findGrant_run_iff :
    ((run ops).findGrant peerId surfaceId a sources now).isSome = true ↔
      Held ops peerId surfaceId a sources now := by
  have hpeer : ∀ g, ((run ops).peerGrants.get? (peerId, surfaceId, a)).filter
      (SurfaceGrant.valid now) = some g ↔
        (peerTable η σ).Stands new ops (peerId, surfaceId, a) g ∧ g.valid now = true := by
    intro g
    rw [Option.filter_eq_some_iff, get?_peerGrants_run]
  have hcluster : ∀ source g, ((run ops).clusterGrants.get? (source, surfaceId, a)).filter
      (SurfaceGrant.valid now) = some g ↔
        (clusterTable η σ).Stands new ops (source, surfaceId, a) g ∧ g.valid now = true := by
    intro source g
    rw [Option.filter_eq_some_iff, get?_clusterGrants_run]
  unfold findGrant Held
  cases hown : ((run ops).peerGrants.get? (peerId, surfaceId, a)).filter
      (SurfaceGrant.valid now) with
  | some g => exact iff_of_true rfl (.inl ⟨g, (hpeer g).mp hown⟩)
  | none =>
      have hnone : ¬∃ g, (peerTable η σ).Stands new ops (peerId, surfaceId, a) g ∧
          g.valid now = true := by
        rintro ⟨g, hg⟩
        have hsome := (hpeer g).mpr hg
        rw [hown] at hsome
        cases hsome
      rw [or_iff_right hnone]
      refine List.findSome?_isSome_iff.trans (exists_congr fun source => and_congr_right fun _ => ?_)
      rw [Option.isSome_iff_exists]
      exact exists_congr fun g => hcluster source g

/-- A definition stays.  Kind: L -/
theorem definitions_run_append {d : SurfaceDefinition η} {pre : List (SurfaceOp η σ)}
    (h : (run pre).definitions.get? surfaceId = some d) (post : List (SurfaceOp η σ)) :
    (run (pre ++ post)).definitions.get? surfaceId = some d := by
  have hrun : run (pre ++ post) = (definitionTable η σ).run (run pre) post := by
    unfold run Tabled.run
    rw [List.foldl_append]
    rfl
  rw [hrun]
  refine Tabled.look_run_of_never_dropped (T := definitionTable η σ) ?_ h post
  rintro s o v hv (⟨d', _, _, _, _, _, hfresh, _⟩ | hdrop)
  · have hnone : s.definitions.get? surfaceId = none := hfresh
    cases hnone.symm.trans hv
  · exact hdrop

/-- A grant is made only for a surface that is registered, and stays so.  Kind: L -/
theorem registered_of_held (h : Held ops peerId surfaceId a sources now) :
    ∃ d, (run ops).definitions.get? surfaceId = some d := by
  have hknown : ∀ {pre post : List (SurfaceOp η σ)} {o : SurfaceOp η σ} {source cluster access
      expiresAt} {g : SurfaceGrant σ}, ops = pre ++ o :: post →
        (run pre).newGrant source surfaceId access expiresAt cluster = .ok g →
          ∃ d, (run ops).definitions.get? surfaceId = some d := by
    intro pre post o source cluster access expiresAt g hops hg
    obtain ⟨d, hd⟩ := Option.isSome_iff_exists.mp (newGrant_eq_ok.mp hg).1
    exact ⟨d, hops ▸ definitions_run_append hd (o :: post)⟩
  rcases h with ⟨g, ⟨pre, o, post, hops, ⟨_, _, _, hg, _⟩, _⟩, _⟩ |
    ⟨source, _, g, ⟨pre, o, post, hops, ⟨_, _, _, hg, _⟩, _⟩, _⟩
  · exact hknown hops hg
  · exact hknown hops hg

/-- Who reaches which handler after any sequence of calls: the access names one of the three, a grant
stands, and the surface, as it was first registered, has the handler.
Source: `surfaces/registry.py`, `SurfaceRegistry._authorized_handler`.  Kind: P -/
theorem authorizedHandler_run_eq_ok_iff {h : η} :
    (run ops).authorizedHandler peerId surfaceId access action sources now = .ok h ↔
      ∃ a d, SurfaceAccess.new access = .ok a ∧ Held ops peerId surfaceId a sources now ∧
        (definitionTable η σ).Stands new ops surfaceId d ∧ d.handler a action = .ok h := by
  simp only [authorizedHandler, Except.bind_eq_ok, Except.raiseIf_eq_ok,
    Option.isNone_iff_eq_none, ← Option.isSome_iff_ne_none, ← ne_eq, findGrant_run_iff]
  refine exists_congr fun a => ?_
  constructor
  · rintro ⟨ha, _, hheld, hd⟩
    obtain ⟨d, hdef⟩ := registered_of_held hheld
    rw [definedHandler_of_get? hdef] at hd
    exact ⟨d, ha, hheld, get?_definitions_run.mp hdef, hd⟩
  · rintro ⟨d, ha, hheld, hdef, hd⟩
    refine ⟨ha, (), hheld, ?_⟩
    rw [definedHandler_of_get? (get?_definitions_run.mpr hdef)]
    exact hd

/-- Whom an access is refused, and why: the access names none of the three, no grant stands, or the
surface has no such handler.  A surface that is not registered is refused like one that is not
granted.
Source: `surfaces/registry.py`, `SurfaceRegistry._authorized_handler`.  Kind: P -/
theorem authorizedHandler_run_eq_error_iff {e : PyError} :
    (run ops).authorizedHandler peerId surfaceId access action sources now = .error e ↔
      SurfaceAccess.new access = .error e ∨ ∃ a, SurfaceAccess.new access = .ok a ∧
        ((¬Held ops peerId surfaceId a sources now ∧
            e = ⟨.permission, "surface access is not authorized"⟩) ∨
          (Held ops peerId surfaceId a sources now ∧ ∃ d,
            (definitionTable η σ).Stands new ops surfaceId d ∧ d.handler a action = .error e)) := by
  unfold authorizedHandler
  rw [Except.bind_eq_error]
  refine or_congr_right (exists_congr fun a => and_congr_right fun _ => ?_)
  by_cases hheld : Held ops peerId surfaceId a sources now
  · have hfound := findGrant_run_iff.mpr hheld
    obtain ⟨d, hd⟩ := registered_of_held hheld
    rw [raiseIf, if_neg (by simp [Option.isSome_iff_ne_none.mp hfound]),
      or_iff_right (fun h => h.1 hheld)]
    change (run ops).definedHandler surfaceId a action = .error e ↔ _
    rw [definedHandler_of_get? hd]
    constructor
    · intro h
      exact ⟨hheld, d, get?_definitions_run.mp hd, h⟩
    · rintro ⟨_, d', hd', h⟩
      cases hd.symm.trans (get?_definitions_run.mpr hd')
      exact h
  · have hnone : ((run ops).findGrant peerId surfaceId a sources now).isNone = true := by
      rw [← Bool.not_eq_false, Option.isNone_eq_false_iff, findGrant_run_iff]
      exact hheld
    rw [raiseIf, if_pos hnone, or_iff_left (fun h => hheld h.1), and_iff_right hheld]
    change Except.error _ = Except.error e ↔ _
    rw [Except.error.injEq, eq_comm]

/-! ## Revocation -/

/-- The call makes a grant to a node, as a peer or as a cluster source. -/
def GrantsTo (node : NodeId) (o : SurfaceOp η σ) : Prop :=
  (∃ surfaceId access expiresAt, o = .grantPeer node surfaceId access expiresAt) ∨
    ∃ surfaceId access expiresAt, o = .grantCluster (some (.node node)) surfaceId access expiresAt

/-- A node that was revoked holds nothing until the next grant to it.  Kind: L -/
theorem not_held_of_revoked {pre post : List (SurfaceOp η σ)} {node : NodeId}
    (hpost : ∀ o ∈ post, ¬GrantsTo node o) (hsources : ∀ source ∈ sources, source = .node node) :
    ¬Held (pre ++ .revokeSource (.node node) :: post) node surfaceId a sources now := by
  rintro (⟨g, hstands, _⟩ | ⟨source, hmem, g, hstands, _⟩)
  · have hget := get?_peerGrants_run.mpr hstands
    have hnone : (peerTable η σ).look ((peerTable η σ).run new
        (pre ++ .revokeSource (.node node) :: post)) (node, surfaceId, a) = none := by
      apply Tabled.look_run_eq_none_of_dropped
      · exact rfl
      · rintro s' o' ho' u ⟨access, expiresAt, rfl, _⟩
        exact hpost _ ho' (.inl ⟨_, _, _, rfl⟩)
    cases hnone.symm.trans hget
  · cases hsources source hmem
    have hget := get?_clusterGrants_run.mpr hstands
    have hnone : (clusterTable η σ).look ((clusterTable η σ).run new
        (pre ++ .revokeSource (.node node) :: post)) (.node node, surfaceId, a) = none := by
      apply Tabled.look_run_eq_none_of_dropped
      · exact rfl
      · rintro s' o' ho' u ⟨access, expiresAt, rfl, _⟩
        exact hpost _ ho' (.inr ⟨_, _, _, rfl⟩)
    cases hnone.symm.trans hget

/-- **A revocation is final.**  Once a node's grants are revoked, whatever was granted before and
whatever else happens since, it reaches no handler, on its own or through the cluster, until a new
grant is made to it.
Source: `surfaces/registry.py`, `SurfaceRegistry.revoke_source`; `runtime/core.py`, `revoke_peer`.
Kind: P -/
theorem refused_after_revokeSource (pre post : List (SurfaceOp η σ)) {node : NodeId}
    (hpost : ∀ o ∈ post, ¬GrantsTo node o) (hsources : ∀ source ∈ sources, source = .node node)
    (surfaceId access : String) (action : Value) (now : ℚ) :
    ∃ e : PyError, (run (pre ++ .revokeSource (.node node) :: post)).authorizedHandler node
        surfaceId access action sources now = .error e ∧
      (e = ⟨.permission, "surface access is not authorized"⟩ ∨
        SurfaceAccess.new access = .error e) := by
  cases haccess : SurfaceAccess.new access with
  | error e => exact ⟨e, authorizedHandler_run_eq_error_iff.mpr (.inl haccess), .inr rfl⟩
  | ok a =>
      have hnot : ¬Held (pre ++ .revokeSource (.node node) :: post) node surfaceId a sources now :=
        not_held_of_revoked hpost hsources
      exact ⟨⟨.permission, "surface access is not authorized"⟩,
        authorizedHandler_run_eq_error_iff.mpr (.inr ⟨a, haccess, .inl ⟨hnot, rfl⟩⟩), .inl rfl⟩

end runs

/-- A peer that was granted a surface and revoked, while the surface is granted to others. -/
theorem refused_after_revokeSource_node :
    ∃ e : PyError, (run ([.register "s" (some 0) none [], .grantPeer (.named "peer") "s"
        "read" .null] ++ .revokeSource (.node (.named "peer")) ::
          [.grantPeer (.named "worker") "s" "read" .null] :
            List (SurfaceOp ℕ String))).authorizedHandler (.named "peer") "s" "read"
        .null [.node (.named "peer")] 0 = .error e ∧
      (e = ⟨.permission, "surface access is not authorized"⟩ ∨
        SurfaceAccess.new "read" = .error e) := by
  refine refused_after_revokeSource _ _ ?_ (by simp) "s" "read" .null 0
  intro o ho
  rw [List.mem_singleton.mp ho]
  rintro (⟨_, _, _, heq⟩ | ⟨_, _, _, heq⟩)
  · injection heq with hnode
    exact absurd hnode (by decide)
  · cases heq

end SurfaceRegistry

end ExpraConnect
