import ExpraConnect.Cluster.RoleFacts

/-!
# Joining needs the invite's preimage, except for a restored invite

* `Cluster.Reachable H`: the cluster states that `create_invite`, `consume_invite`, `assign`,
  `revoke` and restarts lead to from a fresh cluster, also through calls that raise.
* `Filed H k i`: how an active invite is filed, under its raw token while the process that made
  it lives and under its digest once it was restored; an invariant of every reachable state
  (`Reachable.filed`).
* `admits_iff`: `consume_invite` admits a node on an active invite exactly when the invite its
  two lookups find is redeemable.
* `preimage_iff_not_digest_redeems`: a reachable cluster asks for the preimage of the digest it
  stores exactly as long as nobody presents the digest of a restored, redeemable invite itself.
-/

namespace ExpraConnect

open ExpraConnect.Lib

namespace Cluster

variable {H : InviteHash}

/-- The states of a cluster's life.  A token is `secrets.token_urlsafe(32)`, 43 characters long,
so it never has the form of a digest.
Source: `cluster/operations.py`, `Cluster`.  Kind: D -/
inductive Reachable (H : InviteHash) : Cluster → Prop
  | create {localId : NodeId} {clusterId fencingToken : String} {now : ℚ} {c : Cluster}
      (h : Cluster.create localId clusterId fencingToken now = .ok c) : Reachable H c
  | createInvite {c : Cluster} (target : NodeId) (token : String) (now : ℚ)
      (hc : Reachable H c) (htoken : H.isDigest token = false) :
      Reachable H ((Cluster.createInvite H target token now).after c)
  | consumeInvite {c : Cluster} (token : String) (target : NodeId) (now : ℚ)
      (allowRetry : Bool) (hc : Reachable H c) :
      Reachable H ((Cluster.consumeInvite H token target now allowRetry).after c)
  | assign {c : Cluster} (node : NodeId) (role : ClusterRole) (now : ℚ) (hc : Reachable H c) :
      Reachable H ((Cluster.assign node role now).after c)
  | revoke {c : Cluster} (node : NodeId) (hc : Reachable H c) :
      Reachable H ((Cluster.revoke node).after c)
  | restart {c c' : Cluster} (hc : Reachable H c) (h : c.restart H = .ok c') : Reachable H c'

/-! ## How invites are filed -/

/-- An invite is filed under the raw token it was made with, or under its digest. -/
def Filed (H : InviteHash) (key : String) (invite : InviteRecord) : Prop :=
  (H.isDigest key = false ∧ invite.tokenHash = H.hash key) ∨
    (H.isDigest key = true ∧ invite.tokenHash = key)

/-- What every reachable cluster satisfies. -/
structure Sound (H : InviteHash) (c : Cluster) : Prop where
  /-- The cluster's data passes the checks of `RoleState`. -/
  valid : RoleState.Valid c.assignments.values c.capabilityGrants
  /-- Every active invite is filed under its token or its digest. -/
  filed : ∀ key invite, c.invites.get? key = some invite → Filed H key invite

/-- A filed invite has a digest.  Kind: L -/
theorem Filed.isDigest_tokenHash {key : String} {invite : InviteRecord} (h : Filed H key invite) :
    H.isDigest invite.tokenHash = true := by
  rcases h with ⟨-, h⟩ | ⟨hd, h⟩
  · rw [h]
    exact H.isDigest_hash key
  · rw [h]
    exact hd

/-- Applying a role state keeps the tables sound.  Kind: L -/
theorem sound_applyRoleState {c : Cluster} (hc : Sound H c) (s : RoleState) :
    Sound H (c.applyRoleState s) where
  valid := by
    change RoleState.Valid (Assignments.ofList s.assignments).values s.capabilityGrants
    rw [Assignments.values_ofList s.valid.ids]
    exact s.valid.filter_isSome
  filed := hc.filed

/-- `create` keeps the tables sound.  Kind: L -/
theorem sound_create {localId : NodeId} {clusterId fencingToken : String} {now : ℚ} {c : Cluster}
    (h : Cluster.create localId clusterId fencingToken now = .ok c) : Sound H c := by
  simp only [Cluster.create, Except.bind_eq_ok, Except.pure_eq_ok] at h
  obtain ⟨epoch, -, rfl⟩ := h
  refine ⟨?_, ?_⟩
  · have hvalid : RoleState.Valid [RoleAssignment.coordinator localId] [] :=
      ⟨by simp [RoleAssignment.coordinator], List.length_filter_le _ _, List.length_filter_le _ _,
        by simp⟩
    change RoleState.Valid (Assignments.ofList [RoleAssignment.coordinator localId]).values []
    rw [Assignments.values_ofList hvalid.ids]
    exact hvalid.filter_isSome
  · intro key invite hget
    simp at hget

/-- `createInvite` keeps the tables sound.  Kind: L -/
theorem sound_createInvite {c : Cluster} (hc : Sound H c) (target : NodeId) {token : String}
    (htoken : H.isDigest token = false) (now : ℚ) :
    Sound H ((Cluster.createInvite H target token now).after c) := by
  unfold Cluster.createInvite
  rw [PyM.after_get_bind]
  refine PyM.after_raiseIf_bind hc fun _ => PyM.after_ofExcept_bind hc fun invite hinvite => ?_
  simp only [PyM.after_set_bind, PyM.after_pure]
  refine ⟨hc.valid, ?_⟩
  obtain ⟨htok, hhash⟩ : invite.token = token ∧ invite.tokenHash = H.hash token := by
    unfold InviteRecord.new at hinvite
    split at hinvite
    · cases hinvite
      exact ⟨rfl, rfl⟩
    · cases hinvite
  intro key i hget
  rw [Dict.get?_insert, htok] at hget
  split at hget
  · rename_i hkey
    cases hget
    subst hkey
    exact .inl ⟨htoken, hhash⟩
  · exact hc.filed key i hget

/-- `assign` keeps the tables sound.  Kind: L -/
theorem sound_assign {c : Cluster} (hc : Sound H c) (node : NodeId) (role : ClusterRole) (now : ℚ) :
    Sound H ((Cluster.assign node role now).after c) := by
  unfold Cluster.assign
  rw [PyM.after_get_bind]
  refine PyM.after_raiseIf_bind hc fun _ => PyM.after_ofExcept_bind hc fun state _ =>
    PyM.after_ofExcept_bind hc fun updated _ => ?_
  have happlied := sound_applyRoleState hc updated.1
  exact ⟨happlied.valid, happlied.filed⟩

/-- `spend` keeps the tables sound.  Kind: L -/
theorem sound_spend {c : Cluster} (hc : Sound H c) (token digest : String) :
    Sound H { c with
      invites := (c.invites.erase token).erase digest
      usedInvites := insert digest c.usedInvites } where
  valid := hc.valid
  filed := by
    intro key invite hget
    simp only [Dict.get?_erase] at hget
    split at hget
    · cases hget
    · split at hget
      · cases hget
      · exact hc.filed key invite hget

/-- `consumeInvite` keeps the tables sound.  Kind: L -/
theorem sound_consumeInvite {c : Cluster} (hc : Sound H c) (token : String) (target : NodeId)
    (now : ℚ) (allowRetry : Bool) :
    Sound H ((Cluster.consumeInvite H token target now allowRetry).after c) := by
  unfold Cluster.consumeInvite
  rw [PyM.after_get_bind]
  refine PyM.after_raiseIf_bind hc fun _ => ?_
  dsimp only
  split
  · refine PyM.after_raiseIf_bind hc fun _ => PyM.after_ofExcept_bind hc fun admitted _ => ?_
    exact PyM.after_raiseIf_bind hc fun _ => hc
  · split
    · exact hc
    · refine PyM.after_raiseIf_bind hc fun _ => PyM.after_ofExcept_bind hc fun invited _ => ?_
      refine PyM.after_raiseIf_bind hc fun _ => ?_
      rw [PyM.after_modify_bind]
      -- spent first; the role change that follows may raise and leave it so
      have hassign := sound_assign (sound_spend hc token (H.hash token)) target .worker now
      refine PyM.after_bind (fun e s' he => ?_) (fun a s' ha => ?_)
      · rw [PyM.after, he] at hassign
        exact hassign
      · rw [PyM.after, ha] at hassign
        exact ⟨hassign.valid, hassign.filed⟩

/-- `revoke` keeps the tables sound.  Kind: L -/
theorem sound_revoke {c : Cluster} (hc : Sound H c) (node : NodeId) :
    Sound H ((Cluster.revoke node).after c) := by
  unfold Cluster.revoke
  rw [PyM.after_get_bind]
  refine PyM.after_raiseIf_bind hc fun _ => ?_
  split
  · exact hc
  · split
    · exact hc
    · exact PyM.after_ofExcept_bind hc fun state _ => PyM.after_ofExcept_bind hc fun updated _ =>
        sound_applyRoleState hc updated

/-- Two records of one invite: the token aside, they say the same. -/
structure SameInvite (i j : InviteRecord) : Prop where
  /-- They have one digest, -/
  tokenHash : j.tokenHash = i.tokenHash
  /-- invite one node, -/
  targetNodeId : j.targetNodeId = i.targetNodeId
  /-- end at one time, -/
  expiresAt : j.expiresAt = i.expiresAt
  /-- and are for one cluster -/
  clusterId : j.clusterId = i.clusterId
  /-- and term. -/
  epoch : j.epoch = i.epoch

theorem SameInvite.trans {i j k : InviteRecord} (h : SameInvite i j) (h' : SameInvite j k) :
    SameInvite i k :=
  ⟨h'.tokenHash.trans h.tokenHash, h'.targetNodeId.trans h.targetNodeId,
    h'.expiresAt.trans h.expiresAt, h'.clusterId.trans h.clusterId, h'.epoch.trans h.epoch⟩

/-- A persisted invite is read as the same invite.  Kind: L -/
theorem sameInvite_of_fromDict {i j : InviteRecord} (h : inviteFromDict (inviteToDict i) = .ok j) :
    SameInvite i j := by
  unfold inviteFromDict InviteRecord.new at h
  split at h
  · cases h
  · cases h
    exact ⟨rfl, rfl, rfl, rfl, rfl⟩

/-- After a restart the members and grants are a role state, and every invite is filed under its
digest and is one there was.  Kind: L -/
theorem restart_eq_ok {c c' : Cluster} (h : c.restart H = .ok c') :
    RoleState.Valid c'.assignments.values c'.capabilityGrants ∧
      ∀ key invite, c'.invites.get? key = some invite →
        key = invite.tokenHash ∧
          ∃ key₀ old, c.invites.get? key₀ = some old ∧ SameInvite old invite := by
  simp only [Cluster.restart, Except.bind_eq_ok] at h
  obtain ⟨document, hdoc, state, hstate, h⟩ := h
  simp only [Cluster.toDict, Except.bind_eq_ok, Except.pure_eq_ok] at hdoc
  obtain ⟨roles, -, rfl⟩ := hdoc
  simp only [ClusterState.fromDict, Except.bind_eq_ok, Except.pure_eq_ok] at hstate
  obtain ⟨_, _, _, _, _, _, roles', _, _, _, invites, hinvites, _, _, _, _, rfl⟩ := hstate
  simp only [Cluster.fromState, Except.bind_eq_ok] at h
  obtain ⟨_, _, h⟩ := h
  split at h
  · simp at h
  · rw [Except.pure_eq_ok] at h
    subst h
    refine ⟨?_, ?_⟩
    · change RoleState.Valid (Assignments.ofList roles'.assignments).values roles'.capabilityGrants
      rw [Assignments.values_ofList roles'.valid.ids]
      exact roles'.valid.filter_isSome
    · intro key invite hget
      obtain ⟨i, hi, heq⟩ := List.mem_map.mp (Dict.mem_of_get?_ofList hget)
      cases heq
      obtain ⟨doc, hdoc, hparse⟩ := Except.mem_of_mapM_eq_ok hinvites _ hi
      obtain ⟨old, hold, rfl⟩ := List.mem_map.mp hdoc
      obtain ⟨⟨k, _⟩, hmem, rfl⟩ := List.mem_map.mp hold
      exact ⟨rfl, k, _, (Dict.get?_eq_some_iff _).mpr hmem, sameInvite_of_fromDict hparse⟩

/-- A restart files every invite under its digest.  Kind: L -/
theorem sound_restart {c c' : Cluster} (hc : Sound H c) (h : c.restart H = .ok c') :
    Sound H c' := by
  obtain ⟨hvalid, hinvites⟩ := restart_eq_ok h
  refine ⟨hvalid, fun key invite hget => ?_⟩
  obtain ⟨hkey, key₀, old, hold, hsame⟩ := hinvites key invite hget
  have hdigest := (hc.filed key₀ old hold).isDigest_tokenHash
  rw [← hsame.tokenHash, ← hkey] at hdigest
  exact .inr ⟨hdigest, hkey.symm⟩

/-- Every reachable cluster is sound.  Kind: L -/
theorem Reachable.sound {c : Cluster} (h : Reachable H c) : Sound H c := by
  induction h with
  | create h => exact sound_create h
  | createInvite target token now hc htoken ih => exact sound_createInvite ih target htoken now
  | consumeInvite token target now allowRetry hc ih =>
      exact sound_consumeInvite ih token target now allowRetry
  | assign node role now hc ih => exact sound_assign ih node role now
  | revoke node hc ih => exact sound_revoke ih node
  | restart hc h ih => exact sound_restart ih h

/-! ## When an invite admits its target -/

/-- `consume_invite(token, target, now=now)` admits the target on the still-active `invite`: it
returns without taking the retry path.
Source: `cluster/operations.py`, `Cluster.consume_invite`.  Kind: D -/
def Admits (H : InviteHash) (c : Cluster) (token : String) (target : NodeId) (now : ℚ)
    (invite : InviteRecord) : Prop :=
  c.joinAdmissions.get? (H.hash token) = none ∧ ∃ allowRetry c',
    Cluster.consumeInvite H token target now allowRetry c = .ok invite c'

/-- What has to hold for `invite` to be redeemed with `token`, whichever key it is filed under. -/
structure Redeemable (H : InviteHash) (c : Cluster) (token : String) (target : NodeId) (now : ℚ)
    (invite : InviteRecord) : Prop where
  /-- The local node leads the cluster. -/
  leads : c.isActiveCoordinator = true
  /-- The token was not redeemed before. -/
  fresh : c.joinAdmissions.get? (H.hash token) = none ∧ H.hash token ∉ c.usedInvites
  /-- The invite has not expired. -/
  live : now < invite.expiresAt
  /-- It invites this node into this cluster and term. -/
  fits : invite.targetNodeId = target.value ∧ invite.clusterId = c.clusterId ∧
    invite.epoch = c.epoch.epoch
  /-- The node is not the coordinator itself. -/
  other : target ≠ c.localId
  /-- The node is not a revoked member. -/
  clear : ∀ a, c.assignments.get? target = some a → a.revoked = false

/-- The local node's own entry, when it leads.  Kind: L -/
theorem control_of_leads {c : Cluster} (hlead : c.isActiveCoordinator = true) {s : RoleState}
    (hs : c.roleState = .ok s) : s.control c.localAssignment = .ok c.localId := by
  obtain ⟨-, has, hep, -, -⟩ := RoleState.new_eq_ok_iff.mp hs
  simp only [isActiveCoordinator, Bool.and_eq_true, decide_eq_true_eq, Option.any_eq_true,
    Bool.not_eq_true'] at hlead
  obtain ⟨⟨a, ha, ⟨hp, hr⟩, hcoord⟩, hid⟩ := hlead
  have hfor : s.assignmentFor c.localId = some a := by
    rw [RoleState.assignmentFor, has, Assignments.find?_values]
    exact ha
  rw [RoleState.control_eq_ok_iff]
  refine ⟨?_, a, hfor, hr, hp, hcoord, ?_⟩
  · rw [localAssignment, ha]
    exact RoleState.nodeId_of_assignmentFor hfor
  · intro e he
    rw [hep] at he
    cases he
    exact hid

/-- Assigning the Worker role succeeds exactly for another, non-revoked node.  Kind: L -/
theorem assign_worker_iff {c : Cluster}
    (hv : RoleState.Valid c.assignments.values c.capabilityGrants)
    (hlead : c.isActiveCoordinator = true) (node : NodeId) (now : ℚ) :
    (∃ c', Cluster.assign node .worker now c = .ok () c') ↔
      node ≠ c.localId ∧ ∀ a, c.assignments.get? node = some a → a.revoked = false := by
  obtain ⟨s, hs⟩ : ∃ s, c.roleState = .ok s :=
    ⟨⟨_, _, _, _, hv⟩, RoleState.new_eq_ok_iff.mpr ⟨hv, rfl, rfl, rfl, rfl⟩⟩
  have hctl := control_of_leads hlead hs
  have hfor : s.assignmentFor node = c.assignments.get? node := by
    obtain ⟨-, has, -⟩ := RoleState.new_eq_ok_iff.mp hs
    rw [RoleState.assignmentFor, has, Assignments.find?_values]
  simp only [Cluster.assign, PyM.get_bind_eq_ok, PyM.raiseIf_bind_eq_ok, PyM.ofExcept_bind_eq_ok,
    PyM.set_eq_ok]
  constructor
  · rintro ⟨c', -, s', hs', updated, hup, -⟩
    rw [hs] at hs'
    cases hs'
    obtain ⟨actorId, hctl', hne, hrev, -⟩ := RoleState.assign_eq_ok hup
    rw [hctl] at hctl'
    cases hctl'
    refine ⟨hne, ?_⟩
    rw [hfor] at hrev
    exact hrev
  · rintro ⟨hne, hrev⟩
    rw [← hfor] at hrev
    obtain ⟨updated, hup⟩ := RoleState.assign_worker_isOk hctl hne hrev now
    exact ⟨_, by simp [hlead], s, hs, updated, hup, rfl⟩

/-- The invite that the two lookups of `consume_invite` find. -/
def lookupInvite (H : InviteHash) (c : Cluster) (token : String) : Option InviteRecord :=
  (c.invites.get? token).or (c.invites.get? (H.hash token))

/-- `consume_invite` admits exactly on a redeemable invite that its lookups find.  Kind: L -/
theorem admits_iff {c : Cluster} (hc : Sound H c) {token : String} {target : NodeId} {now : ℚ}
    {invite : InviteRecord} :
    Admits H c token target now invite ↔
      c.lookupInvite H token = some invite ∧ Redeemable H c token target now invite := by
  have hspent := sound_spend hc token (H.hash token)
  constructor
  · rintro ⟨hadm, allowRetry, c', h⟩
    simp only [Cluster.consumeInvite, PyM.get_bind_eq_ok, PyM.raiseIf_bind_eq_ok] at h
    obtain ⟨hlead, h⟩ := h
    rw [hadm] at h
    cases hfound : (c.invites.get? token).or (c.invites.get? (H.hash token)) with
    | none =>
        rw [hfound] at h
        simp at h
    | some found =>
        rw [hfound] at h
        simp only [PyM.raiseIf_bind_eq_ok, PyM.ofExcept_bind_eq_ok, PyM.modify_bind_eq_ok, not_or,
          not_le, not_not] at h
        obtain ⟨⟨hused, hlive⟩, invited, hinv, ⟨rfl, hcl, hep⟩, h⟩ := h
        obtain ⟨_, c₁, hassign, h⟩ := PyM.bind_eq_ok.mp h
        simp only [PyM.modify_bind_eq_ok, PyM.pure_eq_ok] at h
        obtain ⟨rfl, -⟩ := h
        have hlead' : c.isActiveCoordinator = true := by simpa using hlead
        obtain ⟨hother, hclear⟩ :=
          (assign_worker_iff hspent.valid hlead' invited now).mp ⟨c₁, hassign⟩
        have htarget : found.targetNodeId = invited.value := NodeId.value_of_new hinv
        exact ⟨hfound, hlead', ⟨hadm, hused⟩, hlive, ⟨htarget, hcl, hep⟩, hother, hclear⟩
  · rintro ⟨hfound, hlead, ⟨hadm, hused⟩, hlive, ⟨htarget, hcl, hep⟩, hother, hclear⟩
    obtain ⟨c₁, hassign⟩ :=
      (assign_worker_iff hspent.valid hlead target now).mpr ⟨hother, hclear⟩
    refine ⟨hadm, false, { c₁ with
      joinAdmissions := c₁.joinAdmissions.insert (H.hash token) { invite with token := "" } }, ?_⟩
    rw [lookupInvite] at hfound
    simp only [Cluster.consumeInvite, PyM.get_bind_eq_ok, PyM.raiseIf_bind_eq_ok]
    refine ⟨by simp [hlead], ?_⟩
    rw [hadm, hfound]
    simp only [PyM.raiseIf_bind_eq_ok, PyM.ofExcept_bind_eq_ok, PyM.modify_bind_eq_ok, not_or,
      not_le, not_not]
    refine ⟨⟨hused, hlive⟩, target, by rw [htarget, NodeId.new_value], ⟨rfl, hcl, hep⟩, ?_⟩
    exact PyM.bind_eq_ok.mpr ⟨(), c₁, hassign, rfl⟩

/-! ## The preimage requirement -/

/-- Somebody presents as a token the very digest under which a restored invite is filed, and that
invite is still redeemable. -/
def DigestRedeems (H : InviteHash) (c : Cluster) (token : String) (target : NodeId) (now : ℚ) :
    Prop :=
  ∃ invite, c.invites.get? token = some invite ∧ invite.tokenHash = token ∧
    H.hash token ≠ token ∧ Redeemable H c token target now invite

/-- What the two lookups find has the right digest, or is filed under the presented text.
Kind: L -/
theorem lookupInvite_cases {c : Cluster} (hc : Sound H c) {token : String}
    {invite : InviteRecord} (h : c.lookupInvite H token = some invite) :
    invite.tokenHash = H.hash token ∨
      c.invites.get? token = some invite ∧ invite.tokenHash = token := by
  rw [lookupInvite, Option.or_eq_some_iff] at h
  rcases h with h | ⟨-, h⟩
  · rcases hc.filed token invite h with ⟨-, hhash⟩ | ⟨-, hkey⟩
    · exact .inl hhash
    · exact .inr ⟨h, hkey⟩
  · -- a raw token never looks like the digest of another one
    rcases hc.filed _ invite h with ⟨hd, -⟩ | ⟨-, hkey⟩
    · rw [H.isDigest_hash] at hd
      cases hd
    · exact .inl hkey

/-- **The preimage requirement, exactly.**  In every reachable cluster, a token admits a node only
on an invite whose stored digest is the digest of that token, unless the token is the stored digest
of a restored invite.
Source: `cluster/operations.py`, `Cluster.consume_invite`, `Cluster._restore_invites`.  Kind: P -/
theorem preimage_iff_not_digest_redeems {c : Cluster} (hc : Reachable H c) (token : String)
    (target : NodeId) (now : ℚ) :
    (∀ invite, Admits H c token target now invite → H.hash token = invite.tokenHash) ↔
      ¬DigestRedeems H c token target now := by
  constructor
  · rintro h ⟨invite, hget, hkey, hne, hred⟩
    have hadmits : Admits H c token target now invite :=
      (admits_iff hc.sound).mpr ⟨by simp [lookupInvite, hget], hred⟩
    exact hne ((h invite hadmits).trans hkey)
  · intro h invite hadmits
    obtain ⟨hfound, hred⟩ := (admits_iff hc.sound).mp hadmits
    rcases lookupInvite_cases hc.sound hfound with hhash | ⟨hget, hkey⟩
    · exact hhash.symm
    · by_contra hne
      exact h ⟨invite, hget, hkey, by rwa [hkey] at hne, hred⟩

/-! ## A restored invite and its digest -/

/-- A small injective stand-in for SHA-256: a digest starts with a marker no token has. -/
def markHash : InviteHash where
  hash token := String.ofList ('#' :: token.toList)
  isDigest text := decide (text.toList.head? = some '#')
  hash_injective := by
    intro a b h
    simpa using h
  isDigest_hash := by
    intro token
    simp
  isDigest_empty := by decide

/-- The node that was invited. -/
def invitedWorker : NodeId := ⟨"worker", by decide⟩

/-- A coordinator that invited `worker` and then restarted. -/
def restored : Except PyError Cluster := do
  let c ← Cluster.create ⟨"coord", by decide⟩ "cluster" "fence" 10
  let c := (Cluster.createInvite markHash invitedWorker "token" 10).after c
  c.restart markHash

/-- The restored cluster of the sample is reachable.  Kind: L -/
theorem reachable_of_restored {c : Cluster} (h : restored = .ok c) : Reachable markHash c := by
  simp only [restored, Except.bind_eq_ok] at h
  obtain ⟨c₀, hc₀, h⟩ := h
  exact .restart (.createInvite _ _ _ (.create hc₀) (by decide)) h

/-- Present `text` to the restored coordinator: the digest of the invite it redeems, if any. -/
def presentRestored (text : String) : Option String :=
  match restored with
  | .error _ => none
  | .ok c =>
      if (c.joinAdmissions.get? (markHash.hash text)).isSome then none
      else
        match Cluster.consumeInvite markHash text invitedWorker 11 false c with
        | .ok invite _ => some invite.tokenHash
        | .error _ _ => none

/-- A presentation that the sample admits.  Kind: L -/
theorem admits_of_presentRestored {text digest : String}
    (h : presentRestored text = some digest) :
    ∃ c invite, restored = .ok c ∧ Admits markHash c text invitedWorker 11 invite ∧
      invite.tokenHash = digest := by
  unfold presentRestored at h
  split at h
  · cases h
  · rename_i c hc
    split at h
    · cases h
    · rename_i hadm
      split at h
      · rename_i invite c' hok
        cases h
        exact ⟨c, invite, hc, ⟨by simpa using hadm, false, c', hok⟩, rfl⟩
      · cases h

/-- The raw token redeems the restored invite, as intended. -/
theorem preimage_restored_token :
    ∃ c, restored = .ok c ∧
      ((∀ invite, Admits markHash c "token" invitedWorker 11 invite →
        markHash.hash "token" = invite.tokenHash) ↔
          ¬DigestRedeems markHash c "token" invitedWorker 11) := by
  obtain ⟨c, invite, hc, -, -⟩ :=
    admits_of_presentRestored
      (show presentRestored "token" = some "#token" by decide +kernel)
  exact ⟨c, hc, preimage_iff_not_digest_redeems (reachable_of_restored hc) _ _ _⟩

/-- The digest that the coordinator's file stores is enough to join. -/
theorem restored_digest_admits :
    ¬∀ c, Reachable markHash c → ∀ token target now invite,
      Admits markHash c token target now invite → markHash.hash token = invite.tokenHash := by
  intro h
  obtain ⟨c, invite, hc, hadmits, hhash⟩ :=
    admits_of_presentRestored
      (show presentRestored "#token" = some "#token" by decide +kernel)
  have heq := h c (reachable_of_restored hc) _ _ _ invite hadmits
  rw [hhash] at heq
  revert heq
  decide

end Cluster

end ExpraConnect
