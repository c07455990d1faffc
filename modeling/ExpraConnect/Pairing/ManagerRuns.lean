import ExpraConnect.Pairing.ManagerFacts

/-!
# Runs of the pairing manager

Sequences of the public operations of `PairingManager`, each at a reading of the clock; an
operation that raises leaves the manager as it is.

* `PairingOp`, `PairingOp.apply`: the operations;
* `PairingHistory`: the manager with the approvals that were given; `Recorded`: a grant is the
  newest approval of its peer, in every run;
* `confirm_own_approval`: a run that confirms only what was approved last for the peer trusts what
  was approved for the transaction; `foreign_grant_confirmed`: `confirm` takes whatever grant the
  peer holds;
* `PairingTimeline`: the manager with its clock and all its states, which a snapshot restores;
  `SingleAt`: at most one transaction of a peer is active in each direction;
* `single_iff_unopposed`: this holds throughout a run if and only if `receive_request` never meets
  a competitor, since `begin` alone looks for one; `second_request_received`: it can meet one.
-/

namespace ExpraConnect

open ExpraConnect.Lib

/-! ## Operations -/

/-- A public operation of the manager; `now` is the argument that some of them take in place of the
clock.  Source: `pairing/manager.py`, `PairingManager`.  Kind: D -/
inductive PairingOp where
  /-- `begin`, with the transaction id and the secret that it would draw. -/
  | begin (txid drawn : String) (peer : NodeId) (secret : Option String) (material : Material)
      (direction : Direction) (intent : Intent)
  /-- `receive_request` -/
  | receiveRequest (caller : NodeId) (transaction : PendingPairing)
  /-- `approve` -/
  | approve (transactionId : String) (permissions : Finset PermissionItem)
  /-- `confirm` -/
  | confirm (transactionId : String) (now : Option ℚ)
  /-- `accept_grant` -/
  | acceptGrant (transactionId : String) (peerId : NodeId) (grant : PairingManager.PeerGrant)
      (peer : Material) (now : Option ℚ)
  /-- `abort` -/
  | abort (transactionId : String)
  /-- `revoke` -/
  | revoke (peer : NodeId)
  /-- `revoke_trusted` -/
  | revokeTrusted (peer : NodeId)
  /-- `revoke_grant` -/
  | revokeGrant (peer : NodeId)
  /-- `prune_expired` -/
  | pruneExpired (now : Option ℚ)

namespace PairingManager

/-- The manager after an operation that may have raised. -/
def kept {α : Type} (m : PairingManager) : Except PyError (α × PairingManager) → PairingManager
  | .ok (_, m') => m'
  | .error _ => m

/-- An operation that returns leaves its manager.  Kind: L -/
@[simp] theorem kept_ok {α : Type} (m m' : PairingManager) (a : α) :
    m.kept (.ok (a, m')) = m' := rfl

/-- An operation that raises leaves the manager.  Kind: L -/
@[simp] theorem kept_error {α : Type} (m : PairingManager) (e : PyError) :
    m.kept (.error e : Except PyError (α × PairingManager)) = m := rfl

end PairingManager

/-- The manager after an operation at a reading of the clock. -/
def PairingOp.apply (clock : ℚ) (m : PairingManager) : PairingOp → PairingManager
  | .begin txid drawn peer secret material direction intent =>
      m.kept (m.begin clock txid drawn peer secret material direction intent)
  | .receiveRequest caller transaction => m.kept (m.receiveRequest clock caller transaction)
  | .approve txid permissions => m.kept (m.approve clock txid permissions)
  | .confirm txid now => m.kept (m.confirm (now.getD clock) txid)
  | .acceptGrant txid peerId grant peer now =>
      m.kept (m.acceptGrant (now.getD clock) txid peerId grant peer)
  | .abort txid => m.abort txid
  | .revoke peer => m.revoke peer
  | .revokeTrusted peer => m.revokeTrusted peer
  | .revokeGrant peer => m.revokeGrant peer
  | .pruneExpired now => m.pruneExpired (now.getD clock)

/-! ## What a confirmation trusts -/

/-- The manager, and what was approved. -/
structure PairingHistory where
  /-- The manager. -/
  manager : PairingManager
  /-- The transactions that were approved with the grants made of them, newest first. -/
  approvals : List (String × PairingManager.PeerGrant)

namespace PairingHistory

/-- `PairingManager(local_id, ttl=ttl)`. -/
def start (localId : NodeId) (ttl : ℚ) : PairingHistory :=
  ⟨{ PairingManager.new localId with ttl := ttl }, []⟩

/-- The approvals after an operation. -/
def approvalsAfter (h : PairingHistory) (clock : ℚ) :
    PairingOp → List (String × PairingManager.PeerGrant)
  | .approve txid permissions =>
      match h.manager.approve clock txid permissions with
      | .ok (grant, _) => (txid, grant) :: h.approvals
      | .error _ => h.approvals
  | _ => h.approvals

/-- One operation at a reading of the clock. -/
def step (h : PairingHistory) (e : ℚ × PairingOp) : PairingHistory :=
  ⟨e.2.apply e.1 h.manager, h.approvalsAfter e.1 e.2⟩

/-- The last approval for the peer. -/
def lastApproval (h : PairingHistory) (peer : NodeId) :
    Option (String × PairingManager.PeerGrant) :=
  h.approvals.find? fun a => a.2.callerId = peer

/-- The grant that the last approval of this transaction of the peer made. -/
def approvalOf (h : PairingHistory) (txid : String) (peer : NodeId) :
    Option PairingManager.PeerGrant :=
  (h.approvals.find? fun a => a.1 = txid ∧ a.2.callerId = peer).map Prod.snd

/-- What a confirmation trusts was approved for its transaction.  Kind: D -/
def trustsOwn (h : PairingHistory) (e : ℚ × PairingOp) : Bool :=
  match e.2 with
  | .confirm txid now =>
      match h.manager.confirm (now.getD e.1) txid with
      | .ok (trusted, _) =>
          (h.approvalOf txid trusted.peerId).any fun grant =>
            trusted.permissions = grant.permissions ∧ trusted.toMaterial = grant.toMaterial
      | .error _ => true
  | _ => true

/-- If the peer of a transaction that is confirmed holds a grant, the last approval for the peer was
of this transaction.  Kind: D -/
def confirmsLast (h : PairingHistory) (e : ℚ × PairingOp) : Bool :=
  match e.2 with
  | .confirm txid now =>
      match h.manager.active (now.getD e.1) txid with
      | .ok t =>
          !h.manager.grants.contains t.peerId ||
            (h.lastApproval t.peerId).any fun a => a.1 = txid
      | .error _ => true
  | _ => true

/-- A condition on every step of a run. -/
def throughout (P : PairingHistory → ℚ × PairingOp → Bool) :
    List (ℚ × PairingOp) → PairingHistory → Bool
  | [], _ => true
  | e :: rest, h => P h e && throughout P rest (h.step e)

/-- A grant is the newest approval of its peer. -/
def Recorded (h : PairingHistory) : Prop :=
  ∀ peer grant, h.manager.grants.get? peer = some grant →
    (h.lastApproval peer).map Prod.snd = some grant

variable {h : PairingHistory} {e : ℚ × PairingOp}

/-- A new manager has everything recorded.  Kind: L -/
theorem recorded_start (localId : NodeId) (ttl : ℚ) : (start localId ttl).Recorded := by
  intro peer grant hgrant
  cases hgrant

/-- A step that approves nothing and adds no grant.  Kind: L -/
theorem Recorded.of_sub {h' : PairingHistory} (hr : h.Recorded)
    (hgrants : ∀ peer grant, h'.manager.grants.get? peer = some grant →
      h.manager.grants.get? peer = some grant)
    (happrovals : h'.approvals = h.approvals) : h'.Recorded := by
  intro peer grant hgrant
  unfold lastApproval
  rw [happrovals]
  exact hr peer grant (hgrants peer grant hgrant)

/-- The grants after an operation that is no approval.  Kind: L -/
theorem grants_apply (clock : ℚ) (m : PairingManager) {op : PairingOp}
    (hop : ∀ txid permissions, op ≠ .approve txid permissions) {peer : NodeId}
    {grant : PairingManager.PeerGrant}
    (hgrant : (op.apply clock m).grants.get? peer = some grant) :
    m.grants.get? peer = some grant := by
  have herase : ∀ p, (m.grants.erase p).get? peer = some grant →
      m.grants.get? peer = some grant := by
    intro p hp
    rw [Dict.get?_erase] at hp
    split at hp
    · cases hp
    · exact hp
  cases op with
  | approve txid permissions => exact absurd rfl (hop txid permissions)
  | begin txid drawn peer' secret material direction intent =>
      cases hb : m.begin clock txid drawn peer' secret material direction intent with
      | error err => simpa [PairingOp.apply, hb] using hgrant
      | ok r =>
          obtain ⟨t, m'⟩ := r
          simp only [PairingOp.apply, hb, PairingManager.kept_ok] at hgrant
          rcases PairingManager.begin_cases hb with rfl | ⟨-, -, -, rfl⟩
          · exact hgrant
          · exact hgrant
  | receiveRequest caller transaction =>
      cases hb : m.receiveRequest clock caller transaction with
      | error err => simpa [PairingOp.apply, hb] using hgrant
      | ok r =>
          obtain ⟨t, m'⟩ := r
          simp only [PairingOp.apply, hb, PairingManager.kept_ok] at hgrant
          obtain ⟨-, -, rfl⟩ := PairingManager.receiveRequest_eq_ok.mp hb
          exact hgrant
  | confirm txid now =>
      cases hb : m.confirm (now.getD clock) txid with
      | error err => simpa [PairingOp.apply, hb] using hgrant
      | ok r =>
          obtain ⟨t, m'⟩ := r
          simp only [PairingOp.apply, hb, PairingManager.kept_ok] at hgrant
          obtain ⟨_, _, -, -, -, rfl⟩ := PairingManager.confirm_eq_ok.mp hb
          exact hgrant
  | acceptGrant txid peerId g peer' now =>
      cases hb : m.acceptGrant (now.getD clock) txid peerId g peer' with
      | error err => simpa [PairingOp.apply, hb] using hgrant
      | ok r =>
          obtain ⟨t, m'⟩ := r
          simp only [PairingOp.apply, hb, PairingManager.kept_ok] at hgrant
          obtain ⟨-, -, rfl⟩ := PairingManager.acceptGrant_eq_ok hb
          exact hgrant
  | abort txid => exact hgrant
  | revoke p => exact herase p hgrant
  | revokeTrusted p => exact hgrant
  | revokeGrant p => exact herase p hgrant
  | pruneExpired now => exact hgrant

/-- An operation keeps everything recorded.  Kind: L -/
theorem Recorded.step (hr : h.Recorded) (e : ℚ × PairingOp) : (h.step e).Recorded := by
  obtain ⟨clock, op⟩ := e
  by_cases hop : ∃ txid permissions, op = .approve txid permissions
  · obtain ⟨txid, permissions, rfl⟩ := hop
    cases ha : h.manager.approve clock txid permissions with
    | error err =>
        refine hr.of_sub (fun peer grant hgrant => ?_) ?_
        · simpa [PairingHistory.step, PairingOp.apply, ha] using hgrant
        · simp [PairingHistory.step, approvalsAfter, ha]
    | ok r =>
        obtain ⟨grant, m'⟩ := r
        obtain ⟨t, -, -, rfl, rfl⟩ := PairingManager.approve_eq_ok.mp ha
        intro peer g hg
        simp only [PairingHistory.step, PairingOp.apply, ha, PairingManager.kept_ok] at hg
        simp only [lastApproval, PairingHistory.step, approvalsAfter, ha, List.find?_cons]
        rw [Dict.get?_insert] at hg
        by_cases hpeer : t.peerId = peer
        · rw [if_pos hpeer] at hg
          simpa [PairingManager.grantOf, hpeer] using hg
        · rw [if_neg hpeer] at hg
          have hold := hr peer g hg
          unfold lastApproval at hold
          simpa [PairingManager.grantOf, hpeer] using hold
  · have hother : ∀ txid permissions, op ≠ .approve txid permissions :=
      fun txid permissions heq => hop ⟨txid, permissions, heq⟩
    refine hr.of_sub (fun peer grant => grants_apply clock h.manager hother) ?_
    cases op with
    | approve txid permissions => exact absurd rfl (hother txid permissions)
    | _ => rfl

/-- The last approval for the peer, if it is of this transaction, is its last approval.  Kind: L -/
theorem approvalOf_of_lastApproval {txid : String} {peer : NodeId}
    {grant : PairingManager.PeerGrant} (hlast : h.lastApproval peer = some (txid, grant)) :
    h.approvalOf txid peer = some grant := by
  unfold lastApproval at hlast
  obtain ⟨hpeer, before, after, happrovals, hbefore⟩ := List.find?_eq_some_iff_append.mp hlast
  have hfind : h.approvals.find? (fun b => b.1 = txid ∧ b.2.callerId = peer) =
      some (txid, grant) := by
    refine List.find?_eq_some_iff_append.mpr
      ⟨decide_eq_true ⟨rfl, of_decide_eq_true hpeer⟩, before, after, happrovals, ?_⟩
    intro b hb
    have hno := hbefore b hb
    simp only [Bool.not_eq_true', decide_eq_false_iff_not] at hno ⊢
    exact fun hand => hno hand.2
  exact congrArg (Option.map Prod.snd) hfind

/-- A confirmation of what was approved last trusts what was approved for it.  Kind: L -/
theorem Recorded.trustsOwn (hr : h.Recorded) (hlast : h.confirmsLast e = true) :
    h.trustsOwn e = true := by
  unfold confirmsLast at hlast
  unfold PairingHistory.trustsOwn
  split
  · rename_i txid now heq
    simp only [heq] at hlast
    split
    · rename_i trusted m' hconfirm
      obtain ⟨t, grant, hactive, hgrant, rfl, -⟩ := PairingManager.confirm_eq_ok.mp hconfirm
      have hheld : h.manager.grants.contains t.peerId = true := by
        unfold Dict.contains
        rw [hgrant]
        rfl
      rw [hactive] at hlast
      simp only [hheld, Bool.not_true, Bool.false_or, Option.any_eq_true,
        decide_eq_true_eq] at hlast
      obtain ⟨⟨txid', grant'⟩, hlast, rfl⟩ := hlast
      have hsnd := hr t.peerId grant hgrant
      rw [hlast] at hsnd
      obtain rfl : grant' = grant := Option.some.inj hsnd
      have hown : h.approvalOf txid' (PairingManager.trustOf t grant').peerId = some grant' :=
        approvalOf_of_lastApproval hlast
      rw [hown]
      exact decide_eq_true ⟨rfl, rfl⟩
    · rfl
  · rfl

/-- **Trust from its own approval.**  In every run from an empty manager whose confirmations are of
the transaction that was approved last for the peer, a confirmation trusts what was approved for its
transaction.  Source: `pairing/manager.py`, `confirm`.  Kind: P -/
theorem confirm_own_approval (localId : NodeId) (ttl : ℚ) {events : List (ℚ × PairingOp)}
    (hlast : throughout confirmsLast events (start localId ttl) = true) :
    throughout trustsOwn events (start localId ttl) = true := by
  have hrun : ∀ (events : List (ℚ × PairingOp)) (h : PairingHistory), h.Recorded →
      throughout confirmsLast events h = true → throughout trustsOwn events h = true := by
    intro events
    induction events with
    | nil => exact fun _ _ _ => rfl
    | cons e rest ih =>
        intro h hr hlast
        obtain ⟨hstep, hrest⟩ := Bool.and_eq_true_iff.mp hlast
        exact Bool.and_eq_true_iff.mpr ⟨hr.trustsOwn hstep, ih (h.step e) (hr.step e) hrest⟩
  exact hrun events _ (recorded_start localId ttl) hlast

/-! ### A grant of the other direction -/

/-- The manager's own node. -/
def pairingLocal : NodeId := ⟨"local node", by decide⟩

/-- The peer of both directions. -/
def pairingPeer : NodeId := ⟨"peer", by decide⟩

/-- The material a transaction carries. -/
def pairingMaterial (transport : String) : Material where
  identityFingerprint := some (.text "identity")
  transportFingerprint := some (.text transport)
  rootPublicKey := some "root"
  transportGeneration := some 1
  transportProof := some "proof"

/-- The peer pairs, which is approved, and then this node begins to pair with it. -/
def bothDirections : List (ℚ × PairingOp) :=
  [(0, .begin "inbound" "a" pairingPeer none (pairingMaterial "theirs") .inbound .pair),
    (1, .approve "inbound" {.text "ping"}),
    (2, .begin "outbound" "b" pairingPeer none (pairingMaterial "ours") .outbound .pair)]

/-- A run that confirms its own approvals throughout.  Kind: P -/
theorem confirm_own_approval_inbound :
    throughout trustsOwn (bothDirections ++ [(3, .confirm "inbound" none)])
      (start pairingLocal 300) = true :=
  confirm_own_approval pairingLocal 300 (by decide +kernel)

/-- `confirm` of the transaction that nobody approved trusts the peer with the inbound grant. -/
theorem foreign_grant_confirmed :
    let h := bothDirections.foldl step (start pairingLocal 300)
    ((h.manager.confirm 3 "outbound").toOption.map fun r => r.1.permissions) =
        some {.text "ping"} ∧
      h.approvalOf "outbound" pairingPeer = none ∧
      throughout trustsOwn (bothDirections ++ [(3, .confirm "outbound" none)])
        (start pairingLocal 300) = false := by
  decide +kernel

end PairingHistory

/-! ## Competing transactions -/

namespace PairingManager

/-- At most one transaction of a peer is active in each direction.  Kind: D -/
def SingleAt (now : ℚ) (m : PairingManager) : Prop :=
  ∀ k₁ t₁ k₂ t₂, m.pending.get? k₁ = some t₁ → m.pending.get? k₂ = some t₂ →
    now < t₁.expiresAt → now < t₂.expiresAt → t₁.peerId = t₂.peerId →
    t₁.direction = t₂.direction → k₁ = k₂

/-- Every active transaction is the one that `find_pending_for` returns.  Kind: D -/
def FindsAt (now : ℚ) (m : PairingManager) : Prop :=
  ∀ k t, m.pending.get? k = some t → now < t.expiresAt →
    m.findPendingFor now t.peerId (some t.direction) = some t

variable {m m' : PairingManager} {now now' : ℚ}

/-- Without transactions none competes.  Kind: L -/
theorem singleAt_of_empty (h : ∀ k, m.pending.get? k = none) : SingleAt now m := by
  intro k₁ t₁ k₂ t₂ h₁
  rw [h k₁] at h₁
  cases h₁

/-- Time only ends transactions.  Kind: L -/
theorem SingleAt.mono (h : SingleAt now m) (hle : now ≤ now') : SingleAt now' m :=
  fun k₁ t₁ k₂ t₂ h₁ h₂ hl₁ hl₂ =>
    h k₁ t₁ k₂ t₂ h₁ h₂ (hle.trans_lt hl₁) (hle.trans_lt hl₂)

/-- Fewer transactions do not compete.  Kind: L -/
theorem SingleAt.of_sub (h : SingleAt now m)
    (hsub : ∀ k t, m'.pending.get? k = some t → m.pending.get? k = some t) : SingleAt now m' :=
  fun k₁ t₁ k₂ t₂ h₁ h₂ => h k₁ t₁ k₂ t₂ (hsub k₁ t₁ h₁) (hsub k₂ t₂ h₂)

/-- A transaction without a competitor is added.  Kind: L -/
theorem SingleAt.insert (h : SingleAt now m) {txid : String} {t : PendingPairing}
    (hfree : ∀ k u, m.pending.get? k = some u → k ≠ txid → u.peerId = t.peerId →
      now < u.expiresAt → u.direction ≠ t.direction) :
    SingleAt now { m with pending := m.pending.insert txid t } := by
  intro k₁ t₁ k₂ t₂ h₁ h₂ hl₁ hl₂ hpeer hdir
  simp only [Dict.get?_insert] at h₁ h₂
  by_cases hk₁ : txid = k₁ <;> by_cases hk₂ : txid = k₂
  · exact hk₁.symm.trans hk₂
  · rw [if_pos hk₁] at h₁
    rw [if_neg hk₂] at h₂
    cases h₁
    exact absurd hdir.symm (hfree k₂ t₂ h₂ (Ne.symm hk₂) hpeer.symm hl₂)
  · rw [if_neg hk₁] at h₁
    rw [if_pos hk₂] at h₂
    cases h₂
    exact absurd hdir (hfree k₁ t₁ h₁ (Ne.symm hk₁) hpeer hl₁)
  · rw [if_neg hk₁] at h₁
    rw [if_neg hk₂] at h₂
    exact h k₁ t₁ k₂ t₂ h₁ h₂ hl₁ hl₂ hpeer hdir

/-- The first active transaction is the only one.  Kind: L -/
theorem SingleAt.finds (h : SingleAt now m) : FindsAt now m := by
  intro k t ht hlive
  cases hfind : m.findPendingFor now t.peerId (some t.direction) with
  | none => exact absurd rfl (findPendingFor_eq_none.mp hfind k t ht rfl hlive)
  | some u =>
      unfold findPendingFor at hfind
      have hsome := List.find?_some hfind
      simp only [Option.all_some, decide_eq_true_eq] at hsome
      obtain ⟨hpeer, hulive, hdir⟩ := hsome
      obtain ⟨k', hu⟩ := Dict.mem_values_iff.mp (List.mem_of_find?_eq_some hfind)
      obtain rfl : k' = k := h k' u k t hu ht hulive hlive hpeer hdir
      exact hu.symm.trans ht

end PairingManager

/-- `receive_request` meets no competitor: no other active transaction of the caller comes from it.
Source: `pairing/manager.py`, `receive_request`, which does not look.  Kind: D -/
def PairingOp.Unopposed (clock : ℚ) (m : PairingManager) : PairingOp → Prop
  | .receiveRequest caller transaction =>
      clock < transaction.expiresAt → ∀ k u, m.pending.get? k = some u →
        k ≠ transaction.transactionId → u.peerId = caller → clock < u.expiresAt →
          u.direction ≠ .inbound
  | _ => True

/-- Only the pending transactions have to be looked at. -/
instance (clock : ℚ) (m : PairingManager) (o : PairingOp) : Decidable (o.Unopposed clock m) :=
  match o with
  | .receiveRequest caller transaction =>
      decidable_of_iff (clock < transaction.expiresAt → ∀ p ∈ m.pending.entries,
          p.1 ≠ transaction.transactionId → p.2.peerId = caller → clock < p.2.expiresAt →
            p.2.direction ≠ .inbound)
        ⟨fun h hlive k u hu => h hlive (k, u) (m.pending.get?_eq_some_iff.mp hu),
          fun h hlive p hp => h hlive p.1 p.2 (m.pending.get?_eq_some_iff.mpr hp)⟩
  | .begin .. | .approve .. | .confirm .. | .acceptGrant .. | .abort _ | .revoke _
  | .revokeTrusted _ | .revokeGrant _ | .pruneExpired _ => .isTrue trivial

/-- What `receive_request` stores. -/
def received (caller : NodeId) (transaction : PendingPairing) : PendingPairing :=
  { transaction with peerId := caller, direction := .inbound }

/-- What `receive_request` does to the manager.  Kind: L -/
theorem PairingOp.apply_receiveRequest (clock : ℚ) (m : PairingManager) (caller : NodeId)
    (transaction : PendingPairing) :
    (PairingOp.receiveRequest caller transaction).apply clock m =
      if clock < transaction.expiresAt then
        { m with
          pending := m.pending.insert transaction.transactionId (received caller transaction) }
      else m := by
  show m.kept (m.receiveRequest clock caller transaction) = _
  by_cases hlive : clock < transaction.expiresAt
  · rw [if_pos hlive, PairingManager.receiveRequest_eq_ok.mpr ⟨hlive, rfl, rfl⟩]
    rfl
  · rw [if_neg hlive]
    cases hb : m.receiveRequest clock caller transaction with
    | error e => rfl
    | ok r =>
        obtain ⟨t, m'⟩ := r
        exact absurd (PairingManager.receiveRequest_eq_ok.mp hb).1 hlive

/-- What another operation does to the pending transactions: it keeps some of them, or adds one that
`begin` found no competitor of.  Kind: L -/
theorem PairingOp.pending_cases (clock : ℚ) (m : PairingManager) {op : PairingOp}
    (hop : ∀ caller transaction, op ≠ .receiveRequest caller transaction) :
    (∀ k t, (op.apply clock m).pending.get? k = some t → m.pending.get? k = some t) ∨
    ∃ txid t, m.findPendingFor clock t.peerId (some t.direction) = none ∧
      op.apply clock m = { m with pending := m.pending.insert txid t } := by
  have hsame : ∀ m' : PairingManager, m'.pending = m.pending →
      ∀ k t, m'.pending.get? k = some t → m.pending.get? k = some t := by
    intro m' hm k t ht
    rwa [hm] at ht
  have hfilter : ∀ q, ∀ k t, (m.pending.filterEntries q).get? k = some t →
      m.pending.get? k = some t := by
    intro q k t ht
    rw [Dict.get?_filterEntries] at ht
    exact (Option.filter_eq_some_iff.mp ht).1
  cases op with
  | begin txid drawn peer secret material direction intent =>
      cases hb : m.begin clock txid drawn peer secret material direction intent with
      | error err => exact .inl (hsame _ (by simp [PairingOp.apply, hb]))
      | ok r =>
          obtain ⟨t, m'⟩ := r
          rcases PairingManager.begin_cases hb with rfl | ⟨hfree, rfl, rfl, rfl⟩
          · exact .inl (hsame _ (by simp [PairingOp.apply, hb]))
          · exact .inr ⟨txid, t, hfree, by simp [PairingOp.apply, hb]⟩
  | receiveRequest caller transaction => exact absurd rfl (hop caller transaction)
  | approve txid permissions =>
      cases hb : m.approve clock txid permissions with
      | error err => exact .inl (hsame _ (by simp [PairingOp.apply, hb]))
      | ok r =>
          obtain ⟨grant, m'⟩ := r
          obtain ⟨t, -, -, -, rfl⟩ := PairingManager.approve_eq_ok.mp hb
          exact .inl (hsame _ (by simp [PairingOp.apply, hb]))
  | confirm txid now =>
      cases hb : m.confirm (now.getD clock) txid with
      | error err => exact .inl (hsame _ (by simp [PairingOp.apply, hb]))
      | ok r =>
          obtain ⟨trusted, m'⟩ := r
          obtain ⟨_, _, -, -, -, rfl⟩ := PairingManager.confirm_eq_ok.mp hb
          refine .inl ?_
          simp only [PairingOp.apply, hb, PairingManager.kept_ok]
          exact hfilter _
  | acceptGrant txid peerId grant peer now =>
      cases hb : m.acceptGrant (now.getD clock) txid peerId grant peer with
      | error err => exact .inl (hsame _ (by simp [PairingOp.apply, hb]))
      | ok r =>
          obtain ⟨trusted, m'⟩ := r
          obtain ⟨-, -, rfl⟩ := PairingManager.acceptGrant_eq_ok hb
          refine .inl ?_
          simp only [PairingOp.apply, hb, PairingManager.kept_ok]
          exact hfilter _
  | abort txid => exact .inl (hfilter _)
  | revoke peer => exact .inl (hfilter _)
  | revokeTrusted peer => exact .inl (hfilter _)
  | revokeGrant peer => exact .inl (hfilter _)
  | pruneExpired now => exact .inl (hfilter _)

/-- What is received competes with every other active transaction of the caller that is inbound.
Kind: L -/
theorem PairingOp.single_receiveRequest_iff {clock : ℚ} {m : PairingManager} {caller : NodeId}
    {transaction : PendingPairing} (h : m.SingleAt clock) :
    ((PairingOp.receiveRequest caller transaction).apply clock m).SingleAt clock ↔
      (PairingOp.receiveRequest caller transaction).Unopposed clock m := by
  rw [PairingOp.apply_receiveRequest]
  by_cases hlive : clock < transaction.expiresAt
  · rw [if_pos hlive]
    constructor
    · intro hsingle _ k u hu hk hpeer hulive hdir
      have hself : (m.pending.insert transaction.transactionId
          (received caller transaction)).get? transaction.transactionId =
            some (received caller transaction) := Dict.get?_insert_self _ _ _
      have hother : (m.pending.insert transaction.transactionId
          (received caller transaction)).get? k = some u := by
        rw [Dict.get?_insert_of_ne _ _ (Ne.symm hk)]
        exact hu
      exact hk (hsingle k u _ _ hother hself hulive hlive hpeer hdir)
    · intro hfree
      exact h.insert fun k u hu hk hpeer hulive => hfree hlive k u hu hk hpeer hulive
  · rw [if_neg hlive]
    exact iff_of_true h fun hl => absurd hl hlive

/-- Step lemma: an operation keeps at most one transaction active if and only if it is unopposed.
Kind: L -/
theorem PairingOp.single_iff {clock : ℚ} {m : PairingManager} (op : PairingOp)
    (h : m.SingleAt clock) : (op.apply clock m).SingleAt clock ↔ op.Unopposed clock m := by
  by_cases hop : ∃ caller transaction, op = .receiveRequest caller transaction
  · obtain ⟨caller, transaction, rfl⟩ := hop
    exact PairingOp.single_receiveRequest_iff h
  · have hother : ∀ caller transaction, op ≠ .receiveRequest caller transaction :=
      fun caller transaction heq => hop ⟨caller, transaction, heq⟩
    have hunopposed : op.Unopposed clock m := by
      unfold PairingOp.Unopposed
      split
      · exact absurd rfl (hother _ _)
      · trivial
    refine iff_of_true ?_ hunopposed
    rcases op.pending_cases clock m hother with hsub | ⟨txid, t, hfree, happly⟩
    · exact h.of_sub hsub
    · rw [happly]
      exact h.insert fun k u hu _ hpeer hulive =>
        PairingManager.findPendingFor_eq_none.mp hfree k u hu hpeer hulive

/-! ### Snapshots -/

/-- An operation, or the restoration of a snapshot. -/
inductive PairingMove where
  /-- A public operation. -/
  | op (o : PairingOp)
  /-- `restore_snapshot(snap)`, with what the four tables of `snap` hold by then. -/
  | restore (snap : PairingManager)

/-- The manager with its clock and every state so far. -/
structure PairingTimeline where
  /-- The manager. -/
  manager : PairingManager
  /-- The last reading of the clock. -/
  clock : ℚ
  /-- Every state of the run, the newest first. -/
  states : List PairingManager

namespace PairingTimeline

/-- `PairingManager(local_id, ttl=ttl)`. -/
def start (localId : NodeId) (ttl clock : ℚ) : PairingTimeline :=
  ⟨{ PairingManager.new localId with ttl := ttl }, clock,
    [{ PairingManager.new localId with ttl := ttl }]⟩

/-- The manager after a move. -/
def moved (h : PairingTimeline) (e : ℚ × PairingMove) : PairingManager :=
  match e.2 with
  | .op o => o.apply e.1 h.manager
  | .restore snap => h.manager.restoreSnapshot snap

/-- One move at a reading of the clock. -/
def step (h : PairingTimeline) (e : ℚ × PairingMove) : PairingTimeline :=
  ⟨h.moved e, e.1, h.moved e :: h.states⟩

/-- The clock is monotone, and each table that is restored is one that the run had: a snapshot that
was restored before is the manager's own dictionary, which later operations went on to change. -/
def Possible (h : PairingTimeline) (e : ℚ × PairingMove) : Prop :=
  h.clock ≤ e.1 ∧
    match e.2 with
    | .op _ => True
    | .restore snap =>
        (∃ s ∈ h.states, s.pending = snap.pending) ∧ (∃ s ∈ h.states, s.trusted = snap.trusted) ∧
          (∃ s ∈ h.states, s.grants = snap.grants) ∧
          (∃ s ∈ h.states, s.authBroken = snap.authBroken)

/-- At most one transaction of a peer is active in each direction, and `find_pending_for` returns
it.  Kind: D -/
def Settled (h : PairingTimeline) : Prop :=
  h.manager.SingleAt h.clock ∧ h.manager.FindsAt h.clock

/-- The move is unopposed. -/
def Unopposed (h : PairingTimeline) (e : ℚ × PairingMove) : Prop :=
  match e.2 with
  | .op o => o.Unopposed e.1 h.manager
  | .restore _ => True

/-- Every move of the run is possible. -/
def PossibleRun : List (ℚ × PairingMove) → PairingTimeline → Prop
  | [], _ => True
  | e :: rest, h => h.Possible e ∧ PossibleRun rest (h.step e)

/-- Every move of the run is unopposed. -/
def UnopposedRun : List (ℚ × PairingMove) → PairingTimeline → Prop
  | [], _ => True
  | e :: rest, h => h.Unopposed e ∧ UnopposedRun rest (h.step e)

/-- Every state of the run is settled. -/
def SettledRun : List (ℚ × PairingMove) → PairingTimeline → Prop
  | [], h => h.Settled
  | e :: rest, h => h.Settled ∧ SettledRun rest (h.step e)

instance (h : PairingTimeline) (e : ℚ × PairingMove) : Decidable (h.Possible e) :=
  match e with
  | (_, .op _) => inferInstanceAs (Decidable (_ ∧ True))
  | (_, .restore _) => inferInstanceAs (Decidable (_ ∧ _ ∧ _ ∧ _ ∧ _))

instance (h : PairingTimeline) (e : ℚ × PairingMove) : Decidable (h.Unopposed e) :=
  match e with
  | (clock, .op o) => inferInstanceAs (Decidable (o.Unopposed clock h.manager))
  | (_, .restore _) => .isTrue trivial

instance decidablePossibleRun : (moves : List (ℚ × PairingMove)) → (h : PairingTimeline) →
    Decidable (PossibleRun moves h)
  | [], _ => .isTrue trivial
  | e :: rest, h =>
      have := decidablePossibleRun rest (h.step e)
      inferInstanceAs (Decidable (_ ∧ _))

instance decidableUnopposedRun : (moves : List (ℚ × PairingMove)) → (h : PairingTimeline) →
    Decidable (UnopposedRun moves h)
  | [], _ => .isTrue trivial
  | e :: rest, h =>
      have := decidableUnopposedRun rest (h.step e)
      inferInstanceAs (Decidable (_ ∧ _))

variable {h : PairingTimeline} {e : ℚ × PairingMove}

/-- A history is settled if and only if no transactions compete.  Kind: L -/
theorem settled_iff : h.Settled ↔ h.manager.SingleAt h.clock :=
  ⟨fun hs => hs.1, fun hs => ⟨hs, hs.finds⟩⟩

/-- Every state so far has at most one active transaction, at the clock of the last. -/
def Single (h : PairingTimeline) : Prop :=
  h.manager ∈ h.states ∧ ∀ s ∈ h.states, s.SingleAt h.clock

/-- A new history has no competing transactions.  Kind: L -/
theorem single_start (localId : NodeId) (ttl clock : ℚ) : (start localId ttl clock).Single := by
  refine ⟨List.mem_singleton.mpr rfl, fun s hs => ?_⟩
  obtain rfl := List.mem_singleton.mp hs
  exact PairingManager.singleAt_of_empty fun k => rfl

/-- Step lemma: of a possible move, the state it leads to is settled if and only if the move is
unopposed.  Kind: L -/
theorem Single.settled_iff (hs : h.Single) (hp : h.Possible e) :
    (h.step e).Settled ↔ h.Unopposed e := by
  rw [PairingTimeline.settled_iff]
  have hnow : h.manager.SingleAt e.1 := (hs.2 _ hs.1).mono hp.1
  obtain ⟨clock, move⟩ := e
  cases move with
  | op o => exact o.single_iff hnow
  | restore snap =>
      obtain ⟨s, hmem, hpending⟩ := hp.2.1
      refine iff_of_true ?_ trivial
      refine ((hs.2 s hmem).mono hp.1).of_sub fun k t ht => ?_
      rw [hpending]
      exact ht

/-- A settled step keeps transactions from competing.  Kind: L -/
theorem Single.step (hs : h.Single) (hp : h.Possible e) (hsettled : (h.step e).Settled) :
    (h.step e).Single := by
  refine ⟨List.mem_cons_self, fun s hmem => ?_⟩
  rcases List.mem_cons.mp hmem with rfl | hmem
  · exact hsettled.1
  · exact (hs.2 s hmem).mono hp.1

/-- **One active transaction.**  In every possible run from an empty manager, at most one
transaction of a peer is ever active in each direction, and `find_pending_for` returns it, if and
only if no `receive_request` of the run meets a competitor.
Source: `pairing/manager.py`, `begin`, `receive_request` and `find_pending_for`.  Kind: P -/
theorem single_iff_unopposed (localId : NodeId) (ttl clock : ℚ)
    {moves : List (ℚ × PairingMove)} (hp : PossibleRun moves (start localId ttl clock)) :
    SettledRun moves (start localId ttl clock) ↔ UnopposedRun moves (start localId ttl clock) := by
  have hrun : ∀ (moves : List (ℚ × PairingMove)) (h : PairingTimeline), h.Single →
      PossibleRun moves h → (SettledRun moves h ↔ UnopposedRun moves h) := by
    intro moves
    induction moves with
    | nil =>
        intro h hs _
        exact iff_of_true (PairingTimeline.settled_iff.mpr (hs.2 _ hs.1)) trivial
    | cons e rest ih =>
        intro h hs ⟨hpe, hprest⟩
        have hsettled : h.Settled := PairingTimeline.settled_iff.mpr (hs.2 _ hs.1)
        constructor
        · rintro ⟨-, hrest⟩
          have hnext : (h.step e).Settled := by
            cases rest with
            | nil => exact hrest
            | cons e' rest' => exact hrest.1
          exact ⟨(hs.settled_iff hpe).mp hnext,
            (ih (h.step e) (hs.step hpe hnext) hprest).mp hrest⟩
        · rintro ⟨hunopposed, hrest⟩
          have hnext := (hs.settled_iff hpe).mpr hunopposed
          exact ⟨hsettled, (ih (h.step e) (hs.step hpe hnext) hprest).mpr hrest⟩
  exact hrun moves _ (single_start localId ttl clock) hp

/-! ### A second request -/

open PairingHistory (pairingLocal pairingPeer pairingMaterial)

/-- A transaction that a caller sends, until 100. -/
def sentTransaction (txid : String) : PendingPairing :=
  { pairingMaterial "theirs" with
    transactionId := txid
    peerId := pairingLocal
    secret := "secret"
    expiresAt := 100
    direction := .outbound
    intent := .pair }

/-- The peer sends one transaction, or two. -/
def requests (txids : List String) : List (ℚ × PairingMove) :=
  txids.map fun txid => (1, .op (.receiveRequest pairingPeer (sentTransaction txid)))

/-- The peer sends a transaction, which is approved; this node begins one of its own; an earlier
state is restored; and when the first transaction has expired, the peer sends another one. -/
def unopposedMoves : List (ℚ × PairingMove) :=
  requests ["first"] ++
    [(2, .op (.approve "first" {.text "ping"})),
      (3, .op (.begin "outbound" "b" pairingPeer none (pairingMaterial "ours") .outbound .pair)),
      (4, .op (.abort "outbound")),
      (5, .restore ((requests ["first"]).foldl step (start pairingLocal 300 0)).manager),
      (6, .op (.begin "again" "c" pairingPeer none (pairingMaterial "ours") .outbound .pair)),
      (120, .op (.receiveRequest pairingPeer
        { sentTransaction "second" with expiresAt := 200 }))]

/-- The last request of `unopposedMoves` meets an expired transaction and one of the other
direction; both of two requests that are active meet each other. -/
theorem single_iff_unopposed_request :
    SettledRun unopposedMoves (start pairingLocal 300 0) ∧
      ¬SettledRun (requests ["first", "second"]) (start pairingLocal 300 0) := by
  have hmoves : UnopposedRun unopposedMoves (start pairingLocal 300 0) := by decide +kernel
  have hopposed : ¬UnopposedRun (requests ["first", "second"]) (start pairingLocal 300 0) := by
    decide +kernel
  exact ⟨(single_iff_unopposed pairingLocal 300 0 (by decide +kernel)).mpr hmoves, fun hsettled =>
    hopposed ((single_iff_unopposed pairingLocal 300 0 (by decide +kernel)).mp hsettled)⟩

/-- The second request of the peer is stored next to the first, and `find_pending_for` does not
return it. -/
theorem second_request_received :
    let h := (requests ["first", "second"]).foldl step (start pairingLocal 300 0)
    PossibleRun (requests ["first", "second"]) (start pairingLocal 300 0) ∧
      (h.manager.pending.get? "first").isSome = true ∧
      (h.manager.pending.get? "second").isSome = true ∧
      (h.manager.findPendingFor 1 pairingPeer (some .inbound)).map (·.transactionId) =
        some "first" ∧
      ¬SettledRun (requests ["first", "second"]) (start pairingLocal 300 0) := by
  refine ⟨⟨⟨by decide +kernel, trivial⟩, ⟨by decide +kernel, trivial⟩, trivial⟩,
    by decide +kernel, by decide +kernel, by decide +kernel, ?_⟩
  rintro ⟨-, -, hsingle, -⟩
  have hpending : ∀ txid ∈ ["first", "second"],
      ((requests ["first", "second"]).foldl step (start pairingLocal 300 0)).manager.pending.get?
        txid = some (received pairingPeer (sentTransaction txid)) := by
    decide +kernel
  have hlive : ∀ txid, (1 : ℚ) < (received pairingPeer (sentTransaction txid)).expiresAt := by
    intro txid
    show (1 : ℚ) < 100
    decide +kernel
  have hsame : "first" = "second" :=
    hsingle "first" _ "second" _ (hpending "first" (by decide)) (hpending "second" (by decide))
      (hlive _) (hlive _) rfl rfl
  exact absurd hsame (by decide)

end PairingTimeline

end ExpraConnect
