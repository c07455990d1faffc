import ExpraConnect.Pairing.Manager

/-!
# What the operations of the pairing manager do

Each operation of `PairingManager`, once: what it returned and what it wrote.

* `active_eq_ok`, `approve_eq_ok`, `confirm_eq_ok`, `acceptGrant_eq_ok`, `receiveRequest_eq_ok`,
  `begin_eq_ok`, `begin_cases`: what an operation that returned has done;
* `findPendingFor_eq_none`: no active transaction of a peer in a direction.
-/

namespace ExpraConnect

open ExpraConnect.Lib

namespace PairingManager

/-- A snapshot is restored whatever happened to the four dictionaries.  Kind: L -/
theorem restoreSnapshot_of_same {m snap : PairingManager} (hid : m.localId = snap.localId)
    (httl : m.ttl = snap.ttl) : m.restoreSnapshot snap = snap := by
  cases m; cases snap; cases hid; cases httl; rfl

/-- What an approval does: an active transaction, read-only permissions, and its grant.  Kind: L -/
theorem approve_eq_ok {m m' : PairingManager} {now : ℚ} {txid : String}
    {permissions : Finset PermissionItem} {grant : PeerGrant} :
    m.approve now txid permissions = .ok (grant, m') ↔
      ∃ t, m.active now txid = .ok t ∧
        PermissionItem.texts permissions ⊆ readOnlyPermissions ∧
        grant = grantOf t permissions ∧
        m' = { m with grants := m.grants.insert t.peerId grant } := by
  simp only [approve, Except.bind_eq_ok, Except.raiseIf_eq_ok, Except.pure_eq_ok, not_not,
    Prod.mk.injEq]
  constructor
  · rintro ⟨t, ht, -, hp, rfl, rfl⟩
    exact ⟨t, ht, hp, rfl, rfl⟩
  · rintro ⟨t, ht, hp, rfl, rfl⟩
    exact ⟨t, ht, (), hp, rfl, rfl⟩

/-- An active transaction is one that is pending and has time left.  Kind: L -/
theorem active_eq_ok {m : PairingManager} {now : ℚ} {txid : String} {t : PendingPairing} :
    m.active now txid = .ok t ↔ m.pending.get? txid = some t ∧ now < t.expiresAt := by
  unfold active
  cases hget : m.pending.get? txid with
  | none => simp
  | some u =>
      by_cases hlive : now < u.expiresAt
      · simp only [Option.filter, hlive, decide_true, if_true, Except.ok.injEq,
          Option.some.injEq]
        exact ⟨fun h => ⟨h, h ▸ hlive⟩, fun h => h.1⟩
      · simp only [Option.filter, hlive, decide_false, Bool.false_eq_true, if_false,
          Option.some.injEq, reduceCtorEq, false_iff, not_and]
        rintro rfl
        exact hlive

/-- `approve` raises `ValueError` only.  Kind: L -/
theorem approve_eq_error {m : PairingManager} {now : ℚ} {txid : String}
    {permissions : Finset PermissionItem} {e : PyError}
    (h : m.approve now txid permissions = .error e) : e.kind = .value := by
  unfold approve at h
  cases hactive : m.active now txid with
  | error e' =>
      rw [hactive] at h
      obtain rfl : e' = e := Except.error.inj h
      unfold active at hactive
      split at hactive
      · cases hactive
      · cases hactive
        rfl
  | ok t =>
      rw [hactive] at h
      by_cases hp : PermissionItem.texts permissions ⊆ readOnlyPermissions
      · simp only [raiseIf, hp, not_true_eq_false, if_false] at h
        cases h
      · simp only [raiseIf, hp, not_false_eq_true, if_true] at h
        cases h
        rfl

/-- A new transaction has the secret it is given.  Kind: L -/
theorem newTransaction_secret (m : PairingManager) (now : ℚ) (txid secret : String)
    (peer : NodeId) (material : Material) (direction : Direction) (intent : Intent) :
    (m.newTransaction now txid secret peer (some secret) material direction intent).secret =
      secret := by
  unfold newTransaction
  cases hfilter : (some secret).filter (· ≠ "") with
  | none => rfl
  | some s => exact (Option.some.inj (Option.filter_eq_some_iff.mp hfilter).1).symm

/-- `begin` returns a transaction with this peer and this secret, and only writes transactions.
Kind: L -/
theorem begin_eq_ok {m m' : PairingManager} {now : ℚ} {txid secret : String} {peer : NodeId}
    {material : Material} {direction : Direction} {intent : Intent} {t : PendingPairing}
    (h : m.begin now txid secret peer (some secret) material direction intent = .ok (t, m')) :
    t.peerId = peer ∧ t.secret = secret ∧ ∃ d, m' = { m with pending := d } := by
  unfold begin at h
  split at h
  · rename_i replay hreplay
    obtain ⟨rfl, rfl⟩ := Prod.mk.inj (Except.ok.inj h)
    have hfound : m.findPending now peer secret = some replay :=
      (Option.filter_eq_some_iff.mp hreplay).1
    unfold findPending at hfound
    have hsome := List.find?_some hfound
    obtain ⟨hpeer, hsecret, -⟩ := of_decide_eq_true hsome
    exact ⟨hpeer, hsecret, m.pending, rfl⟩
  · split at h
    · cases h
    · obtain ⟨rfl, rfl⟩ := Prod.mk.inj (Except.ok.inj h)
      exact ⟨rfl, newTransaction_secret _ _ _ _ _ _ _ _, _, rfl⟩

/-- No transaction of the peer in the direction is active.  Kind: L -/
theorem findPendingFor_eq_none {m : PairingManager} {now : ℚ} {peer : NodeId}
    {direction : Direction} :
    m.findPendingFor now peer (some direction) = none ↔
      ∀ txid t, m.pending.get? txid = some t → t.peerId = peer → now < t.expiresAt →
        t.direction ≠ direction := by
  unfold findPendingFor
  rw [List.find?_eq_none]
  simp only [Dict.mem_values_iff, Option.all_some, decide_eq_true_eq, forall_exists_index]
  constructor
  · intro h txid t ht hpeer hlive hdir
    exact h t txid ht ⟨hpeer, hlive, hdir⟩
  · rintro h t txid ht ⟨hpeer, hlive, hdir⟩
    exact h txid t ht hpeer hlive hdir

/-- Without an active transaction of the peer in its direction, `begin` makes a new one.  Kind: L -/
theorem begin_of_free {m : PairingManager} {now : ℚ} {peer : NodeId} {direction : Direction}
    (h : m.findPendingFor now peer (some direction) = none) (txid drawn secret : String)
    (material : Material) (intent : Intent) :
    m.begin now txid drawn peer (some secret) material direction intent =
      .ok (m.newTransaction now txid drawn peer (some secret) material direction intent,
        { m with
          pending := m.pending.insert txid
            (m.newTransaction now txid drawn peer (some secret) material direction intent) }) := by
  have hreplay : ((some secret).bind fun s => m.findPending now peer s).filter
      (fun t => decide (t.direction = direction ∧ t.intent = intent)) = none := by
    rw [Option.filter_eq_none_iff]
    intro t ht hdir
    have hfound : m.findPending now peer secret = some t := ht
    unfold findPending at hfound
    have hsome := List.find?_some hfound
    obtain ⟨hpeer, -, hlive⟩ := of_decide_eq_true hsome
    obtain ⟨txid', ht'⟩ := Dict.mem_values_iff.mp (List.mem_of_find?_eq_some hfound)
    exact findPendingFor_eq_none.mp h txid' t ht' hpeer hlive (of_decide_eq_true hdir).1
  unfold begin
  rw [hreplay, h]
  rfl

/-- `begin` returns a transaction again, or adds one that has no competitor.  Kind: L -/
theorem begin_cases {m m' : PairingManager} {now : ℚ} {txid drawn : String} {peer : NodeId}
    {secret : Option String} {material : Material} {direction : Direction} {intent : Intent}
    {t : PendingPairing}
    (h : m.begin now txid drawn peer secret material direction intent = .ok (t, m')) :
    m' = m ∨ (m.findPendingFor now peer (some direction) = none ∧ t.peerId = peer ∧
      t.direction = direction ∧ m' = { m with pending := m.pending.insert txid t }) := by
  unfold begin at h
  split at h
  · obtain ⟨-, rfl⟩ := Prod.mk.inj (Except.ok.inj h)
    exact .inl rfl
  · split at h
    · cases h
    · rename_i hfree
      obtain ⟨rfl, rfl⟩ := Prod.mk.inj (Except.ok.inj h)
      exact .inr ⟨by simpa using hfree, rfl, rfl, rfl⟩

/-- `receive_request` stores what was sent, for the caller and inbound.  Kind: L -/
theorem receiveRequest_eq_ok {m m' : PairingManager} {now : ℚ} {caller : NodeId}
    {transaction t : PendingPairing} :
    m.receiveRequest now caller transaction = .ok (t, m') ↔
      now < transaction.expiresAt ∧
        t = { transaction with peerId := caller, direction := .inbound } ∧
        m' = { m with pending := m.pending.insert transaction.transactionId t } := by
  simp only [receiveRequest, Except.bind_eq_ok, Except.raiseIf_eq_ok, Except.pure_eq_ok, not_le,
    Prod.mk.injEq]
  constructor
  · rintro ⟨-, hlive, rfl, rfl⟩
    exact ⟨hlive, rfl, rfl⟩
  · rintro ⟨hlive, rfl, rfl⟩
    exact ⟨(), hlive, rfl, rfl⟩

/-- `confirm` trusts the peer of an active transaction with the grant that the peer holds.
Kind: L -/
theorem confirm_eq_ok {m m' : PairingManager} {now : ℚ} {txid : String} {trusted : TrustedPeer} :
    m.confirm now txid = .ok (trusted, m') ↔
      ∃ t grant, m.active now txid = .ok t ∧ m.grants.get? t.peerId = some grant ∧
        trusted = trustOf t grant ∧
        m' = { m with
          trusted := m.trusted.insert t.peerId trusted
          authBroken := m.authBroken.erase t.peerId
          pending := m.pending.erase txid } := by
  simp only [confirm, Except.bind_eq_ok]
  constructor
  · rintro ⟨t, ht, h⟩
    split at h
    · cases h
    · rename_i grant hgrant
      obtain ⟨rfl, rfl⟩ := Prod.mk.inj (Except.ok.inj h)
      exact ⟨t, grant, ht, hgrant, rfl, rfl⟩
  · rintro ⟨t, grant, ht, hgrant, rfl, rfl⟩
    refine ⟨t, ht, ?_⟩
    rw [hgrant]
    rfl

/-- `accept_grant` trusts the peer with the permissions of the grant and the secret of the
transaction, which is closed.  Kind: L -/
theorem acceptGrant_eq_ok {m m' : PairingManager} {now : ℚ} {txid : String} {peer : NodeId}
    {grant : PeerGrant} {material : Material} {trusted : TrustedPeer}
    (h : m.acceptGrant now txid peer grant material = .ok (trusted, m')) :
    (∃ t, m.pending.get? txid = some t ∧ trusted.secret = t.secret) ∧
      trusted.permissions = grant.permissions ∧
      m' = { m with
        trusted := m.trusted.insert peer trusted
        authBroken := m.authBroken.erase peer
        pending := m.pending.erase txid } := by
  simp only [acceptGrant, Except.bind_eq_ok, Except.pure_eq_ok, Prod.mk.injEq] at h
  obtain ⟨t, ht, -, -, -, -, rfl, rfl⟩ := h
  exact ⟨⟨t, (active_eq_ok.mp ht).1, rfl⟩, rfl, rfl⟩

end PairingManager

end ExpraConnect
