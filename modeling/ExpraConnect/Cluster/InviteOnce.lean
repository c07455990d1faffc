import ExpraConnect.Cluster.OperationFacts

/-!
# An invite admits its target once

The life of one cluster, with a ledger beside it of the invites that were created and the admissions
they caused.

* `InviteEvent.apply`: creating and consuming invites, role changes, changes of the term, restarts;
* `Cluster.Lives`: the runs, in which every token that is drawn is new;
* `Kept`: the invariant, of which the heart is that an invite is filed under one key, and under none
  once it has admitted its target;
* `admits_at_most_once`: an invite admits at most once, its own target, in time, into the cluster
  and term it was issued for; afterwards its token is refused for good.
-/

namespace ExpraConnect

open ExpraConnect.Lib

/-! ## The life of a cluster -/

/-- An admission: the invite that `consume_invite` returned, and the call.  Kind: D -/
structure InviteAdmission where
  /-- The invite. -/
  invite : InviteRecord
  /-- The node that was admitted. -/
  target : NodeId
  /-- When. -/
  now : ℚ
  /-- The cluster it was admitted to. -/
  clusterId : String
  /-- The term of the cluster. -/
  epoch : ℕ

/-- What has happened to the invites of a cluster.  Source: none: bookkeeping.  Kind: D -/
structure Ledger where
  /-- The invites that `create_invite` returned. -/
  issued : List InviteRecord
  /-- The admissions. -/
  admitted : List InviteAdmission

/-- What happens to a cluster.
Source: `cluster/operations.py`, `Cluster`; `remote/role_operations.py`, `_persist_failover_state`.
Kind: D -/
inductive InviteEvent where
  /-- `create_invite(target, now=now)`, with the token that is drawn. -/
  | createInvite (target : NodeId) (token : String) (now : ℚ)
  /-- `consume_invite(token, target, now=now, allow_retry=allowRetry)` -/
  | consumeInvite (token : String) (target : NodeId) (now : ℚ) (allowRetry : Bool)
  /-- `assign(node, role)` -/
  | assign (node : NodeId) (role : ClusterRole) (now : ℚ)
  /-- `revoke(node)` -/
  | revoke (node : NodeId)
  /-- The failover coordinator writes a renewed or a new term, with its members and grants. -/
  | changeEpoch (epoch : CoordinatorEpoch) (promotionEpochs : Finset ℕ) (assignments : Assignments)
      (capabilityGrants : List CapabilityGrant)
  /-- A restart from the document. -/
  | restart

namespace InviteEvent

variable (H : InviteHash)

/-- The cluster and its ledger after an event, whether the operation returns or raises.  A
`consume_invite` that returns admits its target, unless it answers from a stored admission.
Kind: D -/
def apply : InviteEvent → Cluster × Ledger → Cluster × Ledger
  | createInvite target token now, (c, l) =>
      match Cluster.createInvite H target token now c with
      | .ok invite c' => (c', { l with issued := invite :: l.issued })
      | .error _ c' => (c', l)
  | consumeInvite token target now allowRetry, (c, l) =>
      match Cluster.consumeInvite H token target now allowRetry c with
      | .ok invite c' =>
          if c.joinAdmissions.contains (H.hash token) then (c', l)
          else (c', { l with
            admitted := ⟨invite, target, now, c.clusterId, c.epoch.epoch⟩ :: l.admitted })
      | .error _ c' => (c', l)
  | assign node role now, (c, l) => ((Cluster.assign node role now).after c, l)
  | revoke node, (c, l) => ((Cluster.revoke node).after c, l)
  | changeEpoch epoch promotionEpochs assignments capabilityGrants, (c, l) =>
      ({ c with
        epoch := epoch
        promotionEpochs := promotionEpochs
        assignments := assignments
        capabilityGrants := capabilityGrants }, l)
  | restart, (c, l) =>
      match c.restart H with
      | .ok c' => (c', l)
      | .error _ => (c, l)

end InviteEvent

/-- The admissions that an invite caused. -/
def Ledger.admissionsOf (l : Ledger) (i : InviteRecord) : List InviteAdmission :=
  l.admitted.filter fun a => a.invite.tokenHash = i.tokenHash

namespace InviteEvent

variable (H : InviteHash)

/-- A token that is drawn is new, and has not the form of a digest.  Kind: D -/
def Fresh : InviteEvent → Ledger → Prop
  | createInvite _ token _, l => H.isDigest token = false ∧ ∀ i ∈ l.issued, i.token ≠ token
  | _, _ => True

end InviteEvent

/-- The life of a cluster, from its creation on.  Kind: D -/
inductive Cluster.Lives (H : InviteHash) : Cluster × Ledger → Prop
  | create {localId : NodeId} {clusterId fencingToken : String} {now : ℚ} {c : Cluster}
      (h : Cluster.create localId clusterId fencingToken now = .ok c) :
      Cluster.Lives H (c, ⟨[], []⟩)
  | step {s : Cluster × Ledger} (e : InviteEvent) (hs : Cluster.Lives H s)
      (hfresh : e.Fresh H s.2) :
      Cluster.Lives H (e.apply H s)

/-! ## The invariant -/

/-- The admission was one of the invite's own target, in time, into the cluster and term the invite
was issued for.  Kind: D -/
structure InviteAdmission.Of (a : InviteAdmission) (i : InviteRecord) : Prop where
  /-- It was redeemed with the invite. -/
  invite : a.invite.tokenHash = i.tokenHash
  /-- The target is the one the invite names. -/
  target : a.target.value = i.targetNodeId
  /-- The invite had not ended. -/
  live : a.now < i.expiresAt
  /-- The cluster -/
  cluster : a.clusterId = i.clusterId
  /-- and the term are those of the invite. -/
  epoch : a.epoch = i.epoch

namespace Cluster

variable {H : InviteHash} {c c' : Cluster} {l : Ledger}

/-- What holds of a cluster and its ledger all along.  Kind: D -/
structure Kept (H : InviteHash) (c : Cluster) (l : Ledger) : Prop where
  /-- The issued invites have a raw token and its digest. -/
  issued : ∀ i ∈ l.issued, H.isDigest i.token = false ∧ i.tokenHash = H.hash i.token
  /-- No two of them have one digest. -/
  distinct : (l.issued.map InviteRecord.tokenHash).Nodup
  /-- Every active invite is filed under its token or its digest, -/
  filed : ∀ key i, c.invites.get? key = some i → Filed H key i
  /-- and is one that was issued. -/
  origin : ∀ key i, c.invites.get? key = some i → ∃ j ∈ l.issued, SameInvite j i
  /-- No invite is filed twice. -/
  alone : ∀ key key' i i', c.invites.get? key = some i → c.invites.get? key' = some i' →
    i.tokenHash = i'.tokenHash → key = key'
  /-- An invite that admitted its target is not active. -/
  spent : ∀ a ∈ l.admitted, ∀ key i, c.invites.get? key = some i →
    i.tokenHash ≠ a.invite.tokenHash
  /-- No invite admitted twice. -/
  once : (l.admitted.map fun a => a.invite.tokenHash).Nodup
  /-- Every admission was one of an issued invite. -/
  own : ∀ a ∈ l.admitted, ∃ j ∈ l.issued, InviteAdmission.Of a j

/-- Only the active invites matter, and dropping some does no harm.  Kind: L -/
theorem Kept.mono (h : Kept H c l)
    (hsub : ∀ key i, c'.invites.get? key = some i → c.invites.get? key = some i) :
    Kept H c' l where
  issued := h.issued
  distinct := h.distinct
  filed key i hget := h.filed key i (hsub key i hget)
  origin key i hget := h.origin key i (hsub key i hget)
  alone key key' i i' hget hget' := h.alone key key' i i' (hsub key i hget) (hsub key' i' hget')
  spent a ha key i hget := h.spent a ha key i (hsub key i hget)
  once := h.once
  own := h.own

/-- The invariant depends on the table of invites.  Kind: L -/
theorem Kept.of_invites (h : Kept H c l) (heq : c'.invites = c.invites) : Kept H c' l :=
  h.mono fun _ _ hget => heq ▸ hget

/-- What `create_invite` returns and files.  Kind: L -/
theorem createInvite_eq_ok {target : NodeId} {token : String} {now : ℚ} {invite : InviteRecord}
    (h : Cluster.createInvite H target token now c = .ok invite c') :
    invite.token = token ∧ invite.tokenHash = H.hash token ∧
      c' = { c with invites := c.invites.insert token invite } := by
  simp only [Cluster.createInvite, PyM.get_bind_eq_ok, PyM.raiseIf_bind_eq_ok,
    PyM.ofExcept_bind_eq_ok, PyM.set_bind_eq_ok, PyM.pure_eq_ok] at h
  obtain ⟨_, i, hnew, rfl, rfl⟩ := h
  unfold InviteRecord.new at hnew
  split at hnew
  · cases hnew
    exact ⟨rfl, rfl, rfl⟩
  · cases hnew

/-- A refused `create_invite` changes nothing.  Kind: L -/
theorem createInvite_eq_error {target : NodeId} {token : String} {now : ℚ} {e : PyError}
    (h : Cluster.createInvite H target token now c = .error e c') : c' = c := by
  simp only [Cluster.createInvite, PyM.get_bind_eq_error, PyM.raiseIf_bind_eq_error,
    PyM.ofExcept_bind_eq_error, PyM.set_bind_eq_error, PyM.pure_eq_error] at h
  rcases h with ⟨_, _, hs⟩ | ⟨_, ⟨_, hs⟩ | ⟨_, _, hfalse⟩⟩
  · exact hs.symm
  · exact hs
  · exact hfalse.elim

/-- A new invite has a digest that no issued one has.  Kind: L -/
theorem Kept.hash_ne (h : Kept H c l) {token : String} (hfresh : ∀ i ∈ l.issued, i.token ≠ token) :
    ∀ i ∈ l.issued, i.tokenHash ≠ H.hash token := by
  intro i hi heq
  rw [(h.issued i hi).2] at heq
  exact hfresh i hi (H.hash_injective heq)

/-- A fresh invite keeps the invariant.  Kind: L -/
theorem Kept.createInvite (h : Kept H c l) {target : NodeId} {token : String} {now : ℚ}
    (hfresh : (InviteEvent.createInvite target token now).Fresh H l) {invite : InviteRecord}
    (hc : Cluster.createInvite H target token now c = .ok invite c') :
    Kept H c' { l with issued := invite :: l.issued } := by
  obtain ⟨hdigest, hnew⟩ := hfresh
  obtain ⟨htoken, hhash, rfl⟩ := createInvite_eq_ok hc
  have hne := h.hash_ne hnew
  -- an invite with the new digest is the new one
  have hother : ∀ key i, c.invites.get? key = some i → i.tokenHash ≠ H.hash token := by
    intro key i hget heq
    obtain ⟨j, hj, hsame⟩ := h.origin key i hget
    exact hne j hj (hsame.tokenHash.symm.trans heq)
  have hcases : ∀ key i, (c.invites.insert token invite).get? key = some i →
      (key = token ∧ i = invite) ∨ c.invites.get? key = some i := by
    intro key i hget
    rw [Dict.get?_insert] at hget
    split at hget
    · rename_i hkey
      exact .inl ⟨hkey.symm, (Option.some.inj hget).symm⟩
    · exact .inr hget
  constructor
  case issued =>
    intro i hi
    rcases List.mem_cons.mp hi with rfl | hold
    · exact ⟨htoken ▸ hdigest, htoken.symm ▸ hhash⟩
    · exact h.issued i hold
  case distinct =>
    rw [List.map_cons, List.nodup_cons]
    refine ⟨fun hmem => ?_, h.distinct⟩
    obtain ⟨i, hi, heq⟩ := List.mem_map.mp hmem
    exact hne i hi (heq.trans hhash)
  case filed =>
    intro key i hget
    rcases hcases key i hget with ⟨rfl, rfl⟩ | hold
    · exact .inl ⟨hdigest, hhash⟩
    · exact h.filed key i hold
  case origin =>
    intro key i hget
    rcases hcases key i hget with ⟨_, rfl⟩ | hold
    · exact ⟨i, List.mem_cons_self, rfl, rfl, rfl, rfl, rfl⟩
    · obtain ⟨j, hj, hsame⟩ := h.origin key i hold
      exact ⟨j, List.mem_cons_of_mem _ hj, hsame⟩
  case alone =>
    intro key key' i i' hget hget' heq
    rcases hcases key i hget with ⟨rfl, rfl⟩ | hold
    · rcases hcases key' i' hget' with ⟨rfl, _⟩ | hold'
      · rfl
      · exact absurd (heq.symm.trans hhash) (hother key' i' hold')
    · rcases hcases key' i' hget' with ⟨_, rfl⟩ | hold'
      · exact absurd (heq.trans hhash) (hother key i hold)
      · exact h.alone key key' i i' hold hold' heq
  case spent =>
    intro a ha key i hget
    rcases hcases key i hget with ⟨_, rfl⟩ | hold
    · obtain ⟨j, hj, hof⟩ := h.own a ha
      rw [hhash, hof.invite]
      exact fun heq => hne j hj heq.symm
    · exact h.spent a ha key i hold
  case once => exact h.once
  case own =>
    intro a ha
    obtain ⟨j, hj, hof⟩ := h.own a ha
    exact ⟨j, List.mem_cons_of_mem _ hj, hof⟩

/-- What is left of the invites once one is spent.  Kind: L -/
theorem get?_of_spent {token key : String} {i : InviteRecord}
    (hget : (c.spent H token).invites.get? key = some i) :
    key ≠ token ∧ key ≠ H.hash token ∧ c.invites.get? key = some i := by
  simp only [Cluster.spent, Dict.get?_erase] at hget
  split at hget
  · cases hget
  · split at hget
    · cases hget
    · rename_i hhash htoken
      exact ⟨Ne.symm htoken, Ne.symm hhash, hget⟩

/-- `assign` leaves the invites alone.  Kind: L -/
theorem invites_after_assign (node : NodeId) (role : ClusterRole) (now : ℚ) (c : Cluster) :
    ((Cluster.assign node role now).after c).invites = c.invites := by
  cases hrun : Cluster.assign node role now c with
  | ok u c' =>
      obtain ⟨s, t, change, _, _, rfl⟩ := assign_eq_ok hrun
      rw [PyM.after_of_ok hrun]
      rfl
  | error e c' => rw [PyM.after_of_error hrun, assign_eq_error hrun]

/-- `revoke` leaves the invites alone.  Kind: L -/
theorem invites_after_revoke (node : NodeId) (c : Cluster) :
    ((Cluster.revoke node).after c).invites = c.invites := by
  cases hrun : Cluster.revoke node c with
  | ok u c' =>
      rw [PyM.after_of_ok hrun]
      rcases revoke_eq_ok hrun with rfl | ⟨s, t, _, _, rfl⟩
      · rfl
      · rfl
  | error e c' => rw [PyM.after_of_error hrun, revoke_eq_error hrun]

/-- An admission: the invite was active, so it had not admitted anybody, and it is not active any
more under any key.  Kind: L -/
theorem Kept.admitting (h : Kept H c l) {token : String} {target : NodeId} {now : ℚ}
    {invite : InviteRecord} (hspends : Spends H c token target now invite)
    (hc : c'.invites = (c.spent H token).invites) :
    Kept H c' { l with
      admitted := ⟨invite, target, now, c.clusterId, c.epoch.epoch⟩ :: l.admitted } := by
  obtain ⟨key, hkey, hfound⟩ : ∃ key, (key = token ∨ key = H.hash token) ∧
      c.invites.get? key = some invite := by
    have hlookup := hspends.found
    rw [lookupInvite, Option.or_eq_some_iff] at hlookup
    rcases hlookup with hraw | ⟨_, hdigest⟩
    · exact ⟨token, .inl rfl, hraw⟩
    · exact ⟨H.hash token, .inr rfl, hdigest⟩
  have hkept : Kept H c' l := by
    refine h.mono fun key' i hget => ?_
    rw [hc] at hget
    exact (get?_of_spent hget).2.2
  refine ⟨hkept.issued, hkept.distinct, hkept.filed, hkept.origin, hkept.alone, ?_, ?_, ?_⟩
  · intro a ha key' i hget
    rcases List.mem_cons.mp ha with rfl | hold
    · intro heq
      rw [hc] at hget
      obtain ⟨htoken, hhash, hget⟩ := get?_of_spent hget
      have hsame := h.alone key' key i invite hget hfound heq
      rcases hkey with rfl | rfl
      · exact htoken hsame
      · exact hhash hsame
    · exact hkept.spent a hold key' i hget
  · rw [List.map_cons, List.nodup_cons]
    refine ⟨fun hmem => ?_, h.once⟩
    obtain ⟨a, ha, heq⟩ := List.mem_map.mp hmem
    exact h.spent a ha key invite hfound heq.symm
  · intro a ha
    rcases List.mem_cons.mp ha with rfl | hold
    · obtain ⟨j, hj, hsame⟩ := h.origin key invite hfound
      refine ⟨j, hj, hsame.tokenHash, ?_, ?_, ?_, ?_⟩
      · rw [← hsame.targetNodeId]
        exact (NodeId.value_of_new hspends.target).symm
      · rw [← hsame.expiresAt]
        exact hspends.live
      · rw [← hsame.clusterId]
        exact hspends.cluster.symm
      · rw [← hsame.epoch]
        exact hspends.epoch.symm
    · exact h.own a hold

/-- Redeeming keeps the invariant.  Kind: L -/
theorem Kept.consumeInvite (h : Kept H c l) (token : String) (target : NodeId) (now : ℚ)
    (allowRetry : Bool) :
    Kept H ((InviteEvent.consumeInvite token target now allowRetry).apply H (c, l)).1
      ((InviteEvent.consumeInvite token target now allowRetry).apply H (c, l)).2 := by
  simp only [InviteEvent.apply]
  cases hrun : Cluster.consumeInvite H token target now allowRetry c with
  | error e c' =>
      simp only
      rcases consumeInvite_eq_error hrun with rfl | ⟨_, _, rfl⟩
      · exact h
      · exact h.mono fun key i hget => (get?_of_spent hget).2.2
  | ok invite c' =>
      rcases consumeInvite_eq_ok hrun with ⟨hadm, _, _, hsame⟩ | ⟨hspends, u, c₁, hassign, rfl⟩
      · have hcontains : c.joinAdmissions.contains (H.hash token) = true := by
          simp [Dict.contains, hadm]
        simp only [hcontains, if_true]
        rw [hsame]
        exact h
      · have hcontains : c.joinAdmissions.contains (H.hash token) = false := by
          simp [Dict.contains, hspends.noAdmission]
        simp only [hcontains, Bool.false_eq_true, if_false]
        have hinvites := invites_after_assign target .worker now (c.spent H token)
        rw [PyM.after_of_ok hassign] at hinvites
        exact h.admitting hspends hinvites

/-- A restart files each invite once, under its digest.  Kind: L -/
theorem Kept.restart (h : Kept H c l) (hc : c.restart H = .ok c') : Kept H c' l := by
  have hinvites := (restart_eq_ok hc).2
  constructor
  case issued => exact h.issued
  case distinct => exact h.distinct
  case filed =>
    intro key i hget
    obtain ⟨hkey, key₀, old, hold, hsame⟩ := hinvites key i hget
    have hdigest := (h.filed key₀ old hold).isDigest_tokenHash
    rw [← hsame.tokenHash, ← hkey] at hdigest
    exact .inr ⟨hdigest, hkey.symm⟩
  case origin =>
    intro key i hget
    obtain ⟨_, key₀, old, hold, hsame⟩ := hinvites key i hget
    obtain ⟨j, hj, hsame'⟩ := h.origin key₀ old hold
    exact ⟨j, hj, hsame'.trans hsame⟩
  case alone =>
    intro key key' i i' hget hget' heq
    rw [(hinvites key i hget).1, (hinvites key' i' hget').1]
    exact heq
  case spent =>
    intro a ha key i hget
    obtain ⟨_, key₀, old, hold, hsame⟩ := hinvites key i hget
    rw [hsame.tokenHash]
    exact h.spent a ha key₀ old hold
  case once => exact h.once
  case own => exact h.own

/-- One event keeps the invariant.  Kind: L -/
theorem Kept.apply (h : Kept H c l) (e : InviteEvent) (hfresh : e.Fresh H l) :
    Kept H (e.apply H (c, l)).1 (e.apply H (c, l)).2 := by
  cases e with
  | createInvite target token now =>
      simp only [InviteEvent.apply]
      cases hrun : Cluster.createInvite H target token now c with
      | ok invite c' => exact h.createInvite hfresh hrun
      | error e c' =>
          simp only
          rw [createInvite_eq_error hrun]
          exact h
  | consumeInvite token target now allowRetry => exact h.consumeInvite token target now allowRetry
  | assign node role now => exact h.of_invites (invites_after_assign node role now c)
  | revoke node => exact h.of_invites (invites_after_revoke node c)
  | changeEpoch epoch promotionEpochs assignments grants => exact h.of_invites rfl
  | restart =>
      simp only [InviteEvent.apply]
      cases hrun : c.restart H with
      | ok c' => exact h.restart hrun
      | error e => exact h

/-- The invariant holds in every life.  Kind: L -/
theorem Lives.kept {s : Cluster × Ledger} (h : Lives H s) : Kept H s.1 s.2 := by
  induction h with
  | create h =>
      simp only [Cluster.create, Except.bind_eq_ok, Except.pure_eq_ok] at h
      obtain ⟨epoch, -, rfl⟩ := h
      constructor
      all_goals simp
  | step e hs hfresh ih => exact ih.apply e hfresh

/-- The lookups find nothing for the token of an invite that admitted its target.  Kind: L -/
theorem Kept.not_found (h : Kept H c l) {a : InviteAdmission} (ha : a ∈ l.admitted)
    {i : InviteRecord}
    (hi : i ∈ l.issued) (hof : a.invite.tokenHash = i.tokenHash) (invite : InviteRecord) :
    c.lookupInvite H i.token ≠ some invite := by
  obtain ⟨hdigest, hhash⟩ := h.issued i hi
  intro hfound
  rw [lookupInvite, Option.or_eq_some_iff] at hfound
  have hspent : ∀ key, c.invites.get? key = some invite → invite.tokenHash = H.hash i.token →
      False := fun key hget heq =>
    h.spent a ha key invite hget (heq.trans (hhash.symm.trans hof.symm))
  rcases hfound with hraw | ⟨_, hfiled⟩
  · rcases h.filed _ _ hraw with ⟨_, heq⟩ | ⟨hd, _⟩
    · exact hspent _ hraw heq
    · rw [hdigest] at hd
      cases hd
  · rcases h.filed _ _ hfiled with ⟨hd, _⟩ | ⟨_, heq⟩
    · rw [H.isDigest_hash] at hd
      cases hd
    · exact hspent _ hfiled heq

/-- The token of an invite that admitted its target is refused, without a trace.  Kind: L -/
theorem Kept.refused (h : Kept H c l) {a : InviteAdmission} (ha : a ∈ l.admitted) {i : InviteRecord}
    (hi : i ∈ l.issued) (hof : a.invite.tokenHash = i.tokenHash) (target : NodeId) (now : ℚ) :
    ∃ e, Cluster.consumeInvite H i.token target now false c = .error e c := by
  cases hrun : Cluster.consumeInvite H i.token target now false c with
  | ok invite c' =>
      rcases consumeInvite_eq_ok hrun with ⟨_, hretry, _⟩ | ⟨hspends, _⟩
      · cases hretry
      · exact absurd hspends.found (h.not_found ha hi hof invite)
  | error e c' =>
      rcases consumeInvite_eq_error hrun with rfl | ⟨⟨invite, hspends⟩, _⟩
      · exact ⟨e, rfl⟩
      · exact absurd hspends.found (h.not_found ha hi hof invite)

/-- An invite has at most one admission.  Kind: L -/
theorem Kept.length_admissionsOf_le (h : Kept H c l) (i : InviteRecord) :
    (l.admissionsOf i).length ≤ 1 := by
  have hcount := List.nodup_iff_count_le_one.mp h.once i.tokenHash
  rw [List.count, List.countP_map, List.countP_eq_length_filter] at hcount
  exact hcount

/-- The digest of an issued invite tells it from every other one.  Kind: L -/
theorem Kept.of_mem_admissionsOf (h : Kept H c l) {a : InviteAdmission} {i : InviteRecord}
    (hi : i ∈ l.issued) (ha : a ∈ l.admissionsOf i) : a.Of i := by
  obtain ⟨ha, heq⟩ := List.mem_filter.mp ha
  obtain ⟨j, hj, hof⟩ := h.own a ha
  have hhash : j.tokenHash = i.tokenHash := hof.invite.symm.trans (of_decide_eq_true heq)
  rw [← List.inj_on_of_nodup_map h.distinct hj hi hhash]
  exact hof

end Cluster

/-! ## At most one admission -/

/-- The invites of a cluster are one-time invites.  Kind: D -/
structure OneTime (H : InviteHash) (c : Cluster) (l : Ledger) : Prop where
  /-- Every admission was caused by an invite that was created, -/
  caused : ∀ a ∈ l.admitted, ∃ i ∈ l.issued, a ∈ l.admissionsOf i
  /-- which caused no other. -/
  once : ∀ i ∈ l.issued, (l.admissionsOf i).length ≤ 1
  /-- It admitted its own target, in time, into its own cluster and term. -/
  own : ∀ i ∈ l.issued, ∀ a ∈ l.admissionsOf i, a.Of i
  /-- Its token is refused from then on, unless as a retry. -/
  refused : ∀ i ∈ l.issued, l.admissionsOf i ≠ [] → ∀ target now,
    ∃ e, Cluster.consumeInvite H i.token target now false c = .error e c

/-- **An invite admits at most once.**  In every state of every life of a cluster, each invite that
was created has admitted at most its own target, once, in time and into its own cluster and term;
and once it has, `consume_invite` with its token raises.
Source: `cluster/operations.py`, `Cluster.create_invite`, `Cluster.consume_invite` and
`Cluster.from_state`.  Kind: P -/
theorem admits_at_most_once {H : InviteHash} {s : Cluster × Ledger} (h : Cluster.Lives H s) :
    OneTime H s.1 s.2 := by
  have hk := h.kept
  refine ⟨?_, fun i _ => hk.length_admissionsOf_le i, fun i hi a => hk.of_mem_admissionsOf hi, ?_⟩
  · intro a ha
    obtain ⟨i, hi, hof⟩ := hk.own a ha
    exact ⟨i, hi, List.mem_filter.mpr ⟨ha, decide_eq_true hof.invite⟩⟩
  · intro i hi hsome
    obtain ⟨a, ha⟩ := List.exists_mem_of_ne_nil _ hsome
    obtain ⟨ha, heq⟩ := List.mem_filter.mp ha
    exact hk.refused ha hi (of_decide_eq_true heq)

namespace Cluster

/-- A coordinator's cluster. -/
def founded : Except PyError Cluster := Cluster.create (.named "coord") "cluster" "fence" 10

/-- The worker is invited, joins, and the coordinator restarts. -/
def invitedAndJoined : List InviteEvent :=
  [.createInvite invitedWorker "token" 10, .consumeInvite "token" invitedWorker 11 false, .restart]

/-- The invite has admitted the worker and is refused after the restart. -/
theorem admits_at_most_once_joined :
    ∃ s : Cluster × Ledger, Lives markHash s ∧ (∃ i ∈ s.2.issued, s.2.admissionsOf i ≠ []) ∧
      OneTime markHash s.1 s.2 := by
  have hjoined : founded.toOption.any (fun c =>
      let l := (invitedAndJoined.foldl (fun s e => e.apply markHash s) (c, ⟨[], []⟩)).2
      l.issued.any fun i => !(l.admissionsOf i).isEmpty) = true := by decide +kernel
  cases hc : founded with
  | error e => simp [hc, Except.toOption] at hjoined
  | ok c =>
      have hfresh : InviteEvent.Fresh markHash (.createInvite invitedWorker "token" 10) ⟨[], []⟩ :=
        ⟨by decide, by simp⟩
      have hinvited := Lives.step (.createInvite invitedWorker "token" 10) (.create hc) hfresh
      have hadmitted := Lives.step (.consumeInvite "token" invitedWorker 11 false) hinvited trivial
      have hlives : Lives markHash (invitedAndJoined.foldl (fun s e => e.apply markHash s)
          (c, ⟨[], []⟩)) := .step .restart hadmitted trivial
      refine ⟨_, hlives, ?_, admits_at_most_once hlives⟩
      simpa [hc, Except.toOption] using hjoined

end Cluster

end ExpraConnect
