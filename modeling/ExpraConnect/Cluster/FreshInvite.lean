import ExpraConnect.Cluster.InviteOnce
import ExpraConnect.Cluster.RestartFacts

/-!
# A fresh invite and its target

An invite is created, other things happen to the cluster, and then its target presents the token.

* `ClusterEvent.apply`, `Cluster.play`: whatever can happen to a cluster object, in any order;
* `Tracked`: in every state reached, what the cluster stores about invites stems from tokens that
  were drawn; `Offered`: an invite that was not presented yet;
* `fresh_invite_honoured_iff`: the token admits its target as a Worker, unless the target is a
  revoked member by then.  `RoleState.assign` refuses a revoked node whoever asks, and no code
  clears the revocation.
-/

namespace ExpraConnect

open ExpraConnect.Lib

/-! ## What happens to a cluster -/

/-- A call on a cluster object, or an assignment to its fields.
Source: `cluster/operations.py`, `Cluster`; `remote/role_operations.py`, `_persist_failover_state`.
Kind: D -/
inductive ClusterEvent where
  /-- `create_invite(target, now=now)`, with the token that is drawn. -/
  | createInvite (target : NodeId) (token : String) (now : ℚ)
  /-- `consume_invite(token, target, now=now, allow_retry=allowRetry)`, also on behalf of `join`. -/
  | consumeInvite (token : String) (target : NodeId) (now : ℚ) (allowRetry : Bool)
  /-- `assign(node, role)` -/
  | assign (node : NodeId) (role : ClusterRole) (now : ℚ)
  /-- `revoke(node)` -/
  | revoke (node : NodeId)
  /-- `set_online(node, online)` -/
  | setOnline (node : NodeId) (online : Bool)
  /-- The cluster, term, members and grants are replaced: a role request, a heartbeat, a promotion,
  joining another cluster. -/
  | adopt (clusterId : String) (epoch : CoordinatorEpoch) (roles : RoleState)
  /-- A restart from the document. -/
  | restart

namespace ClusterEvent

/-- The cluster after an event, whether the call returns or raises.  Kind: D -/
def apply (H : InviteHash) : ClusterEvent → Cluster → Cluster
  | createInvite target token now, c => (Cluster.createInvite H target token now).after c
  | consumeInvite token target now allowRetry, c =>
      (Cluster.consumeInvite H token target now allowRetry).after c
  | assign node role now, c => (Cluster.assign node role now).after c
  | revoke node, c => (Cluster.revoke node).after c
  | setOnline node online, c => { c with online := c.online.insert node online }
  | adopt clusterId epoch roles, c =>
      { c.applyRoleState roles with
        clusterId := clusterId
        epoch := epoch
        promotionEpochs := roles.promotionEpochs }
  | restart, c =>
      match c.restart H with
      | .ok c' => c'
      | .error _ => c

/-- The token an event draws. -/
def drawn : ClusterEvent → Option String
  | createInvite _ token _ => some token
  | _ => none

/-- The event does not present the token of an invite, nor the digest it is stored under. -/
def Spares (H : InviteHash) (token : String) : ClusterEvent → Prop
  | consumeInvite text _ _ _ => text ≠ token ∧ text ≠ H.hash token
  | _ => True

end ClusterEvent

/-- The tokens that a sequence of events draws. -/
def drawnTokens (es : List ClusterEvent) : List String := es.filterMap ClusterEvent.drawn

theorem drawnTokens_cons (e : ClusterEvent) (es : List ClusterEvent) :
    drawnTokens (e :: es) = e.drawn.toList ++ drawnTokens es := by
  unfold drawnTokens
  rw [List.filterMap_cons]
  cases e.drawn <;> rfl

namespace Cluster

variable {H : InviteHash} {c c' : Cluster} {tokens : List String}

/-- The cluster after a sequence of events. -/
def play (H : InviteHash) (es : List ClusterEvent) (c : Cluster) : Cluster :=
  es.foldl (fun c e => e.apply H c) c

/-! ## What the calls leave behind -/

/-- `assign` changes nothing or one member.  Kind: L -/
theorem after_assign (node : NodeId) (role : ClusterRole) (now : ℚ) (c : Cluster) :
    (Cluster.assign node role now).after c = c ∨
      ∃ s, (Cluster.assign node role now).after c = c.withMember s node := by
  cases hrun : Cluster.assign node role now c with
  | ok u c' =>
      obtain ⟨_, t, _, _, _, rfl⟩ := assign_eq_ok hrun
      exact .inr ⟨t, PyM.after_of_ok hrun⟩
  | error e c' => exact .inl (by rw [PyM.after_of_error hrun, assign_eq_error hrun])

/-- `revoke` changes nothing or the role state.  Kind: L -/
theorem after_revoke (node : NodeId) (c : Cluster) :
    (Cluster.revoke node).after c = c ∨
      ∃ s, (Cluster.revoke node).after c = c.applyRoleState s := by
  cases hrun : Cluster.revoke node c with
  | ok u c' =>
      rcases revoke_eq_ok hrun with rfl | ⟨_, t, _, _, rfl⟩
      · exact .inl (PyM.after_of_ok hrun)
      · exact .inr ⟨t, PyM.after_of_ok hrun⟩
  | error e c' => exact .inl (by rw [PyM.after_of_error hrun, revoke_eq_error hrun])

/-- The cluster with the target of an invite admitted.
Source: `cluster/operations.py`, `Cluster.consume_invite`.  Kind: D -/
def admitted (H : InviteHash) (c : Cluster) (token : String) (target : NodeId) (s : RoleState)
    (invite : InviteRecord) : Cluster :=
  { (c.spent H token).withMember s target with
    joinAdmissions := c.joinAdmissions.insert (H.hash token) invite.restored }

/-- A `consume_invite` leaves the cluster alone, or spends the invite it finds, or spends it and
admits the target.  Kind: L -/
theorem after_consumeInvite (text : String) (target : NodeId) (now : ℚ) (allowRetry : Bool)
    (c : Cluster) :
    (Cluster.consumeInvite H text target now allowRetry).after c = c ∨
      ∃ invite, Spends H c text target now invite ∧
        ((Cluster.consumeInvite H text target now allowRetry).after c = c.spent H text ∨
          ∃ s, (Cluster.consumeInvite H text target now allowRetry).after c =
            c.admitted H text target s invite) := by
  cases hrun : Cluster.consumeInvite H text target now allowRetry c with
  | ok invite c' =>
      rcases consumeInvite_eq_ok hrun with ⟨_, _, _, rfl⟩ | ⟨hspends, u, c₁, hassign, rfl⟩
      · exact .inl (PyM.after_of_ok hrun)
      · obtain ⟨_, t, _, _, _, rfl⟩ := assign_eq_ok hassign
        exact .inr ⟨invite, hspends, .inr ⟨t, PyM.after_of_ok hrun⟩⟩
  | error e c' =>
      rcases consumeInvite_eq_error hrun with rfl | ⟨⟨invite, hspends⟩, -, rfl⟩
      · exact .inl (PyM.after_of_error hrun)
      · exact .inr ⟨invite, hspends, .inl (PyM.after_of_error hrun)⟩

/-! ## Everything stems from drawn tokens -/

/-- The digest is that of a drawn token, or of a text that has the form of a digest itself. -/
def Accounted (H : InviteHash) (tokens : List String) (digest : String) : Prop :=
  ∃ text, digest = H.hash text ∧ (text ∈ tokens ∨ H.isDigest text = true)

/-- What holds of a cluster whose tokens were drawn from `tokens`.  Kind: D -/
structure Tracked (H : InviteHash) (c : Cluster) (tokens : List String) : Prop where
  /-- The members are a role state, and every invite is filed under its token or its digest. -/
  sound : Sound H c
  /-- Every active invite is one of a drawn token. -/
  invites : ∀ key i, c.invites.get? key = some i → ∃ t ∈ tokens, i.tokenHash = H.hash t
  /-- Every used digest is accounted for, -/
  used : ∀ d ∈ c.usedInvites, Accounted H tokens d
  /-- and so is every admission, which is one of a drawn token. -/
  admissions : ∀ key r, c.joinAdmissions.get? key = some r →
    Accounted H tokens key ∧ ∃ t ∈ tokens, r.tokenHash = H.hash t

/-- A digest stays accounted for.  Kind: L -/
theorem Accounted.mono {digest : String} {tokens' : List String} (h : Accounted H tokens digest)
    (hsub : tokens ⊆ tokens') : Accounted H tokens' digest := by
  obtain ⟨text, hdigest, htext⟩ := h
  exact ⟨text, hdigest, htext.imp_left fun ht => hsub ht⟩

/-- More drawn tokens do no harm.  Kind: L -/
theorem Tracked.mono {tokens' : List String} (h : Tracked H c tokens) (hsub : tokens ⊆ tokens') :
    Tracked H c tokens' where
  sound := h.sound
  invites key i hget := (h.invites key i hget).imp fun _ ht => ⟨hsub ht.1, ht.2⟩
  used d hd := (h.used d hd).mono hsub
  admissions key r hget := ⟨(h.admissions key r hget).1.mono hsub,
    (h.admissions key r hget).2.imp fun _ ht => ⟨hsub ht.1, ht.2⟩⟩

/-- Changes of the members leave the invites alone.  Kind: L -/
theorem Tracked.of_frame (h : Tracked H c tokens) (hsound : Sound H c')
    (hinvites : c'.invites = c.invites) (hused : c'.usedInvites = c.usedInvites)
    (hadmissions : c'.joinAdmissions = c.joinAdmissions) : Tracked H c' tokens where
  sound := hsound
  invites := hinvites ▸ h.invites
  used := hused ▸ h.used
  admissions := hadmissions ▸ h.admissions

/-- The invite that is spent has the digest of the presented text, or is presented by its digest.
Kind: L -/
theorem Tracked.accounted (h : Tracked H c tokens) {text : String} {target : NodeId} {now : ℚ}
    {invite : InviteRecord} (hspends : Spends H c text target now invite) :
    Accounted H tokens (H.hash text) ∧ ∃ t ∈ tokens, invite.tokenHash = H.hash t := by
  rcases lookupInvite_cases h.sound hspends.found with hhash | ⟨hget, hkey⟩
  · have hfound := hspends.found
    rw [lookupInvite, Option.or_eq_some_iff] at hfound
    obtain ⟨key, hget⟩ : ∃ key, c.invites.get? key = some invite := by
      rcases hfound with hraw | ⟨-, hdigest⟩
      · exact ⟨text, hraw⟩
      · exact ⟨H.hash text, hdigest⟩
    obtain ⟨t, ht, htoken⟩ := h.invites key invite hget
    have htext : text = t := H.hash_injective (hhash.symm.trans htoken)
    exact ⟨⟨text, rfl, .inl (htext ▸ ht)⟩, t, ht, htoken⟩
  · have hdigest := (h.sound.filed text invite hget).isDigest_tokenHash
    rw [hkey] at hdigest
    exact ⟨⟨text, rfl, .inr hdigest⟩, h.invites text invite hget⟩

/-- A new cluster stems from no token.  Kind: L -/
theorem tracked_create {localId : NodeId} {clusterId fencingToken : String} {now : ℚ}
    (h : Cluster.create localId clusterId fencingToken now = .ok c) : Tracked H c [] := by
  have hsound := sound_create (H := H) h
  simp only [Cluster.create, Except.bind_eq_ok, Except.pure_eq_ok] at h
  obtain ⟨epoch, -, rfl⟩ := h
  exact ⟨hsound, by simp, by simp, by simp⟩

/-- `createInvite` keeps the cluster tracked.  Kind: L -/
theorem Tracked.createInvite (h : Tracked H c tokens) (target : NodeId) {token : String} (now : ℚ)
    (hform : H.isDigest token = false) :
    Tracked H ((Cluster.createInvite H target token now).after c) (token :: tokens) := by
  have hsound := sound_createInvite h.sound target hform now
  have hmono := h.mono (List.subset_cons_self token tokens)
  cases hrun : Cluster.createInvite H target token now c with
  | error e c' => rwa [PyM.after_of_error hrun, createInvite_eq_error hrun]
  | ok invite c' =>
      rw [PyM.after_of_ok hrun] at hsound ⊢
      obtain ⟨-, hhash, rfl⟩ := createInvite_eq_ok hrun
      refine ⟨hsound, fun key i hget => ?_, hmono.used, hmono.admissions⟩
      rw [Dict.get?_insert] at hget
      split at hget
      · cases hget
        exact ⟨token, List.mem_cons_self, hhash⟩
      · exact hmono.invites key i hget

/-- `spent` keeps the cluster tracked.  Kind: L -/
theorem Tracked.spent (h : Tracked H c tokens) {text : String} {target : NodeId} {now : ℚ}
    {invite : InviteRecord} (hspends : Spends H c text target now invite) :
    Tracked H (c.spent H text) tokens where
  sound := sound_spend h.sound text (H.hash text)
  invites key i hget := h.invites key i (get?_of_spent hget).2.2
  used d hd := by
    rcases Finset.mem_insert.mp hd with rfl | hold
    · exact (h.accounted hspends).1
    · exact h.used d hold
  admissions := h.admissions

/-- `consumeInvite` keeps the cluster tracked.  Kind: L -/
theorem Tracked.consumeInvite (h : Tracked H c tokens) (text : String) (target : NodeId) (now : ℚ)
    (allowRetry : Bool) :
    Tracked H ((Cluster.consumeInvite H text target now allowRetry).after c) tokens := by
  have hsound := sound_consumeInvite h.sound text target now allowRetry
  rcases after_consumeInvite text target now allowRetry c with
    heq | ⟨invite, hspends, heq | ⟨s, heq⟩⟩
  · rwa [heq]
  · rw [heq]
    exact h.spent hspends
  · rw [heq] at hsound ⊢
    obtain ⟨hdigest, hinvite⟩ := h.accounted hspends
    refine ⟨hsound, (h.spent hspends).invites, (h.spent hspends).used, fun key r hget => ?_⟩
    change (c.joinAdmissions.insert (H.hash text) invite.restored).get? key = some r at hget
    rw [Dict.get?_insert] at hget
    split at hget
    · rename_i hkey
      cases hget
      exact ⟨hkey ▸ hdigest, hinvite⟩
    · exact h.admissions key r hget

/-- What is found in a table by digest.  Kind: L -/
theorem get?_byDigest {d : Dict String InviteRecord} {key : String} {r : InviteRecord}
    (h : (byDigest d.values).get? key = some r) :
    key = r.tokenHash ∧ ∃ key₀ i, d.get? key₀ = some i ∧ r = i.restored := by
  obtain ⟨i, hi, heq⟩ := List.mem_map.mp (Dict.mem_of_get?_ofList h)
  cases heq
  obtain ⟨key₀, hget⟩ := Dict.mem_values_iff.mp hi
  exact ⟨rfl, key₀, i, hget, rfl⟩

/-- A digest that was used is stored as it is.  Kind: L -/
theorem Tracked.usedInvites_restarted (h : Tracked H c tokens) :
    (c.restarted H).usedInvites = c.usedInvites := by
  have hstep : ∀ item ∈ c.usedInvites,
      (if H.isDigest item = true then item else H.hash item) = item := by
    intro item hitem
    obtain ⟨text, rfl, -⟩ := h.used item hitem
    rw [if_pos (H.isDigest_hash text)]
  change c.usedInvites.image (fun item => if H.isDigest item then item else H.hash item) = _
  rw [Finset.image_congr hstep, Finset.image_id']

/-- `restart` keeps the cluster tracked.  Kind: L -/
theorem Tracked.restart (h : Tracked H c tokens) (hc : c.restart H = .ok c') :
    Tracked H c' tokens := by
  have hsound := sound_restart h.sound hc
  obtain ⟨-, rfl⟩ := restart_eq_ok_iff.mp hc
  refine ⟨hsound, fun key r hget => ?_, h.usedInvites_restarted.symm ▸ h.used,
    fun key r hget => ?_⟩
  · obtain ⟨-, key₀, i, hold, rfl⟩ := get?_byDigest hget
    exact h.invites key₀ i hold
  · obtain ⟨hkey, key₀, i, hold, rfl⟩ := get?_byDigest hget
    obtain ⟨t, ht, hhash⟩ := (h.admissions key₀ i hold).2
    exact ⟨⟨t, hkey.trans hhash, .inl ht⟩, t, ht, hhash⟩

/-- One event keeps the invariant.  Kind: L -/
theorem Tracked.apply (h : Tracked H c tokens) (e : ClusterEvent)
    (hform : ∀ t, e.drawn = some t → H.isDigest t = false) :
    Tracked H (e.apply H c) (e.drawn.toList ++ tokens) := by
  cases e with
  | createInvite target token now => exact h.createInvite target now (hform token rfl)
  | consumeInvite text target now allowRetry => exact h.consumeInvite text target now allowRetry
  | assign node role now =>
      have hsound := sound_assign h.sound node role now
      simp only [ClusterEvent.apply]
      rcases after_assign node role now c with heq | ⟨s, heq⟩
      · rwa [heq]
      · rw [heq] at hsound ⊢
        exact h.of_frame hsound rfl rfl rfl
  | revoke node =>
      have hsound := sound_revoke h.sound node
      simp only [ClusterEvent.apply]
      rcases after_revoke node c with heq | ⟨s, heq⟩
      · rwa [heq]
      · rw [heq] at hsound ⊢
        exact h.of_frame hsound rfl rfl rfl
  | setOnline node online => exact h.of_frame ⟨h.sound.valid, h.sound.filed⟩ rfl rfl rfl
  | adopt clusterId epoch roles =>
      have hsound := sound_applyRoleState h.sound roles
      exact h.of_frame ⟨hsound.valid, hsound.filed⟩ rfl rfl rfl
  | restart =>
      simp only [ClusterEvent.apply]
      cases hrun : c.restart H with
      | ok c' => exact h.restart hrun
      | error e => exact h

/-- And so does every run.  Kind: L -/
theorem Tracked.play (h : Tracked H c tokens) (es : List ClusterEvent)
    (hform : ∀ t ∈ drawnTokens es, H.isDigest t = false) :
    Tracked H (c.play H es) (drawnTokens es ++ tokens) := by
  induction es generalizing c tokens with
  | nil => exact h
  | cons e es ih =>
      rw [drawnTokens_cons] at hform ⊢
      have hstep := h.apply e fun t ht => hform t (List.mem_append_left _ (by simp [ht]))
      refine (ih hstep fun t ht => hform t (List.mem_append_right _ ht)).mono ?_
      intro t ht
      simp only [List.mem_append] at ht ⊢
      tauto

/-! ## An invite that was not presented yet -/

/-- The invite is filed and was not presented: the cluster knows its digest as that of an active
invite, and only as that.  Kind: D -/
structure Offered (H : InviteHash) (c : Cluster) (token : String) (i : InviteRecord) : Prop where
  /-- It is filed, -/
  filed : ∃ key j, c.invites.get? key = some j ∧ j.tokenHash = H.hash token
  /-- and what is filed with its digest is the invite. -/
  same : ∀ key j, c.invites.get? key = some j → j.tokenHash = H.hash token → SameInvite i j
  /-- Its digest was not used. -/
  unused : H.hash token ∉ c.usedInvites
  /-- Nobody was admitted on it. -/
  unadmitted : ∀ key r, c.joinAdmissions.get? key = some r →
    key ≠ H.hash token ∧ r.tokenHash ≠ H.hash token

section offered

variable {token : String} {i : InviteRecord}

/-- The two places where an invite with a given digest can be filed.  Kind: L -/
theorem Filed.key_eq {key : String} {j : InviteRecord} (h : Filed H key j)
    (hj : j.tokenHash = H.hash token) : key = token ∨ key = H.hash token := by
  rcases h with ⟨-, hhash⟩ | ⟨-, hkey⟩
  · exact .inl (H.hash_injective (hhash.symm.trans hj))
  · exact .inr (hkey.symm.trans hj)

/-- An invite stays offered while the tables of invites stay.  Kind: L -/
theorem Offered.of_frame (h : Offered H c token i) (hinvites : c'.invites = c.invites)
    (hused : c'.usedInvites = c.usedInvites) (hadmissions : c'.joinAdmissions = c.joinAdmissions) :
    Offered H c' token i where
  filed := hinvites ▸ h.filed
  same := hinvites ▸ h.same
  unused := hused ▸ h.unused
  unadmitted := hadmissions ▸ h.unadmitted

/-- A new invite is offered: its token is new, so nothing the cluster stores has its digest.
Kind: L -/
theorem offered_of_createInvite (h : Tracked H c tokens) {target : NodeId} {now : ℚ}
    (hform : H.isDigest token = false) (hnew : token ∉ tokens)
    (hrun : Cluster.createInvite H target token now c = .ok i c') : Offered H c' token i := by
  obtain ⟨-, hhash, rfl⟩ := createInvite_eq_ok hrun
  have haccounted : ¬Accounted H tokens (H.hash token) := by
    rintro ⟨text, heq, htext⟩
    rw [← H.hash_injective heq] at htext
    rcases htext with ht | hd
    · exact hnew ht
    · rw [hform] at hd
      cases hd
  have hother : ∀ t ∈ tokens, H.hash t ≠ H.hash token :=
    fun t ht heq => hnew (H.hash_injective heq ▸ ht)
  refine ⟨⟨token, i, Dict.get?_insert_self _ _ _, hhash⟩, fun key j hget hj => ?_,
    fun hused => haccounted (h.used _ hused), fun key r hget => ?_⟩
  · rw [Dict.get?_insert] at hget
    split at hget
    · cases hget
      exact ⟨rfl, rfl, rfl, rfl, rfl⟩
    · obtain ⟨t, ht, heq⟩ := h.invites key j hget
      exact absurd (heq.symm.trans hj) (hother t ht)
  · obtain ⟨hkey, t, ht, heq⟩ := h.admissions key r hget
    exact ⟨fun heq' => haccounted (heq' ▸ hkey), fun heq' => hother t ht (heq.symm.trans heq')⟩

/-- An invite that is not presented stays offered through `createInvite`.  Kind: L -/
theorem Offered.createInvite (h : Offered H c token i) (hsound : Sound H c) (target : NodeId)
    {text : String} (now : ℚ) (hform : H.isDigest text = false) (hne : text ≠ token) :
    Offered H ((Cluster.createInvite H target text now).after c) token i := by
  cases hrun : Cluster.createInvite H target text now c with
  | error e c' => rwa [PyM.after_of_error hrun, createInvite_eq_error hrun]
  | ok invite c' =>
      rw [PyM.after_of_ok hrun]
      obtain ⟨-, hhash, rfl⟩ := createInvite_eq_ok hrun
      refine ⟨?_, fun key j hget hj => ?_, h.unused, h.unadmitted⟩
      · obtain ⟨key, j, hget, hj⟩ := h.filed
        refine ⟨key, j, ?_, hj⟩
        have hkey : text ≠ key := by
          rintro rfl
          rcases (hsound.filed _ j hget).key_eq hj with heq | heq
          · exact hne heq
          · rw [heq, H.isDigest_hash] at hform
            cases hform
        rwa [Dict.get?_insert_of_ne _ _ hkey]
      · rw [Dict.get?_insert] at hget
        split at hget
        · cases hget
          exact absurd (H.hash_injective (hhash.symm.trans hj)) hne
        · exact h.same key j hget hj

/-- An invite that is not presented stays offered through `spent`.  Kind: L -/
theorem Offered.spent (h : Offered H c token i) (hsound : Sound H c) {text : String}
    (hform : H.isDigest token = false) (htoken : text ≠ token) (hdigest : text ≠ H.hash token) :
    Offered H (c.spent H text) token i where
  filed := by
    obtain ⟨key, j, hget, hj⟩ := h.filed
    refine ⟨key, j, ?_, hj⟩
    have hhash : H.hash text ≠ H.hash token := fun heq => htoken (H.hash_injective heq)
    have hraw : H.hash text ≠ token := by
      rintro rfl
      rw [H.isDigest_hash] at hform
      cases hform
    simp only [Cluster.spent, Dict.get?_erase]
    rcases (hsound.filed key j hget).key_eq hj with rfl | rfl
    · rw [if_neg hraw, if_neg htoken, hget]
    · rw [if_neg hhash, if_neg hdigest, hget]
  same key j hget hj := h.same key j (get?_of_spent hget).2.2 hj
  unused hmem := by
    rcases Finset.mem_insert.mp hmem with heq | hold
    · exact htoken (H.hash_injective heq.symm)
    · exact h.unused hold
  unadmitted := h.unadmitted

/-- An invite that is not presented stays offered through `consumeInvite`.  Kind: L -/
theorem Offered.consumeInvite (h : Offered H c token i) (hsound : Sound H c) {text : String}
    (target : NodeId) (now : ℚ) (allowRetry : Bool) (hform : H.isDigest token = false)
    (htoken : text ≠ token) (hdigest : text ≠ H.hash token) :
    Offered H ((Cluster.consumeInvite H text target now allowRetry).after c) token i := by
  have hspent := h.spent hsound hform htoken hdigest
  rcases after_consumeInvite text target now allowRetry c with
    heq | ⟨invite, hspends, heq | ⟨s, heq⟩⟩
  · rwa [heq]
  · rwa [heq]
  · rw [heq]
    refine ⟨hspent.filed, hspent.same, hspent.unused, fun key r hget => ?_⟩
    change (c.joinAdmissions.insert (H.hash text) invite.restored).get? key = some r at hget
    rw [Dict.get?_insert] at hget
    split at hget
    · rename_i hkey
      cases hget
      refine ⟨fun heq' => htoken (H.hash_injective (hkey.trans heq')), fun heq' => ?_⟩
      change invite.tokenHash = H.hash token at heq'
      rcases lookupInvite_cases hsound hspends.found with hhash | ⟨-, hkey'⟩
      · exact htoken (H.hash_injective (hhash.symm.trans heq'))
      · exact hdigest (hkey'.symm.trans heq')
    · exact h.unadmitted key r hget

/-- An invite that is not presented stays offered through `restart`.  Kind: L -/
theorem Offered.restart (h : Offered H c token i) (ht : Tracked H c tokens)
    (hc : c.restart H = .ok c') : Offered H c' token i := by
  obtain ⟨-, rfl⟩ := restart_eq_ok_iff.mp hc
  refine ⟨?_, fun key j hget hj => ?_, ht.usedInvites_restarted.symm ▸ h.unused,
    fun key r hget => ?_⟩
  · obtain ⟨key, j, hget, hj⟩ := h.filed
    have hmem : (j.tokenHash, j.restored) ∈
        c.invites.values.map fun i => (i.tokenHash, i.restored) :=
      List.mem_map.mpr ⟨j, Dict.mem_values_iff.mpr ⟨key, hget⟩, rfl⟩
    obtain ⟨r, hr⟩ := Option.isSome_iff_exists.mp (Dict.isSome_get?_ofList hmem)
    exact ⟨j.tokenHash, r, hr, (get?_byDigest hr).1.symm.trans hj⟩
  · obtain ⟨-, key₀, old, hold, rfl⟩ := get?_byDigest hget
    exact (h.same key₀ old hold hj).trans ⟨rfl, rfl, rfl, rfl, rfl⟩
  · obtain ⟨hkey, key₀, old, hold, rfl⟩ := get?_byDigest hget
    exact ⟨hkey ▸ (h.unadmitted key₀ old hold).2, (h.unadmitted key₀ old hold).2⟩

/-- One event that does not present the invite leaves it offered.  Kind: L -/
theorem Offered.apply (h : Offered H c token i) (ht : Tracked H c tokens)
    (hform : H.isDigest token = false) (e : ClusterEvent) (hspares : e.Spares H token)
    (hdrawn : ∀ t, e.drawn = some t → H.isDigest t = false ∧ t ≠ token) :
    Offered H (e.apply H c) token i := by
  cases e with
  | createInvite target text now =>
      exact h.createInvite ht.sound target now (hdrawn text rfl).1 (hdrawn text rfl).2
  | consumeInvite text target now allowRetry =>
      exact h.consumeInvite ht.sound target now allowRetry hform hspares.1 hspares.2
  | assign node role now =>
      simp only [ClusterEvent.apply]
      rcases after_assign node role now c with heq | ⟨s, heq⟩
      · rwa [heq]
      · rw [heq]
        exact h.of_frame rfl rfl rfl
  | revoke node =>
      simp only [ClusterEvent.apply]
      rcases after_revoke node c with heq | ⟨s, heq⟩
      · rwa [heq]
      · rw [heq]
        exact h.of_frame rfl rfl rfl
  | setOnline node online => exact h.of_frame rfl rfl rfl
  | adopt clusterId epoch roles => exact h.of_frame rfl rfl rfl
  | restart =>
      simp only [ClusterEvent.apply]
      cases hrun : c.restart H with
      | ok c' => exact h.restart ht hrun
      | error e => exact h

/-- And so does every run.  Kind: L -/
theorem Offered.play (h : Offered H c token i) (ht : Tracked H c tokens)
    (hform : H.isDigest token = false) (es : List ClusterEvent)
    (hspares : ∀ e ∈ es, e.Spares H token)
    (hdrawn : ∀ t ∈ drawnTokens es, H.isDigest t = false ∧ t ≠ token) :
    Offered H (c.play H es) token i := by
  induction es generalizing c tokens with
  | nil => exact h
  | cons e es ih =>
      rw [drawnTokens_cons] at hdrawn
      have hhead : ∀ t, e.drawn = some t → H.isDigest t = false ∧ t ≠ token :=
        fun t htoken => hdrawn t (List.mem_append_left _ (by simp [htoken]))
      exact ih (h.apply ht hform e (hspares e List.mem_cons_self) hhead)
        (ht.apply e fun t htoken => (hhead t htoken).1)
        (fun e' he' => hspares e' (List.mem_cons_of_mem _ he'))
        fun t htoken => hdrawn t (List.mem_append_right _ htoken)

/-- The lookups of `consume_invite` find an offered invite.  Kind: L -/
theorem Offered.lookupInvite (h : Offered H c token i) (hsound : Sound H c)
    (hform : H.isDigest token = false) :
    ∃ j, c.lookupInvite H token = some j ∧ SameInvite i j := by
  obtain ⟨key, j, hget, hj⟩ := h.filed
  cases hraw : c.invites.get? token with
  | some r =>
      have hhash : r.tokenHash = H.hash token := by
        rcases hsound.filed token r hraw with ⟨-, hhash⟩ | ⟨hdigest, -⟩
        · exact hhash
        · rw [hform] at hdigest
          cases hdigest
      exact ⟨r, by simp [Cluster.lookupInvite, hraw], h.same token r hraw hhash⟩
  | none =>
      rcases (hsound.filed key j hget).key_eq hj with rfl | rfl
      · rw [hraw] at hget
        cases hget
      · exact ⟨j, by simp [Cluster.lookupInvite, hraw, hget], h.same _ j hget hj⟩

/-! ## Presenting it -/

/-- `consume_invite` returns and the target is a non-revoked Worker afterwards.  Kind: D -/
def Honoured (H : InviteHash) (c : Cluster) (token : String) (target : NodeId) (now : ℚ)
    (allowRetry : Bool) : Prop :=
  ∃ invite c', Cluster.consumeInvite H token target now allowRetry c = .ok invite c' ∧
    c'.Holds target .worker

/-- An offered invite that passes the checks of `consume_invite` is one it spends.  Kind: L -/
theorem Offered.spends (h : Offered H c token i) (hsound : Sound H c)
    (hform : H.isDigest token = false) {target : NodeId} {now : ℚ}
    (hlead : c.isActiveCoordinator = true) (hlive : now < i.expiresAt)
    (htarget : i.targetNodeId = target.value) (hcluster : i.clusterId = c.clusterId)
    (hepoch : i.epoch = c.epoch.epoch) : ∃ j, Spends H c token target now j := by
  obtain ⟨j, hfound, hsame⟩ := h.lookupInvite hsound hform
  refine ⟨j, hlead, ?_, hfound, h.unused, hsame.expiresAt ▸ hlive, ?_, hsame.clusterId ▸ hcluster,
    hsame.epoch ▸ hepoch⟩
  · cases hadm : c.joinAdmissions.get? (H.hash token) with
    | none => rfl
    | some r => exact absurd rfl (h.unadmitted _ r hadm).1
  · rw [hsame.targetNodeId, htarget, NodeId.new_value]

/-- A `consume_invite` that spends its invite honours it exactly if the target is not revoked.
Kind: L -/
theorem honoured_iff {target : NodeId} {now : ℚ} {j : InviteRecord}
    (hspends : Spends H c token target now j) (hsound : Sound H c) (hother : target ≠ c.localId)
    (allowRetry : Bool) :
    Honoured H c token target now allowRetry ↔
      ∀ a, c.assignments.get? target = some a → a.revoked = false := by
  have hassign := assign_worker_iff (sound_spend hsound token (H.hash token)).valid
    hspends.leads target now
  constructor
  · rintro ⟨invite, c', hrun, -⟩
    rcases consumeInvite_eq_ok hrun with ⟨hadm, -⟩ | ⟨-, u, c₁, hok, -⟩
    · rw [hspends.noAdmission] at hadm
      cases hadm
    · exact (hassign.mp ⟨c₁, hok⟩).2
  · intro hclear
    obtain ⟨c₁, hok⟩ := hassign.mpr ⟨hother, hclear⟩
    obtain ⟨s, t, change, -, hwrite, rfl⟩ := assign_eq_ok hok
    obtain ⟨hget, hrevoked, hroles⟩ := get?_withMember (c := c.spent H token) hwrite
    have hrun := consumeInvite_of_spends allowRetry hspends
    simp only [spent] at hget hrun
    rw [hok] at hrun
    exact ⟨j, _, hrun, change.assignment, hget, hrevoked, by rw [hroles]; decide⟩

end offered

/-- An event leaves the local node what it is.  Kind: L -/
theorem localId_apply (e : ClusterEvent) (c : Cluster) : (e.apply H c).localId = c.localId := by
  cases e with
  | createInvite target token now =>
      simp only [ClusterEvent.apply]
      cases hrun : Cluster.createInvite H target token now c with
      | ok invite c' =>
          rw [PyM.after_of_ok hrun, (createInvite_eq_ok hrun).2.2]
      | error e c' => rw [PyM.after_of_error hrun, createInvite_eq_error hrun]
  | consumeInvite text target now allowRetry =>
      simp only [ClusterEvent.apply]
      rcases after_consumeInvite text target now allowRetry c with
        heq | ⟨invite, -, heq | ⟨s, heq⟩⟩
      · rw [heq]
      · rw [heq]
        rfl
      · rw [heq]
        rfl
  | assign node role now =>
      simp only [ClusterEvent.apply]
      rcases after_assign node role now c with heq | ⟨s, heq⟩
      · rw [heq]
      · rw [heq]
        rfl
  | revoke node =>
      simp only [ClusterEvent.apply]
      rcases after_revoke node c with heq | ⟨s, heq⟩
      · rw [heq]
      · rw [heq]
        rfl
  | setOnline node online => rfl
  | adopt clusterId epoch roles => rfl
  | restart =>
      simp only [ClusterEvent.apply]
      cases hrun : c.restart H with
      | ok c' =>
          obtain ⟨-, rfl⟩ := restart_eq_ok_iff.mp hrun
          rfl
      | error e => rfl

/-- A run does not change the local node.  Kind: L -/
theorem localId_play (es : List ClusterEvent) (c : Cluster) :
    (c.play H es).localId = c.localId := by
  induction es generalizing c with
  | nil => rfl
  | cons e es ih => exact (ih (e.apply H c)).trans (localId_apply e c)

/-- The leading node's `create_invite` returns.  Kind: L -/
theorem createInvite_isOk (hlead : c.isActiveCoordinator = true) (target : NodeId) (token : String)
    (now : ℚ) :
    ∃ i, Cluster.createInvite H target token now c =
        .ok i { c with invites := c.invites.insert token i } ∧
      i.targetNodeId = target.value ∧ i.clusterId = c.clusterId ∧ i.epoch = c.epoch.epoch := by
  have hnew : ∃ i, InviteRecord.new (H.hash token) target.value (now + inviteTtlSeconds) token
      c.clusterId c.epoch.coordinatorId.value c.epoch.epoch c.epoch.fencingToken = .ok i ∧
        i.token = token ∧ i.targetNodeId = target.value ∧ i.clusterId = c.clusterId ∧
          i.epoch = c.epoch.epoch := by
    unfold InviteRecord.new
    rw [dif_pos (H.hash_ne token)]
    exact ⟨_, rfl, rfl, rfl, rfl, rfl⟩
  obtain ⟨i, hi, htoken, htarget, hcluster, hepoch⟩ := hnew
  refine ⟨i, ?_, htarget, hcluster, hepoch⟩
  simp only [Cluster.createInvite, PyM.get_bind_eq_ok, PyM.raiseIf_bind_eq_ok,
    PyM.ofExcept_bind_eq_ok, PyM.set_bind_eq_ok, PyM.pure_eq_ok]
  exact ⟨by simp [hlead], i, hi, rfl, by rw [htoken]⟩

end Cluster

/-- Over every history of a cluster: the leading node's `create_invite` for another node returns,
and whatever happens next, as long as the invite is not presented and the node leads the same
cluster in the same term again, presenting the token in time admits the target as a non-revoked
Worker exactly if the target is not a revoked member by then.
Source: `cluster/operations.py`, `Cluster.create_invite` and `Cluster.consume_invite`;
`cluster/roles.py`, `RoleState.assign`.  Kind: P -/
theorem fresh_invite_honoured_iff {H : InviteHash} {localId : NodeId}
    {clusterId fencingToken : String} {founded : ℚ} {c₀ : Cluster}
    (hcreate : Cluster.create localId clusterId fencingToken founded = .ok c₀)
    {before after : List ClusterEvent} {target : NodeId} {token : String}
    (hdistinct : (drawnTokens before ++ token :: drawnTokens after).Nodup)
    (hform : ∀ t ∈ drawnTokens before ++ token :: drawnTokens after, H.isDigest t = false)
    (hlead : (c₀.play H before).isActiveCoordinator = true) (hother : target ≠ localId)
    (hspares : ∀ e ∈ after, e.Spares H token) (created : ℚ) :
    ∃ invite c₁, Cluster.createInvite H target token created (c₀.play H before) = .ok invite c₁ ∧
      ((c₁.play H after).isActiveCoordinator = true → (c₁.play H after).clusterId = c₁.clusterId →
        (c₁.play H after).epoch.epoch = c₁.epoch.epoch → ∀ now < invite.expiresAt, ∀ allowRetry,
          (Cluster.Honoured H (c₁.play H after) token target now allowRetry ↔
            ∀ a, (c₁.play H after).assignments.get? target = some a → a.revoked = false)) := by
  have htracked := (Cluster.tracked_create (H := H) hcreate).play before
    fun t ht => hform t (List.mem_append_left _ ht)
  rw [List.append_nil] at htracked
  obtain ⟨hbefore, hrest, hdisjoint⟩ := List.nodup_append.mp hdistinct
  have hdigest : H.isDigest token = false := hform token (by simp)
  have hnew : token ∉ drawnTokens before := fun hmem =>
    hdisjoint token hmem token List.mem_cons_self rfl
  obtain ⟨invite, hrun, htarget, hcluster, hepoch⟩ :=
    Cluster.createInvite_isOk (H := H) hlead target token created
  refine ⟨invite, _, hrun, fun hlead' hcluster' hepoch' now hlive allowRetry => ?_⟩
  have htracked' := htracked.createInvite target created hdigest
  rw [PyM.after_of_ok hrun] at htracked'
  have hlater : ∀ t ∈ drawnTokens after, H.isDigest t = false ∧ t ≠ token := by
    intro t ht
    refine ⟨hform t (by simp [ht]), ?_⟩
    rintro rfl
    exact (List.nodup_cons.mp hrest).1 ht
  have hoffered := (Cluster.offered_of_createInvite htracked hdigest hnew hrun).play htracked'
    hdigest after hspares hlater
  have hsound := (htracked'.play after fun t ht => (hlater t ht).1).sound
  obtain ⟨j, hspends⟩ := hoffered.spends hsound hdigest hlead' hlive htarget
    (hcluster.trans hcluster'.symm) (hepoch.trans hepoch'.symm)
  refine Cluster.honoured_iff hspends hsound ?_ allowRetry
  have hlocal : c₀.localId = localId := by
    simp only [Cluster.create, Except.bind_eq_ok, Except.pure_eq_ok] at hcreate
    obtain ⟨epoch, -, rfl⟩ := hcreate
    rfl
  rw [Cluster.localId_play]
  change target ≠ (c₀.play H before).localId
  rwa [Cluster.localId_play, hlocal]

namespace Cluster

/-- An invite for a node that never was a member admits it, also after a restart. -/
theorem fresh_invite_honoured_restart :
    ∃ c₀ invite c₁, founded = .ok c₀ ∧
      Cluster.createInvite markHash invitedWorker "token" 10 c₀ = .ok invite c₁ ∧
        Honoured markHash (c₁.play markHash [.restart]) "token" invitedWorker 11 false := by
  have hfacts : founded.toOption.any (fun c =>
      c.isActiveCoordinator &&
      (Cluster.createInvite markHash invitedWorker "token" 10).returns c fun i c₁ =>
        let c₂ := c₁.play markHash [.restart]
        c₂.isActiveCoordinator && decide (c₂.clusterId = c₁.clusterId) &&
          decide (c₂.epoch.epoch = c₁.epoch.epoch) && decide (11 < i.expiresAt) &&
            (c₂.assignments.get? invitedWorker).isNone) = true := by decide +kernel
  obtain ⟨c₀, hc₀, hfacts⟩ := Option.any_eq_true _ _ |>.mp hfacts
  have hcreate := Except.eq_ok_of_toOption hc₀
  rw [Bool.and_eq_true] at hfacts
  have hdistinct : (drawnTokens [] ++ "token" :: drawnTokens [.restart]).Nodup := by decide
  have hform : ∀ t ∈ drawnTokens [] ++ "token" :: drawnTokens [.restart],
      markHash.isDigest t = false := by decide +kernel
  obtain ⟨invite, c₁, hrun, hhonoured⟩ := fresh_invite_honoured_iff hcreate hdistinct hform
    hfacts.1 (show invitedWorker ≠ _ by decide) (by simp [ClusterEvent.Spares]) 10
  have hlater := hfacts.2
  rw [show c₀.play markHash [] = c₀ from rfl] at hrun
  rw [PyM.returns_of_ok hrun] at hlater
  simp only [Bool.and_eq_true, decide_eq_true_eq, Option.isNone_iff_eq_none] at hlater
  obtain ⟨⟨⟨⟨hlead, hcluster⟩, hepoch⟩, hlive⟩, hnone⟩ := hlater
  refine ⟨c₀, invite, c₁, hcreate, hrun, (hhonoured hlead hcluster hepoch 11 hlive false).mpr ?_⟩
  intro a ha
  rw [hnone] at ha
  cases ha

/-- The worker was invited, joined and was revoked. -/
def joinedAndRevoked : List ClusterEvent :=
  [.createInvite invitedWorker "first" 10, .consumeInvite "first" invitedWorker 11 false,
    .revoke invitedWorker]

/-- A revoked worker is invited once more, and presents the invite in vain. -/
theorem revoked_worker_not_readmitted :
    ¬∀ (c₀ : Cluster) (before : List ClusterEvent) (target : NodeId) (token : String)
      (created now : ℚ) (invite : InviteRecord) (c₁ : Cluster), founded = .ok c₀ →
      (drawnTokens before ++ [token]).Nodup →
      (∀ t ∈ drawnTokens before ++ [token], markHash.isDigest t = false) →
      (c₀.play markHash before).isActiveCoordinator = true → target ≠ c₀.localId →
      Cluster.createInvite markHash target token created (c₀.play markHash before) =
        .ok invite c₁ → now < invite.expiresAt → Honoured markHash c₁ token target now false := by
  intro h
  have hfacts : founded.toOption.any (fun c =>
      (c.play markHash joinedAndRevoked).isActiveCoordinator &&
      decide (invitedWorker ≠ c.localId) &&
      (Cluster.createInvite markHash invitedWorker "second" 12).returns
        (c.play markHash joinedAndRevoked) fun i c₁ =>
          decide (13 < i.expiresAt) &&
            !(Cluster.consumeInvite markHash "second" invitedWorker 13 false).returns c₁
              fun _ _ => true) = true := by decide +kernel
  obtain ⟨c₀, hc₀, hfacts⟩ := Option.any_eq_true _ _ |>.mp hfacts
  simp only [Bool.and_eq_true, decide_eq_true_eq] at hfacts
  obtain ⟨⟨hlead, hother⟩, hrun⟩ := hfacts
  cases hcreate : Cluster.createInvite markHash invitedWorker "second" 12
      (c₀.play markHash joinedAndRevoked) with
  | error e c' => simp [PyM.returns_of_error hcreate] at hrun
  | ok invite c₁ =>
      simp only [PyM.returns_of_ok hcreate, Bool.and_eq_true, decide_eq_true_eq] at hrun
      obtain ⟨hlive, hrefused⟩ := hrun
      obtain ⟨r, c₂, hok, -⟩ := h c₀ joinedAndRevoked invitedWorker "second" 12 13 invite c₁
        (Except.eq_ok_of_toOption hc₀) (by decide) (by decide +kernel) hlead hother hcreate hlive
      rw [PyM.returns_of_ok hok] at hrefused
      cases hrefused

end Cluster

end ExpraConnect
