import ExpraConnect.Cluster.RoleTransitions

/-!
# What heartbeats and promotions do

Inversion lemmas for the candidates of `FailoverCoordinator`: what a heartbeat or a promotion went
through when it has one, and what the candidate is.
-/

namespace ExpraConnect

open ExpraConnect.Lib

/-- The term `e'` is `e` with the lease its holder extended at `now`, in time. -/
structure Renewed (node : NodeId) (token : String) (now : ℚ) (e e' : CoordinatorEpoch) : Prop where
  /-- The lease is extended by its holder, -/
  holder : e.coordinatorId = node
  /-- with the term's token, -/
  token : e.fencingToken = token
  /-- before it ends. -/
  alive : now < e.leaseExpiresAt
  /-- The term is the same. -/
  epoch : e'.epoch = e.epoch
  /-- So is its coordinator, -/
  coordinatorId : e'.coordinatorId = e.coordinatorId
  /-- and its token. -/
  fencingToken : e'.fencingToken = e.fencingToken
  /-- The lease never gets shorter. -/
  lease : e'.leaseExpiresAt = max e.leaseExpiresAt (now + heartbeatTimeoutSeconds)

/-- What a renewed lease says.  Kind: L -/
theorem renewed_of_renewLease {e e' : CoordinatorEpoch} {node : NodeId} {token : String} {now : ℚ}
    (h : renewLease e node token now = .ok e') : Renewed node token now e e' := by
  simp only [renewLease, Except.bind_eq_ok, Except.raiseIf_eq_ok] at h
  obtain ⟨_, hnode, same, hsame, _, htoken, _, _, _, halive, hnew⟩ := h
  obtain ⟨hepoch, hcoord, htok, _, hlease⟩ := CoordinatorEpoch.new_eq_ok hnew
  have hsame' : same = true := by simpa using htoken
  subst hsame'
  exact ⟨not_not.mp hnode, compareDigest_eq_true hsame, not_le.mp halive, hepoch, hcoord, htok,
    hlease⟩

namespace FailoverCoordinator

/-- A call that is not fenced out has returned.  Kind: L -/
theorem fencedOut_eq_some {α : Type} {r : Except PyError α} {a : α}
    (h : fencedOut r = .ok (some a)) : r = .ok a := by
  unfold fencedOut at h
  cases r with
  | ok b => simpa using h
  | error e =>
      simp only at h
      split at h <;> cases h

/-- A heartbeat's candidate is the coordinator's state with a longer lease.  Kind: L -/
theorem heartbeat_eq_some {s c : RoleState} {node : NodeId} {token : String} {now : ℚ}
    (h : heartbeat s node token now = .ok (some c)) :
    ∃ e e', s.epoch = some e ∧ c.epoch = some e' ∧ Renewed node token now e e' ∧
      c.assignments = s.assignments := by
  unfold heartbeat at h
  cases he : s.epoch with
  | none => simp [he] at h
  | some e =>
      simp only [he] at h
      obtain ⟨e', hr, hnew⟩ := Except.bind_eq_ok.mp (fencedOut_eq_some h)
      obtain ⟨_, has, hep, _, _⟩ := RoleState.new_eq_ok_iff.mp hnew
      exact ⟨e, e', rfl, hep, renewed_of_renewLease hr, has⟩

end FailoverCoordinator

/-- The term `e'` succeeds `e` of state `s`: the standby takes over once the old lease has ended. -/
structure Succeeds (s : RoleState) (now : ℚ) (token : String) (e e' : CoordinatorEpoch) :
    Prop where
  /-- The old lease has ended. -/
  due : e.leaseExpiresAt ≤ now
  /-- The new coordinator was the Subcoordinator. -/
  standby : ∃ sub, promotionCandidate s = some sub ∧ sub.nodeId = some e'.coordinatorId
  /-- The term's number is the next one. -/
  epoch : e'.epoch = e.epoch + 1
  /-- Its token is the new one. -/
  fencingToken : e'.fencingToken = token
  /-- Its lease starts at `now`. -/
  lease : e'.leaseExpiresAt = now + heartbeatTimeoutSeconds

/-- What a promotion decides.  Kind: L -/
theorem succeeds_of_promoteSubcoordinator {s : RoleState} {now : ℚ} {token : String}
    {d : PromotionDecision} (h : promoteSubcoordinator s now token = .ok d) :
    ∃ e, s.epoch = some e ∧ Succeeds s now token e d.epoch ∧
      d.assignments = RoleState.promotedList d.epoch.coordinatorId s.assignments := by
  unfold promoteSubcoordinator at h
  cases he : s.epoch with
  | none => simp [he] at h
  | some old =>
      simp only [he] at h
      cases hc : (promotionCandidate s).bind RoleAssignment.nodeId with
      | none => simp [hc] at h
      | some subId =>
          simp only [hc, Except.bind_eq_ok, Except.raiseIf_eq_ok, Except.pure_eq_ok] at h
          obtain ⟨_, hcan, e', he', as, hmap, rfl⟩ := h
          obtain ⟨hepoch, hcoord, htok, _, hlease⟩ := CoordinatorEpoch.new_eq_ok he'
          have has : RoleState.promotedList subId s.assignments = as :=
            Except.ok.inj ((RoleState.mapM_promoted subId s.assignments).symm.trans hmap)
          have hdue : old.leaseExpiresAt ≤ now := by
            unfold canPromote at hcan
            rw [he] at hcan
            split at hcan
            · rename_i heq _
              cases heq
              by_contra hlt
              simp [hlt] at hcan
            · simp at hcan
          obtain ⟨sub, hsub, hid⟩ := Option.bind_eq_some_iff.mp hc
          subst hcoord
          exact ⟨old, rfl, ⟨hdue, ⟨sub, hsub, hid⟩, hepoch, htok, hlease⟩, has.symm⟩

/-- A promotion's candidate starts the next term.  Kind: L -/
theorem FailoverCoordinator.promoteIfDue_eq_some {s c : RoleState} {now : ℚ} {token : String}
    (h : promoteIfDue s now token = .ok (some c)) :
    ∃ e e', s.epoch = some e ∧ c.epoch = some e' ∧ Succeeds s now token e e' ∧
      c.assignments = RoleState.promotedList e'.coordinatorId s.assignments := by
  unfold promoteIfDue at h
  obtain ⟨r, hr, h⟩ := Except.bind_eq_ok.mp h
  cases r with
  | none => simp at h
  | some d =>
      obtain ⟨c', hnew, hc⟩ := Except.bind_eq_ok.mp h
      simp only [Except.pure_eq_ok, Option.some.injEq] at hc
      subst hc
      obtain ⟨_, has, hep, _, _⟩ := RoleState.new_eq_ok_iff.mp hnew
      obtain ⟨e, he, hsucc, hlist⟩ := succeeds_of_promoteSubcoordinator (fencedOut_eq_some hr)
      exact ⟨e, d.epoch, he, hep, hsucc, has.trans hlist⟩

/-- A promotion keeps the assignments bound.  Kind: L -/
theorem RoleState.bound_promotedList {as : List RoleAssignment} (subId : NodeId)
    (h : ∀ a ∈ as, a.nodeId.isSome = true) :
    ∀ a ∈ promotedList subId as, a.nodeId.isSome = true := by
  intro a ha
  obtain ⟨c, hc, rfl⟩ := List.mem_map.mp ha
  split
  · rfl
  · exact h c hc

end ExpraConnect
