import ExpraConnect.Cluster.Roles

/-!
# Durable orchestration around pure failover decisions

`cluster/failover.py`.  `FailoverCoordinator` holds a `RoleState` of its own; each method computes a
candidate from it, hands it to `persist` and makes it its own state once that returned.  Here are
the candidates of `heartbeat` and `promote_if_due`, `none` where the method answers `False` instead
of committing; those of the other methods are transitions of `RoleState` as they are.
`RuntimeClusterOperations` commits them.
-/

namespace ExpraConnect

namespace FailoverCoordinator

/-- `except FencingError: return False`. -/
def fencedOut {α : Type} (r : Except PyError α) : Except PyError (Option α) :=
  match r with
  | .ok a => .ok (some a)
  | .error e => if e.kind = .fencing then .ok none else .error e

/-- Source: `cluster/failover.py`, `FailoverCoordinator.heartbeat`.  Kind: D -/
def heartbeat (state : RoleState) (coordinatorId : NodeId) (fencingToken : String) (now : ℚ) :
    Except PyError (Option RoleState) :=
  match state.epoch with
  | none => .ok none
  | some epoch => fencedOut do
      let renewed ← renewLease epoch coordinatorId fencingToken now
      RoleState.new state.assignments (some renewed) state.promotionEpochs state.capabilityGrants

/-- Source: `cluster/failover.py`, `FailoverCoordinator.promote_if_due`; `token` is
`new_fencing_token()`.  Kind: D -/
def promoteIfDue (state : RoleState) (now : ℚ) (token : String) :
    Except PyError (Option RoleState) := do
  match ← fencedOut (promoteSubcoordinator state now token) with
  | none => return none
  | some decision =>
      let candidate ← RoleState.new decision.assignments (some decision.epoch)
        (insert (decision.epoch.epoch - 1) state.promotionEpochs) decision.capabilityGrants
      return some candidate

end FailoverCoordinator

end ExpraConnect
