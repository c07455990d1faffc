import Mathlib.Data.List.Basic
import ExpraConnect.Base
import ExpraConnect.Lib.Dict
import ExpraConnect.Lib.Generations
import ExpraConnect.Lib.Text

/-!
# Capability sharing

`sharing/capabilities.py`: grants of capabilities to peers, which may be withdrawn while a request
is being handled.

* `CapabilityShare`: the handlers, the allowed capabilities by peer, and a generation by grant;
* `register`, `allow`, `revoke`, `revokePeer`, `clearGrants`: the calls, each under the lock;
* `requestFirst`, `requestSecond`: the two parts of `request` under the lock. The handler runs
  between them, while other calls may happen;
* `CapabilityShare.Coherent`: the two tables of grants agree, and generations are issued once;
* `capability_continuous`: what was granted at both parts was granted in between.

Handlers are objects of a type `η`, which are only compared, and they return values of a type `ρ`.
-/

namespace ExpraConnect

open ExpraConnect.Lib

/-! ## Data -/

/-- Source: `sharing/capabilities.py`, `MAX_CAPABILITY_ID_LENGTH`.  Kind: D -/
def maxCapabilityIdLength : ℕ := 128

/-- Source: `sharing/capabilities.py`, `validate_capability_id`.  Kind: D -/
def validateCapabilityId (capability : Value) : Except PyError String :=
  match capability with
  | .str text => do
      raiseIf (Text.isBlank text ∨ maxCapabilityIdLength < text.length)
        ⟨.value, "invalid capability"⟩
      return text
  | _ => .error ⟨.type, "capability must be a string"⟩

/-- Source: `sharing/capabilities.py`, `CapabilityShare`.  Kind: D -/
structure CapabilityShare (η : Type) where
  /-- `_handlers` -/
  handlers : Dict String η
  /-- `_allowed`, sets of capabilities. -/
  allowed : Dict NodeId (List String)
  /-- `_grant_generations` -/
  grantGenerations : Dict (NodeId × String) ℕ
  /-- `_next_generation` -/
  nextGeneration : ℕ

/-- What `request` keeps while the handler runs. -/
structure CapabilityRequest (η : Type) where
  /-- `peer_id` -/
  peerId : NodeId
  /-- `capability` -/
  capability : String
  /-- `handler` -/
  handler : η
  /-- `generation` -/
  generation : ℕ

namespace CapabilityShare

variable {η ρ : Type}

/-- Source: `sharing/capabilities.py`, `CapabilityShare.__init__`.  Kind: D -/
def new : CapabilityShare η := ⟨Dict.empty, Dict.empty, Dict.empty, 0⟩

/-! ## Calls -/

/-- `register(capability, handler)`; no handler is an object that is not callable.
Source: `sharing/capabilities.py`, `CapabilityShare.register`.  Kind: D -/
def register (capability : Value) (handler : Option η) : PyM (CapabilityShare η) Unit := do
  let capability ← PyM.ofExcept (validateCapabilityId capability)
  match handler with
  | none => throw ⟨.type, "capability handler must be callable"⟩
  | some handler =>
      let s ← get
      raiseIf ((s.handlers.get? capability).isSome = true)
        ⟨.value, "invalid or duplicate capability"⟩
      set { s with handlers := s.handlers.insert capability handler }

/-- Source: `sharing/capabilities.py`, `CapabilityShare.allow`.  Kind: D -/
def allow (peerId : NodeId) (capability : Value) : PyM (CapabilityShare η) Unit := do
  let capability ← PyM.ofExcept (validateCapabilityId capability)
  let s ← get
  raiseIf ((s.handlers.get? capability).isSome = false) ⟨.value, "unknown capability"⟩
  -- `setdefault` keeps an empty set for a new peer
  let allowed := (s.allowed.get? peerId).getD []
  set { s with allowed := s.allowed.insert peerId allowed }
  if capability ∈ allowed then return
  else
    modify fun s => { s with
      allowed := s.allowed.insert peerId (capability :: allowed)
      nextGeneration := s.nextGeneration + 1
      grantGenerations := s.grantGenerations.insert (peerId, capability) (s.nextGeneration + 1) }

/-- Source: `sharing/capabilities.py`, `CapabilityShare.revoke`.  Kind: D -/
def revoke (peerId : NodeId) (capability : Value) : PyM (CapabilityShare η) Unit := do
  let capability ← PyM.ofExcept (validateCapabilityId capability)
  let s ← get
  match s.allowed.get? peerId with
  | none => return
  | some allowed =>
      let allowed := allowed.filter (· ≠ capability)
      set { s with
        allowed := if allowed = [] then s.allowed.erase peerId else s.allowed.insert peerId allowed
        grantGenerations := s.grantGenerations.erase (peerId, capability) }

/-- Source: `sharing/capabilities.py`, `CapabilityShare.revoke_peer`.  Kind: D -/
def revokePeer (peerId : NodeId) : PyM (CapabilityShare η) Unit := do
  let s ← get
  match s.allowed.get? peerId with
  | none => return
  | some allowed =>
      set { s with
        allowed := s.allowed.erase peerId
        grantGenerations := allowed.foldl (fun table capability => table.erase (peerId, capability))
          s.grantGenerations }

/-- Source: `sharing/capabilities.py`, `CapabilityShare.clear_grants`.  Kind: D -/
def clearGrants : PyM (CapabilityShare η) Unit :=
  modify fun s => { s with allowed := Dict.empty, grantGenerations := Dict.empty }

/-- `request(peer_id, capability, params)`, until the handler is called.
Source: `sharing/capabilities.py`, `CapabilityShare.request`.  Kind: D -/
def requestFirst (peerId : NodeId) (capability : Value) :
    PyM (CapabilityShare η) (CapabilityRequest η) := do
  let capability ← PyM.ofExcept (validateCapabilityId capability)
  let s ← get
  match s.allowed.get? peerId, s.handlers.get? capability,
    s.grantGenerations.get? (peerId, capability) with
  | some allowed, some handler, some generation =>
      if capability ∈ allowed then return ⟨peerId, capability, handler, generation⟩
      else throw ⟨.permission, "capability is not authorized"⟩
  | _, _, _ => throw ⟨.permission, "capability is not authorized"⟩

/-- `request(peer_id, capability, params)`, after the handler has returned or raised.
Source: `sharing/capabilities.py`, `CapabilityShare.request`.  Kind: D -/
def requestSecond [DecidableEq η] (request : CapabilityRequest η) (outcome : Except PyError ρ) :
    PyM (CapabilityShare η) ρ := do
  match outcome with
  | .error _ => throw ⟨.runtime, "capability handler failed"⟩
  | .ok result =>
      let s ← get
      match s.allowed.get? request.peerId with
      | some currentAllowed =>
          if request.capability ∈ currentAllowed ∧
              s.grantGenerations.get? (request.peerId, request.capability) =
                some request.generation ∧
              s.handlers.get? request.capability = some request.handler then
            return result
          else throw ⟨.permission, "capability authorization changed during request"⟩
      | none => throw ⟨.permission, "capability authorization changed during request"⟩

end CapabilityShare

/-- What may happen to a share between two calls of a caller. -/
inductive ShareStep (η ρ : Type) where
  | register (capability : Value) (handler : Option η)
  | allow (peerId : NodeId) (capability : Value)
  | revoke (peerId : NodeId) (capability : Value)
  | revokePeer (peerId : NodeId)
  | clearGrants
  | requestFirst (peerId : NodeId) (capability : Value)
  | requestSecond (request : CapabilityRequest η) (outcome : Except PyError ρ)

namespace CapabilityShare

variable {η ρ : Type} [DecidableEq η]

/-- A step, which may raise. -/
def step (s : CapabilityShare η) : ShareStep η ρ → CapabilityShare η
  | .register capability handler => (register capability handler).after s
  | .allow peerId capability => (allow peerId capability).after s
  | .revoke peerId capability => (revoke peerId capability).after s
  | .revokePeer peerId => (revokePeer peerId).after s
  | .clearGrants => clearGrants.after s
  | .requestFirst peerId capability => (requestFirst peerId capability).after s
  | .requestSecond request outcome => (requestSecond request outcome).after s

/-- A sequence of steps. -/
def run (s : CapabilityShare η) (steps : List (ShareStep η ρ)) : CapabilityShare η :=
  steps.foldl step s

end CapabilityShare

/-! ## Grants -/

namespace CapabilityShare

variable {η ρ : Type} {s s' : CapabilityShare η} {peerId : NodeId} {capability : String}

/-- The capability is allowed to the peer. -/
def Granted (s : CapabilityShare η) (peerId : NodeId) (capability : String) : Prop :=
  capability ∈ (s.allowed.get? peerId).getD []

/-- The generations of the grants. -/
def generations (s : CapabilityShare η) : Generations (NodeId × String) :=
  ⟨s.nextGeneration, s.grantGenerations.get?⟩

/-- The tables agree, and generations are issued once. -/
structure Coherent (s : CapabilityShare η) : Prop where
  keys : ∀ peerId capability,
    (s.grantGenerations.get? (peerId, capability)).isSome = true ↔ s.Granted peerId capability
  generations : s.generations.WellFormed

/-- A new share is coherent.  Kind: L -/
theorem coherent_new : (new : CapabilityShare η).Coherent where
  keys := by
    intro peerId capability
    constructor <;> intro h <;> cases h
  generations := by
    constructor
    · intro k g h
      cases h
    · intro k k' g h
      cases h

/-- A step kept the tables in agreement, and moved the generations. -/
structure Carries (s s' : CapabilityShare η) : Prop where
  coherent : s'.Coherent
  moves : s.generations.Moves s'.generations

/-- A coherent share carries its own grants.  Kind: L -/
theorem Coherent.carries_self (h : s.Coherent) : s.Carries s := ⟨h, .refl h.generations⟩

/-- Without a new generation it is enough that the grants of the two tables are the same ones, and
were there before.  Kind: L -/
theorem Coherent.carries_of_kept (h : s.Coherent)
    (hnext : s'.nextGeneration = s.nextGeneration)
    (hkeys : ∀ p c, (s'.grantGenerations.get? (p, c)).isSome = true ↔ s'.Granted p c)
    (hkept : ∀ k g, s'.grantGenerations.get? k = some g → s.grantGenerations.get? k = some g) :
    s.Carries s' := by
  have hmoves : s.generations.Moves s'.generations := .of_kept hnext h.generations hkept
  exact ⟨⟨hkeys, hmoves.wellFormed h.generations⟩, hmoves⟩

/-- A valid capability is a text, and stays as it is.
Source: `sharing/capabilities.py`, `validate_capability_id`.  Kind: L -/
theorem eq_str_of_validateCapabilityId {v : Value} {text : String}
    (h : validateCapabilityId v = .ok text) : v = .str text := by
  unfold validateCapabilityId at h
  split at h
  · obtain ⟨_, -, hret⟩ := Except.bind_eq_ok.mp h
    cases hret
    rfl
  · cases h

/-- `allow` changes nothing, or adds a grant that was not there.
Source: `sharing/capabilities.py`, `CapabilityShare.allow`.  Kind: L -/
theorem after_allow (peerId : NodeId) (capability : Value) (s : CapabilityShare η) :
    (allow peerId capability).after s = s ∨
      ∃ text, capability = .str text ∧ ¬s.Granted peerId text ∧
        (allow peerId capability).after s =
        { s with
          allowed := s.allowed.insert peerId (text :: (s.allowed.get? peerId).getD [])
          nextGeneration := s.nextGeneration + 1
          grantGenerations := s.grantGenerations.insert (peerId, text) (s.nextGeneration + 1) } := by
  unfold allow PyM.after
  rw [PyM.bind_apply, PyM.ofExcept_apply]
  rcases hvalid : validateCapabilityId capability with e | text
  · exact .inl rfl
  dsimp only
  rw [PyM.bind_apply, PyM.get_apply]
  dsimp only
  rw [PyM.bind_apply, PyM.raiseIf_apply]
  by_cases hhandler : (s.handlers.get? text).isSome = false
  · rw [if_pos hhandler]
    exact .inl rfl
  rw [if_neg hhandler]
  dsimp only
  rw [PyM.bind_apply, PyM.set_apply]
  dsimp only
  by_cases hgranted : text ∈ (s.allowed.get? peerId).getD []
  · rw [if_pos hgranted, PyM.pure_apply]
    rcases hallowed : s.allowed.get? peerId with _ | allowed
    · rw [hallowed] at hgranted
      cases hgranted
    · refine .inl ?_
      show ({ s with allowed := s.allowed.insert peerId allowed } : CapabilityShare η) = s
      rw [Dict.insert_of_get? hallowed]
  · refine .inr ⟨text, eq_str_of_validateCapabilityId hvalid, hgranted, ?_⟩
    rw [if_neg hgranted, PyM.modify_apply]
    simp

/-- `allow` keeps the share coherent.  Kind: L -/
theorem Coherent.allow (h : s.Coherent) (peerId : NodeId) (capability : Value) :
    s.Carries ((allow peerId capability).after s) := by
  rcases after_allow peerId capability s with hsame | ⟨text, -, hnew, hafter⟩
  · rw [hsame]
    exact h.carries_self
  rw [hafter]
  set s' : CapabilityShare η := { s with
    allowed := s.allowed.insert peerId (text :: (s.allowed.get? peerId).getD [])
    nextGeneration := s.nextGeneration + 1
    grantGenerations := s.grantGenerations.insert (peerId, text) (s.nextGeneration + 1) } with hs'
  have hmoves : s.generations.Moves s'.generations := by
    refine .of_issued h.generations (peerId, text) rfl ?_
    intro k
    exact Dict.get?_insert _ _ _ _
  refine ⟨⟨?_, hmoves.wellFormed h.generations⟩, hmoves⟩
  intro p c
  have hold := h.keys p c
  by_cases hp : peerId = p
  · subst hp
    by_cases hc : text = c
    · simp [hs', Granted, hc]
    · have hne : (peerId, text) ≠ (peerId, c) := fun heq => hc (Prod.mk.inj heq).2
      rw [hs']
      simp only [Granted, Dict.get?_insert_of_ne _ _ hne, Dict.get?_insert_self, Option.getD_some,
        List.mem_cons]
      rw [hold]
      exact ⟨.inr, fun hor => hor.resolve_left fun heq => hc heq.symm⟩
  · have hne : (peerId, text) ≠ (p, c) := fun heq => hp (Prod.mk.inj heq).1
    rw [hs']
    simp only [Granted, Dict.get?_insert_of_ne _ _ hne, Dict.get?_insert_of_ne _ _ hp]
    exact hold

/-- `revoke` changes nothing, or takes one grant out of both tables.  Kind: L -/
theorem after_revoke (peerId : NodeId) (capability : Value) (s : CapabilityShare η) :
    (revoke peerId capability).after s = s ∨
      ∃ text allowed, s.allowed.get? peerId = some allowed ∧
        (revoke peerId capability).after s =
          { s with
            allowed :=
              if allowed.filter (· ≠ text) = [] then s.allowed.erase peerId
              else s.allowed.insert peerId (allowed.filter (· ≠ text))
            grantGenerations := s.grantGenerations.erase (peerId, text) } := by
  unfold revoke PyM.after
  rw [PyM.bind_apply, PyM.ofExcept_apply]
  rcases validateCapabilityId capability with e | text
  · exact .inl rfl
  dsimp only
  rw [PyM.bind_apply, PyM.get_apply]
  dsimp only
  rcases hallowed : s.allowed.get? peerId with _ | allowed
  · exact .inl rfl
  · exact .inr ⟨text, allowed, rfl, rfl⟩

/-- `revoke` keeps the share coherent.  Kind: L -/
theorem Coherent.revoke (h : s.Coherent) (peerId : NodeId) (capability : Value) :
    s.Carries ((revoke peerId capability).after s) := by
  rcases after_revoke peerId capability s with hsame | ⟨text, allowed, hallowed, hafter⟩
  · rw [hsame]
    exact h.carries_self
  rw [hafter]
  have hget (p : NodeId) :
      ((if allowed.filter (· ≠ text) = [] then s.allowed.erase peerId
        else s.allowed.insert peerId (allowed.filter (· ≠ text))).get? p).getD [] =
        if peerId = p then allowed.filter (· ≠ text) else (s.allowed.get? p).getD [] := by
    by_cases hempty : allowed.filter (· ≠ text) = []
    · rw [if_pos hempty, Dict.get?_erase, hempty]
      split_ifs <;> rfl
    · rw [if_neg hempty, Dict.get?_insert]
      split_ifs <;> rfl
  refine h.carries_of_kept rfl ?_ ?_
  · intro p c
    have hold := h.keys p c
    unfold Granted at hold ⊢
    rw [hget p, Dict.get?_erase]
    by_cases hp : peerId = p
    · subst hp
      rw [hallowed, Option.getD_some] at hold
      by_cases hc : text = c
      · simp [hc]
      · have hne : (peerId, text) ≠ (peerId, c) := fun heq => hc (Prod.mk.inj heq).2
        rw [if_neg hne, if_pos rfl, hold, List.mem_filter]
        exact ⟨fun hmem => ⟨hmem, decide_eq_true fun heq => hc heq.symm⟩, And.left⟩
    · have hne : (peerId, text) ≠ (p, c) := fun heq => hp (Prod.mk.inj heq).1
      rw [if_neg hne, if_neg hp]
      exact hold
  · intro k g hk
    rw [Dict.get?_erase] at hk
    split_ifs at hk
    exact hk

/-- Deleting the generations of a list of capabilities of a peer.  Kind: L -/
theorem get?_foldl_erase (peerId : NodeId) (capabilities : List String)
    (table : Dict (NodeId × String) ℕ) (k : NodeId × String) :
    (capabilities.foldl (fun table capability => table.erase (peerId, capability)) table).get? k =
      if peerId = k.1 ∧ k.2 ∈ capabilities then none else table.get? k := by
  induction capabilities generalizing table with
  | nil => simp
  | cons capability capabilities ih =>
      rw [List.foldl_cons, ih, Dict.get?_erase]
      obtain ⟨p, c⟩ := k
      by_cases hp : peerId = p
      · subst hp
        by_cases hc : capability = c
        · simp [hc]
        · have hne : c ≠ capability := fun heq => hc heq.symm
          simp [hc, hne]
      · simp [hp]

/-- `revokePeer` keeps the share coherent.  Kind: L -/
theorem Coherent.revokePeer (h : s.Coherent) (peerId : NodeId) :
    s.Carries ((revokePeer peerId).after s) := by
  unfold CapabilityShare.revokePeer PyM.after
  rw [PyM.bind_apply, PyM.get_apply]
  dsimp only
  rcases hallowed : s.allowed.get? peerId with _ | allowed
  · exact h.carries_self
  show s.Carries { s with
    allowed := s.allowed.erase peerId
    grantGenerations := allowed.foldl (fun table capability => table.erase (peerId, capability))
      s.grantGenerations }
  refine h.carries_of_kept rfl ?_ ?_
  · intro p c
    have hold := h.keys p c
    unfold Granted at hold ⊢
    rw [get?_foldl_erase, Dict.get?_erase]
    by_cases hp : peerId = p
    · subst hp
      rw [hallowed, Option.getD_some] at hold
      by_cases hc : c ∈ allowed
      · simp [hc]
      · have hnone : s.grantGenerations.get? (peerId, c) = none := by
          rw [← Option.not_isSome_iff_eq_none, hold]
          exact hc
        simp [hc, hnone]
    · simp only [hp, false_and, if_false]
      exact hold
  · intro k g hk
    rw [get?_foldl_erase] at hk
    split_ifs at hk
    exact hk

/-- `clearGrants` keeps the share coherent.  Kind: L -/
theorem Coherent.clearGrants (h : s.Coherent) : s.Carries (clearGrants.after s) := by
  refine h.carries_of_kept rfl ?_ ?_
  · intro p c
    constructor <;> intro hnone <;> cases hnone
  · intro k g hk
    cases hk

/-- `register` leaves the grants alone.  Kind: L -/
theorem Coherent.register (h : s.Coherent) (capability : Value) (handler : Option η) :
    s.Carries ((register capability handler).after s) := by
  unfold CapabilityShare.register PyM.after
  rw [PyM.bind_apply, PyM.ofExcept_apply]
  rcases validateCapabilityId capability with e | text
  · exact h.carries_self
  rcases handler with _ | handler
  · exact h.carries_self
  dsimp only
  rw [PyM.bind_apply, PyM.get_apply]
  dsimp only
  rw [PyM.bind_apply, PyM.raiseIf_apply]
  split_ifs
  · exact h.carries_self
  · exact h.carries_of_kept rfl h.keys fun _ _ hk => hk

/-- The first part of a request only reads, and returns what it found: a grant, with its generation
and its handler.  Kind: L -/
theorem requestFirst_cases (peerId : NodeId) (capability : Value) (s : CapabilityShare η) :
    (∃ e, requestFirst peerId capability s = .error e s) ∨
      ∃ request, request.peerId = peerId ∧ capability = .str request.capability ∧
        validateCapabilityId (.str request.capability) = .ok request.capability ∧
        s.grantGenerations.get? (peerId, request.capability) = some request.generation ∧
        requestFirst peerId capability s = .ok request s := by
  unfold requestFirst
  rw [PyM.bind_apply, PyM.ofExcept_apply]
  rcases hvalid : validateCapabilityId capability with e | text
  · exact .inl ⟨e, rfl⟩
  dsimp only
  rw [PyM.bind_apply, PyM.get_apply]
  dsimp only
  rcases s.allowed.get? peerId with _ | allowed
  · exact .inl ⟨_, rfl⟩
  rcases s.handlers.get? text with _ | handler
  · exact .inl ⟨_, rfl⟩
  rcases hgeneration : s.grantGenerations.get? (peerId, text) with _ | generation
  · exact .inl ⟨_, rfl⟩
  by_cases hmem : text ∈ allowed
  · refine .inr ⟨⟨peerId, text, handler, generation⟩, rfl,
      eq_str_of_validateCapabilityId hvalid, ?_, hgeneration, ?_⟩
    · rw [← eq_str_of_validateCapabilityId hvalid]
      exact hvalid
    simp [hmem, PyM.pure_apply]
  · refine .inl ⟨⟨.permission, "capability is not authorized"⟩, ?_⟩
    simp only [if_neg hmem]
    rfl

/-- The second part of a request only reads, and returns what the handler returned if the grant has
the generation that the first part found.  Kind: L -/
theorem requestSecond_cases [DecidableEq η] (request : CapabilityRequest η)
    (outcome : Except PyError ρ) (s : CapabilityShare η) :
    (∃ e, requestSecond request outcome s = .error e s) ∨
      ∃ result, outcome = .ok result ∧
        s.grantGenerations.get? (request.peerId, request.capability) = some request.generation ∧
        requestSecond request outcome s = .ok result s := by
  unfold requestSecond
  rcases outcome with e | result
  · exact .inl ⟨_, rfl⟩
  dsimp only
  rw [PyM.bind_apply, PyM.get_apply]
  dsimp only
  rcases s.allowed.get? request.peerId with _ | allowed
  · exact .inl ⟨_, rfl⟩
  dsimp only
  by_cases hsame : request.capability ∈ allowed ∧
      s.grantGenerations.get? (request.peerId, request.capability) = some request.generation ∧
      s.handlers.get? request.capability = some request.handler
  · rw [if_pos hsame]
    exact .inr ⟨result, rfl, hsame.2.1, rfl⟩
  · rw [if_neg hsame]
    exact .inl ⟨_, rfl⟩

/-- A capability that is granted, with a handler, is handled.
Source: `sharing/capabilities.py`, `CapabilityShare.request`.  Kind: L -/
theorem requestFirst_of_granted {allowed : List String} {handler : η} {generation : ℕ}
    (hvalid : validateCapabilityId (.str capability) = .ok capability)
    (hallowed : s.allowed.get? peerId = some allowed) (hmem : capability ∈ allowed)
    (hhandler : s.handlers.get? capability = some handler)
    (hgeneration : s.grantGenerations.get? (peerId, capability) = some generation) :
    requestFirst peerId (.str capability) s = .ok ⟨peerId, capability, handler, generation⟩ s := by
  unfold requestFirst
  rw [PyM.bind_apply, PyM.ofExcept_apply, hvalid]
  dsimp only
  rw [PyM.bind_apply, PyM.get_apply]
  dsimp only
  rw [hallowed, hhandler, hgeneration]
  dsimp only
  rw [if_pos hmem, PyM.pure_apply]

/-- A result is returned if nothing has changed.
Source: `sharing/capabilities.py`, `CapabilityShare.request`.  Kind: L -/
theorem requestSecond_of_granted [DecidableEq η] {request : CapabilityRequest η}
    {allowed : List String} {result : ρ} (hallowed : s.allowed.get? request.peerId = some allowed)
    (hmem : request.capability ∈ allowed)
    (hgeneration : s.grantGenerations.get? (request.peerId, request.capability) =
      some request.generation)
    (hhandler : s.handlers.get? request.capability = some request.handler) :
    requestSecond request (.ok result) s = .ok result s := by
  unfold requestSecond
  dsimp only
  rw [PyM.bind_apply, PyM.get_apply]
  dsimp only
  rw [hallowed]
  dsimp only
  rw [if_pos ⟨hmem, hgeneration, hhandler⟩, PyM.pure_apply]

/-! ## What grants and withdraws -/

end CapabilityShare

/-- The step withdraws the capability from the peer.
Source: `sharing/capabilities.py`, `revoke`, `revoke_peer`, `clear_grants`.  Kind: D -/
def ShareStep.Withdraws {η ρ : Type} (peerId : NodeId) (capability : String) :
    ShareStep η ρ → Prop
  | .revoke p c => p = peerId ∧ c = .str capability
  | .revokePeer p => p = peerId
  | .clearGrants => True
  | _ => False

namespace CapabilityShare

variable {η ρ : Type} {s : CapabilityShare η} {peerId : NodeId} {capability : String}

/-- `revoke` of a valid capability leaves no grant of it.
Source: `sharing/capabilities.py`, `CapabilityShare.revoke`.  Kind: L -/
theorem not_granted_after_revoke
    (hvalid : validateCapabilityId (.str capability) = .ok capability) :
    ¬((revoke peerId (.str capability)).after s).Granted peerId capability := by
  unfold revoke PyM.after
  rw [PyM.bind_apply, PyM.ofExcept_apply, hvalid]
  dsimp only
  rw [PyM.bind_apply, PyM.get_apply]
  dsimp only
  rcases hallowed : s.allowed.get? peerId with _ | allowed
  · show ¬s.Granted peerId capability
    unfold Granted
    rw [hallowed]
    exact List.not_mem_nil
  · dsimp only [PyM.set_apply]
    unfold Granted
    dsimp only
    split_ifs with hempty
    · rw [Dict.get?_erase_self]
      exact List.not_mem_nil
    · rw [Dict.get?_insert_self]
      simp

/-- A step that withdraws a capability leaves no grant of it.
Source: `sharing/capabilities.py`, `revoke`, `revoke_peer`, `clear_grants`.  Kind: L -/
theorem not_granted_of_withdraws [DecidableEq η] {step : ShareStep η ρ}
    (hvalid : validateCapabilityId (.str capability) = .ok capability)
    (h : step.Withdraws peerId capability) : ¬(s.step step).Granted peerId capability := by
  cases step with
  | revoke p c =>
      obtain ⟨rfl, rfl⟩ := h
      exact not_granted_after_revoke hvalid
  | revokePeer p =>
      obtain rfl : p = peerId := h
      show ¬((revokePeer p).after s).Granted p capability
      unfold revokePeer PyM.after
      rw [PyM.bind_apply, PyM.get_apply]
      dsimp only
      rcases hallowed : s.allowed.get? p with _ | allowed
      · show ¬s.Granted p capability
        unfold Granted
        rw [hallowed]
        exact List.not_mem_nil
      · show ¬capability ∈ ((s.allowed.erase p).get? p).getD []
        rw [Dict.get?_erase_self]
        exact List.not_mem_nil
  | clearGrants => exact List.not_mem_nil
  | register c handler => exact h.elim
  | allow p c => exact h.elim
  | requestFirst p c => exact h.elim
  | requestSecond request outcome => exact h.elim

/-- `revoke` only takes grants away.
Source: `sharing/capabilities.py`, `CapabilityShare.revoke`.  Kind: L -/
theorem granted_of_revoke {p : NodeId} {c : Value}
    (h : ((revoke p c).after s).Granted peerId capability) : s.Granted peerId capability := by
  rcases after_revoke p c s with hsame | ⟨text, allowed, hallowed, hafter⟩
  · rwa [hsame] at h
  rw [hafter] at h
  unfold Granted at h ⊢
  dsimp only at h
  by_cases hp : p = peerId
  · subst hp
    rw [hallowed, Option.getD_some]
    split_ifs at h with hempty
    · rw [Dict.get?_erase_self] at h
      cases h
    · rw [Dict.get?_insert_self, Option.getD_some] at h
      exact (List.mem_filter.mp h).1
  · split_ifs at h
    · rwa [Dict.get?_erase_of_ne _ hp] at h
    · rwa [Dict.get?_insert_of_ne _ _ hp] at h

/-- `revoke_peer` only takes grants away.
Source: `sharing/capabilities.py`, `CapabilityShare.revoke_peer`.  Kind: L -/
theorem granted_of_revokePeer {p : NodeId}
    (h : ((revokePeer p).after s).Granted peerId capability) : s.Granted peerId capability := by
  unfold revokePeer PyM.after at h
  rw [PyM.bind_apply, PyM.get_apply] at h
  dsimp only at h
  rcases hallowed : s.allowed.get? p with _ | allowed
  · rwa [hallowed] at h
  rw [hallowed] at h
  change capability ∈ ((s.allowed.erase p).get? peerId).getD [] at h
  rw [Dict.get?_erase] at h
  split_ifs at h
  · cases h
  · exact h

/-- `register` leaves the grants alone.
Source: `sharing/capabilities.py`, `CapabilityShare.register`.  Kind: L -/
theorem allowed_after_register (c : Value) (handler : Option η) :
    ((register c handler).after s).allowed = s.allowed := by
  unfold register PyM.after
  rw [PyM.bind_apply, PyM.ofExcept_apply]
  rcases validateCapabilityId c with e | text
  · rfl
  rcases handler with _ | handler
  · rfl
  dsimp only
  rw [PyM.bind_apply, PyM.get_apply]
  dsimp only
  rw [PyM.bind_apply, PyM.raiseIf_apply]
  split_ifs <;> rfl

/-- The first part of a request changes nothing.
Source: `sharing/capabilities.py`, `CapabilityShare.request`.  Kind: L -/
theorem after_requestFirst (p : NodeId) (c : Value) : (requestFirst p c).after s = s := by
  rcases requestFirst_cases p c s with ⟨e, he⟩ | ⟨request, -, -, -, -, hok⟩
  · exact PyM.after_of_error he
  · exact PyM.after_of_ok hok

/-- The second part of a request changes nothing.
Source: `sharing/capabilities.py`, `CapabilityShare.request`.  Kind: L -/
theorem after_requestSecond [DecidableEq η] (request : CapabilityRequest η)
    (outcome : Except PyError ρ) : (requestSecond request outcome).after s = s := by
  rcases requestSecond_cases request outcome s with ⟨e, he⟩ | ⟨result, -, -, hok⟩
  · exact PyM.after_of_error he
  · exact PyM.after_of_ok hok

/-- A grant that a step leaves behind was there before, unless the step allowed it.
Source: `sharing/capabilities.py`, `CapabilityShare`.  Kind: L -/
theorem granted_of_step [DecidableEq η] {step : ShareStep η ρ}
    (h : (s.step step).Granted peerId capability) :
    step = .allow peerId (.str capability) ∨ s.Granted peerId capability := by
  cases step with
  | allow p c =>
      rcases after_allow p c s with hsame | ⟨text, rfl, -, hafter⟩
      · right
        change ((allow p c).after s).Granted peerId capability at h
        rwa [hsame] at h
      change ((allow p (.str text)).after s).Granted peerId capability at h
      rw [hafter] at h
      unfold Granted at h ⊢
      dsimp only at h
      by_cases hp : p = peerId
      · subst hp
        rw [Dict.get?_insert_self, Option.getD_some] at h
        rcases List.mem_cons.mp h with rfl | hold
        · exact .inl rfl
        · exact .inr hold
      · rw [Dict.get?_insert_of_ne _ _ hp] at h
        exact .inr h
  | revoke p c => exact .inr (granted_of_revoke h)
  | revokePeer p => exact .inr (granted_of_revokePeer h)
  | clearGrants => cases h
  | register c handler =>
      right
      change capability ∈ (((register c handler).after s).allowed.get? peerId).getD [] at h
      rwa [allowed_after_register] at h
  | requestFirst p c =>
      right
      change ((CapabilityShare.requestFirst p c).after s).Granted peerId capability at h
      rwa [after_requestFirst] at h
  | requestSecond request outcome =>
      right
      change ((CapabilityShare.requestSecond request outcome).after s).Granted peerId capability at h
      rwa [after_requestSecond] at h

/-- A grant comes from an `allow` that nothing has withdrawn since.
Source: `sharing/capabilities.py`, `CapabilityShare`.  Kind: L -/
theorem allowed_of_granted [DecidableEq η] (steps : List (ShareStep η ρ))
    (hvalid : validateCapabilityId (.str capability) = .ok capability)
    (h : ((new : CapabilityShare η).run steps).Granted peerId capability) :
    ∃ earlier later, steps = earlier ++ .allow peerId (.str capability) :: later ∧
      ∀ step ∈ later, ¬step.Withdraws peerId capability := by
  induction steps using List.reverseRecOn with
  | nil => cases h
  | append_singleton steps step ih =>
      have hlast : (new : CapabilityShare η).run (steps ++ [step]) =
          ((new : CapabilityShare η).run steps).step step := by
        simp [run, List.foldl_append]
      rw [hlast] at h
      have hkeeps : ¬step.Withdraws peerId capability :=
        fun hwithdraws => not_granted_of_withdraws hvalid hwithdraws h
      rcases granted_of_step h with rfl | hbefore
      · exact ⟨steps, [], rfl, by simp⟩
      · obtain ⟨earlier, later, rfl, hlater⟩ := ih hbefore
        refine ⟨earlier, later ++ [step], by simp, fun step' hstep' => ?_⟩
        rcases List.mem_append.mp hstep' with hold | hnew
        · exact hlater step' hold
        · rw [List.mem_singleton.mp hnew]
          exact hkeeps

/-! ## Runs -/

section Runs

variable [DecidableEq η]

/-- Every step keeps the tables in agreement.  Kind: L -/
theorem Coherent.step (h : s.Coherent) (step : ShareStep η ρ) : s.Carries (s.step step) := by
  rcases step with ⟨capability, handler⟩ | ⟨peerId, capability⟩ | ⟨peerId, capability⟩ | peerId | _ |
    ⟨peerId, capability⟩ | ⟨request, outcome⟩
  · exact h.register capability handler
  · exact h.allow peerId capability
  · exact h.revoke peerId capability
  · exact h.revokePeer peerId
  · exact h.clearGrants
  · show s.Carries ((CapabilityShare.requestFirst peerId capability).after s)
    rw [after_requestFirst]
    exact h.carries_self
  · show s.Carries ((CapabilityShare.requestSecond request outcome).after s)
    rw [after_requestSecond]
    exact h.carries_self

/-- So does every sequence of steps.  Kind: L -/
theorem Coherent.run (h : s.Coherent) (steps : List (ShareStep η ρ)) : s.Carries (s.run steps) := by
  unfold CapabilityShare.run
  induction steps generalizing s with
  | nil => exact h.carries_self
  | cons step steps ih =>
      have hone := h.step step
      have hrest := ih hone.coherent
      exact ⟨hrest.coherent, hone.moves.trans hrest.moves h.generations⟩

theorem run_append (s : CapabilityShare η) (first second : List (ShareStep η ρ)) :
    s.run (first ++ second) = (s.run first).run second := List.foldl_append

end Runs

end CapabilityShare

/-- In every interleaving of the calls on a share, a request that returns a result returns the
handler's, its capability was granted to its peer at its first part, at its second part and at every
moment in between, by an `allow` before its first part that nothing has withdrawn since, and no call
between its parts withdraws it: not even one that is followed by a new `allow`. In every state that
is reached the generations belong to exactly the allowed pairs and are distinct, and a generation
that was issued and is held later was held by the same pair all along.
Source: `sharing/capabilities.py`, `CapabilityShare`.  Kind: P -/
theorem capability_continuous {η ρ : Type} [DecidableEq η] (before middle : List (ShareStep η ρ)) :
    let s := (CapabilityShare.new : CapabilityShare η).run before
    (∀ peerId capability request s₁ outcome (result : ρ) s₂,
      CapabilityShare.requestFirst peerId capability s = .ok request s₁ →
      CapabilityShare.requestSecond request outcome (s₁.run middle) = .ok result s₂ →
      outcome = .ok result ∧ ∃ text, capability = .str text ∧
        (∀ n, (s₁.run (middle.take n)).Granted peerId text) ∧
        (∀ step ∈ middle, ¬step.Withdraws peerId text) ∧
        ∃ earlier later, before = earlier ++ .allow peerId (.str text) :: later ∧
          ∀ step ∈ later, ¬step.Withdraws peerId text) ∧
    (∀ peerId capability, (s.grantGenerations.get? (peerId, capability)).isSome = true ↔
      s.Granted peerId capability) ∧
    (∀ p p' g, s.grantGenerations.get? p = some g → s.grantGenerations.get? p' = some g → p = p') ∧
    ∀ p g, (s.run middle).grantGenerations.get? p = some g → g ≤ s.nextGeneration →
      ∀ n, (s.run (middle.take n)).grantGenerations.get? p = some g := by
  intro s
  have h : s.Coherent := (CapabilityShare.coherent_new.run before).coherent
  have hsplit (n : ℕ) : (s.run (middle.take n)).run (middle.drop n) = s.run middle := by
    rw [← CapabilityShare.run_append, List.take_append_drop]
  have hheld (p : NodeId × String) (g : ℕ)
      (hafter : (s.run middle).grantGenerations.get? p = some g) (hle : g ≤ s.nextGeneration)
      (n : ℕ) : (s.run (middle.take n)).grantGenerations.get? p = some g := by
    have hfirst := h.run (middle.take n)
    have hsecond := hfirst.coherent.run (middle.drop n)
    rw [hsplit n] at hsecond
    exact hsecond.moves.held_of_le hafter (hle.trans hfirst.moves.issued_le)
  refine ⟨?_, h.keys, h.generations.distinct, hheld⟩
  intro peerId capability request s₁ outcome result s₂ hbegin hend
  rcases CapabilityShare.requestFirst_cases peerId capability s with
    ⟨e, he⟩ | ⟨_, hpeer, htext, hvalid, hgeneration, hok⟩
  · rw [he] at hbegin
    cases hbegin
  rw [hok] at hbegin
  cases hbegin
  rcases CapabilityShare.requestSecond_cases request outcome (s.run middle) with
    ⟨e, he⟩ | ⟨_, houtcome, hsame, hok⟩
  · rw [he] at hend
    cases hend
  rw [hok] at hend
  cases hend
  rw [hpeer] at hsame
  have hle := h.generations.le_issued (peerId, request.capability) _ hgeneration
  have hgranted (n : ℕ) : (s.run (middle.take n)).Granted peerId request.capability := by
    have hthere := hheld (peerId, request.capability) _ hsame hle n
    have hkeys := (h.run (middle.take n)).coherent.keys peerId request.capability
    exact hkeys.mp (by rw [hthere]; rfl)
  refine ⟨houtcome, request.capability, htext, hgranted, ?_,
    CapabilityShare.allowed_of_granted before hvalid (hgranted 0)⟩
  intro step hstep hwithdraws
  -- the state right behind a withdrawal would be a moment without the grant
  obtain ⟨earlier, later, hmiddle⟩ := List.append_of_mem hstep
  have hnext : s.run (middle.take (earlier.length + 1)) = (s.run earlier).step step := by
    have htake : middle.take (earlier.length + 1) = earlier ++ [step] := by
      rw [hmiddle, List.append_cons]
      exact List.take_left' (by simp)
    rw [htake, CapabilityShare.run_append]
    rfl
  have hthen := hgranted (earlier.length + 1)
  rw [hnext] at hthen
  exact CapabilityShare.not_granted_of_withdraws hvalid hwithdraws hthen

/-- The calls in front of a request, for examples: the capability is granted, withdrawn and granted
again. -/
def sampleGrants (peer other : NodeId) : List (ShareStep ℕ ℕ) :=
  [.register (.str "read") (some 0), .register (.str "write") (some 1), .allow peer (.str "read"),
    .allow peer (.str "write"), .allow other (.str "read"), .revoke peer (.str "read"),
    .allow peer (.str "read")]

/-- The calls during the request: another capability is withdrawn and granted again, and another
peer loses its grants. -/
def sampleChanges (peer other : NodeId) : List (ShareStep ℕ ℕ) :=
  [.revoke peer (.str "write"), .allow peer (.str "write"), .revokePeer other]

/-- A request during which other grants come and go. -/
theorem capability_continuous_read :
    ∃ peer other text, ((CapabilityShare.new : CapabilityShare ℕ).run
        (sampleGrants peer other ++ (sampleChanges peer other).take 1)).Granted peer text ∧
      ¬((CapabilityShare.new : CapabilityShare ℕ).run
        (sampleGrants peer other ++ (sampleChanges peer other).take 1)).Granted peer "write" ∧
      ∀ step ∈ sampleChanges peer other, ¬step.Withdraws peer text := by
  let peer : NodeId := .named "peer"
  let other : NodeId := .named "worker"
  set s := (CapabilityShare.new : CapabilityShare ℕ).run (sampleGrants peer other) with hs
  have hallowed : s.allowed.get? peer = some ["read", "write"] := by decide +kernel
  have hbegin : CapabilityShare.requestFirst peer (.str "read") s = .ok ⟨peer, "read", 0, 4⟩ s :=
    CapabilityShare.requestFirst_of_granted rfl hallowed (by decide) (by decide +kernel)
      (by decide +kernel)
  have hstill : (s.run (sampleChanges peer other)).allowed.get? peer = some ["write", "read"] := by
    decide +kernel
  have hend : CapabilityShare.requestSecond ⟨peer, "read", 0, 4⟩ (.ok 5)
      (s.run (sampleChanges peer other)) = .ok 5 (s.run (sampleChanges peer other)) :=
    CapabilityShare.requestSecond_of_granted hstill (by decide) (by decide +kernel)
      (by decide +kernel)
  obtain ⟨-, text, htext, hgranted, hkept, -⟩ :=
    (capability_continuous (sampleGrants peer other) (sampleChanges peer other)).1 peer
      (.str "read") _ _ _ _ _ hbegin hend
  refine ⟨peer, other, text, ?_, by unfold CapabilityShare.Granted; decide +kernel, hkept⟩
  rw [CapabilityShare.run_append]
  exact hgranted 1

end ExpraConnect
