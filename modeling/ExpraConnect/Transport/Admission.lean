import ExpraConnect.Base
import ExpraConnect.Lib.Prog
import Mathlib.Data.Finset.Card

/-!
# Admission of connections

`transport/server.py`, `_RemoteSocketListener`: every connection takes a permit of a bounded
semaphore before it gets a thread, and gives it back when its handler is over.

* `processRequest`, `handleConnection`: one connection, from the accept loop to the end of its
  handler; what the handler does with the request is an arbitrary thread over a state of its own;
* `admitted`, `released`: who took a permit along a trace, and who gave one back;
* `admission_conserved`: in every run the free permits and the connections at work add up to the
  bound, and no permit is given back twice; one is lost only where closing a TLS socket raised.

The accept loop takes the connections one after the other; here they may also arrive at once.
-/

set_option linter.unusedSectionVars false

namespace ExpraConnect

open ExpraConnect.Lib

/-- Source: `transport/server.py`, `_RemoteSocketListener.__init__`.  Kind: D -/
structure PeerListener (H ι : Type) where
  /-- `_max_active_handlers` -/
  maxActiveHandlers : ℕ
  /-- `_ssl_context is not None` -/
  hasTls : Bool
  /-- What the instructions of the service do. -/
  upd : ι → H → H
  /-- What the handler of connection `i` does with the frame it reads, and what it raises. -/
  serve : ℕ → Prog H ι PyError Unit

/-- What the connections share. -/
structure AdmissionState (H : Type) where
  /-- The value of `_admission`. -/
  permits : ℕ
  /-- What the next call on a socket or thread raises. -/
  fault : Option PyError
  /-- The state of the service. -/
  host : H

/-- The atomic steps of a connection. -/
inductive AdmissionInstr (ι : Type) where
  /-- `admission.acquire(blocking=False)` -/
  | acquire
  /-- `admission.release()` -/
  | release
  /-- `super().process_request(...)`: a thread for the handler -/
  | spawn
  /-- `ssl_context.wrap_socket(...)` -/
  | wrap
  /-- `request_socket.close()`, of a wrapped socket -/
  | closeTls
  /-- `request.close()` -/
  | reject
  /-- One step of the service. -/
  | work (l : ι)

/-- A connection. -/
abbrev Connection (H ι α : Type) := Prog (AdmissionState H) (AdmissionInstr ι) PyError α

section program

variable {H ι α : Type} (L : PeerListener H ι)

/-- Semaphores and the service; every other party may change the state of the service, and what
fails. -/
def admissionMachine : Machine (AdmissionState H) (AdmissionInstr ι) (Option PyError × (H → H)) where
  upd l s :=
    match l with
    | .acquire => { s with permits := s.permits - 1 }
    | .release =>
        if s.permits < L.maxActiveHandlers then { s with permits := s.permits + 1 } else s
    | .work l => { s with host := L.upd l s.host }
    | _ => s
  ready _ _ := true
  env e s := { s with fault := e.1, host := e.2 s.host }
  allowed _ _ := True

/-- Steps of the service, inside a handler. -/
def inHandler : Prog H ι PyError α → Connection H ι α
  | .ret a => .ret a
  | .fail e => .fail e
  | .step l next => .step (.work l) fun s => inHandler (next s.host)

/-- A call that may fail. -/
def socketCall (l : AdmissionInstr ι) : Connection H ι Unit :=
  Prog.call l fun s => s.fault.elim (.ok ()) .error

/-- `admission.release()`, of a bounded semaphore. -/
def releasePermit : Connection H ι Unit :=
  Prog.call .release fun s =>
    if s.permits < L.maxActiveHandlers then .ok ()
    else .error ⟨.value, "Semaphore released too many times"⟩

/-- The socket the handler works on is a wrapped one.
Source: `transport/server.py`, `_RemoteSocketListener.start`.  Kind: D -/
def wrapSocket : Connection H ι Bool :=
  if L.hasTls then do
    socketCall .wrap
    return true
  else return false

/-- `if request_socket is not self.request: request_socket.close()` -/
def closeWrapped (wrapped : Bool) : Connection H ι Unit :=
  if wrapped then socketCall .closeTls else return

/-- The `finally` of the handler.
Source: `transport/server.py`, `_RemoteSocketListener.start`.  Kind: D -/
def finishConnection (wrapped : Bool) : Connection H ι Unit := do
  closeWrapped wrapped
  releasePermit L

/-- `Handler.handle`: what it raises is swallowed.
Source: `transport/server.py`, `_RemoteSocketListener.start`.  Kind: D -/
def handleConnection (i : ℕ) : Connection H ι Unit := do
  match ← (wrapSocket L).attempt with
  | .error _ => finishConnection L false
  | .ok wrapped => do
      let _ ← (inHandler (L.serve i)).attempt
      finishConnection L wrapped

/-- `Server.process_request`, and the handler it starts.
Source: `transport/server.py`, `_RemoteSocketListener.start`.  Kind: D -/
def processRequest (i : ℕ) : Connection H ι Unit := do
  let permitted ← Prog.call .acquire fun s => .ok (decide (0 < s.permits))
  if permitted then
    match ← (socketCall .spawn).attempt with
    | .ok () => handleConnection L i
    | .error e => do
        releasePermit L
        socketCall .reject
        throw e
  else socketCall .reject

/-- The connections of a listener that has just started. -/
def connectionPool (host : H) :
    Pool (AdmissionState H) (AdmissionInstr ι) PyError Unit :=
  ⟨⟨L.maxActiveHandlers, none, host⟩, processRequest L⟩

end program

/-! ## One connection -/

section thread

variable {H ι α : Type} {L : PeerListener H ι} {i : ℕ} {l : AdmissionInstr ι}
  {h : Prog.History (AdmissionState H) (AdmissionInstr ι)}

/-- Neither taking nor giving back a permit. -/
def OffPermits (l : AdmissionInstr ι) : Prop := l ≠ .acquire ∧ l ≠ .release

/-- The instructions `inHandler` consists of.  Kind: L -/
theorem inHandler_only (p : Prog H ι PyError α) : Prog.Only OffPermits (inHandler p) := by
  induction p with
  | ret a => exact Prog.only_ret a
  | fail e => exact Prog.only_fail e
  | step l next ih =>
      intro h l' hl'
      rcases Prog.reaches_step.mp hl' with ⟨-, rfl⟩ | ⟨s, h', rfl, hnext⟩
      · exact ⟨by simp, by simp⟩
      · exact ih s.host h' l' hnext

/-- The instructions `socketCall` consists of.  Kind: L -/
theorem socketCall_only (hacquire : l ≠ .acquire) (hrelease : l ≠ .release) :
    Prog.Only OffPermits (socketCall l : Connection H ι Unit) :=
  Prog.only_call ⟨hacquire, hrelease⟩ _

/-- The instructions `wrapSocket` consists of.  Kind: L -/
theorem wrapSocket_only : Prog.Only OffPermits (wrapSocket L) := by
  unfold wrapSocket
  split
  · exact Prog.only_bind (socketCall_only (by simp) (by simp)) fun _ => Prog.only_pure _
  · exact Prog.only_pure _

/-- The instructions `closeWrapped` consists of.  Kind: L -/
theorem closeWrapped_only (wrapped : Bool) :
    Prog.Only OffPermits (closeWrapped wrapped : Connection H ι Unit) := by
  unfold closeWrapped
  split
  · exact socketCall_only (by simp) (by simp)
  · exact Prog.only_pure _

/-- A connection that holds its permit, or is about to give it back. -/
def Holding (h : Prog.History (AdmissionState H) (AdmissionInstr ι)) (l : AdmissionInstr ι) : Prop :=
  (∀ x ∈ h, OffPermits x.1) ∧ l ≠ .acquire

/-- After a half that leaves the permits alone, a permit is held.  Kind: L -/
theorem Holding.of_bind {β : Type} {p : Connection H ι α} {k : α → Connection H ι β}
    (hp : Prog.Only OffPermits p) (hk : ∀ a h l, Prog.Reaches (k a) h l → Holding h l)
    (hl : Prog.Reaches (p >>= k) h l) : Holding h l := by
  rcases Prog.reaches_bind.mp hl with ⟨next, hfollows⟩ | ⟨h₁, h₂, a, rfl, hends, hl⟩
  · exact ⟨hp.mem_of_follows hfollows, (hp h l ⟨next, hfollows⟩).1⟩
  · obtain ⟨hoff, hne⟩ := hk a h₂ l hl
    refine ⟨fun x hx => ?_, hne⟩
    rcases List.mem_append.mp hx with hx | hx
    · exact hp.mem hends x hx
    · exact hoff x hx

/-- A permit is released by one who holds it.  Kind: L -/
theorem releasePermit_holding (hl : Prog.Reaches (releasePermit L) h l) : Holding h l := by
  obtain ⟨rfl, rfl⟩ := Prog.reaches_call.mp hl
  exact ⟨by simp, by simp⟩

/-- A connection is finished by one who holds a permit.  Kind: L -/
theorem finishConnection_holding {wrapped : Bool}
    (hl : Prog.Reaches (finishConnection L wrapped) h l) : Holding h l :=
  Holding.of_bind (closeWrapped_only wrapped) (fun _ _ _ hl => releasePermit_holding hl) hl

/-- The release is the last thing that a handler does.  Kind: L -/
theorem handleConnection_holding (hl : Prog.Reaches (handleConnection L i) h l) : Holding h l := by
  refine Holding.of_bind (Prog.only_attempt wrapSocket_only) (fun r h l hl => ?_) hl
  cases r with
  | error e => exact finishConnection_holding hl
  | ok wrapped =>
      refine Holding.of_bind (Prog.only_attempt (inHandler_only _)) (fun _ h l hl => ?_) hl
      exact finishConnection_holding hl

/-- **One permit each.**  A connection asks for a permit first of all; if it got one, it holds it
until it gives it back, once, and then at most rejects the connection.  Kind: L -/
theorem processRequest_at (hl : Prog.Reaches (processRequest L i) h l) :
    (h = [] ∧ l = .acquire) ∨
      ∃ s h', h = (.acquire, s) :: h' ∧ (0 < s.permits ∧ Holding h' l ∨ l = .reject) := by
  rcases Prog.reaches_bind.mp hl with hl | ⟨h₁, h₂, permitted, rfl, hacquire, hrest⟩
  · exact .inl (Prog.reaches_call.mp hl)
  · obtain ⟨s, rfl, hs⟩ := Prog.ends_call.mp hacquire
    cases hs
    refine .inr ⟨s, h₂, rfl, ?_⟩
    by_cases hfree : 0 < s.permits
    · simp only [hfree, decide_true, if_true] at hrest
      have hspawn : Prog.Only OffPermits (socketCall .spawn : Connection H ι Unit) :=
        socketCall_only (by simp) (by simp)
      rcases Prog.reaches_bind.mp hrest with ⟨next, hfollows⟩ | ⟨h₃, h₄, r, rfl, hends, hbranch⟩
      · have hattempt := Prog.only_attempt hspawn
        exact .inl ⟨hfree, hattempt.mem_of_follows hfollows, (hattempt _ _ ⟨next, hfollows⟩).1⟩
      · have hoff := (Prog.only_attempt hspawn).mem hends
        have hholding : Holding h₄ l → Holding (h₃ ++ h₄) l := by
          rintro ⟨hoff₄, hne⟩
          refine ⟨fun x hx => ?_, hne⟩
          rcases List.mem_append.mp hx with hx | hx
          · exact hoff x hx
          · exact hoff₄ x hx
        cases r with
        | ok u => exact .inl ⟨hfree, hholding (handleConnection_holding hbranch)⟩
        | error e =>
            rcases Prog.reaches_bind.mp hbranch with hl | ⟨_, _, _, rfl, _, hl⟩
            · exact .inl ⟨hfree, hholding (releasePermit_holding hl)⟩
            · rcases Prog.reaches_bind.mp hl with hl | ⟨_, _, _, rfl, _, hl⟩
              · exact .inr (Prog.reaches_call.mp hl).2
              · exact (Prog.reaches_throw.mp hl).elim
    · simp only [hfree, decide_false, Bool.false_eq_true, if_false] at hrest
      exact .inr (Prog.reaches_call.mp hrest).2

/-- Closing the TLS socket raised. -/
def CloseRaised (h : Prog.History (AdmissionState H) (AdmissionInstr ι)) : Prop :=
  ∃ s e, (.closeTls, s) ∈ h ∧ s.fault = some e

theorem settled_append {h₁ h₂ : Prog.History (AdmissionState H) (AdmissionInstr ι)}
    (h : (∃ s, (.release, s) ∈ h₂) ∨ CloseRaised h₂) :
    (∃ s, (.release, s) ∈ h₁ ++ h₂) ∨ CloseRaised (h₁ ++ h₂) := by
  rcases h with ⟨s, hs⟩ | ⟨s, e, hs, he⟩
  · exact .inl ⟨s, List.mem_append_right _ hs⟩
  · exact .inr ⟨s, e, List.mem_append_right _ hs, he⟩

/-- A permit is released.  Kind: L -/
theorem releasePermit_ends {r : Except PyError Unit}
    (hends : Prog.Ends (releasePermit L) h r) : ∃ s, (.release, s) ∈ h := by
  obtain ⟨s, rfl, -⟩ := Prog.ends_call.mp hends
  exact ⟨s, List.mem_singleton.mpr rfl⟩

/-- A finished connection has released its permit, unless closing raised.  Kind: L -/
theorem finishConnection_ends {wrapped : Bool} {r : Except PyError Unit}
    (hends : Prog.Ends (finishConnection L wrapped) h r) :
    (∃ s, (.release, s) ∈ h) ∨ CloseRaised h := by
  rcases Prog.ends_bind.mp hends with ⟨e, -, hclose⟩ | ⟨h₁, h₂, _, rfl, -, hrelease⟩
  · right
    unfold closeWrapped at hclose
    split at hclose
    · obtain ⟨s, rfl, hs⟩ := Prog.ends_call.mp hclose
      cases hfault : s.fault with
      | none => simp [hfault] at hs
      | some e' => exact ⟨s, e', List.mem_singleton.mpr rfl, hfault⟩
    · cases (Prog.ends_pure.mp hclose).2
  · obtain ⟨s, hs⟩ := releasePermit_ends hrelease
    exact .inl ⟨s, List.mem_append_right _ hs⟩

/-- So has a handled one.  Kind: L -/
theorem handleConnection_ends {r : Except PyError Unit}
    (hends : Prog.Ends (handleConnection L i) h r) :
    (∃ s, (.release, s) ∈ h) ∨ CloseRaised h := by
  rcases Prog.ends_bind.mp hends with ⟨e, -, herr⟩ | ⟨h₁, h₂, w, rfl, -, hrest⟩
  · exact (Prog.ends_attempt_error.mp herr).elim
  · refine settled_append ?_
    cases w with
    | error e => exact finishConnection_ends hrest
    | ok wrapped =>
        rcases Prog.ends_bind.mp hrest with ⟨e, -, herr⟩ | ⟨h₃, h₄, _, rfl, -, hfinish⟩
        · exact (Prog.ends_attempt_error.mp herr).elim
        · exact settled_append (finishConnection_ends hfinish)

/-- A connection that is over and got a permit has given it back, unless closing its socket
raised.  Kind: L -/
theorem processRequest_ends {r : Except PyError Unit} {s : AdmissionState H}
    (hends : Prog.Ends (processRequest L i) ((.acquire, s) :: h) r) (hfree : 0 < s.permits) :
    (∃ s, (.release, s) ∈ h) ∨ CloseRaised h := by
  rcases Prog.ends_bind.mp hends with ⟨e, -, herr⟩ | ⟨h₁, h₂, permitted, hh, hacquire, hrest⟩
  · obtain ⟨s', -, hs'⟩ := Prog.ends_call.mp herr
    cases hs'
  · obtain ⟨s', rfl, hs'⟩ := Prog.ends_call.mp hacquire
    cases hs'
    rw [List.singleton_append, List.cons.injEq, Prod.mk.injEq] at hh
    obtain ⟨⟨-, rfl⟩, rfl⟩ := hh
    simp only [hfree, decide_true, if_true] at hrest
    rcases Prog.ends_bind.mp hrest with ⟨e, -, herr⟩ | ⟨h₃, h₄, w, rfl, -, hbranch⟩
    · exact (Prog.ends_attempt_error.mp herr).elim
    · refine settled_append ?_
      cases w with
      | ok u => exact handleConnection_ends hbranch
      | error e =>
          rcases Prog.ends_bind.mp hbranch with ⟨e', -, hrelease⟩ | ⟨h₅, h₆, _, rfl, hrelease, -⟩
          · exact .inl (releasePermit_ends hrelease)
          · obtain ⟨s', hs'⟩ := releasePermit_ends hrelease
            exact .inl ⟨s', List.mem_append_left _ hs'⟩

end thread

/-! ## Every run -/

section runs

variable {H ι : Type} {L : PeerListener H ι} {host : H}
  {tr tr₁ tr₂ : List (Event (AdmissionState H) (AdmissionInstr ι) (Option PyError × (H → H)))}
  {c : Pool (AdmissionState H) (AdmissionInstr ι) PyError Unit}

/-- An event of a run of a listener. -/
abbrev AdmissionEvent (H ι : Type) :=
  Event (AdmissionState H) (AdmissionInstr ι) (Option PyError × (H → H))

/-- The connection that takes a permit. -/
def takes : AdmissionEvent H ι → Option ℕ
  | .own i .acquire s => if 0 < s.permits then some i else none
  | _ => none

/-- The connection that gives a permit back. -/
def returns : AdmissionEvent H ι → Option ℕ
  | .own i .release _ => some i
  | _ => none

/-- The connections that hold a permit after a trace. -/
def holders (tr : List (AdmissionEvent H ι)) : Finset ℕ :=
  (tr.filterMap takes).toFinset \ (tr.filterMap returns).toFinset

/-- The takers are the threads that got a permit.  Kind: L -/
theorem mem_takers {i : ℕ} : i ∈ (tr.filterMap takes).toFinset ↔
    ∃ s, Event.own i .acquire s ∈ tr ∧ 0 < s.permits := by
  rw [List.mem_toFinset, List.mem_filterMap]
  constructor
  · rintro ⟨e, he, htakes⟩
    unfold takes at htakes
    split at htakes
    · split at htakes
      · cases htakes
        exact ⟨_, he, by assumption⟩
      · cases htakes
    · cases htakes
  · rintro ⟨s, he, hfree⟩
    exact ⟨_, he, by simp [takes, hfree]⟩

/-- The returners are the threads that gave one back.  Kind: L -/
theorem mem_returners {i : ℕ} : i ∈ (tr.filterMap returns).toFinset ↔
    ∃ s, Event.own i .release s ∈ tr := by
  rw [List.mem_toFinset, List.mem_filterMap]
  constructor
  · rintro ⟨e, he, hreturns⟩
    unfold returns at hreturns
    split at hreturns
    · cases hreturns
      exact ⟨_, he⟩
    · cases hreturns
  · rintro ⟨s, he⟩
    exact ⟨_, he, rfl⟩

/-- A connection that works, or gives a permit back, holds one.  Kind: L -/
theorem mem_holders_of_holding {i : ℕ} {l : AdmissionInstr ι} {s : AdmissionState H}
    (hrun : Run (admissionMachine L) (connectionPool L host) (tr₁ ++ .own i l s :: tr₂) c)
    (hacquire : l ≠ .acquire) (hreject : l ≠ .reject) : i ∈ holders tr₁ := by
  have hreach : Prog.Reaches (processRequest L i) (history i tr₁) l := hrun.reaches
  rcases processRequest_at hreach with ⟨-, rfl⟩ | ⟨t, h', hh, ⟨hfree, hoff, -⟩ | rfl⟩
  · exact absurd rfl hacquire
  · refine Finset.mem_sdiff.mpr ⟨mem_takers.mpr ⟨t, mem_history.mp (by simp [hh]), hfree⟩, ?_⟩
    intro hreturned
    obtain ⟨t', ht'⟩ := mem_returners.mp hreturned
    have hmem := mem_history.mpr ht'
    rw [hh] at hmem
    rcases List.mem_cons.mp hmem with heq | hmem
    · cases heq
    · exact (hoff _ hmem).2 rfl
  · exact absurd rfl hreject

/-- A connection asks for a permit first.  Kind: L -/
theorem history_eq_nil_of_acquire {i : ℕ} {s : AdmissionState H}
    (hrun : Run (admissionMachine L) (connectionPool L host) (tr₁ ++ .own i .acquire s :: tr₂) c) :
    history i tr₁ = [] := by
  have hreach : Prog.Reaches (processRequest L i) (history i tr₁) .acquire := hrun.reaches
  rcases processRequest_at hreach with ⟨hnil, -⟩ | ⟨t, h', hh, ⟨-, -, hne⟩ | heq⟩
  · exact hnil
  · exact absurd rfl hne
  · cases heq

/-- A connection asks for a permit once.  Kind: L -/
theorem not_mem_takers_of_acquire {i : ℕ} {s : AdmissionState H}
    (hrun : Run (admissionMachine L) (connectionPool L host) (tr₁ ++ .own i .acquire s :: tr₂) c) :
    i ∉ (tr₁.filterMap takes).toFinset ∧ i ∉ (tr₁.filterMap returns).toFinset := by
  have hnil := history_eq_nil_of_acquire hrun
  constructor
  · intro h
    obtain ⟨t, ht, -⟩ := mem_takers.mp h
    rw [← mem_history, hnil] at ht
    exact List.not_mem_nil ht
  · intro h
    obtain ⟨t, ht⟩ := mem_returners.mp h
    rw [← mem_history, hnil] at ht
    exact List.not_mem_nil ht

/-- An event that neither takes nor returns changes no holder.  Kind: L -/
theorem holders_snoc_of_neutral {e : AdmissionEvent H ι} (htakes : takes e = none)
    (hreturns : returns e = none) : holders (tr ++ [e]) = holders tr := by
  simp [holders, List.filterMap_append, htakes, hreturns]

/-- Free permits and holders add up to the bound.  Kind: L -/
theorem permits_add_holders (hrun : Run (admissionMachine L) (connectionPool L host) tr c) :
    c.state.permits + (holders tr).card = L.maxActiveHandlers := by
  induction hrun with
  | start => simp [holders, connectionPool]
  | env x hrun hallowed ih =>
      rw [holders_snoc_of_neutral rfl rfl]
      exact ih
  | @own tr c i l next hrun hi hready ih =>
      have hnext : Run (admissionMachine L) (connectionPool L host) (tr ++ [.own i l c.state]) _ :=
        .own i hrun hi hready
      by_cases hacquire : l = .acquire
      · subst hacquire
        obtain ⟨htaken, hreturned⟩ := not_mem_takers_of_acquire hnext
        by_cases hfree : 0 < c.state.permits
        · have hinsert : holders (tr ++ [.own i .acquire c.state]) = insert i (holders tr) := by
            ext j
            simp only [holders, List.filterMap_append, List.toFinset_append, Finset.mem_sdiff,
              Finset.mem_union, Finset.mem_insert]
            by_cases hj : j = i
            · subst hj
              simp [takes, returns, hfree, List.mem_toFinset.not.mp hreturned]
            · simp [takes, returns, hfree, hj]
          have hnew : i ∉ holders tr := fun h => htaken (Finset.mem_sdiff.mp h).1
          rw [hinsert, Finset.card_insert_of_notMem hnew]
          show c.state.permits - 1 + _ = _
          omega
        · rw [holders_snoc_of_neutral (by simp [takes, hfree]) rfl]
          show c.state.permits - 1 + _ = _
          omega
      · by_cases hrelease : l = .release
        · subst hrelease
          have hmem := mem_holders_of_holding hnext (by simp) (by simp)
          have herase : holders (tr ++ [.own i .release c.state]) = (holders tr).erase i := by
            ext j
            simp only [holders, List.filterMap_append, List.toFinset_append, Finset.mem_sdiff,
              Finset.mem_union, Finset.mem_erase]
            by_cases hj : j = i
            · subst hj
              simp [takes, returns]
            · simp [takes, returns, hj]
          have hpos : 0 < (holders tr).card := Finset.card_pos.mpr ⟨i, hmem⟩
          rw [herase, Finset.card_erase_of_mem hmem]
          show (if c.state.permits < L.maxActiveHandlers then
            { c.state with permits := c.state.permits + 1 } else c.state).permits + _ = _
          rw [if_pos (by omega)]
          show c.state.permits + 1 + _ = _
          omega
        · rw [holders_snoc_of_neutral]
          · cases l with
            | acquire => exact absurd rfl hacquire
            | release => exact absurd rfl hrelease
            | _ => exact ih
          · cases l with
            | acquire => exact absurd rfl hacquire
            | _ => rfl
          · cases l with
            | release => exact absurd rfl hrelease
            | _ => rfl

/-- **Permits are conserved.**  In every run of a listener: the free permits and the connections that
hold one add up to the bound; no permit is given back that was not taken; a handler works only while
its connection holds a permit, so at most that many work at once; and a connection that is over has
given its permit back, unless closing its TLS socket raised.
Source: `transport/server.py`, `_RemoteSocketListener.start`.  Kind: P -/
theorem admission_conserved (hrun : Run (admissionMachine L) (connectionPool L host) tr c) :
    c.state.permits + (holders tr).card = L.maxActiveHandlers ∧
      (∀ tr₁ i s tr₂, tr = tr₁ ++ .own i .release s :: tr₂ → s.permits < L.maxActiveHandlers) ∧
      (∀ tr₁ i l s tr₂, tr = tr₁ ++ .own i (.work l) s :: tr₂ → i ∈ holders tr₁) ∧
      ∀ i r, c.threads i = Prog.finished r → i ∈ holders tr →
        ∃ s e, Event.own i .closeTls s ∈ tr ∧ s.fault = some e := by
  refine ⟨permits_add_holders hrun, ?_, ?_, ?_⟩
  · rintro tr₁ i s tr₂ rfl
    have hmem := mem_holders_of_holding hrun (by simp) (by simp)
    have hpos : 0 < (holders tr₁).card := Finset.card_pos.mpr ⟨i, hmem⟩
    obtain ⟨c₁, hrun₁, hpre, -⟩ := hrun.split
    have hsum := permits_add_holders hrun₁
    rw [hpre] at hsum
    simp only [Event.pre] at hsum
    omega
  · rintro tr₁ i l s tr₂ rfl
    exact mem_holders_of_holding hrun (by simp) (by simp)
  · intro i r hfinished hholds
    obtain ⟨htaken, hkept⟩ := Finset.mem_sdiff.mp hholds
    obtain ⟨s, hs, hfree⟩ := mem_takers.mp htaken
    obtain ⟨ta, tb, rfl⟩ := List.append_of_mem hs
    have hends : Prog.Ends (processRequest L i)
        (history i (ta ++ .own i .acquire s :: tb)) r := hrun.ends hfinished
    have hhistory : history i (ta ++ .own i .acquire s :: tb) = (.acquire, s) :: history i tb := by
      rw [history_append, history_eq_nil_of_acquire hrun, history_cons, history_own_self]
      rfl
    rw [hhistory] at hends
    rcases processRequest_ends hends hfree with ⟨t, ht⟩ | ⟨t, e, ht, he⟩
    · exact absurd (mem_returners.mpr ⟨t, by simp [mem_history.mp ht]⟩) hkept
    · exact ⟨t, e, by simp [mem_history.mp ht], he⟩

end runs

/-! ## A small listener -/

/-- A listener with one permit, whose handlers count. -/
def sampleListener : PeerListener ℕ Unit where
  maxActiveHandlers := 1
  hasTls := true
  upd _ n := n + 1
  serve _ := .step () fun _ => .ret ()

/-- Whether an event is the work of connection `0`. -/
def isWork (e : AdmissionEvent ℕ Unit) : Bool :=
  match e with
  | .own 0 (.work _) _ => true
  | _ => false

/-- One connection at work, and one that is turned away. -/
theorem admission_conserved_sample : ∃ tr c,
    Run (admissionMachine sampleListener) (connectionPool sampleListener 0) tr c ∧
      tr.any isWork = true ∧ c.state.permits + (holders tr).card = 1 := by
  have hexec : (Pool.exec (admissionMachine sampleListener) (fun _ _ => true)
      [.thread 0, .thread 1, .thread 0, .thread 0, .thread 1, .thread 0]
      (connectionPool sampleListener 0)).any (fun out => out.1.any isWork) = true := by decide
  obtain ⟨tr, c, hrun, hwork⟩ := Run.of_exec (fun _ _ _ => trivial) hexec
  exact ⟨tr, c, hrun, hwork, (admission_conserved hrun).1⟩

end ExpraConnect
