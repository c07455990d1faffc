import ExpraConnect.Pairing.FlowRollback
import ExpraConnect.Pairing.Server

/-!
# Initiator and target

`NetworkPairing._establish` against a target that serves its messages, over a network that loses
messages, delays them and loses answers.

* `Passage`, `Turn`, `PairingNet`: what the network does with each call, and the messages that the
  initiator gave up but that can still arrive; `PairingNet.env` is the environment of the flow;
* `PairingNet.unseen`: whether a confirmation found its transaction without the initiator getting
  the answer;
* `establish_post`: one call of `pair` or `repair`;
* `PairingRun`, `ConsistentRun`: runs of calls, late arrivals and losses;
* `pairing_consistent`: without unseen confirmations both parties agree;
* `lost_answer_leaves_grant`: with one they do not;
* `repair_conflicts`: the target never recognises the root of a peer that paired over the network.
-/

namespace ExpraConnect

open ExpraConnect.Lib

/-! ## The network -/

/-- What becomes of one call of a transport. -/
inductive Passage where
  /-- The message is lost. -/
  | lost (e : PyError)
  /-- The call fails, but the message is still on its way. -/
  | late (e : PyError)
  /-- The message arrives, but the answer is lost. -/
  | unanswered (h : Handling) (e : PyError)
  /-- The message arrives, and so does its answer. -/
  | answered (h : Handling)

/-- What happens up to one call, and what the call comes to. -/
structure Turn where
  /-- The late messages that arrive before, by their place in the flight. -/
  arrivals : List (ℕ × Handling)
  /-- Whether the cancel event is set. -/
  cancelled : Bool
  /-- The clock of the initiator. -/
  now : ℚ
  /-- What building a transport comes to. -/
  connected : Except PyError Unit
  /-- Whether the initiator's store could be written. -/
  persisted : Bool
  /-- What becomes of a message. -/
  delivery : Passage

/-- What is outside the initiator: the target, and the messages on their way to it. -/
structure PairingNet where
  /-- The target's port. -/
  target : HostView PairingPort
  /-- The messages that the initiator gave up, and that can still arrive. -/
  flight : List Fields
  /-- What will happen. -/
  turns : ℕ → Turn
  /-- A confirmation found its transaction, and the initiator did not get the answer. -/
  unseen : Bool

namespace PairingNet

variable (check : SignatureCheck) (tag : Value → ℕ)

/-- A message arrives, and nobody waits for its answer. -/
def deliver (h : Handling) (raw : Fields) (n : PairingNet) : PairingNet :=
  { n with
    target := (Port.serve check tag h raw).after n.target
    unseen := n.unseen || Port.commits h.now raw n.target.host }

/-- A late message arrives. -/
def arrive (n : PairingNet) (a : ℕ × Handling) : PairingNet :=
  match n.flight[a.1]? with
  | none => n
  | some raw => { deliver check tag a.2 raw n with flight := n.flight.eraseIdx a.1 }

/-- A message on its way is lost. -/
def lose (n : PairingNet) (i : ℕ) : PairingNet := { n with flight := n.flight.eraseIdx i }

/-- The next turn, after its arrivals. -/
def turn (n : PairingNet) : Turn × PairingNet :=
  (n.turns 0, (n.turns 0).arrivals.foldl (arrive check tag)
    { n with turns := fun i => n.turns (i + 1) })

/-- A message is sent, once the late ones arrived. -/
def send (raw : Fields) (n : PairingNet) : Passage → Except PyError (Option Value) × PairingNet
  | .lost e => (.error e, n)
  | .late e => (.error e, { n with flight := n.flight ++ [raw] })
  | .unanswered h e => (.error e, deliver check tag h raw n)
  | .answered h =>
      match Port.serve check tag h raw n.target with
      | .ok answer v => (.ok (some answer), { n with target := v })
      | .error _ v =>
          (.error ⟨.remoteTransport, "connection closed before response"⟩, { n with target := v })

/-- One call of a transport. -/
def exchange (raw : Fields) (n : PairingNet) : Except PyError (Option Value) × PairingNet :=
  send check tag raw (n.turn check tag).2 (n.turn check tag).1.delivery

/-- The network and the target, as the flow meets them. -/
def env : FlowEnv PairingNet where
  cancelled _ n := ((n.turn check tag).1.cancelled, (n.turn check tag).2)
  clock _ n := ((n.turn check tag).1.now, (n.turn check tag).2)
  connect _ _ _ n := ((n.turn check tag).1.connected, (n.turn check tag).2)
  request _ _ raw n := exchange check tag raw n
  control _ _ raw n := exchange check tag raw n
  persist _ _ n := ((n.turn check tag).1.persisted, (n.turn check tag).2)

variable {check : SignatureCheck} {tag : Value → ℕ} {n n' n'' : PairingNet} {raw : Fields}

/-- Unless a confirmation goes unseen, the target's grants stay. -/
def Keeps (n n' : PairingNet) : Prop :=
  n'.unseen = false → n.unseen = false ∧ Port.SameGrants n.target n'.target

theorem Keeps.refl (n : PairingNet) : Keeps n n := fun h => ⟨h, rfl⟩

theorem Keeps.trans (h : Keeps n n') (h' : Keeps n' n'') : Keeps n n'' := by
  intro hunseen
  obtain ⟨hunseen', hsame'⟩ := h' hunseen
  obtain ⟨hunseen'', hsame⟩ := h hunseen'
  exact ⟨hunseen'', hsame'.trans hsame⟩

/-- `deliver` keeps the grants of the target.  Kind: L -/
theorem keeps_deliver (h : Handling) (raw : Fields) (n : PairingNet) :
    Keeps n (deliver check tag h raw n) := by
  intro hunseen
  obtain ⟨hold, hcommits⟩ := Bool.or_eq_false_iff.mp hunseen
  exact ⟨hold, PyM.after_of_post (Port.serve_grants check tag hcommits)⟩

/-- `arrive` keeps the grants of the target.  Kind: L -/
theorem keeps_arrive (n : PairingNet) (a : ℕ × Handling) : Keeps n (arrive check tag n a) := by
  unfold arrive
  split
  · exact Keeps.refl n
  · exact keeps_deliver a.2 _ n

/-- `arrivals` keeps the grants of the target.  Kind: L -/
theorem keeps_arrivals (l : List (ℕ × Handling)) (n : PairingNet) :
    Keeps n (l.foldl (arrive check tag) n) := by
  induction l generalizing n with
  | nil => exact Keeps.refl n
  | cons a rest ih => exact (keeps_arrive n a).trans (ih _)

/-- `turn` keeps the grants of the target.  Kind: L -/
theorem keeps_turn (check : SignatureCheck) (tag : Value → ℕ) (n : PairingNet) :
    Keeps n (n.turn check tag).2 :=
  keeps_arrivals _ { n with turns := fun i => n.turns (i + 1) }

/-- What a call comes to whose message arrives and is answered.  Kind: L -/
theorem send_answered (h : Handling) (n : PairingNet) :
    send check tag raw n (.answered h) =
      match Port.serve check tag h raw n.target with
      | .ok answer v => (.ok (some answer), { n with target := v })
      | .error _ v =>
          (.error ⟨.remoteTransport, "connection closed before response"⟩,
            { n with target := v }) := rfl

/-- A message that is no confirmation keeps the grants.  Kind: L -/
theorem exchange_keeps (check : SignatureCheck) (tag : Value → ℕ)
    (hop : getField "op" raw ≠ some (.str "pair_confirm")) (n : PairingNet) :
    Keeps n (exchange check tag raw n).2 := by
  refine (keeps_turn check tag n).trans ?_
  unfold exchange
  generalize (n.turn check tag).2 = n₁
  cases (n.turn check tag).1.delivery with
  | lost e => exact Keeps.refl n₁
  | late e => exact Keeps.refl n₁
  | unanswered h e => exact keeps_deliver h raw n₁
  | answered h =>
      have hcommits : Port.commits h.now raw n₁.target.host = false :=
        Bool.eq_false_iff.mpr fun hc => hop (Port.commits_of_op hc)
      have hpost := Port.serve_grants check tag hcommits
      rw [send_answered]
      cases hserve : Port.serve check tag h raw n₁.target with
      | ok answer v =>
          have hsame := PyM.post_of_ok hpost hserve
          exact fun hunseen => ⟨hunseen, hsame⟩
      | error e v =>
          have hsame := PyM.post_of_error hpost hserve
          exact fun hunseen => ⟨hunseen, hsame⟩

/-- An approved answer to a request echoes it.  Kind: L -/
theorem exchange_request (hop : getField "op" raw = some (.str "pair_request")) {n : PairingNet}
    {answer : Value} (hanswer : (exchange check tag raw n).1 = .ok (some answer))
    (happroved : answer.approved = true) :
    ∃ texts intent r response, answer = .dict response ∧
      pairingRequestOf tag raw texts intent = .ok r ∧ Port.Echoes r response := by
  unfold exchange at hanswer
  generalize (n.turn check tag).2 = n₁ at hanswer
  cases hdelivery : (n.turn check tag).1.delivery with
  | answered h =>
      rw [hdelivery, send_answered] at hanswer
      cases hserve : Port.serve check tag h raw n₁.target with
      | ok a v =>
          simp only [hserve, Except.ok.injEq, Option.some.injEq] at hanswer
          subst hanswer
          exact (PyM.post_of_ok (Port.serve_request check tag hop) hserve).2 happroved
      | error e v =>
          simp only [hserve] at hanswer
          cases hanswer
  | _ =>
      rw [hdelivery] at hanswer
      cases hanswer

/-- An approved answer to a confirmation comes from a target that made the grant: the transaction
was there, and unless a confirmation had gone unseen, nothing else had changed. -/
def Granted (n n' : PairingNet) (raw : Fields) : Prop :=
  ∃ v r pending expected, Port.Confirms v raw n'.target r pending expected ∧
    (n'.unseen = false → n.unseen = false ∧ Port.SameGrants n.target v)

/-- An approved confirmation was delivered and granted.  Kind: L -/
theorem exchange_approved (check : SignatureCheck) (tag : Value → ℕ)
    (hop : getField "op" raw = some (.str "pair_confirm")) {n : PairingNet} {answer : Value}
    (hanswer : (exchange check tag raw n).1 = .ok (some answer))
    (happroved : answer.approved = true) : Granted n (exchange check tag raw n).2 raw := by
  have hturn := keeps_turn check tag n
  unfold exchange at hanswer ⊢
  generalize (n.turn check tag).2 = n₁ at hturn hanswer ⊢
  cases hdelivery : (n.turn check tag).1.delivery with
  | answered h =>
      rw [hdelivery, send_answered] at hanswer
      rw [send_answered]
      cases hserve : Port.serve check tag h raw n₁.target with
      | ok a v =>
          simp only [hserve, Except.ok.injEq, Option.some.injEq] at hanswer
          subst hanswer
          obtain ⟨r, pending, expected, hconfirms⟩ :=
            PyM.post_of_ok (Port.serve_approved check tag hop) hserve happroved
          exact ⟨{ n₁.target with clock := h.now }, r, pending, expected, hconfirms, hturn⟩
      | error e v =>
          simp only [hserve] at hanswer
          cases hanswer
  | _ =>
      rw [hdelivery] at hanswer
      cases hanswer

/-- Where the service accepts the grants, a confirmation that is not approved keeps them.
Kind: L -/
theorem exchange_refused (check : SignatureCheck) (tag : Value → ℕ)
    (hop : getField "op" raw = some (.str "pair_confirm"))
    (hsecret : ∀ now r, pairingControlOf now raw = .ok r → validSecret r.secret = true)
    {n : PairingNet} (hvalid : n.unseen = false → Port.GrantsValid n.target.host.pairing)
    (hrefused : ∀ answer, (exchange check tag raw n).1 = .ok (some answer) →
      answer.approved = false) : Keeps n (exchange check tag raw n).2 := by
  have hturn := keeps_turn check tag n
  unfold exchange at hrefused ⊢
  generalize (n.turn check tag).2 = n₁ at hturn hrefused ⊢
  cases hdelivery : (n.turn check tag).1.delivery with
  | lost e => exact hturn
  | late e => exact hturn
  | unanswered h e => exact hturn.trans (keeps_deliver h raw n₁)
  | answered h =>
      rw [hdelivery, send_answered] at hrefused
      rw [send_answered]
      intro hunseen
      have hclear : n₁.unseen = false := by
        cases hserve : Port.serve check tag h raw n₁.target <;> rw [hserve] at hunseen <;>
          exact hunseen
      -- as no confirmation went unseen, the grants are still the valid ones
      obtain ⟨hold, hsame⟩ := hturn hclear
      have hvalid' : Port.GrantsValid n₁.target.host.pairing := by
        unfold Port.GrantsValid
        rw [hsame]
        exact hvalid hold
      have hpost := Port.serve_confirm check tag hvalid' hop (hsecret h.now)
      cases hserve : Port.serve check tag h raw n₁.target with
      | ok a v =>
          rw [hserve] at hrefused
          rcases PyM.post_of_ok hpost hserve with ⟨hyes, -⟩ | ⟨-, hsame'⟩
          · cases hyes.symm.trans (hrefused a rfl)
          · exact ⟨hold, hsame'.trans hsame⟩
      | error e v => exact ⟨hold, (PyM.post_of_error hpost hserve).trans hsame⟩

/-! ## The calls of the flow -/

/-- The initiator's manager is as it was, and the target's grants are kept. -/
def Still (s s' : FlowState PairingNet) : Prop := s'.pairing = s.pairing ∧ Keeps s.env s'.env

theorem Still.refl (s : FlowState PairingNet) : Still s s := ⟨rfl, Keeps.refl s.env⟩

variable {α : Type} {s₀ s : FlowState PairingNet}

/-- What `call` leaves, of the network and of the manager.  Kind: L -/
theorem call_post {R : PyError → FlowState PairingNet → Prop} (h : Still s₀ s)
    {f : PairingNet → α × PairingNet} (hf : ∀ n, Keeps n (f n).2) :
    (FlowEnv.call f).Post s (fun _ s' => Still s₀ s') R :=
  ⟨h.1, h.2.trans (hf s.env)⟩

/-- What `cancelled` leaves, of the network and of the manager.  Kind: L -/
theorem cancelled_post {R : PyError → FlowState PairingNet → Prop} (h : Still s₀ s)
    (c : Checkpoint) :
    (FlowEnv.call ((env check tag).cancelled c)).Post s (fun _ s' => Still s₀ s') R :=
  call_post h fun n => keeps_turn check tag n

/-- What `clock` leaves, of the network and of the manager.  Kind: L -/
theorem clock_post {R : PyError → FlowState PairingNet → Prop} (h : Still s₀ s) (c : ClockRead) :
    (FlowEnv.call ((env check tag).clock c)).Post s (fun _ s' => Still s₀ s') R :=
  call_post h fun n => keeps_turn check tag n

/-- What `callRaising` leaves, of the network and of the manager.  Kind: L -/
theorem callRaising_post (h : Still s₀ s) {f : PairingNet → Except PyError α × PairingNet}
    (hf : ∀ n, Keeps n (f n).2) :
    (FlowEnv.callRaising f).Post s (fun a s' => Still s₀ s' ∧ (f s.env).1 = .ok a)
      (fun _ s' => Still s₀ s') := by
  have hkeeps := h.2.trans (hf s.env)
  unfold PyM.Post FlowEnv.callRaising
  revert hkeeps
  rcases f s.env with ⟨r, n⟩
  intro hkeeps
  cases r with
  | ok a => exact ⟨⟨h.1, hkeeps⟩, rfl⟩
  | error e => exact ⟨h.1, hkeeps⟩

/-- What `save` leaves, of the network and of the manager.  Kind: L -/
theorem save_post {R : PyError → FlowState PairingNet → Prop} (h : Still s₀ s) (p : PersistAt) :
    ((env check tag).save p).Post s (fun _ s' => Still s₀ s') R :=
  ⟨h.1, h.2.trans (keeps_turn check tag s.env)⟩

/-- The response answers the message, with its caller and its secret. -/
def Answers (tag : Value → ℕ) (message response : Fields) : Prop :=
  ∃ texts intent r, pairingRequestOf tag message texts intent = .ok r ∧ Port.Echoes r response

/-- An approved response is an object that says so.  Kind: L -/
theorem pairingResponse?_eq_some {response : Value} {fields : Fields}
    (h : pairingResponse? response = some fields) :
    response = .dict fields ∧ response.approved = true := by
  unfold pairingResponse? at h
  split at h
  · split at h
    · rename_i happroved
      split at h
      · split at h
        · cases h
        · obtain rfl := Option.some.inj h
          exact ⟨rfl, happroved⟩
      · cases h
    · cases h
  · cases h

/-- An answer is loaded if and only if there is one.  Kind: L -/
theorem loaded_eq_ok {answer : Option Value} {response : Value} :
    loaded answer = .ok response ↔ answer = some response := by
  cases answer <;> simp [loaded]

/-- One exchange of a pairing request.  Kind: L -/
theorem requestPairing_post (h : Still s₀ s) (route : ℕ) (endpoint : EndpointCandidate)
    {message : Fields} (hop : getField "op" message = some (.str "pair_request")) :
    (requestPairing (env check tag) route endpoint message).Post s
      (fun result s' => Still s₀ s' ∧ ∀ response, result = some response →
        Answers tag message response)
      (fun _ s' => Still s₀ s') := by
  have hnotConfirm : getField "op" message ≠ some (.str "pair_confirm") := by
    rw [hop]
    simp
  unfold requestPairing
  refine (cancelled_post h _).bind ?_
  intro cancelled s₁ h₁
  split
  · exact ⟨h₁, fun _ hnone => by cases hnone⟩
  · refine (callRaising_post (f := (env check tag).request route endpoint message) h₁
      fun n => exchange_keeps check tag hnotConfirm n).bind ?_
    rintro answer s₂ ⟨h₂, hanswer⟩
    refine (cancelled_post h₂ _).bind ?_
    intro cancelled' s₃ h₃
    split
    · exact ⟨h₃, fun _ hnone => by cases hnone⟩
    · refine PyM.Post.bind (P := fun response s' => Still s₀ s' ∧ answer = some response)
        (PyM.post_ofExcept (fun response hresponse => ⟨h₃, loaded_eq_ok.mp hresponse⟩)
          fun _ _ => h₃) ?_
      rintro response s₄ ⟨h₄, rfl⟩
      refine ⟨h₄, fun fields hfields => ?_⟩
      obtain ⟨rfl, happroved⟩ := pairingResponse?_eq_some hfields
      obtain ⟨texts, intent, r, response, heq, hr, hechoes⟩ :=
        exchange_request hop hanswer happroved
      cases heq
      exact ⟨texts, intent, r, hr, hechoes⟩

/-- The loop over the routes.  Kind: L -/
theorem tryRoutes_post (h : Still s₀ s) (fp : String) {message : Fields}
    (hop : getField "op" message = some (.str "pair_request")) (i : ℕ)
    (routes : List EndpointCandidate) (errors : List PyError) :
    (NetworkPairing.tryRoutes (env check tag) fp message i routes errors).Post s
      (fun result s' => Still s₀ s' ∧ ∀ endpoint response, result = .ok (endpoint, some response) →
        Answers tag message response)
      (fun _ s' => Still s₀ s') := by
  induction routes generalizing i errors s with
  | nil => exact ⟨h, fun _ _ hnone => by cases hnone⟩
  | cons endpoint rest ih =>
      unfold NetworkPairing.tryRoutes
      have hattempt : (PyM.attempt do
          FlowEnv.callRaising ((env check tag).connect i endpoint fp)
          requestPairing (env check tag) i endpoint message).Post s
          (fun result s' => Still s₀ s' ∧ ∀ response, result = .ok (some response) →
            Answers tag message response) (fun _ s' => Still s₀ s') := by
        have hconnect := callRaising_post (f := (env check tag).connect i endpoint fp) h
          fun n => keeps_turn check tag n
        refine (hconnect.bind fun _ s₁ h₁ =>
          requestPairing_post h₁.1 i endpoint hop).attempt.mono ?_ fun _ _ hs => hs
        rintro (e | result) s' hs'
        · exact ⟨hs', fun _ hnone => by cases hnone⟩
        · refine ⟨hs'.1, fun response hresponse => hs'.2 response ?_⟩
          exact Except.ok.inj hresponse
      refine hattempt.bind ?_
      rintro (e | result) s₁ ⟨h₁, hanswers⟩
      · dsimp only
        split
        · exact ih h₁ (i + 1) (errors ++ [e])
        · exact h₁
      · refine ⟨h₁, fun endpoint' response heq => hanswers response ?_⟩
        obtain ⟨-, rfl⟩ := Prod.mk.inj (Except.ok.inj heq)
        rfl

/-! ## Aborts, rollbacks and the confirmation -/

/-- The initiator's trust in the peer is as it was, and the target's grants are kept. -/
def Back (peer : NodeId) (s s' : FlowState PairingNet) : Prop :=
  s'.pairing.trusted.get? peer = s.pairing.trusted.get? peer ∧ Keeps s.env s'.env

/-- The restored trust is the previous one.  Kind: L -/
theorem trusted_restoreTrusted (m : PairingManager) (peer : NodeId)
    (previous : Option TrustedPeer) (broken : Bool) :
    (m.restoreTrusted peer previous broken).trusted.get? peer = previous := by
  cases previous with
  | none => exact Dict.get?_erase_self _ _
  | some t => exact Dict.get?_insert_self _ _ _

/-- What `rollback` leaves, of the network and of the manager.  Kind: L -/
theorem rollback_post {R : PyError → FlowState PairingNet → Prop} {peer : NodeId}
    (hkeeps : Keeps s₀.env s.env) (broken : Bool) (txid : String) :
    (NetworkPairing.rollback (env check tag) peer (s₀.pairing.trusted.get? peer) broken txid).Post
      s (fun _ s' => Back peer s₀ s') R :=
  ⟨trusted_restoreTrusted _ _ _ _, hkeeps.trans (keeps_turn check tag s.env)⟩

/-- What a control comes to.  Kind: L -/
theorem pairingControl_apply (t : PairingTransaction) (op : ControlOp)
    (s : FlowState PairingNet) :
    pairingControl (env check tag) t op s =
      match exchange check tag (t.message op) s.env with
      | (.ok (some answer), n) => .ok answer.approved { s with env := n }
      | (.ok none, n) => .error ⟨.value, "response is not JSON"⟩ { s with env := n }
      | (.error e, n) => .error e { s with env := n } := by
  unfold pairingControl
  rw [PyM.bind_apply]
  unfold FlowEnv.callRaising
  have henv : (env check tag).control op t.transport (t.message op) s.env =
      exchange check tag (t.message op) s.env := rfl
  rw [henv]
  rcases exchange check tag (t.message op) s.env with ⟨r, n⟩
  rcases r with e | answer
  · rfl
  · cases answer <;> rfl

/-- What `abortPairing` leaves, of the network and of the manager.  Kind: L -/
theorem abortPairing_post (t : PairingTransaction) (s : FlowState PairingNet) :
    (abortPairing (env check tag) t).Post s (fun _ s' => Still s s') (fun _ s' => Still s s') := by
  have hop : getField "op" (t.message .abort) ≠ some (.str "pair_confirm") := by
    rw [PairingTransaction.message, getField_cons_self]
    simp [ControlOp.value]
  have hkeeps := exchange_keeps check tag hop s.env
  unfold abortPairing PyM.Post
  rw [pairingControl_apply]
  cases hexchange : exchange check tag (t.message .abort) s.env with
  | mk r n =>
  rw [hexchange] at hkeeps
  rcases r with e | answer
  · exact ⟨rfl, hkeeps⟩
  · cases answer <;> exact ⟨rfl, hkeeps⟩

/-- What `abortThenRollback` leaves, of the network and of the manager.  Kind: L -/
theorem abortThenRollback_post {a : NetworkPairing.Attempt} {o : NetworkPairing.Opening}
    (hprevious : o.previous = s₀.pairing.trusted.get? a.peer) (hkeeps : Keeps s₀.env s.env)
    (pending : PendingPairing) (t : PairingTransaction) :
    (NetworkPairing.abortThenRollback (env check tag) a o pending t).Post s
      (fun _ s' => Back a.peer s₀ s') (fun _ s' => Back a.peer s₀ s') := by
  unfold NetworkPairing.abortThenRollback
  refine (abortPairing_post t s).attempt.bind ?_
  intro outcome s₁ hs₁
  have h₁ : Keeps s₀.env s₁.env := by
    cases outcome with
    | ok b => exact hkeeps.trans hs₁.2
    | error e => exact hkeeps.trans hs₁.2
  rw [hprevious]
  refine (rollback_post h₁ o.previousBroken pending.transactionId).bind ?_
  intro _ s₂ h₂
  refine PyM.Post.bind (P := fun _ s' => Back a.peer s₀ s')
    (PyM.post_ofExcept (fun _ _ => h₂) fun _ _ => h₂) ?_
  intro _ s₃ h₃
  exact h₃

/-- What `cancelAccepted` leaves, of the network and of the manager.  Kind: L -/
theorem cancelAccepted_post {a : NetworkPairing.Attempt} {o : NetworkPairing.Opening}
    (hprevious : o.previous = s₀.pairing.trusted.get? a.peer) (hkeeps : Keeps s₀.env s.env)
    (pending : PendingPairing) (t : PairingTransaction) :
    (NetworkPairing.cancelAccepted (env check tag) a o pending t).Post s
      (fun _ s' => Back a.peer s₀ s') (fun _ s' => Back a.peer s₀ s') := by
  unfold NetworkPairing.cancelAccepted
  rw [hprevious]
  refine (rollback_post hkeeps o.previousBroken pending.transactionId).bind ?_
  intro _ s₁ h₁
  have hback : ∀ s', Still s₁ s' → Back a.peer s₀ s' := by
    rintro s' ⟨hpairing, hkeeps'⟩
    refine ⟨?_, h₁.2.trans hkeeps'⟩
    rw [hpairing]
    exact h₁.1
  exact ((abortPairing_post t s₁).mono (fun _ => hback) fun _ => hback).bind fun _ _ h => h

/-- A transaction that carries a secret that the service accepts.  Kind: L -/
theorem validSecret_of_message {t : PairingTransaction} {secret : String}
    (hsecret : t.secret = .str secret) (hvalid : validSecret secret = true) (now : ℚ)
    (r : PairingControlRequest) (hr : pairingControlOf now (t.message .confirm) = .ok r) :
    validSecret r.secret = true := by
  have hfield := (pairingControlOf_eq_ok hr).secret
  have hmessage : getField "secret" (t.message .confirm) = some t.secret := rfl
  rw [hmessage, hsecret] at hfield
  obtain rfl : secret = r.secret := Value.str.inj (Option.some.inj hfield)
  exact hvalid

/-- What was granted before stays granted.  Kind: L -/
theorem Granted.of_keeps {n₁ n₂ n₃ : PairingNet} (h : Keeps n₁ n₂) (hg : Granted n₂ n₃ raw) :
    Granted n₁ n₃ raw := by
  obtain ⟨v, r, pending, expected, hconfirms, hseen⟩ := hg
  refine ⟨v, r, pending, expected, hconfirms, fun hunseen => ?_⟩
  obtain ⟨hseen', hv⟩ := hseen hunseen
  obtain ⟨hseen'', hsame⟩ := h hseen'
  exact ⟨hseen'', hv.trans hsame⟩

/-- The confirmation of a transaction: it is answered `True`, and the grant was made, or the grants
are kept.  Kind: L -/
theorem confirmPairing_post {t : PairingTransaction} {secret : String}
    (hsecret : t.secret = .str secret) (hdrawn : validSecret secret = true)
    (hvalid : s₀.env.unseen = false → Port.GrantsValid s₀.env.target.host.pairing)
    (hkeeps : Keeps s₀.env s.env) :
    (confirmPairing (env check tag) t).Post s
      (fun b s' => s'.pairing = s.pairing ∧
        (b = true → Granted s₀.env s'.env (t.message .confirm)) ∧
        (b = false → Keeps s₀.env s'.env))
      (fun _ s' => Keeps s₀.env s'.env) := by
  have hop : getField "op" (t.message .confirm) = some (.str "pair_confirm") := rfl
  unfold confirmPairing
  refine (cancelled_post (Still.refl s) _).bind ?_
  rintro cancelled s₁ ⟨hpairing, hkeeps'⟩
  have hkeeps₁ : Keeps s₀.env s₁.env := hkeeps.trans hkeeps'
  have hvalid₁ : s₁.env.unseen = false → Port.GrantsValid s₁.env.target.host.pairing := by
    intro hunseen
    obtain ⟨hold, hsame⟩ := hkeeps₁ hunseen
    unfold Port.GrantsValid
    rw [hsame]
    exact hvalid hold
  split
  · exact ⟨hpairing, fun hb => absurd hb Bool.false_ne_true, fun _ => hkeeps₁⟩
  · have happroved : ∀ answer, (exchange check tag (t.message .confirm) s₁.env).1 =
        .ok (some answer) → answer.approved = true →
          Granted s₁.env (exchange check tag (t.message .confirm) s₁.env).2
            (t.message .confirm) := fun answer => exchange_approved check tag hop
    have hrefused := exchange_refused check tag hop (validSecret_of_message hsecret hdrawn) hvalid₁
    unfold PyM.Post
    rw [pairingControl_apply]
    cases hcall : exchange check tag (t.message .confirm) s₁.env with
    | mk r n =>
    rw [hcall] at happroved hrefused
    rcases r with e | answer
    · exact hkeeps₁.trans (hrefused fun _ h => by cases h)
    · cases answer with
      | none => exact hkeeps₁.trans (hrefused fun _ h => by cases h)
      | some answer =>
          refine ⟨hpairing, fun hyes => (happroved answer rfl hyes).of_keeps hkeeps₁,
            fun hno => hkeeps₁.trans (hrefused ?_)⟩
          intro answer' h
          cases h
          exact hno

/-- Everything after `accept_grant`.  Kind: L -/
theorem settle_post {a : NetworkPairing.Attempt} {o : NetworkPairing.Opening}
    {pending : PendingPairing} {t : PairingTransaction} {trusted : TrustedPeer} {secret : String}
    (hprevious : o.previous = s₀.pairing.trusted.get? a.peer)
    (hsecret : t.secret = .str secret) (hdrawn : validSecret secret = true)
    (hvalid : s₀.env.unseen = false → Port.GrantsValid s₀.env.target.host.pairing)
    (hkeeps : Keeps s₀.env s.env) :
    (NetworkPairing.settle (env check tag) a o pending t trusted).Post s
      (fun result s' => result = trusted ∧ s'.pairing = s.pairing ∧
        Granted s₀.env s'.env (t.message .confirm))
      (fun _ s' => Back a.peer s₀ s') := by
  have hcancel : ∀ {s₁ : FlowState PairingNet}, Keeps s₀.env s₁.env → ∀ e : PyError,
      (do NetworkPairing.cancelAccepted (env check tag) a o pending t
          throw e : PyM (FlowState PairingNet) TrustedPeer).Post s₁
        (fun result s' => result = trusted ∧ s'.pairing = s.pairing ∧
          Granted s₀.env s'.env (t.message .confirm))
        (fun _ s' => Back a.peer s₀ s') := fun h e =>
    (cancelAccepted_post hprevious h pending t).bind fun _ _ h => h
  have habort : ∀ {s₁ : FlowState PairingNet}, Keeps s₀.env s₁.env → ∀ e : PyError,
      (do NetworkPairing.abortThenRollback (env check tag) a o pending t
          throw e : PyM (FlowState PairingNet) TrustedPeer).Post s₁
        (fun result s' => result = trusted ∧ s'.pairing = s.pairing ∧
          Granted s₀.env s'.env (t.message .confirm))
        (fun _ s' => Back a.peer s₀ s') := fun h e =>
    (abortThenRollback_post hprevious h pending t).bind fun _ _ h => h
  unfold NetworkPairing.settle
  refine (cancelled_post (Still.refl s) _).bind ?_
  rintro accepted s₁ h₁
  split
  · exact hcancel (hkeeps.trans h₁.2) _
  · refine (save_post h₁ _).bind ?_
    rintro persisted s₂ h₂
    split
    · exact habort (hkeeps.trans h₂.2) _
    · refine (cancelled_post h₂ _).bind ?_
      rintro cancelled s₃ h₃
      split
      · exact hcancel (hkeeps.trans h₃.2) _
      · refine (confirmPairing_post hsecret hdrawn hvalid
          (hkeeps.trans h₃.2)).attempt.bind ?_
        rintro (e | b) s₄ h₄
        · exact habort h₄ e
        · obtain ⟨hpairing, hgranted, hkept⟩ := h₄
          cases b with
          | true => exact ⟨rfl, hpairing.trans h₃.1, hgranted rfl⟩
          | false => exact habort (hkept rfl) _

/-! ## One call -/

/-- The request that the target reads: it has the caller and the secret of the message, and none of
the root, the generation and the proof.  Kind: L -/
theorem pairingRequestOf_requestMessage {self : NetworkPairing} {secret : String}
    {permissions : Finset String} {intent intent' : Intent} {texts : List String}
    {r : PairingRequest}
    (h : pairingRequestOf tag (self.requestMessage secret permissions intent) texts intent' =
      .ok r) :
    r.callerNodeId = self.nodeId ∧ r.proposedSecret = secret ∧ r.rootPublicKey = none := by
  simp only [pairingRequestOf, Except.bind_eq_ok] at h
  obtain ⟨caller, hcaller, items, -, h⟩ := h
  have hself : callerOf (self.requestMessage secret permissions intent) = .ok self.nodeId :=
    NodeId.new_value self.nodeId
  obtain rfl : self.nodeId = caller := Except.ok.inj (hself.symm.trans hcaller)
  have hsecret : (getField "secret" (self.requestMessage secret permissions intent)).bind
      Value.asStr? = some secret := rfl
  rw [hsecret] at h
  dsimp only at h
  split at h
  · split at h
    · split at h
      · split at h
        · cases h
          exact ⟨rfl, rfl, rfl⟩
        · cases h
      · cases h
    · cases h
  · cases h

/-- An answered message of the flow is echoed with its own caller and secret.  Kind: L -/
theorem Answers.fields {self : NetworkPairing} {secret : String} {permissions : Finset String}
    {intent : Intent} {response : Fields}
    (h : Answers tag (self.requestMessage secret permissions intent) response) :
    getField "caller_node_id" response = some (.str self.nodeId.value) ∧
      getField "secret" response = some (.str secret) := by
  obtain ⟨texts, intent', r, hr, hechoes⟩ := h
  obtain ⟨hcaller, hsecret, -⟩ := pairingRequestOf_requestMessage hr
  exact ⟨hcaller ▸ hechoes.caller, hsecret ▸ hechoes.secret⟩

/-- A field that was read is there.  Kind: L -/
theorem responseField_eq_ok {key : String} {response : Fields} {v : Value}
    (h : NetworkPairing.responseField key response = .ok v) : getField key response = some v := by
  unfold NetworkPairing.responseField at h
  split at h
  · obtain rfl := Except.ok.inj h
    assumption
  · cases h

/-- What a transaction was read from.  Kind: L -/
theorem transactionOf_eq_ok {response : Fields} {accepted : Finset NodePermission}
    {endpoint : EndpointCandidate} {t : PairingTransaction}
    (h : NetworkPairing.transactionOf response accepted endpoint = .ok t) :
    getField "caller_node_id" response = some t.callerNodeId ∧
      getField "secret" response = some t.secret ∧ t.permissions = accepted := by
  simp only [NetworkPairing.transactionOf, Except.bind_eq_ok, Except.pure_eq_ok] at h
  obtain ⟨txid, -, caller, hcaller, identity, -, transport, -, secret, hsecret, expiry, -, rfl⟩ := h
  exact ⟨responseField_eq_ok hcaller, responseField_eq_ok hsecret, rfl⟩

/-- What `accept_grant` leaves. -/
structure Accepted (s s' : FlowState PairingNet) (peer : NodeId) (txid : String)
    (accepted : Finset NodePermission) (trusted : TrustedPeer) : Prop where
  /-- The secret is that of the transaction. -/
  secret : ∃ t, s.pairing.pending.get? txid = some t ∧ trusted.secret = t.secret
  /-- The permissions are the accepted ones. -/
  permissions : trusted.permissions = permissionMembers accepted
  /-- The trust is stored. -/
  stored : s'.pairing.trusted = s.pairing.trusted.insert peer trusted
  /-- The target's grants are kept. -/
  keeps : Keeps s.env s'.env

/-- What `accept` leaves, of the network and of the manager.  Kind: L -/
theorem accept_post (self : NetworkPairing) (a : NetworkPairing.Attempt)
    (o : NetworkPairing.Opening) (pending : PendingPairing) (accepted : Finset NodePermission)
    (s : FlowState PairingNet) :
    (NetworkPairing.accept (env check tag) self a o pending accepted).Post s
      (fun trusted s' => Accepted s s' a.peer pending.transactionId accepted trusted)
      (fun _ s' => Still s s') := by
  unfold NetworkPairing.accept
  refine (clock_post (Still.refl s) _).bind ?_
  rintro now s₁ h₁
  refine PyM.Post.bind (P := fun s' s'' => s' = s₁ ∧ s'' = s₁) ⟨rfl, rfl⟩ ?_
  rintro _ s₂ ⟨rfl, rfl⟩
  refine PyM.Post.bind (P := fun p s' => s' = s₂ ∧ s₂.pairing.acceptGrant now
      pending.transactionId a.peer (NetworkPairing.assumedGrant self o pending accepted)
      (NetworkPairing.announced o.candidate) = .ok p)
    (PyM.post_ofExcept (fun p hp => ⟨rfl, hp⟩) fun _ _ => h₁) ?_
  rintro ⟨trusted, m⟩ s₃ ⟨rfl, hp⟩
  obtain ⟨⟨t, ht, hsecret⟩, hpermissions, hstored⟩ := PairingManager.acceptGrant_eq_ok hp
  rw [h₁.1] at ht hstored
  exact ⟨⟨t, ht, hsecret⟩, hpermissions, congrArg PairingManager.trusted hstored, h₁.2⟩

/-- The trust that a call returned, and where its grant comes from. -/
structure Established (s₀ s' : FlowState PairingNet) (initiator : NetworkPairing) (peer : NodeId)
    (secret : String) (trusted : TrustedPeer) : Prop where
  /-- It is stored. -/
  stored : s'.pairing.trusted.get? peer = some trusted
  /-- It has the secret of the transaction. -/
  drawn : trusted.secret = secret
  /-- The target confirmed it. -/
  granted : ∃ t : PairingTransaction, Granted s₀.env s'.env (t.message .confirm) ∧
    t.callerNodeId = .str initiator.nodeId.value ∧ t.secret = .str secret ∧
      trusted.permissions = permissionMembers t.permissions

/-- Everything after `begin`.  Kind: L -/
theorem afterBegin_post (check : SignatureCheck) (tag : Value → ℕ) (self : NetworkPairing)
    {s₀ s : FlowState PairingNet} {a : NetworkPairing.Attempt}
    {o : NetworkPairing.Opening} {pending : PendingPairing}
    (hprevious : o.previous = s₀.pairing.trusted.get? a.peer)
    (hpending : s.pairing.pending.get? pending.transactionId = some pending)
    (htrusted : s.pairing.trusted = s₀.pairing.trusted)
    (hdrawn : validSecret pending.secret = true)
    (hvalid : s₀.env.unseen = false → Port.GrantsValid s₀.env.target.host.pairing)
    (hkeeps : Keeps s₀.env s.env) :
    (NetworkPairing.afterBegin (env check tag) self a o pending).Post s
      (fun trusted s' => Established s₀ s' self a.peer pending.secret trusted)
      (fun _ s' => Back a.peer s₀ s') := by
  have hback : ∀ {s'}, Still s s' → Back a.peer s₀ s' := by
    rintro s' ⟨hpairing, hkeeps'⟩
    refine ⟨?_, hkeeps.trans hkeeps'⟩
    rw [hpairing, htrusted]
  have hrollback : ∀ {s₁ : FlowState PairingNet}, Still s s₁ → ∀ x : PyM _ TrustedPeer,
      (∀ s₂, Back a.peer s₀ s₂ → x.Post s₂
        (fun trusted s' => Established s₀ s' self a.peer pending.secret trusted)
        (fun _ s' => Back a.peer s₀ s')) →
      (do NetworkPairing.rollback (env check tag) a.peer o.previous o.previousBroken
            pending.transactionId
          x).Post s₁
        (fun trusted s' => Established s₀ s' self a.peer pending.secret trusted)
        (fun _ s' => Back a.peer s₀ s') := by
    intro s₁ h₁ x hx
    rw [hprevious]
    exact (rollback_post (hkeeps.trans h₁.2) _ _).bind fun _ s₂ h₂ => hx s₂ h₂
  unfold NetworkPairing.afterBegin
  refine ((tryRoutes_post (Still.refl s) o.expectedFingerprint rfl 0 _ []).mono
    (fun _ _ h => h) fun _ _ h => hback h).bind ?_
  rintro (errors | ⟨endpoint, _ | response⟩) s₁ ⟨h₁, hanswers⟩
  · exact hrollback h₁ _ fun _ h₂ => h₂
  · refine hrollback h₁ _ fun s₂ h₂ => ?_
    refine (cancelled_post (Still.refl s₂) _).bind ?_
    rintro cancelled s₃ ⟨hpairing, hkeeps₃⟩
    have h₃ : Back a.peer s₀ s₃ := ⟨hpairing ▸ h₂.1, h₂.2.trans hkeeps₃⟩
    split <;> exact h₃
  · obtain ⟨hcaller, hsecret⟩ := (hanswers endpoint response rfl).fields
    dsimp only
    cases haccepted : NetworkPairing.acceptedPermissions a.permissions response with
    | error e => exact hrollback h₁ (throw e) fun _ h₂ => h₂
    | ok accepted =>
        refine PyM.Post.bind (P := fun t s' => Still s s' ∧
            NetworkPairing.transactionOf response accepted endpoint = .ok t)
          (PyM.post_ofExcept (fun t ht => ⟨h₁, ht⟩) fun _ _ => hback h₁) ?_
        rintro t s₂ ⟨h₂, ht⟩
        obtain ⟨hcaller', hsecret', haccepts⟩ := transactionOf_eq_ok ht
        have htcaller : t.callerNodeId = .str self.nodeId.value :=
          (Option.some.inj (hcaller.symm.trans hcaller')).symm
        have htsecret : t.secret = .str pending.secret :=
          (Option.some.inj (hsecret.symm.trans hsecret')).symm
        refine ((accept_post self a o pending accepted s₂).mono (fun _ _ h => h) ?_).bind ?_
        · rintro e s₃ ⟨hpairing, hkeeps₃⟩
          exact hback ⟨hpairing.trans h₂.1, h₂.2.trans hkeeps₃⟩
        rintro trusted s₃ h₃
        refine (settle_post hprevious htsecret hdrawn hvalid
          (hkeeps.trans (h₂.2.trans h₃.keeps))).mono ?_ fun _ _ h => h
        rintro result s₄ ⟨rfl, hpairing, hgranted⟩
        refine ⟨?_, ?_, ⟨t, hgranted, htcaller, htsecret, ?_⟩⟩
        · rw [hpairing, h₃.stored]
          exact Dict.get?_insert_self _ _ _
        · obtain ⟨u, hu, hsame⟩ := h₃.secret
          rw [h₂.1] at hu
          obtain rfl : pending = u := Option.some.inj (hpending.symm.trans hu)
          exact hsame
        · rw [h₃.permissions, haccepts]

/-- A classified trust is the previous one.  Kind: L -/
theorem admit_eq_some {intent : Intent} {previous : Option TrustedPeer}
    {state : RelationshipState} {t : TrustedPeer}
    (h : NetworkPairing.classifiedTrust intent previous state = .ok (some t)) :
    previous = some t := by
  unfold NetworkPairing.classifiedTrust at h
  grind

/-- Everything before `begin` only reads.  Kind: L -/
theorem opening_post (self : NetworkPairing) (a : NetworkPairing.Attempt)
    (s : FlowState PairingNet) :
    (NetworkPairing.opening (env check tag) check self a).Post s
      (fun r s' => Still s s' ∧
        match r with
        | .inl t => s.pairing.trusted.get? a.peer = some t
        | .inr o => o.previous = s.pairing.trusted.get? a.peer)
      (fun _ s' => Still s s') := by
  unfold NetworkPairing.opening
  refine (cancelled_post (Still.refl s) _).bind ?_
  intro cancelled s₁ h₁
  split
  · exact h₁
  · refine PyM.Post.bind (P := fun _ s' => Still s s')
      (PyM.post_ofExcept (fun _ _ => h₁) fun _ _ => h₁) ?_
    rintro ⟨candidate, fp⟩ s₂ h₂
    refine PyM.Post.bind (P := fun s' s'' => s' = s₂ ∧ s'' = s₂) ⟨rfl, rfl⟩ ?_
    rintro _ s₃ ⟨rfl, rfl⟩
    refine (clock_post h₂ _).bind ?_
    intro now s₄ h₄
    dsimp only
    refine PyM.Post.bind (P := fun r s' => Still s s' ∧
        ∀ t, r = some t → s.pairing.trusted.get? a.peer = some t)
      (PyM.post_ofExcept (fun r hr => ⟨h₄, fun t ht => ?_⟩) fun _ _ => h₄) ?_
    · subst ht
      rw [← h₂.1]
      exact admit_eq_some hr
    · rintro (_ | t) s₅ ⟨h₅, hadmitted⟩
      · refine PyM.Post.bind (P := fun _ s' => Still s s')
          (PyM.post_ofExcept (fun _ _ => h₅) fun _ _ => h₅) ?_
        intro material s₆ h₆
        refine ⟨h₆, ?_⟩
        show s₃.pairing.trusted.get? a.peer = s.pairing.trusted.get? a.peer
        rw [h₂.1]
      · exact ⟨h₅, hadmitted t rfl⟩

/-- `begin` of a fresh transaction adds it.  Kind: L -/
theorem begin_fresh {a : NetworkPairing.Attempt} {m m' : PairingManager} (hfresh : a.Fresh m)
    {now : ℚ} {material : Material} {direction : Direction} {intent : Intent} {t : PendingPairing}
    (h : m.begin now a.txid a.drawn a.peer (some a.drawn) material direction intent =
      .ok (t, m')) :
    t.secret = a.drawn ∧ m'.pending.get? t.transactionId = some t ∧ m'.trusted = m.trusted := by
  have hnone : m.findPending now a.peer a.drawn = none := by
    refine List.find?_eq_none.mpr fun t ht hmatch => ?_
    exact hfresh.secret t ht (of_decide_eq_true hmatch).2.1
  simp only [PairingManager.begin, Option.bind_some, hnone, Option.filter_none] at h
  split at h
  · cases h
  · obtain ⟨rfl, rfl⟩ := Prod.mk.inj (Except.ok.inj h)
    exact ⟨PairingManager.newTransaction_secret _ _ _ _ _ _ _ _, Dict.get?_insert_self _ _ _,
      rfl⟩

/-- What a begun transaction leaves. -/
structure Begun (s s' : FlowState PairingNet) (secret : String) (t : PendingPairing) : Prop where
  /-- It has the drawn secret. -/
  secret : t.secret = secret
  /-- It is pending. -/
  pending : s'.pairing.pending.get? t.transactionId = some t
  /-- The trust is as before. -/
  trusted : s'.pairing.trusted = s.pairing.trusted
  /-- The target's grants are kept. -/
  keeps : Keeps s.env s'.env

/-- What `beginOutbound` leaves, of the network and of the manager.  Kind: L -/
theorem beginOutbound_post (check : SignatureCheck) (tag : Value → ℕ)
    {a : NetworkPairing.Attempt} (o : NetworkPairing.Opening)
    (hfresh : a.Fresh s.pairing) :
    (NetworkPairing.beginOutbound (env check tag) a o).Post s
      (fun t s' => Begun s s' a.drawn t) (fun _ s' => Still s s') := by
  unfold NetworkPairing.beginOutbound
  refine (clock_post (Still.refl s) _).bind ?_
  rintro now s₁ h₁
  refine PyM.Post.bind (P := fun s' s'' => s' = s₁ ∧ s'' = s₁) ⟨rfl, rfl⟩ ?_
  rintro _ s₂ ⟨rfl, rfl⟩
  refine PyM.Post.bind (P := fun p s' => s' = s₂ ∧ s₂.pairing.begin now a.txid a.drawn a.peer
      (some a.drawn) o.material .outbound a.intent = .ok p)
    (PyM.post_ofExcept (fun p hp => ⟨rfl, hp⟩) fun _ _ => h₁) ?_
  rintro ⟨t, m⟩ s₃ ⟨rfl, hp⟩
  obtain ⟨hsecret, hpending, htrusted⟩ := begin_fresh (h₁.1 ▸ hfresh) hp
  exact ⟨hsecret, hpending, htrusted.trans (congrArg PairingManager.trusted h₁.1), h₁.2⟩

/-- One call of `pair` or `repair`: it returns the trust there was, or one that the target
confirmed; or it raises, and neither party has changed its records of the other.  Kind: L -/
theorem establish_post (check : SignatureCheck) (tag : Value → ℕ) (self : NetworkPairing)
    {s : FlowState PairingNet} {a : NetworkPairing.Attempt}
    (hfresh : a.Fresh s.pairing) (hdrawn : validSecret a.drawn = true)
    (hvalid : s.env.unseen = false → Port.GrantsValid s.env.target.host.pairing) :
    (NetworkPairing.establish (env check tag) check self a).Post s
      (fun trusted s' => (Still s s' ∧ s.pairing.trusted.get? a.peer = some trusted) ∨
        Established s s' self a.peer a.drawn trusted)
      (fun _ s' => Back a.peer s s') := by
  have hback : ∀ {s'}, Still s s' → Back a.peer s s' := fun h => ⟨by rw [h.1], h.2⟩
  unfold NetworkPairing.establish
  refine ((opening_post self a s).mono (fun _ _ h => h) fun _ _ h => hback h).bind ?_
  rintro (t | o) s₁ ⟨h₁, ho⟩
  · exact .inl ⟨h₁, ho⟩
  · dsimp only
    have hbegin := beginOutbound_post check tag o (h₁.1 ▸ hfresh)
    refine (hbegin.mono (fun _ _ h => h) fun _ s' h =>
      hback ⟨h.1.trans h₁.1, h₁.2.trans h.2⟩).bind ?_
    intro t s₂ h₂
    have hafter := afterBegin_post check tag self ho h₂.pending
      (h₂.trusted.trans (congrArg PairingManager.trusted h₁.1))
      (h₂.secret ▸ hdrawn) hvalid (h₁.2.trans h₂.keeps)
    rw [h₂.secret] at hafter
    exact hafter.mono (fun _ _ h => .inr h) fun _ _ h => h

/-- The grant that a confirmation made.  Kind: L -/
theorem Granted.grant {t : PairingTransaction} {me : NodeId} {secret : String}
    (h : Granted n n' (t.message .confirm)) (hcaller : t.callerNodeId = .str me.value)
    (hsecret : t.secret = .str secret) :
    ∃ v g, n'.target.host.pairing.grants = v.host.pairing.grants.insert me g ∧
      g.secret = secret ∧
      PermissionItem.texts g.permissions = t.permissions.image NodePermission.value ∧
      (n'.unseen = false → n.unseen = false ∧ Port.SameGrants n.target v) := by
  obtain ⟨v, r, pending, expected, hconfirms, hseen⟩ := h
  have hread := pairingControlOf_eq_ok hconfirms.control
  have hmatched := hconfirms.addresses.matched
  have hme : r.callerNodeId = me := by
    have hfield : some t.callerNodeId = some (.str r.callerNodeId.value) := hread.caller
    rw [hcaller] at hfield
    exact NodeId.ext_value (Value.str.inj (Option.some.inj hfield)).symm
  have hdrawn : r.secret = secret := by
    have hfield : some t.secret = some (.str r.secret) := hread.secret
    rw [hsecret] at hfield
    exact (Value.str.inj (Option.some.inj hfield)).symm
  have hpermissions : r.permissions = t.permissions :=
    controlPermissionsOf_sortedTexts rfl hread.permissions
  refine ⟨v, PairingManager.grantOf pending expected, ?_, ?_, ?_, hseen⟩
  · rw [hconfirms.grants, hmatched.2.1, hme]
  · exact hmatched.2.2.2.2.1.trans hdrawn
  · exact hmatched.1.trans (by rw [hpermissions])

/-- The target holds the grant that the trust stands for. -/
def HoldsGrant (v : HostView PairingPort) (me : NodeId) (trusted : TrustedPeer) : Prop :=
  ∃ g, v.host.pairing.grants.get? me = some g ∧ g.secret = trusted.secret ∧
    PermissionItem.texts g.permissions = PermissionItem.texts trusted.permissions

end PairingNet

/-! ## Runs -/

/-- One call of `pair` or `repair`, with what the initiator knows by then. -/
structure PairingCall where
  /-- The initiator. -/
  self : NetworkPairing
  /-- The call. -/
  attempt : NetworkPairing.Attempt

/-- What happens between the two parties. -/
inductive PairingStep where
  /-- The initiator calls `pair` or `repair`. -/
  | call (c : PairingCall)
  /-- A late message arrives. -/
  | arrival (i : ℕ) (h : Handling)
  /-- A late message is lost. -/
  | loss (i : ℕ)

/-- Both parties, and the secrets of the calls that raised. -/
structure PairingRun where
  /-- The initiator, the network and the target. -/
  state : FlowState PairingNet
  /-- What the calls drew that raised. -/
  raised : List String

namespace PairingRun

open PairingNet

variable (check : SignatureCheck) (tag : Value → ℕ)

/-- The target. -/
def target (r : PairingRun) : HostView PairingPort := r.state.env.target

/-- One step. -/
def step (r : PairingRun) : PairingStep → PairingRun
  | .call c =>
      match NetworkPairing.establish (env check tag) check c.self c.attempt r.state with
      | .ok _ s => { r with state := s }
      | .error _ s => { state := s, raised := c.attempt.drawn :: r.raised }
  | .arrival i h => { r with state := { r.state with env := arrive check tag r.state.env (i, h) } }
  | .loss i => { r with state := { r.state with env := lose r.state.env i } }

/-- All steps. -/
def run (r : PairingRun) (steps : List PairingStep) : PairingRun := steps.foldl (step check tag) r

/-- No grant of the target was made from a transaction of a call that raised. -/
def Unraised (r : PairingRun) : Prop :=
  ∀ secret ∈ r.raised, ∀ caller g, r.target.host.pairing.grants.get? caller = some g →
    g.secret ≠ secret

/-- What one step promises. -/
structure Consistent (r : PairingRun) (e : PairingStep) : Prop where
  /-- A call that returns does so with a trust whose grant the target holds. -/
  returned : ∀ c, e = .call c → ∀ trusted s,
    NetworkPairing.establish (env check tag) check c.self c.attempt r.state = .ok trusted s →
      HoldsGrant s.env.target c.self.nodeId trusted
  /-- Once every message was delivered or lost, the calls that raised left no grant. -/
  raised : (r.step check tag e).state.env.flight = [] → (r.step check tag e).Unraised

/-- Every step keeps its promise. -/
def ConsistentRun : List PairingStep → PairingRun → Prop
  | [], _ => True
  | e :: rest, r => r.Consistent check tag e ∧ ConsistentRun rest (r.step check tag e)

/-- The calls are those of one initiator to one target, and what they draw is fresh. -/
def Proper (me peer : NodeId) (r : PairingRun) : PairingStep → Prop
  | .call c =>
      c.self.nodeId = me ∧ c.attempt.peer = peer ∧ c.attempt.Fresh r.state.pairing ∧
        validSecret c.attempt.drawn = true ∧ c.attempt.drawn ∉ r.raised ∧
        ∀ caller g, r.target.host.pairing.grants.get? caller = some g →
          g.secret ≠ c.attempt.drawn
  | _ => True

/-- Every step is proper. -/
def ProperRun (me peer : NodeId) : List PairingStep → PairingRun → Prop
  | [], _ => True
  | e :: rest, r => r.Proper me peer e ∧ ProperRun me peer rest (r.step check tag e)

/-- Both parties agree: the target holds the grant of the initiator's trust, the service accepts the
target's grants, and no call that raised left one. -/
structure Agreed (me peer : NodeId) (r : PairingRun) : Prop where
  /-- The initiator's trust has its grant. -/
  trusted : ∀ t, r.state.pairing.trusted.get? peer = some t → HoldsGrant r.target me t
  /-- The service accepts the grants. -/
  valid : Port.GrantsValid r.target.host.pairing
  /-- No call that raised left a grant. -/
  unraised : r.Unraised

variable {check : SignatureCheck} {tag : Value → ℕ} {me peer : NodeId} {r r' : PairingRun}

/-- Nothing changes for either party.  Kind: L -/
theorem Agreed.of_same (h : Agreed me peer r) (hsame : Port.SameGrants r.target r'.target)
    (htrusted : r'.state.pairing.trusted.get? peer = r.state.pairing.trusted.get? peer)
    (hraised : ∀ secret ∈ r'.raised, secret ∈ r.raised ∨
      ∀ caller g, r.target.host.pairing.grants.get? caller = some g → g.secret ≠ secret) :
    Agreed me peer r' := by
  refine ⟨fun t ht => ?_, ?_, fun secret hsecret caller g hg => ?_⟩
  · rw [htrusted] at ht
    obtain ⟨g, hg, hrest⟩ := h.trusted t ht
    exact ⟨g, by rw [hsame]; exact hg, hrest⟩
  · unfold Port.GrantsValid
    rw [hsame]
    exact h.valid
  · rw [hsame] at hg
    rcases hraised secret hsecret with hold | hnew
    · exact h.unraised secret hold caller g hg
    · exact hnew caller g hg

/-- The target made the grant of a new trust.  Kind: L -/
theorem Agreed.of_granted (h : Agreed me peer r) {g : PairingManager.PeerGrant}
    {trusted : TrustedPeer} {secret : String}
    (hgrants : r'.target.host.pairing.grants = r.target.host.pairing.grants.insert me g)
    (hsecret : g.secret = secret) (hdrawn : trusted.secret = secret)
    (htexts : PermissionItem.texts g.permissions = PermissionItem.texts trusted.permissions)
    (hknown : PermissionItem.texts g.permissions ⊆ knownPermissions)
    (hvalid : validSecret secret = true) (hfresh : secret ∉ r.raised)
    (hstored : r'.state.pairing.trusted.get? peer = some trusted)
    (hraised : r'.raised = r.raised) : Agreed me peer r' := by
  refine ⟨fun t ht => ?_, fun caller g' hg' => ?_, fun s hs caller g' hg' => ?_⟩
  · obtain rfl : trusted = t := Option.some.inj (hstored.symm.trans ht)
    exact ⟨g, by rw [hgrants, Dict.get?_insert_self], hsecret.trans hdrawn.symm, htexts⟩
  · rw [hgrants, Dict.get?_insert] at hg'
    split at hg'
    · obtain rfl := Option.some.inj hg'
      exact ⟨hsecret ▸ hvalid, hknown⟩
    · exact h.valid caller g' hg'
  · rw [hraised] at hs
    rw [hgrants, Dict.get?_insert] at hg'
    split at hg'
    · obtain rfl := Option.some.inj hg'
      intro heq
      exact hfresh (hsecret.symm.trans heq ▸ hs)
    · exact h.unraised s hs caller g' hg'

/-- What a returned call leaves, if no confirmation goes unseen.  Kind: L -/
theorem agreed_of_returned (h : r.state.env.unseen = false → Agreed me peer r) {c : PairingCall}
    (hproper : r.Proper me peer (.call c)) {trusted : TrustedPeer} {s : FlowState PairingNet}
    (hrun : NetworkPairing.establish (env check tag) check c.self c.attempt r.state =
      .ok trusted s) (hunseen : s.env.unseen = false) :
    r.state.env.unseen = false ∧ Agreed me peer { r with state := s } ∧
      HoldsGrant s.env.target me trusted := by
  obtain ⟨rfl, rfl, hfresh, hdrawn, hnew, -⟩ := hproper
  have hpost := establish_post check tag c.self hfresh hdrawn fun hold => (h hold).valid
  rcases PyM.post_of_ok hpost hrun with ⟨hstill, hprevious⟩ | hestablished
  · obtain ⟨hold, hsame⟩ := hstill.2 hunseen
    have hagreed : Agreed c.self.nodeId c.attempt.peer { r with state := s } :=
      (h hold).of_same hsame (by rw [hstill.1]) fun secret hsecret => .inl hsecret
    refine ⟨hold, hagreed, hagreed.trusted trusted ?_⟩
    rw [hstill.1]
    exact hprevious
  · obtain ⟨t, hgranted, hcaller, hsecret, hpermissions⟩ := hestablished.granted
    obtain ⟨v, g, hgrants, hg, htexts, hseen⟩ := hgranted.grant hcaller hsecret
    obtain ⟨hold, hsame⟩ := hseen hunseen
    rw [hsame] at hgrants
    have hmembers : PermissionItem.texts g.permissions =
        PermissionItem.texts trusted.permissions := by
      rw [htexts, hpermissions, texts_permissionMembers]
    have hagreed : Agreed c.self.nodeId c.attempt.peer { r with state := s } := by
      refine (h hold).of_granted hgrants hg hestablished.drawn hmembers ?_ hdrawn hnew
        hestablished.stored rfl
      rw [htexts, ← texts_permissionValues]
      exact Port.texts_known _
    exact ⟨hold, hagreed, hagreed.trusted trusted hestablished.stored⟩

/-- One step keeps the agreement, and its promise, if no confirmation goes unseen.  Kind: L -/
theorem step_agreed (h : r.state.env.unseen = false → Agreed me peer r) {e : PairingStep}
    (hproper : r.Proper me peer e) (hunseen : (r.step check tag e).state.env.unseen = false) :
    r.state.env.unseen = false ∧ Agreed me peer (r.step check tag e) ∧
      r.Consistent check tag e := by
  cases e with
  | call c =>
      unfold step at hunseen ⊢
      dsimp only at hunseen ⊢
      cases hrun : NetworkPairing.establish (env check tag) check c.self c.attempt r.state with
      | ok trusted s =>
          rw [hrun] at hunseen
          obtain ⟨hold, hagreed, hholds⟩ := agreed_of_returned h hproper hrun hunseen
          refine ⟨hold, hagreed, ⟨?_, fun _ => ?_⟩⟩
          · intro c' hc trusted' s' hrun'
            cases hc
            obtain ⟨rfl, rfl⟩ := EStateM.Result.ok.inj (hrun.symm.trans hrun')
            rw [hproper.1]
            exact hholds
          · unfold step
            dsimp only
            rw [hrun]
            exact hagreed.unraised
      | error e s =>
          rw [hrun] at hunseen
          obtain ⟨rfl, rfl, hfresh, hdrawn, hnew, hunused⟩ := hproper
          have hpost := establish_post check tag c.self hfresh hdrawn fun hold => (h hold).valid
          obtain ⟨htrusted, hkeeps⟩ := PyM.post_of_error hpost hrun
          obtain ⟨hold, hsame⟩ := hkeeps hunseen
          have hagreed : Agreed c.self.nodeId c.attempt.peer
              { state := s, raised := c.attempt.drawn :: r.raised } := by
            refine (h hold).of_same hsame htrusted fun secret hsecret => ?_
            rcases List.mem_cons.mp hsecret with rfl | hold'
            · exact .inr hunused
            · exact .inl hold'
          refine ⟨hold, hagreed, ⟨?_, fun _ => ?_⟩⟩
          · intro c' hc trusted' s' hrun'
            cases hc
            cases hrun.symm.trans hrun'
          · unfold step
            dsimp only
            rw [hrun]
            exact hagreed.unraised
  | arrival i a =>
      obtain ⟨hold, hsame⟩ := keeps_arrive r.state.env (i, a) hunseen
      have hagreed : Agreed me peer (r.step check tag (.arrival i a)) :=
        (h hold).of_same hsame rfl fun _ hsecret => .inl hsecret
      exact ⟨hold, hagreed, ⟨fun _ hc => (by cases hc), fun _ => hagreed.unraised⟩⟩
  | loss i =>
      have hagreed : Agreed me peer (r.step check tag (.loss i)) :=
        (h hunseen).of_same rfl rfl fun _ hsecret => .inl hsecret
      exact ⟨hunseen, hagreed, ⟨fun _ hc => (by cases hc), fun _ => hagreed.unraised⟩⟩

/-- A confirmation that went unseen stays so; until then every step keeps its promise.  Kind: L -/
theorem consistent_of_run {steps : List PairingStep}
    (h : r.state.env.unseen = false → Agreed me peer r)
    (hproper : ProperRun check tag me peer steps r)
    (hunseen : (r.run check tag steps).state.env.unseen = false) :
    r.state.env.unseen = false ∧ ConsistentRun check tag steps r := by
  induction steps generalizing r with
  | nil => exact ⟨hunseen, trivial⟩
  | cons e rest ih =>
      obtain ⟨hfirst, hrest⟩ := hproper
      have hnext : (r.step check tag e).state.env.unseen = false →
          Agreed me peer (r.step check tag e) := fun hu => (step_agreed h hfirst hu).2.1
      obtain ⟨hu, hrun⟩ := ih hnext hrest hunseen
      obtain ⟨hold, -, hconsistent⟩ := step_agreed h hfirst hu
      exact ⟨hold, hconsistent, hrun⟩

/-- In every run of one initiator and one target that starts in agreement, in which no confirmation
finds its transaction without its answer coming back: a call that returns does so with the target
holding the grant of the trust, and a call that raises leaves no grant.  Kind: P -/
theorem pairing_consistent {steps : List PairingStep} (hagreed : Agreed me peer r)
    (hproper : ProperRun check tag me peer steps r)
    (hunseen : (r.run check tag steps).state.env.unseen = false) :
    ConsistentRun check tag steps r :=
  (consistent_of_run (fun _ => hagreed) hproper hunseen).2

/-! ## Two runs -/

open NetworkPairing (pairingInitiator pairingAttempt unpaired fresh_unpaired)

/-- How the target handles a message of the runs below. -/
def willing : Handling := ⟨0, false, true, "inbound"⟩

/-- Every message arrives, and so do the answers. -/
def reliable : Turn := ⟨[], false, 0, .ok (), true, .answered willing⟩

/-- Two parties that do not know each other, with what the network will do. -/
def strangers (turns : ℕ → Turn) : PairingRun where
  state :=
    { pairing := unpaired
      env :=
        { target :=
            { auth := ⟨true, Dict.empty, [], 0, ⟨none, none, none⟩⟩
              clock := 0
              host :=
                { nodeId := pairingAttempt.peer
                  pairing := PairingManager.new pairingAttempt.peer
                  pendingPermissions := Dict.empty
                  service := true
                  clusterCapabilityGrants := []
                  clusterText := ""
                  disk := ⟨⟨[], [], []⟩, ""⟩
                  saves := fun _ => ⟨true, true⟩ } }
          flight := []
          turns := turns
          unseen := false } }
  raised := []

/-- They pair. -/
def firstCall : PairingStep := .call ⟨pairingInitiator, pairingAttempt⟩

/-- Two parties that do not know each other agree.  Kind: L -/
theorem strangers_agreed (turns : ℕ → Turn) :
    Agreed pairingInitiator.nodeId pairingAttempt.peer (strangers turns) :=
  ⟨fun _ ht => (by cases ht), fun _ _ hg => (by cases hg), fun _ hs => absurd hs List.not_mem_nil⟩

/-- The run of the sample is proper.  Kind: L -/
theorem firstCall_proper (turns : ℕ → Turn) :
    ProperRun (fun _ _ _ _ _ => true) (fun _ => 0) pairingInitiator.nodeId pairingAttempt.peer
      [firstCall] (strangers turns) := by
  refine ⟨⟨rfl, rfl, fresh_unpaired, ?_, List.not_mem_nil, fun _ _ hg => (by cases hg)⟩, trivial⟩
  decide +kernel

/-- Over a reliable network both agree. -/
theorem pairing_consistent_reliable :
    ConsistentRun (fun _ _ _ _ _ => true) (fun _ => 0) [firstCall]
      (strangers fun _ => reliable) := by
  refine pairing_consistent (strangers_agreed _) (firstCall_proper _) ?_
  decide +kernel

/-- The answer to the confirmation, the thirteenth call, is lost. -/
def losingConfirmation (i : ℕ) : Turn :=
  if i = 12 then { reliable with delivery := .unanswered willing ⟨.remoteTransport, "timed out"⟩ }
  else reliable

/-- The call raises, nothing is on its way, and the target holds the grant. -/
theorem lost_answer_leaves_grant :
    Agreed pairingInitiator.nodeId pairingAttempt.peer (strangers losingConfirmation) ∧
      ProperRun (fun _ _ _ _ _ => true) (fun _ => 0) pairingInitiator.nodeId pairingAttempt.peer
        [firstCall] (strangers losingConfirmation) ∧
      ¬ConsistentRun (fun _ _ _ _ _ => true) (fun _ => 0) [firstCall]
        (strangers losingConfirmation) := by
  refine ⟨strangers_agreed _, firstCall_proper _, ?_⟩
  rintro ⟨hconsistent, -⟩
  have hflight : ((strangers losingConfirmation).step (fun _ _ _ _ _ => true) (fun _ => 0)
      firstCall).state.env.flight.length = 0 := by decide +kernel
  have hraised : pairingAttempt.drawn ∈ ((strangers losingConfirmation).step
      (fun _ _ _ _ _ => true) (fun _ => 0) firstCall).raised := by decide +kernel
  have hgrant : (((strangers losingConfirmation).step (fun _ _ _ _ _ => true) (fun _ => 0)
      firstCall).target.host.pairing.grants.get? pairingInitiator.nodeId).map (·.secret) =
      some pairingAttempt.drawn := by decide +kernel
  obtain ⟨g, hg, hsecret⟩ := Option.map_eq_some_iff.mp hgrant
  exact hconsistent.raised (List.eq_nil_of_length_eq_zero hflight) _ hraised _ g hg hsecret

/-! ## A later repair -/

/-- The target recognises the root of the initiator in every repair that it asks for. -/
def Recognised (check : SignatureCheck) (tag : Value → ℕ) (v : HostView PairingPort)
    (initiator : NetworkPairing) : Prop :=
  ∀ secret permissions texts r g,
    pairingRequestOf tag (initiator.requestMessage secret permissions .repair) texts .repair =
      .ok r →
    v.host.pairing.grants.get? initiator.nodeId = some g →
      grantRootContinuous check g r.rootPublicKey r.transportGeneration r.transportFingerprint
        r.transportProof = true

/-- After a call of `pair` that returned, the target holds the grant (unless the trust was there
before), and no repair of the same node is ever continuous with it: the answer is a conflict,
whatever root, generation and proof the node has by then.  Kind: P -/
theorem repair_conflicts {initiator : NetworkPairing} {a : NetworkPairing.Attempt}
    {s₀ s : FlowState PairingNet} {trusted : TrustedPeer} (hfresh : a.Fresh s₀.pairing)
    (hdrawn : validSecret a.drawn = true)
    (hvalid : Port.GrantsValid s₀.env.target.host.pairing)
    (hother : initiator.nodeId ≠ s.env.target.host.nodeId)
    (hrun : NetworkPairing.establish (env check tag) check initiator a s₀ = .ok trusted s) :
    (s₀.pairing.trusted.get? a.peer = some trusted ∨
      ∃ g, s.env.target.host.pairing.grants.get? initiator.nodeId = some g ∧
        g.secret = trusted.secret) ∧
    ∀ later : NetworkPairing, later.nodeId = initiator.nodeId → ∀ secret permissions texts r g,
      pairingRequestOf tag (later.requestMessage secret permissions .repair) texts .repair =
        .ok r →
      s.env.target.host.pairing.grants.get? later.nodeId = some g →
        grantRootContinuous check g r.rootPublicKey r.transportGeneration r.transportFingerprint
          r.transportProof = false ∧
        ∀ h : Handling, h.busy = false →
          Port.handlePairingRequest check h r s.env.target =
            .ok (Port.refusal "identity_conflict") s.env.target := by
  have hpost := establish_post check tag initiator hfresh hdrawn fun _ => hvalid
  constructor
  · rcases PyM.post_of_ok hpost hrun with ⟨-, hprevious⟩ | hestablished
    · exact .inl hprevious
    · obtain ⟨t, hgranted, hcaller, hsecret, -⟩ := hestablished.granted
      obtain ⟨v, g, hgrants, hg, -⟩ := hgranted.grant hcaller hsecret
      exact .inr ⟨g, by rw [hgrants, Dict.get?_insert_self], hg.trans hestablished.drawn.symm⟩
  · intro later hlater secret permissions texts r g hr hg
    obtain ⟨hcaller, -, hroot⟩ := pairingRequestOf_requestMessage hr
    refine ⟨?_, fun h hfree => ?_⟩
    · rw [hroot]
      exact Port.grantRootContinuous_none check g _ _ _
    · refine Port.handlePairingRequest_conflict hroot ?_ (hcaller ▸ hg) hfree
      rw [hcaller, hlater]
      exact hother

/-- What the call of `pair` over a reliable network comes to. -/
def paired : EStateM.Result PyError (FlowState PairingNet) TrustedPeer :=
  NetworkPairing.establish (env (fun _ _ _ _ _ => true) (fun _ => 0)) (fun _ _ _ _ _ => true)
    pairingInitiator pairingAttempt (strangers fun _ => reliable).state

/-- The call returned, in this state. -/
def pairedState : Option (FlowState PairingNet) :=
  match paired with
  | .ok _ s => some s
  | .error _ _ => none

/-- The pairing of the sample returns.  Kind: L -/
theorem paired_isSome : pairedState.isSome = true := by decide +kernel

/-- Both parties are honest and every signature is valid. -/
theorem repair_conflicts_reliable :
    ∃ trusted s, paired = .ok trusted s ∧
      ∀ secret permissions texts r g,
        pairingRequestOf (fun _ => 0) (pairingInitiator.requestMessage secret permissions .repair)
          texts .repair = .ok r →
        s.env.target.host.pairing.grants.get? pairingInitiator.nodeId = some g →
          grantRootContinuous (fun _ _ _ _ _ => true) g r.rootPublicKey r.transportGeneration
            r.transportFingerprint r.transportProof = false := by
  have hsome := paired_isSome
  have hnode : pairedState.all (fun s => decide (s.env.target.host.nodeId =
      pairingAttempt.peer)) = true := by decide +kernel
  unfold pairedState at hsome hnode
  cases hrun : paired with
  | error e s =>
      rw [hrun] at hsome
      cases hsome
  | ok trusted s =>
      rw [hrun] at hnode
      refine ⟨trusted, s, rfl, fun secret permissions texts r g hr hg => ?_⟩
      have hother : pairingInitiator.nodeId ≠ s.env.target.host.nodeId := by
        rw [of_decide_eq_true hnode]
        decide
      have hconflicts := repair_conflicts fresh_unpaired (by decide +kernel)
        (strangers_agreed fun _ => reliable).valid hother hrun
      exact (hconflicts.2 pairingInitiator rfl secret permissions texts r g hr hg).1

/-- The target does not recognise the unchanged, proven root of the peer that it approved. -/
theorem paired_not_recognised :
    ∃ trusted s, paired = .ok trusted s ∧
      ¬Recognised (fun _ _ _ _ _ => true) (fun _ => 0) s.env.target pairingInitiator := by
  have hsome := paired_isSome
  have hgrant : pairedState.all (fun s =>
      (s.env.target.host.pairing.grants.get? pairingInitiator.nodeId).isSome) = true := by
    decide +kernel
  have hreads : (pairingRequestOf (fun _ => 0) (pairingInitiator.requestMessage
      pairingAttempt.drawn {"read_state"} .repair) ["read_state"] .repair).toOption.isSome =
      true := by decide +kernel
  unfold pairedState at hsome hgrant
  cases hrun : paired with
  | error e s =>
      rw [hrun] at hsome
      cases hsome
  | ok trusted s =>
      rw [hrun] at hgrant
      refine ⟨trusted, s, rfl, fun hrecognised => ?_⟩
      obtain ⟨g, hg⟩ := Option.isSome_iff_exists.mp hgrant
      obtain ⟨r, hr⟩ := Option.isSome_iff_exists.mp hreads
      have hr' := Except.eq_ok_of_toOption hr
      have htrue := hrecognised _ _ _ r g hr' hg
      obtain ⟨-, -, hroot⟩ := pairingRequestOf_requestMessage hr'
      rw [hroot, Port.grantRootContinuous_none] at htrue
      cases htrue

end PairingRun

end ExpraConnect
