import ExpraConnect.Transport.PinnedRequest

/-!
# Requests that are sent again

`transport/socket_transport.py`, `request_with_retry`, over a `SocketRemoteTransport`: the same
envelope is sent over a new connection when the one before failed.

* `requestWithRetry`: the code;
* `request_sends_le`: one request sends at most once;
* `retried_request`: how often, to whom and what the loop sends, and where its answer comes from.
-/

namespace ExpraConnect

open ExpraConnect.Lib

namespace SocketRemoteTransport

section program

variable (E : TransportEnv) (T : SocketRemoteTransport) (envelopeText : String)

/-- The loop, with the number of attempts that are left.
Source: `transport/socket_transport.py`, `request_with_retry`.  Kind: D -/
def retryLoop : ℕ → ClientCall String
  | 0 => throw ⟨.remoteTransport, "remote transport returned no response"⟩
  | left + 1 => do
      checkCancelled E
      match ← (request E T envelopeText).attempt with
      | .ok out => return out
      | .error e => if e.kind = .remoteTransport ∧ left ≠ 0 then retryLoop left else throw e

/-- Source: `transport/socket_transport.py`, `request_with_retry`, of an integer.  Kind: D -/
def requestWithRetry (attempts : ℤ) : ClientCall String := do
  raiseIf (attempts < 1) ⟨.value, "attempts must be positive"⟩
  retryLoop E T envelopeText attempts.toNat

end program

section sends

variable {E : TransportEnv} {T : SocketRemoteTransport} {text : String} {left : ℕ}
  {h : CallHistory}

/-- Whether a call sends. -/
def isSend : TransportInstr × PeerWire → Bool
  | (.sendall _, _) => true
  | _ => false

/-- The number of times that something was sent. -/
def sends (h : CallHistory) : ℕ := h.countP isSend

theorem sends_append (h₁ h₂ : CallHistory) : sends (h₁ ++ h₂) = sends h₁ + sends h₂ :=
  List.countP_append

/-- A history that sends nothing.  Kind: L -/
theorem sends_eq_zero (hquiet : ∀ x ∈ h, NotSend x.1) : sends h = 0 := by
  refine List.countP_eq_zero.mpr fun x hx hsend => ?_
  unfold isSend at hsend
  split at hsend
  · exact hquiet _ hx _ rfl
  · cases hsend

/-- Nothing was sent before any of the sends: there is at most one.  Kind: L -/
theorem sends_le_one (hfirst : ∀ h₁ bytes s h₂, h = h₁ ++ (.sendall bytes, s) :: h₂ →
    ∀ x ∈ h₁, NotSend x.1) : sends h ≤ 1 := by
  by_cases hquiet : ∀ x ∈ h, NotSend x.1
  · rw [sends_eq_zero hquiet]
    exact Nat.zero_le 1
  · -- what comes after the last send does not count, and nothing was sent before it
    induction h using List.reverseRecOn with
    | nil => exact absurd (fun x hx => absurd hx List.not_mem_nil) hquiet
    | append_singleton rest x ih =>
        by_cases hx : NotSend x.1
        · have hone : sends [x] = 0 := sends_eq_zero (by simpa using hx)
          rw [sends_append, hone]
          apply ih
          · rintro h₁ bytes s h₂ rfl
            exact hfirst h₁ bytes s (h₂ ++ [x]) (by simp)
          · intro hrest
            exact hquiet fun y hy => (List.mem_append.mp hy).elim (hrest y)
              fun hy => List.mem_singleton.mp hy ▸ hx
        · obtain ⟨l, s⟩ := x
          obtain ⟨bytes, hl⟩ : ∃ bytes, l = .sendall bytes := by
            simpa [NotSend] using hx
          subst hl
          have hrest : sends rest = 0 := sends_eq_zero (hfirst rest bytes s [] rfl)
          have hlast : sends [(.sendall bytes, s)] = 1 := rfl
          rw [sends_append]
          omega

/-- One request sends at most once.  Kind: L -/
theorem request_sends_le {r : Except PyError String}
    (hends : Prog.Ends (request E T text) h r) : sends h ≤ 1 := by
  apply sends_le_one
  rintro h₁ bytes s h₂ rfl
  obtain ⟨-, ⟨_, _, -, hcalm⟩, -⟩ := request_sends (Prog.Follows.reaches hends)
  exact fun x hx => (hcalm x hx).1

/-- Asking for the cancellation sends nothing.  Kind: L -/
theorem checkCancelled_notSend : Prog.Only NotSend (checkCancelled E) :=
  checkCancelled_only fun bytes => by simp

/-- A check of the cancellation has sent nothing.  Kind: L -/
theorem checkCancelled_sends {r : Except PyError Unit}
    (hends : Prog.Ends (checkCancelled E) h r) : sends h = 0 :=
  sends_eq_zero (checkCancelled_notSend.mem hends)

/-- The loop sends at most once for each attempt left.  Kind: L -/
theorem retryLoop_sends_le {r : Except PyError String}
    (hends : Prog.Ends (retryLoop E T text left) h r) : sends h ≤ left := by
  induction left generalizing h with
  | zero =>
      obtain ⟨rfl, -⟩ := Prog.ends_throw.mp hends
      exact Nat.le_refl 0
  | succ left ih =>
      rcases Prog.ends_bind.mp hends with ⟨e, -, herr⟩ | ⟨h₁, h₂, _, rfl, hcheck, hattempt⟩
      · rw [checkCancelled_sends herr]
        exact Nat.zero_le _
      rcases Prog.ends_bind.mp hattempt with ⟨e, -, herr⟩ | ⟨h₃, h₄, outcome, rfl, hrequest, hrest⟩
      · exact (Prog.ends_attempt_error.mp herr).elim
      have hone := request_sends_le (Prog.ends_attempt_ok.mp hrequest)
      have hlater : sends h₄ ≤ left := by
        cases outcome with
        | ok out =>
            obtain ⟨rfl, -⟩ := Prog.ends_pure.mp hrest
            exact Nat.zero_le left
        | error e =>
            dsimp only at hrest
            split at hrest
            · exact ih hrest
            · obtain ⟨rfl, -⟩ := Prog.ends_throw.mp hrest
              exact Nat.zero_le left
      rw [sends_append, sends_append, checkCancelled_sends hcheck]
      omega

/-- What the loop sends, and what was certified before.  Kind: L -/
theorem retryLoop_sends_at {bytes : List UInt8}
    (hl : Prog.Reaches (retryLoop E T text left) h (.sendall bytes)) :
    bytes = frameBytes (encoded text) ∧ (T.hasTls = true → Certified E T h) := by
  induction left generalizing h with
  | zero => exact (Prog.reaches_throw.mp hl).elim
  | succ left ih =>
      rcases Prog.reaches_bind.mp hl with hcheck | ⟨h₁, h₂, _, rfl, -, hattempt⟩
      · exact absurd rfl (checkCancelled_notSend h _ hcheck bytes)
      rcases Prog.reaches_bind.mp hattempt with hrequest | ⟨h₃, h₄, outcome, rfl, -, hrest⟩
      · obtain ⟨hwire, -, hcertified⟩ := request_sends (Prog.reaches_attempt.mp hrequest)
        exact ⟨hwire, fun htls => (hcertified htls).append⟩
      · cases outcome with
        | ok out => exact (Prog.reaches_pure.mp hrest).elim
        | error e =>
            dsimp only at hrest
            split at hrest
            · obtain ⟨hwire, hcertified⟩ := ih hrest
              exact ⟨hwire, fun htls => (hcertified htls).append.append⟩
            · exact (Prog.reaches_throw.mp hrest).elim

/-- A body the loop returns was conversed.  Kind: L -/
theorem retryLoop_ok {out : String} (hends : Prog.Ends (retryLoop E T text left) h (.ok out)) :
    Conversed E (encoded text) (encoded out) h := by
  induction left generalizing h with
  | zero =>
      obtain ⟨-, hr⟩ := Prog.ends_throw.mp hends
      cases hr
  | succ left ih =>
      obtain ⟨h₁, h₂, _, rfl, -, hattempt⟩ := Prog.ends_bind_ok.mp hends
      obtain ⟨h₃, h₄, outcome, rfl, hrequest, hrest⟩ := Prog.ends_bind_ok.mp hattempt
      cases outcome with
      | ok out' =>
          obtain ⟨rfl, hout⟩ := Prog.ends_pure.mp hrest
          obtain rfl := Except.ok.inj hout
          have hconversed := (request_ends (Prog.ends_attempt_ok.mp hrequest)).2.2 out rfl
          simpa using hconversed.append h₁ []
      | error e =>
          dsimp only at hrest
          split at hrest
          · simpa using (ih hrest).append (h₁ ++ h₃) []
          · obtain ⟨-, hr⟩ := Prog.ends_throw.mp hrest
            cases hr

/-- What the loop raises is what one request raises.  Kind: L -/
theorem retryLoop_fails (hleft : left ≠ 0) : Fails Reported (retryLoop E T text left) := by
  induction left with
  | zero => exact absurd rfl hleft
  | succ left ih =>
      refine (checkCancelled_fails (by simp [Reported])).bind fun _ => ?_
      intro h e hends hos
      rcases Prog.ends_bind_error.mp hends with herr | ⟨h₁, h₂, outcome, rfl, hrequest, hrest⟩
      · exact (Prog.ends_attempt_error.mp herr).elim
      cases outcome with
      | ok out =>
          obtain ⟨-, hr⟩ := Prog.ends_pure.mp hrest
          cases hr
      | error e' =>
          dsimp only at hrest
          split at hrest
          · rename_i hagain
            exact ih hagain.2 h₂ e hrest hos.right
          · obtain ⟨-, hr⟩ := Prog.ends_throw.mp hrest
            cases hr
            exact request_fails h₁ e (Prog.ends_attempt_ok.mp hrequest) hos.left

/-- **Sent again, and no more.**  Whatever the peers, the clock and the cancel event do during a call
with a number of attempts: at most as many copies go out, each of them the frame of the one
envelope, and over TLS each only after the peer of its own connection showed its certificate, with
no other connection and no other copy since; a response is the text of a frame that was read after a
copy went out; and if the sockets raise nothing but `OSError`, the call raises nothing but what its
callers expect, unless there was to be no attempt.
Source: `transport/socket_transport.py`, `request_with_retry`.  Kind: P -/
theorem retried_request (E : TransportEnv) (T : SocketRemoteTransport) (text : String)
    (attempts : ℤ) :
    (∀ h bytes, Prog.Reaches (requestWithRetry E T text attempts) h (.sendall bytes) →
      bytes = frameBytes (encoded text) ∧ (T.hasTls = true → Certified E T h)) ∧
    ∀ h r, Prog.Ends (requestWithRetry E T text attempts) h r →
      sends h ≤ attempts.toNat ∧
      (∀ out, r = .ok out → Conversed E (encoded text) (encoded out) h) ∧
      (∀ e, r = .error e → OsFaults h → Reported e.kind ∨ (e.kind = .value ∧ attempts < 1)) := by
  refine ⟨fun h bytes hl => ?_, fun h r hends => ?_⟩
  · rcases Prog.reaches_bind.mp hl with hl | ⟨h₁, h₂, _, rfl, hraise, hloop⟩
    · exact (reaches_raiseIf.mp hl).elim
    · obtain ⟨rfl, -⟩ := ends_raiseIf.mp hraise
      exact retryLoop_sends_at hloop
  · rcases Prog.ends_bind.mp hends with ⟨e, rfl, herr⟩ | ⟨h₁, h₂, _, rfl, hraise, hloop⟩
    · obtain ⟨rfl, hr⟩ := ends_raiseIf.mp herr
      refine ⟨Nat.zero_le _, fun out hout => (by cases hout), fun e' he _ => ?_⟩
      split at hr
      · cases he
        cases hr
        exact .inr ⟨rfl, by assumption⟩
      · cases hr
    · obtain ⟨rfl, hr⟩ := ends_raiseIf.mp hraise
      have hpos : attempts.toNat ≠ 0 := by
        split at hr
        · cases hr
        · omega
      refine ⟨retryLoop_sends_le hloop, ?_, ?_⟩
      · rintro out rfl
        exact retryLoop_ok hloop
      · rintro e rfl hos
        exact .inl (retryLoop_fails hpos h₂ e hloop hos)

/-- The first copy is lost. -/
def resetOnce : List PeerWire :=
  List.replicate 17 samplePeer ++
    { samplePeer with fault := some ⟨.os, "reset"⟩ } :: List.replicate 25 samplePeer

/-- The second copy is answered; each went to a peer that showed the certificate. -/
theorem retried_request_twice :
    ∃ T h, sampleTransport = .ok T ∧
      Prog.Ends (requestWithRetry sampleEnv T "ping" 3) h (.ok "pong") ∧ sends h = 2 ∧
      Conversed sampleEnv (encoded "ping") (encoded "pong") h ∧
      ∀ h₁ bytes s h₂, h = h₁ ++ (.sendall bytes, s) :: h₂ → Certified sampleEnv T h₁ := by
  have hrun : sampleTransport.toOption.any (fun T => decide (T.hasTls = true) &&
      ((requestWithRetry sampleEnv T "ping" 3).play resetOnce).any fun out =>
        decide (out.2.toOption = some "pong" ∧ sends out.1 = 2)) = true := by decide +kernel
  obtain ⟨T, hT, hplay⟩ := Except.exists_of_any hrun
  rw [Bool.and_eq_true, decide_eq_true_eq] at hplay
  obtain ⟨⟨h, r⟩, hout, hr⟩ := (Option.any_eq_true _ _).mp hplay.2
  obtain ⟨hpong, hcount⟩ := of_decide_eq_true hr
  obtain rfl := Except.eq_ok_of_toOption hpong
  have hends := Prog.ends_of_play hout
  obtain ⟨hsends, hall⟩ := retried_request sampleEnv T "ping" 3
  refine ⟨T, h, hT, hends, hcount, (hall h _ hends).2.1 "pong" rfl, ?_⟩
  rintro h₁ bytes s h₂ rfl
  exact (hsends h₁ bytes (Prog.Follows.reaches hends)).2 hplay.1

end sends

end SocketRemoteTransport

end ExpraConnect
