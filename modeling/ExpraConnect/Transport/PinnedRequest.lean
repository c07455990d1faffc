import ExpraConnect.Transport.ClientRequest

/-!
# Requests over a pinned connection

What holds of every call of `SocketRemoteTransport.request`, whatever the peer, the clock and the
cancel event do.

* `Conversed`, `request_ends`: a response is a frame that was read after the envelope was sent, and
  every socket that was opened is closed;
* `Reported`, `request_fails`: what a request raises if the sockets raise nothing but `OSError`;
* `pinned_request`: the two, and what was checked before the envelope went out.
-/

namespace ExpraConnect

open ExpraConnect.Lib

namespace SocketRemoteTransport

/-! ## Every call of `request` -/

section ends

variable {E : TransportEnv} {T : SocketRemoteTransport} {α : Type} {d : ℚ}
  {data body : List UInt8} {h h₁ h₂ : CallHistory}

/-- The envelope was sent, and then the body was read. -/
def Conversed (E : TransportEnv) (data body : List UInt8) (h : CallHistory) : Prop :=
  ∃ h₁ s h₂ s' h₃ rest, h = h₁ ++ (.sendall (frameBytes data), s) :: h₂ ++ (.receive, s') :: h₃ ∧
    s.fault = none ∧
    recvFrame ⟨"connection closed before response", E.cancellable, true⟩ maxEnvelopeBytes
      s'.rounds = .ok body rest

/-- A conversation within a longer history.  Kind: L -/
theorem Conversed.append (hc : Conversed E data body h) (before after : CallHistory) :
    Conversed E data body (before ++ h ++ after) := by
  obtain ⟨h₁, s, h₂, s', h₃, rest, rfl, hsent, hread⟩ := hc
  exact ⟨before ++ h₁, s, h₂, s', h₃ ++ after, rest, by simp, hsent, hread⟩

/-- A part whose last call is the only one of its kind comes to what that call came to.  Kind: L -/
theorem outcome_of_last {P : TransportInstr → Prop} {q : ClientCall α} {l : α → TransportInstr}
    {r : Except PyError Unit} {x : TransportInstr × PeerWire} (hq : Prog.Only (fun l => ¬P l) q)
    (hends : Prog.Ends (q >>= fun a => wireCall (l a)) h r) (hx : x ∈ h) (hP : P x.1) :
    r = x.2.fault.elim (.ok ()) .error := by
  rcases Prog.ends_bind.mp hends with ⟨e, -, hfirst⟩ | ⟨h₁, h₂, a, rfl, hfirst, hlast⟩
  · exact absurd hP (hq.mem hfirst x hx)
  · obtain ⟨s, rfl, hs⟩ := Prog.ends_call.mp hlast
    rcases List.mem_append.mp hx with hx | hx
    · exact absurd hP (hq.mem hfirst x hx)
    · obtain rfl := List.mem_singleton.mp hx
      exact hs

/-- A conversation opens no connection.  Kind: L -/
theorem converse_notOpening : Prog.Only NotOpening (converse E d data) := by
  refine Prog.only_bind checkCancelled_notOpening fun _ => ?_
  refine Prog.only_bind setTimeout_notOpening fun _ => ?_
  refine Prog.only_bind ?_ fun _ => Prog.only_bind checkCancelled_notOpening
    fun _ => receiveFrame_only (by simp [NotOpening])
  unfold sendEnvelope
  split
  · exact Prog.only_throw _
  · exact wireCall_only (by simp [NotOpening])

/-- A response is read after the envelope was sent.  Kind: L -/
theorem converse_ok (hends : Prog.Ends (converse E d data) h (.ok body)) :
    Conversed E data body h := by
  obtain ⟨h₁, hr₁, _, rfl, -, hends⟩ := Prog.ends_bind_ok.mp hends
  obtain ⟨h₂, hr₂, _, rfl, -, hends⟩ := Prog.ends_bind_ok.mp hends
  obtain ⟨h₃, hr₃, _, rfl, hsend, hends⟩ := Prog.ends_bind_ok.mp hends
  obtain ⟨h₄, h₅, _, rfl, -, hreceive⟩ := Prog.ends_bind_ok.mp hends
  unfold sendEnvelope at hsend
  split at hsend
  · cases (Prog.ends_throw.mp hsend).2
  · rename_i u wire hwire
    obtain rfl := sendFrame_wire hwire
    obtain ⟨s, rfl, hs⟩ := Prog.ends_call.mp hsend
    obtain ⟨s', rfl, hs'⟩ := Prog.ends_call.mp hreceive
    have hsent : s.fault = none := by
      cases hfault : s.fault with
      | none => rfl
      | some e => simp [hfault] at hs
    split at hs'
    · rename_i read rest hread
      cases hs'
      exact ⟨h₁ ++ h₂, s, h₄, s', [], rest, by simp, hsent, hread⟩
    · cases hs'

/-- How the body of the `with` statement ends.  Kind: L -/
theorem session_ends {r : Except PyError (Bool × Except PyError (List UInt8))}
    (hends : Prog.Ends (session E T d data) h r) :
    ∃ wrapped result, r = .ok (wrapped, result) ∧
      (∀ s, (.wrap, s) ∈ h → s.fault = none → wrapped = true) ∧
      (∀ body, result = .ok body → Conversed E data body h) := by
  unfold session at hends
  split at hends
  · rcases Prog.ends_bind.mp hends with ⟨e, -, herr⟩ | ⟨h₁, h₂, w, rfl, hwrap, hends⟩
    · exact (Prog.ends_attempt_error.mp herr).elim
    · have hlast := Prog.ends_attempt_ok.mp hwrap
      cases w with
      | error e =>
          obtain ⟨rfl, rfl⟩ := Prog.ends_pure.mp hends
          refine ⟨false, .error e, rfl, fun s hs hok => ?_, fun body hbody => by cases hbody⟩
          have hq : Prog.Only (fun l => ¬l = .wrap) (preparation E d) :=
            preparation_notOpening.mono fun l hl => hl.1
          have hout := outcome_of_last hq hlast (by simpa using hs) rfl
          simp [hok] at hout
      | ok u =>
          rcases Prog.ends_bind.mp hends with ⟨e, -, herr⟩ | ⟨h₃, h₄, out, rfl, hout, hends⟩
          · exact (Prog.ends_attempt_error.mp herr).elim
          · obtain ⟨rfl, rfl⟩ := Prog.ends_pure.mp hends
            refine ⟨true, out, rfl, fun _ _ _ => rfl, fun body hbody => ?_⟩
            subst hbody
            have hcertified := Prog.ends_attempt_ok.mp hout
            obtain ⟨ha, hb, _, rfl, -, hrest⟩ := Prog.ends_bind_ok.mp hcertified
            obtain ⟨hc, hd, _, rfl, -, hconverse⟩ := Prog.ends_bind_ok.mp hrest
            have happ := (converse_ok hconverse).append (h₁ ++ ha ++ hc) []
            simpa using happ
  · rcases Prog.ends_bind.mp hends with ⟨e, -, herr⟩ | ⟨h₁, h₂, out, rfl, hout, hends⟩
    · exact (Prog.ends_attempt_error.mp herr).elim
    · obtain ⟨rfl, rfl⟩ := Prog.ends_pure.mp hends
      have hplain := Prog.ends_attempt_ok.mp hout
      refine ⟨false, out, rfl, fun s hs _ => ?_, fun body hbody => ?_⟩
      · have honly : Prog.Only NotOpening (checkCancelled E >>= fun _ => setTimeout d >>= fun _ =>
            converse E d data) :=
          Prog.only_bind checkCancelled_notOpening fun _ =>
            Prog.only_bind setTimeout_notOpening
              fun _ => converse_notOpening
        exact absurd rfl (honly.mem hplain _ (by simpa using hs)).1
      · subst hbody
        obtain ⟨ha, hb, _, rfl, -, hrest⟩ := Prog.ends_bind_ok.mp hplain
        obtain ⟨hc, hd, _, rfl, -, hconverse⟩ := Prog.ends_bind_ok.mp hrest
        have happ := (converse_ok hconverse).append (ha ++ hc) []
        simpa using happ

/-- How the `with` statement ends: the connection is closed.  Kind: L -/
theorem connected_ends {r : Except PyError (Bool × Except PyError (List UInt8))}
    (hends : Prog.Ends (connected E T d data) h r) :
    ∃ wrapped result, r = .ok (wrapped, result) ∧
      (∀ s, (.wrap, s) ∈ h → s.fault = none → wrapped = true) ∧
      (∀ host port t s, (.connect host port t, s) ∈ h → s.fault = none →
        ∃ s', (.closeTcp, s') ∈ h) ∧
      (∀ body, result = .ok body → Conversed E data body h) := by
  rcases Prog.ends_bind.mp hends with ⟨e, -, herr⟩ | ⟨h₁, h₂, w, rfl, hconnect, hends⟩
  · exact (Prog.ends_attempt_error.mp herr).elim
  · have hlast := Prog.ends_attempt_ok.mp hconnect
    have hnowrap : ∀ s, (.wrap, s) ∉ h₁ := by
      intro s hs
      have honly : Prog.Only (fun l => l ≠ .wrap)
          (opening E d >>= fun t => wireCall (.connect T.host T.port t)) :=
        Prog.only_bind (opening_notOpening.mono fun l hl => hl.1) fun t => wireCall_only (by simp)
      exact absurd rfl (honly.mem hlast _ hs)
    cases w with
    | error e =>
        obtain ⟨rfl, rfl⟩ := Prog.ends_pure.mp hends
        refine ⟨false, .error e, rfl, fun s hs _ => ?_, fun host port t s hs hok => ?_,
          fun body hbody => by cases hbody⟩
        · exact absurd (by simpa using hs) (hnowrap s)
        · have hq : Prog.Only (fun l => ¬∃ host port t, l = .connect host port t) (opening E d) :=
            opening_notOpening.mono fun l hl ⟨host, port, t, heq⟩ => hl.2 host port t heq
          have hout := outcome_of_last hq hlast (by simpa using hs) ⟨host, port, t, rfl⟩
          simp [hok] at hout
    | ok u =>
        rcases Prog.ends_bind.mp hends with ⟨e, -, herr⟩ | ⟨h₃, h₄, out, rfl, hsession, hends⟩
        · obtain ⟨_, _, hok, -⟩ := session_ends herr
          cases hok
        · obtain ⟨wrapped, result, hok, hwrap, hconversed⟩ := session_ends hsession
          cases hok
          rcases Prog.ends_bind.mp hends with ⟨e, -, herr⟩ | ⟨h₅, h₆, closed, rfl, hclose, hends⟩
          · exact (Prog.ends_attempt_error.mp herr).elim
          · obtain ⟨rfl, rfl⟩ := Prog.ends_pure.mp hends
            obtain ⟨s₀, rfl, -⟩ := Prog.ends_call.mp (Prog.ends_attempt_ok.mp hclose)
            refine ⟨wrapped, closed >>= fun _ => result, rfl, fun s hs hfine => ?_,
              fun _ _ _ _ _ _ => ⟨s₀, by simp⟩, fun body hbody => ?_⟩
            · apply hwrap s ?_ hfine
              simpa [hnowrap s] using hs
            · obtain ⟨_, -, hresult⟩ := Except.bind_eq_ok.mp hbody
              have happ := (hconversed body hresult).append h₁ [(.closeTcp, s₀)]
              simpa using happ

/-- A translated result that is a body was one.  Kind: L -/
theorem translated_ok {r : Except PyError (List UInt8)}
    (hends : Prog.Ends (translated E r) h (.ok body)) : r = .ok body := by
  cases r with
  | ok read =>
      obtain ⟨-, hok⟩ := Prog.ends_pure.mp hends
      rw [hok]
  | error e =>
      exfalso
      rw [translated] at hends
      split at hends
      · cases (Prog.ends_throw.mp hends).2
      · split at hends
        · obtain ⟨_, _, _, -, -, hends⟩ := Prog.ends_bind_ok.mp hends
          split at hends
          · cases (Prog.ends_throw.mp hends).2
          · split at hends <;> cases (Prog.ends_throw.mp hends).2
        · cases (Prog.ends_throw.mp hends).2

/-- A socket that was wrapped is closed.  Kind: L -/
theorem closeWrappedSocket_ends {r : Except PyError Unit}
    (hends : Prog.Ends (closeWrappedSocket true) h r) : ∃ s, (.closeTls, s) ∈ h := by
  rcases Prog.ends_bind.mp hends with ⟨e, -, herr⟩ | ⟨h₁, h₂, w, rfl, hclose, -⟩
  · exact (Prog.ends_attempt_error.mp herr).elim
  · obtain ⟨s, rfl, -⟩ := Prog.ends_call.mp (Prog.ends_attempt_ok.mp hclose)
    exact ⟨s, by simp⟩

/-- A decoded body is the encoding of its text.  Kind: L -/
theorem decoded_ok {text : String} (hok : decoded body = .ok text) : body = encoded text := by
  unfold decoded at hok
  split at hok
  · cases hok
  · rename_i read hread
    cases hok
    unfold String.fromUTF8? at hread
    split at hread
    · cases hread
      rfl
    · cases hread

/-- What comes after the `with` statement closes the wrapped socket, and returns what was read.
Kind: L -/
theorem settle_ends {wrapped : Bool} {result : Except PyError (List UInt8)}
    {r : Except PyError String} (hends : Prog.Ends (settle E (wrapped, result)) h r) :
    (wrapped = true → ∃ s, (.closeTls, s) ∈ h) ∧
      ∀ out, r = .ok out → result = .ok (encoded out) := by
  rcases Prog.ends_bind.mp hends with ⟨e, -, herr⟩ | ⟨h₁, h₂, outcome, rfl, htranslated, hends⟩
  · exact (Prog.ends_attempt_error.mp herr).elim
  have htrans := Prog.ends_attempt_ok.mp htranslated
  rcases Prog.ends_bind.mp hends with ⟨e, rfl, herr⟩ | ⟨h₃, h₄, _, rfl, hclose, hends⟩
  · refine ⟨fun hwrapped => ?_, fun out hout => by cases hout⟩
    subst hwrapped
    obtain ⟨s, hs⟩ := closeWrappedSocket_ends herr
    exact ⟨s, List.mem_append_right _ hs⟩
  · refine ⟨fun hwrapped => ?_, fun out hout => ?_⟩
    · subst hwrapped
      obtain ⟨s, hs⟩ := closeWrappedSocket_ends hclose
      exact ⟨s, List.mem_append_right _ (List.mem_append_left _ hs)⟩
    · subst hout
      obtain ⟨_, _, body, rfl, hbody, hdecoded⟩ := Prog.ends_bind_ok.mp hends
      obtain ⟨-, houtcome⟩ := Prog.ends_ofExcept.mp hbody
      obtain ⟨-, hok⟩ := Prog.ends_ofExcept.mp hdecoded
      rw [← houtcome] at htrans
      have hresult : result = .ok body := translated_ok htrans
      rw [hresult, decoded_ok hok.symm]

/-- How a request ends.  Kind: L -/
theorem request_ends {text : String} {r : Except PyError String}
    (hends : Prog.Ends (request E T text) h r) :
    (∀ s, (.wrap, s) ∈ h → s.fault = none → ∃ s', (.closeTls, s') ∈ h) ∧
      (∀ host port t s, (.connect host port t, s) ∈ h → s.fault = none →
        ∃ s', (.closeTcp, s') ∈ h) ∧
      (∀ out, r = .ok out → Conversed E (encoded text) (encoded out) h) := by
  rcases Prog.ends_bind.mp hends with ⟨e, -, herr⟩ | ⟨h₁, h₂, started, rfl, hclock, hchecked⟩
  · obtain ⟨s, -, hs⟩ := Prog.ends_call.mp herr
    cases hs
  obtain ⟨s₀, rfl, -⟩ := Prog.ends_call.mp hclock
  rcases Prog.ends_bind.mp hchecked with ⟨e, rfl, herr⟩ | ⟨h₃, h₄, _, rfl, hraise, hexchange⟩
  · obtain ⟨rfl, -⟩ := ends_raiseIf.mp herr
    exact ⟨by simp, by simp, by simp⟩
  obtain ⟨rfl, -⟩ := ends_raiseIf.mp hraise
  rcases Prog.ends_bind.mp hexchange with ⟨e, -, herr⟩ | ⟨h₅, h₆, out, rfl, hconnected, hsettle⟩
  · obtain ⟨_, _, hok, -⟩ := connected_ends herr
    cases hok
  obtain ⟨wrapped, result, hok, hwrap, hconnect, hconversed⟩ := connected_ends hconnected
  cases hok
  obtain ⟨hclosed, hread⟩ := settle_ends hsettle
  have hquiet : ∀ x ∈ h₆, NotOpening x.1 :=
    (settle_only (by simp [NotOpening]) (by simp [NotOpening]) _).mem hsettle
  refine ⟨fun s hs hfine => ?_, fun host port t s hs hfine => ?_, fun out hout => ?_⟩
  · have hmem : (.wrap, s) ∈ h₅ := by
      rcases List.mem_append.mp (by simpa using hs : (.wrap, s) ∈ h₅ ++ h₆) with hs | hs
      · exact hs
      · exact absurd rfl (hquiet _ hs).1
    obtain ⟨s', hs'⟩ := hclosed (hwrap s hmem hfine)
    exact ⟨s', by simp [hs']⟩
  · have hmem : (.connect host port t, s) ∈ h₅ := by
      rcases List.mem_append.mp (by simpa using hs : (.connect host port t, s) ∈ h₅ ++ h₆) with
        hs | hs
      · exact hs
      · exact absurd rfl ((hquiet _ hs).2 host port t)
    obtain ⟨s', hs'⟩ := hconnect host port t s hmem hfine
    exact ⟨s', by simp [hs']⟩
  · have happ := (hconversed _ (hread out hout)).append [(.monotonic, s₀)] h₆
    simpa using happ

end ends

/-! ## What a request raises -/

section raises

variable {E : TransportEnv} {T : SocketRemoteTransport} {α β : Type} {d : ℚ}
  {data : List UInt8} {h : CallHistory} {K : ErrorKind → Prop}

/-- What `recv` raises in these rounds is an `OSError`. -/
def OsRounds (rounds : Socket) : Prop :=
  ∀ turn ∈ rounds, ∀ e, turn.arrival = .failed e → e.kind = .os

/-- What the calls on the sockets raised is an `OSError`. -/
def OsFaults (h : CallHistory) : Prop :=
  ∀ x ∈ h, (∀ e, x.2.fault = some e → e.kind = .os) ∧ OsRounds x.2.rounds

/-- The exceptions that the callers of a transport expect.  A `TypeError` stands for a fingerprint
that is not ASCII. -/
def Reported (k : ErrorKind) : Prop :=
  k ∈ [.remoteAuth, .remoteTransport, .remoteExecution, .remoteProtocol, .type]

/-- The exceptions inside a request. -/
def Inner (k : ErrorKind) : Prop := k = .os ∨ Reported k

/-- If the sockets raise nothing but `OSError`, what the part raises is of a kind with `K`. -/
def Fails (K : ErrorKind → Prop) (p : ClientCall α) : Prop :=
  ∀ h e, Prog.Ends p h (.error e) → OsFaults h → K e.kind

/-- The faults of the front are of the operating system.  Kind: L -/
theorem OsFaults.left {h₁ h₂ : CallHistory} (hos : OsFaults (h₁ ++ h₂)) : OsFaults h₁ :=
  fun x hx => hos x (List.mem_append_left _ hx)

/-- The faults of the back are of the operating system.  Kind: L -/
theorem OsFaults.right {h₁ h₂ : CallHistory} (hos : OsFaults (h₁ ++ h₂)) : OsFaults h₂ :=
  fun x hx => hos x (List.mem_append_right _ hx)

/-- A sequence fails as its halves do.  Kind: L -/
theorem Fails.bind {p : ClientCall α} {k : α → ClientCall β} (hp : Fails K p)
    (hk : ∀ a, Fails K (k a)) : Fails K (p >>= k) := by
  intro h e hends hos
  rcases Prog.ends_bind_error.mp hends with hfirst | ⟨h₁, h₂, a, rfl, -, hrest⟩
  · exact hp h e hfirst hos
  · exact hk a h₂ e hrest hos.right

/-- `pure` does not fail.  Kind: L -/
theorem fails_pure (a : α) : Fails K (pure a : ClientCall α) := by
  intro h e hends _
  cases (Prog.ends_pure.mp hends).2

/-- `throw` fails with its kind.  Kind: L -/
theorem fails_throw {e : PyError} (he : K e.kind) : Fails K (throw e : ClientCall α) := by
  intro h e' hends _
  cases (Prog.ends_throw.mp hends).2
  exact he

/-- A guard fails with its kind.  Kind: L -/
theorem fails_raiseIf {p : Prop} [Decidable p] {e : PyError} (he : p → K e.kind) :
    Fails K (raiseIf p e : ClientCall Unit) := by
  intro h e' hends _
  obtain ⟨-, hr⟩ := ends_raiseIf.mp hends
  split at hr
  · cases hr
    exact he (by assumption)
  · cases hr

/-- A lifted result fails with its kind.  Kind: L -/
theorem fails_ofExcept {r : Except PyError α} (he : ∀ e, r = .error e → K e.kind) :
    Fails K (Prog.ofExcept r : ClientCall α) := by
  intro h e hends _
  obtain ⟨-, hr⟩ := Prog.ends_ofExcept.mp hends
  exact he e hr.symm

/-- An instruction fails with the kinds it computes.  Kind: L -/
theorem fails_call {l : TransportInstr} {f : PeerWire → Except PyError α}
    (hf : ∀ s e, f s = .error e → (∀ e, s.fault = some e → e.kind = .os) → OsRounds s.rounds →
      K e.kind) : Fails K (Prog.call l f) := by
  intro h e hends hos
  obtain ⟨s, rfl, hs⟩ := Prog.ends_call.mp hends
  obtain ⟨hfault, hrounds⟩ := hos _ (List.mem_singleton.mpr rfl)
  exact hf s e hs.symm hfault hrounds

/-- What a call on a socket raises is an `OSError`.  Kind: L -/
theorem wireCall_os (l : TransportInstr) : Fails (· = .os) (wireCall l) := by
  refine fails_call fun s e hs hfault _ => ?_
  cases hraised : s.fault with
  | none => simp [hraised] at hs
  | some e' =>
      simp only [hraised, Option.elim_some, Except.error.injEq] at hs
      subst hs
      exact hfault _ hraised

/-- The kinds of error `wireCall` fails with.  Kind: L -/
theorem wireCall_fails (l : TransportInstr) : Fails Inner (wireCall l) :=
  fun h e hends hos => .inl (wireCall_os l h e hends hos)

/-- The kinds of error `checkCancelled` fails with.  Kind: L -/
theorem checkCancelled_fails (hexecution : K .remoteExecution) : Fails K (checkCancelled E) := by
  refine Fails.bind ?_ fun _ => fails_raiseIf fun _ => hexecution
  unfold isCancelled
  split
  · exact fails_call fun s e hs _ _ => by cases hs
  · exact fails_pure _

/-- The kinds of error `remaining` fails with.  Kind: L -/
theorem remaining_fails : Fails Inner (remaining d) :=
  (fails_call fun s e hs _ _ => by cases hs).bind fun _ =>
    (fails_raiseIf fun _ => .inl rfl).bind fun _ => fails_pure _

/-- The kinds of error `setTimeout` fails with.  Kind: L -/
theorem setTimeout_fails : Fails Inner (setTimeout d) :=
  remaining_fails.bind fun _ => wireCall_fails _

/-- A pin that does not match is reported.  Kind: L -/
theorem comparePin_error {certificate : List UInt8} {e : PyError}
    (herror : comparePin E T certificate = .error e) : Reported e.kind := by
  unfold comparePin at herror
  cases hpin : T.expectedFingerprint with
  | none =>
      simp only [hpin] at herror
      cases herror
  | some expected =>
      simp only [hpin] at herror
      rcases hsame : compareDigest (E.certificateFingerprint certificate) expected with e' | same
      · rw [hsame] at herror
        cases herror
        rw [(compareDigest_eq_error_iff.mp hsame).2]
        simp [Reported]
      · rw [hsame] at herror
        cases same with
        | false =>
            cases herror
            simp [Reported]
        | true => cases herror

/-- The kinds of error `checkCertificate` fails with.  Kind: L -/
theorem checkCertificate_fails : Fails Inner (checkCertificate E T) := by
  refine fails_call fun s e hs hfault _ => ?_
  split at hs
  · rename_i e' _ hraised
    cases hs
    exact .inl (hfault _ hraised)
  · cases hs
    exact .inr (by simp [Reported])
  · exact .inr (comparePin_error hs)

/-- The kinds of error `sendEnvelope` fails with.  Kind: L -/
theorem sendEnvelope_fails : Fails Inner (sendEnvelope data) := by
  unfold sendEnvelope
  split
  · rename_i e _ hsend
    refine fails_throw (.inr ?_)
    by_cases hdata : Sendable maxEnvelopeBytes data
    · rw [sendFrame_sendable (by decide) hdata] at hsend
      cases hsend
    · by_cases hempty : data = []
      · subst hempty
        cases hsend
        simp [Reported]
      · have hlarge : (maxEnvelopeBytes : ℤ) < data.length :=
          lt_of_not_ge fun hle => hdata ⟨hempty, hle⟩
        have hvalid : validateMaxBytes maxEnvelopeBytes = .ok () := rfl
        unfold sendFrame at hsend
        rw [PyM.bind_apply, PyM.ofExcept_apply, hvalid] at hsend
        dsimp only at hsend
        rw [PyM.bind_apply, PyM.raiseIf_apply, if_neg hempty] at hsend
        dsimp only at hsend
        rw [PyM.bind_apply, PyM.raiseIf_apply, if_pos hlarge] at hsend
        cases hsend
        simp [Reported]
  · exact wireCall_fails _

/-- What the loop raises, and what is left to read.  Kind: L -/
theorem recvLoop_kinds {o : RecvOptions} {n : ℕ} {chunks : List UInt8} {rounds : Socket}
    (hrounds : OsRounds rounds) :
    (∀ e rest, recvLoop o n chunks rounds = .error e rest → Inner e.kind) ∧
      ∀ out rest, recvLoop o n chunks rounds = .ok out rest → OsRounds rest := by
  induction rounds generalizing n chunks with
  | nil =>
      unfold recvLoop
      split
      · refine ⟨fun e rest h => (by cases h), fun out rest h => ?_⟩
        cases h
        exact hrounds
      · refine ⟨fun e rest h => ?_, fun out rest h => by cases h⟩
        cases h
        exact .inr (by simp [Reported])
  | cons turn rest ih =>
      obtain ⟨hturn, hrest⟩ := List.forall_mem_cons.mp hrounds
      unfold recvLoop
      split
      · refine ⟨fun e rest h => (by cases h), fun out rest h => ?_⟩
        cases h
        exact hrounds
      split
      · refine ⟨fun e rest h => ?_, fun out rest h => by cases h⟩
        cases h
        exact .inr (by simp [Reported])
      split
      · refine ⟨fun e rest h => ?_, fun out rest h => by cases h⟩
        cases h
        exact .inl rfl
      split
      · split
        · exact ih hrest
        · refine ⟨fun e rest h => ?_, fun out rest h => by cases h⟩
          cases h
          exact .inl rfl
      · rename_i e harrival
        refine ⟨fun e rest h => ?_, fun out rest h => by cases h⟩
        cases h
        exact .inl (hturn e harrival)
      · split
        · refine ⟨fun e rest h => ?_, fun out rest h => by cases h⟩
          cases h
          exact .inr (by simp [Reported])
        split
        · refine ⟨fun e rest h => (by cases h), fun out rest h => ?_⟩
          cases h
          exact List.forall_mem_cons.mpr ⟨fun e harrival => (by cases harrival), hrest⟩
        · exact ih hrest

/-- The kinds of error `receiveFrame` fails with.  Kind: L -/
theorem receiveFrame_fails : Fails Inner (receiveFrame E) := by
  refine fails_call fun s e hs _ hrounds => ?_
  split at hs
  · cases hs
  · rename_i e' rest hread
    cases hs
    rw [recvFrame_apply (by decide)] at hread
    split at hread
    · rename_i hheader
      cases hread
      exact (recvLoop_kinds hrounds).1 _ _ hheader
    · rename_i header left hheader
      split_ifs at hread
      · cases hread
        exact .inr (by simp [Reported])
      · cases hread
        exact .inr (by simp [Reported])
      · exact (recvLoop_kinds ((recvLoop_kinds hrounds).2 _ _ hheader)).1 _ _ hread

/-- The kinds of error `checkCancelled` fails with inside the request.  Kind: L -/
theorem checkCancelled_inner : Fails Inner (checkCancelled E) :=
  checkCancelled_fails (.inr (by simp [Reported]))

/-- The kinds of error `converse` fails with.  Kind: L -/
theorem converse_fails : Fails Inner (converse E d data) :=
  checkCancelled_inner.bind fun _ => setTimeout_fails.bind fun _ =>
    sendEnvelope_fails.bind fun _ => checkCancelled_inner.bind fun _ => receiveFrame_fails

/-- What the body of the `with` statement raises.  Kind: L -/
theorem session_fails {wrapped : Bool} {e : PyError}
    (hends : Prog.Ends (session E T d data) h (.ok (wrapped, .error e))) (hos : OsFaults h) :
    Inner e.kind := by
  unfold session at hends
  split at hends
  · obtain ⟨h₁, h₂, w, rfl, hwrap, hrest⟩ := Prog.ends_bind_ok.mp hends
    have hfails : Fails Inner (preparation E d >>= fun _ => wireCall .wrap) :=
      (checkCancelled_inner.bind fun _ => setTimeout_fails.bind fun _ => setTimeout_fails.bind
        fun _ => checkCancelled_inner).bind fun _ => wireCall_fails _
    cases w with
    | error e' =>
        cases (Prog.ends_pure.mp hrest).2
        exact hfails h₁ e (Prog.ends_attempt_ok.mp hwrap) hos.left
    | ok u =>
        obtain ⟨h₃, h₄, out, rfl, hcertified, hpure⟩ := Prog.ends_bind_ok.mp hrest
        cases (Prog.ends_pure.mp hpure).2
        have hinner : Fails Inner (certified E T d data) :=
          checkCancelled_inner.bind fun _ => checkCertificate_fails.bind fun _ => converse_fails
        exact hinner h₃ e (Prog.ends_attempt_ok.mp hcertified) hos.right.left
  · obtain ⟨h₁, h₂, out, rfl, hplain, hpure⟩ := Prog.ends_bind_ok.mp hends
    cases (Prog.ends_pure.mp hpure).2
    have hinner : Fails Inner (checkCancelled E >>= fun _ => setTimeout d >>= fun _ =>
        converse E d data) :=
      checkCancelled_inner.bind fun _ => setTimeout_fails.bind fun _ => converse_fails
    exact hinner h₁ e (Prog.ends_attempt_ok.mp hplain) hos.left

/-- What the `with` statement raises.  Kind: L -/
theorem connected_fails {wrapped : Bool} {e : PyError}
    (hends : Prog.Ends (connected E T d data) h (.ok (wrapped, .error e))) (hos : OsFaults h) :
    Inner e.kind := by
  obtain ⟨h₁, h₂, w, rfl, hconnect, hrest⟩ := Prog.ends_bind_ok.mp hends
  cases w with
  | error e' =>
      cases (Prog.ends_pure.mp hrest).2
      have hfails : Fails Inner (opening E d >>= fun t => wireCall (.connect T.host T.port t)) :=
        (checkCancelled_inner.bind fun _ => remaining_fails).bind fun _ => wireCall_fails _
      exact hfails h₁ e (Prog.ends_attempt_ok.mp hconnect) hos.left
  | ok u =>
      obtain ⟨h₃, h₄, out, rfl, hsession, hclosing⟩ := Prog.ends_bind_ok.mp hrest
      obtain ⟨h₅, h₆, closed, rfl, hclose, hpure⟩ := Prog.ends_bind_ok.mp hclosing
      obtain ⟨-, hout⟩ := Prog.ends_pure.mp hpure
      cases closed with
      | error e' =>
          cases hout
          exact wireCall_fails _ h₅ e (Prog.ends_attempt_ok.mp hclose) hos.right.right.left
      | ok v =>
          obtain ⟨flag, result⟩ := out
          cases hout
          exact session_fails hsession hos.right.left

/-- The kinds of error `translated` fails with.  Kind: L -/
theorem translated_fails {r : Except PyError (List UInt8)}
    (hr : ∀ e, r = .error e → Inner e.kind) : Fails Reported (translated E r) := by
  cases r with
  | ok body => exact fails_pure _
  | error e =>
      rw [translated]
      split
      · exact fails_throw (by simp [Reported])
      · split
        · refine (checkCancelled_fails (by simp [Reported])).bind fun _ => ?_
          split
          · rename_i hkind
            exact fails_throw (by simp [Reported, hkind])
          · split <;> exact fails_throw (by simp [Reported])
        · rename_i hkind
          refine fails_throw ?_
          rcases hr e rfl with hos | hreported
          · exact absurd (.inl hos) hkind
          · exact hreported

/-- Closing the wrapped socket raises nothing.  Kind: L -/
theorem closeWrappedSocket_fails (wrapped : Bool) : Fails K (closeWrappedSocket wrapped) := by
  unfold closeWrappedSocket
  split
  · intro h e hends hos
    rcases Prog.ends_bind_error.mp hends with herr | ⟨h₁, h₂, w, rfl, hclose, hrest⟩
    · exact (Prog.ends_attempt_error.mp herr).elim
    · cases w with
      | ok u => cases (Prog.ends_pure.mp hrest).2
      | error e' =>
          obtain ⟨-, hr⟩ := ends_raiseIf.mp hrest
          have hkind : e'.kind = .os :=
            wireCall_os _ h₁ e' (Prog.ends_attempt_ok.mp hclose) hos.left
          rw [if_neg (by simp [hkind])] at hr
          cases hr
  · exact fails_pure _

/-- A body that is no text is reported.  Kind: L -/
theorem decoded_error {body : List UInt8} {e : PyError} (herror : decoded body = .error e) :
    Reported e.kind := by
  unfold decoded at herror
  split at herror
  · cases herror
    simp [Reported]
  · cases herror

/-- What a request raises is what its callers expect.  Kind: L -/
theorem request_fails {text : String} : Fails Reported (request E T text) := by
  refine (fails_call fun s e hs _ _ => by cases hs).bind fun started => ?_
  refine (fails_raiseIf fun _ => by simp [Reported]).bind fun _ => ?_
  intro h e hends hos
  rcases Prog.ends_bind_error.mp hends with herr | ⟨h₁, h₂, out, rfl, hconnected, hsettle⟩
  · obtain ⟨_, _, hok, -⟩ := connected_ends herr
    cases hok
  obtain ⟨wrapped, result⟩ := out
  have hresult : ∀ e, result = .error e → Inner e.kind := by
    rintro e rfl
    exact connected_fails hconnected hos.left
  rcases Prog.ends_bind_error.mp hsettle with herr | ⟨h₃, h₄, outcome, rfl, htranslated, hrest⟩
  · exact (Prog.ends_attempt_error.mp herr).elim
  have houtcome : ∀ e, outcome = .error e → Reported e.kind := by
    rintro e rfl
    exact translated_fails hresult h₃ e (Prog.ends_attempt_ok.mp htranslated) hos.right.left
  exact ((closeWrappedSocket_fails wrapped).bind fun _ => (fails_ofExcept houtcome).bind fun body =>
    fails_ofExcept fun e => decoded_error) h₄ e hrest hos.right.right

/-- **One pinned exchange.**  Whatever the peer, the clock and the cancel event do during a request:
what is sent is the frame of the envelope, once, before the deadline and uncancelled, and over TLS
only on the connection to the endpoint whose peer showed a certificate with the expected
fingerprint; a response is the text of a frame that was read after that; every socket that was
opened is closed; and if the sockets raise nothing but `OSError`, the request raises nothing but
what its callers expect.
Source: `transport/socket_transport.py`, `SocketRemoteTransport.request`.  Kind: P -/
theorem pinned_request (E : TransportEnv) (T : SocketRemoteTransport) (text : String) :
    (∀ h bytes, Prog.Reaches (request E T text) h (.sendall bytes) →
      bytes = frameBytes (encoded text) ∧
      (∃ s rest, h = (.monotonic, s) :: rest ∧ Calm (s.now + T.timeout) h) ∧
      (T.hasTls = true → Certified E T h)) ∧
    (∀ h e, Prog.Ends (request E T text) h (.error e) → OsFaults h → Reported e.kind) ∧
    ∀ h r, Prog.Ends (request E T text) h r →
      (∀ s, (.wrap, s) ∈ h → s.fault = none → ∃ s', (.closeTls, s') ∈ h) ∧
      (∀ host port t s, (.connect host port t, s) ∈ h → s.fault = none →
        ∃ s', (.closeTcp, s') ∈ h) ∧
      (∀ out, r = .ok out → Conversed E (encoded text) (encoded out) h) :=
  ⟨fun _ _ hl => request_sends hl, request_fails, fun _ _ hends => request_ends hends⟩

end raises

/-! ## A run -/

/-- Surroundings with one good certificate. -/
def sampleEnv : TransportEnv where
  certificateFingerprint certificate := if certificate = [1, 2, 3] then "aa" else "bb"
  cancellable := true
  isTimeout _ := false
  isCertVerification _ := false
  className _ := "OSError"

/-- A peer with that certificate, which answers. -/
def samplePeer : PeerWire where
  now := 0
  cancelled := false
  fault := none
  certificate := some [1, 2, 3]
  rounds := [⟨false, false, .data (frameBytes (encoded "pong"))⟩]

/-- A transport that expects the certificate. -/
def sampleTransport : Except PyError SocketRemoteTransport :=
  TLSRemoteTransport.new (.str "peer") (.int 8443) (.str "aa") (.float (.finite 10))

/-- A request that is answered: what was sent went to the peer with the certificate. -/
theorem pinned_request_answered :
    ∃ T h, sampleTransport = .ok T ∧ Prog.Ends (request sampleEnv T "ping") h (.ok "pong") ∧
      Conversed sampleEnv (encoded "ping") (encoded "pong") h ∧
      (∃ s, (.closeTls, s) ∈ h) ∧
      ∃ h₁ s h₂, h = h₁ ++ (.sendall (frameBytes (encoded "ping")), s) :: h₂ ∧
        Certified sampleEnv T h₁ := by
  have hrun : sampleTransport.toOption.any (fun T => decide (T.hasTls = true) &&
      ((request sampleEnv T "ping").play (List.replicate 21 samplePeer)).any fun out =>
        decide (out.2.toOption = some "pong")) = true := by decide +kernel
  obtain ⟨T, hT, hplay⟩ := Except.exists_of_any hrun
  rw [Bool.and_eq_true, decide_eq_true_eq] at hplay
  obtain ⟨⟨h, r⟩, hout, hr⟩ := (Option.any_eq_true _ _).mp hplay.2
  obtain rfl := Except.eq_ok_of_toOption (of_decide_eq_true hr)
  have hends := Prog.ends_of_play hout
  obtain ⟨hsends, -, hall⟩ := pinned_request sampleEnv T "ping"
  obtain ⟨hclosed, -, hconversed⟩ := hall h _ hends
  obtain ⟨h₁, s, h₂, s', h₃, rest, rfl, hfault, hread⟩ := hconversed "pong" rfl
  have hcertified : Certified sampleEnv T h₁ := by
    rw [List.append_assoc] at hends
    exact (hsends h₁ _ (Prog.Follows.reaches hends)).2.2 hplay.1
  have hown := hcertified
  obtain ⟨before, t, s₁, after, heq, -, h₄, s₂, h₅, heq', -, hwrapped, -⟩ := hown
  refine ⟨T, _, hT, hends, ⟨h₁, s, h₂, s', h₃, rest, rfl, hfault, hread⟩, ?_, h₁, s, _,
    List.append_assoc _ _ _, hcertified⟩
  exact hclosed s₂ (by simp [heq, heq']) hwrapped

end SocketRemoteTransport

end ExpraConnect
