import ExpraConnect.Lib.Text
import ExpraConnect.Lib.Yields
import ExpraConnect.Remote.ServiceFacts
import ExpraConnect.Remote.WireProtocol
import ExpraConnect.Transport.Framing

/-!
# One request of a client

`transport/socket_transport.py`, `SocketRemoteTransport.request`: one envelope is sent over a new
connection, and one response read.

* `SocketRemoteTransport`, `SocketRemoteTransport.new`: a transport that passed the constructor's
  checks, and the constructor;
* `request`: the code.  Whatever the calls on a socket find is the state they are made in, so that a
  history stands for every behaviour of the peer, the clock and the cancel event;
* `Silent`, `Sends`: parts that send nothing, and what has come before a part sends;
* `Certified`: the connection that is open is the transport's own, and its peer showed the
  certificate;
* `request_sends`: what has been checked when the envelope goes out.

The rounds of the loop that reads the response are in the state in which it starts.
-/

namespace ExpraConnect

open ExpraConnect.Lib

/-- A client transport that passed the constructor's checks.
Source: `transport/socket_transport.py`, `SocketRemoteTransport.__init__`.  Kind: D -/
structure SocketRemoteTransport where
  /-- `_host` -/
  host : String
  /-- `_port` -/
  port : ℕ
  /-- `_timeout` -/
  timeout : ℚ
  /-- `_ssl_context is not None` -/
  hasTls : Bool
  /-- `_ssl_context.verify_mode == ssl.CERT_NONE` -/
  certNone : Bool
  /-- `_expected_fingerprint` -/
  expectedFingerprint : Option String
  /-- "host must not be empty" -/
  host_ne : Text.isBlank host = false
  /-- "port must be between 1 and 65535" -/
  port_valid : 1 ≤ port ∧ port ≤ 65535
  /-- "timeout must be finite and positive" -/
  timeout_pos : 0 < timeout
  /-- "expected_fingerprint must not be empty" -/
  fingerprint_ne : ∀ text ∈ expectedFingerprint, Text.isBlank text = false
  /-- "certificate fingerprint requires TLS" -/
  tls_of_pinned : expectedFingerprint.isSome = true → hasTls = true
  /-- "CERT_NONE TLS requires a certificate fingerprint" -/
  pinned_of_certNone : hasTls = true → certNone = true → expectedFingerprint.isSome = true

/-- The host of `_validate_endpoint`. -/
def validateHost : Value → Except PyError {host : String // Text.isBlank host = false}
  | .str host =>
      if h : Text.isBlank host = false then .ok ⟨host, h⟩
      else .error ⟨.value, "host must not be empty"⟩
  | _ => .error ⟨.type, "host must be text"⟩

/-- The port of `_validate_endpoint`. -/
def validatePort : Value → Except PyError {port : ℕ // 1 ≤ port ∧ port ≤ 65535}
  | .int n =>
      if h : 1 ≤ n.toNat ∧ n.toNat ≤ 65535 then .ok ⟨n.toNat, h⟩
      else .error ⟨.value, "port must be between 1 and 65535"⟩
  | _ => .error ⟨.type, "port must be an integer"⟩

/-- The timeout of `_validate_endpoint`; `math.isfinite` overflows on a long integer. -/
def validateTimeout (timeout : Value) : Except PyError {timeout : ℚ // 0 < timeout} :=
  match timeout with
  | .int _ | .float _ =>
      match timeout.finite? with
      | .ok (some q) =>
          if h : 0 < q then .ok ⟨q, h⟩
          else .error ⟨.value, "timeout must be finite and positive"⟩
      | _ => .error ⟨.value, "timeout must be finite and positive"⟩
  | _ => .error ⟨.type, "timeout must be a real number"⟩

/-- Source: `transport/socket_transport.py`, `_validate_fingerprint`.  Kind: D -/
def validateFingerprint :
    Value → Except PyError {text : Option String // ∀ t ∈ text, Text.isBlank t = false}
  | .null => .ok ⟨none, fun _ h => by cases h⟩
  | .str text =>
      if h : Text.isBlank text = false then
        .ok ⟨some text, fun t ht => Option.mem_some_iff.mp ht ▸ h⟩
      else .error ⟨.value, "expected_fingerprint must not be empty"⟩
  | _ => .error ⟨.type, "expected_fingerprint must be text"⟩

/-- The constructor.  A context is known by whether its `verify_mode` is `CERT_NONE`.
Source: `transport/socket_transport.py`, `SocketRemoteTransport.__init__`.  Kind: D -/
def SocketRemoteTransport.new (host port timeout : Value) (context : Option Bool)
    (expectedFingerprint : Value) : Except PyError SocketRemoteTransport := do
  let host ← validateHost host
  let port ← validatePort port
  let timeout ← validateTimeout timeout
  let pin ← validateFingerprint expectedFingerprint
  if tls : pin.val.isSome = true → context.isSome = true then
    if pinned : context.isSome = true → context.getD false = true → pin.val.isSome = true then
      return ⟨host.val, port.val, timeout.val, context.isSome, context.getD false, pin.val,
        host.property, port.property, timeout.property, pin.property, tls, pinned⟩
    else throw ⟨.value, "CERT_NONE TLS requires a certificate fingerprint"⟩
  else throw ⟨.value, "certificate fingerprint requires TLS"⟩

/-- The context of `client_context` accepts every certificate.
Source: `transport/socket_transport.py`, `TLSRemoteTransport.__init__`.  Kind: D -/
def TLSRemoteTransport.new (host port expectedFingerprint timeout : Value) :
    Except PyError SocketRemoteTransport :=
  SocketRemoteTransport.new host port timeout (some true) expectedFingerprint

/-- What a transport uses of its surroundings. -/
structure TransportEnv where
  /-- `certificate_fingerprint` -/
  certificateFingerprint : List UInt8 → String
  /-- `cancel_event is not None` -/
  cancellable : Bool
  /-- The texts of an `OSError` that is a `TimeoutError`. -/
  isTimeout : String → Bool
  /-- The texts of an `OSError` that is an `ssl.SSLCertVerificationError`. -/
  isCertVerification : String → Bool
  /-- `type(error).__name__`, of an `OSError` with the text. -/
  className : String → String

/-- What a call finds. -/
structure PeerWire where
  /-- `time.monotonic()` -/
  now : ℚ
  /-- `cancel_event.is_set()` -/
  cancelled : Bool
  /-- What a call on a socket raises. -/
  fault : Option PyError
  /-- `sock.getpeercert(binary_form=True)` -/
  certificate : Option (List UInt8)
  /-- What `_recv_frame` finds. -/
  rounds : Socket

/-- The calls of a request. -/
inductive TransportInstr where
  /-- `time.monotonic()` -/
  | monotonic
  /-- `cancel_event.is_set()` -/
  | isSet
  /-- `create_connection((host, port), timeout=timeout)` -/
  | connect (host : String) (port : ℕ) (timeout : ℚ)
  /-- `sock.settimeout(timeout)` -/
  | settimeout (timeout : ℚ)
  /-- `ssl_context.wrap_socket(...)` -/
  | wrap
  /-- `sock.getpeercert(binary_form=True)` -/
  | getpeercert
  /-- `sock.sendall(bytes)` -/
  | sendall (bytes : List UInt8)
  /-- The calls of `_recv_frame`. -/
  | receive
  /-- `wrapped_socket.close()` -/
  | closeTls
  /-- `sock.close()`, of the connection -/
  | closeTcp

/-- A client thread. -/
abbrev ClientCall (α : Type) := Prog PeerWire TransportInstr PyError α

/-- What the thread has called, and found. -/
abbrev CallHistory := Prog.History PeerWire TransportInstr

namespace SocketRemoteTransport

section program

variable (E : TransportEnv) (T : SocketRemoteTransport)

/-- A call on a socket. -/
def wireCall (l : TransportInstr) : ClientCall Unit :=
  Prog.call l fun s => s.fault.elim (.ok ()) .error

/-- `time.monotonic()` -/
def monotonic : ClientCall ℚ := Prog.call .monotonic fun s => .ok s.now

/-- `cancel_event is not None and cancel_event.is_set()` -/
def isCancelled : ClientCall Bool :=
  if E.cancellable then Prog.call .isSet fun s => .ok s.cancelled else return false

/-- Source: `transport/socket_transport.py`, `_check_cancelled`.  Kind: D -/
def checkCancelled : ClientCall Unit := do
  let cancelled ← isCancelled E
  raiseIf (cancelled = true) ⟨.remoteExecution, "cancelled"⟩

/-- Source: `transport/socket_transport.py`, `_remaining`.  Kind: D -/
def remaining (deadline : ℚ) : ClientCall ℚ := do
  let now ← monotonic
  raiseIf (deadline - now ≤ 0) ⟨.os, "operation timed out"⟩
  return deadline - now

/-- `sock.settimeout(_remaining(deadline))` -/
def setTimeout (deadline : ℚ) : ClientCall Unit := do
  let timeout ← remaining deadline
  wireCall (.settimeout timeout)

/-- The certificate of the peer has the expected fingerprint.
Source: `transport/socket_transport.py`, `SocketRemoteTransport.request`.  Kind: D -/
def comparePin (certificate : List UInt8) : Except PyError Unit :=
  match T.expectedFingerprint with
  | none => .ok ()
  | some expected => do
      let same ← compareDigest (E.certificateFingerprint certificate) expected
      raiseIf (same = false) ⟨.remoteAuth, "peer certificate fingerprint changed"⟩

/-- Source: `transport/socket_transport.py`, `SocketRemoteTransport.request`.  Kind: D -/
def checkCertificate : ClientCall Unit :=
  Prog.call .getpeercert fun s =>
    match s.fault, s.certificate with
    | some e, _ => .error e
    | none, none => .error ⟨.remoteAuth, "peer certificate is missing"⟩
    | none, some certificate => comparePin E T certificate

/-- `_send_frame(sock, data, max_bytes=MAX_ENVELOPE_BYTES)` -/
def sendEnvelope (data : List UInt8) : ClientCall Unit :=
  match sendFrame maxEnvelopeBytes data [] with
  | .error e _ => throw e
  | .ok _ wire => wireCall (.sendall wire)

/-- `_recv_frame(sock, max_bytes=MAX_ENVELOPE_BYTES, ...)` -/
def receiveFrame : ClientCall (List UInt8) :=
  Prog.call .receive fun s =>
    match recvFrame ⟨"connection closed before response", E.cancellable, true⟩ maxEnvelopeBytes
        s.rounds with
    | .ok body _ => .ok body
    | .error e _ => .error e

/-- The envelope goes out and the response comes in.
Source: `transport/socket_transport.py`, `SocketRemoteTransport.request`.  Kind: D -/
def converse (deadline : ℚ) (data : List UInt8) : ClientCall (List UInt8) := do
  checkCancelled E
  setTimeout deadline
  sendEnvelope data
  checkCancelled E
  receiveFrame E

/-- What comes before the call of `create_connection`. -/
def opening (deadline : ℚ) : ClientCall ℚ := do
  checkCancelled E
  remaining deadline

/-- What comes before the call of `wrap_socket`. -/
def preparation (deadline : ℚ) : ClientCall Unit := do
  checkCancelled E
  setTimeout deadline
  setTimeout deadline
  checkCancelled E

/-- What comes after it. -/
def certified (deadline : ℚ) (data : List UInt8) : ClientCall (List UInt8) := do
  checkCancelled E
  checkCertificate E T
  converse E deadline data

/-- The body of the `with` statement.  The flag says whether `wrapped_socket` is set.
Source: `transport/socket_transport.py`, `SocketRemoteTransport.request`.  Kind: D -/
def session (deadline : ℚ) (data : List UInt8) :
    ClientCall (Bool × Except PyError (List UInt8)) :=
  if T.hasTls then do
    match ← (preparation E deadline >>= fun _ => wireCall .wrap).attempt with
    | .error e => return (false, .error e)
    | .ok () => do
        let out ← (certified E T deadline data).attempt
        return (true, out)
  else do
    let out ← (checkCancelled E >>= fun _ => setTimeout deadline >>= fun _ =>
      converse E deadline data).attempt
    return (false, out)

/-- The `with` statement, and the check before it.
Source: `transport/socket_transport.py`, `SocketRemoteTransport.request`.  Kind: D -/
def connected (deadline : ℚ) (data : List UInt8) :
    ClientCall (Bool × Except PyError (List UInt8)) := do
  match ← (opening E deadline >>= fun timeout =>
      wireCall (.connect T.host T.port timeout)).attempt with
  | .error e => return (false, .error e)
  | .ok () => do
      let out ← session E T deadline data
      let closed ← (wireCall .closeTcp).attempt
      return (out.1, closed >>= fun _ => out.2)

/-- The `except` clauses.
Source: `transport/socket_transport.py`, `SocketRemoteTransport.request`.  Kind: D -/
def translated : Except PyError (List UInt8) → ClientCall (List UInt8)
  | .ok body => return body
  | .error e =>
      if e.kind = .os ∧ E.isCertVerification e.message = true then
        throw ⟨.remoteAuth, "peer certificate verification failed"⟩
      else if e.kind = .os ∨ e.kind = .remoteTransport then do
        checkCancelled E
        if e.kind = .remoteTransport then throw e
        else if E.isTimeout e.message then throw ⟨.remoteTransport, "remote transport timed out"⟩
        else throw ⟨.remoteTransport,
          "remote transport failed: " ++ E.className e.message ++ ": " ++ e.message⟩
      else throw e

/-- The `finally` clause.
Source: `transport/socket_transport.py`, `SocketRemoteTransport.request`.  Kind: D -/
def closeWrappedSocket (wrapped : Bool) : ClientCall Unit :=
  if wrapped then do
    match ← (wireCall .closeTls).attempt with
    | .ok () => return
    | .error e => raiseIf (e.kind ≠ .os) e
  else return

/-- `text.encode("utf-8")` -/
def encoded (text : String) : List UInt8 := text.toByteArray.data.toList

/-- `body.decode("utf-8")` -/
def decoded (body : List UInt8) : Except PyError String :=
  match String.fromUTF8? ⟨body.toArray⟩ with
  | none => .error ⟨.remoteProtocol, "response is not valid UTF-8"⟩
  | some text => .ok text

/-- What comes after the `with` statement.
Source: `transport/socket_transport.py`, `SocketRemoteTransport.request`.  Kind: D -/
def settle (out : Bool × Except PyError (List UInt8)) : ClientCall String := do
  let result ← (translated E out.2).attempt
  closeWrappedSocket out.1
  let body ← Prog.ofExcept result
  Prog.ofExcept (decoded body)

/-- Source: `transport/socket_transport.py`, `SocketRemoteTransport.request`.  Kind: D -/
def request (envelopeText : String) : ClientCall String := do
  let started ← monotonic
  raiseIf (maxEnvelopeBytes < (encoded envelopeText).length)
    ⟨.remoteTransport, "request envelope is too large"⟩
  let out ← connected E T (started + T.timeout) (encoded envelopeText)
  settle E out

end program

/-! ## What has been checked before the envelope goes out -/

section sending

variable {E : TransportEnv} {T : SocketRemoteTransport} {α β : Type} {d : ℚ}
  {wire : List UInt8} {h h₁ h₂ : CallHistory}

/-- Not sending. -/
def NotSend (l : TransportInstr) : Prop := ∀ bytes, l ≠ .sendall bytes

/-- Nothing was sent, no reading of the event saw it set, and no reading of the clock was late. -/
def Calm (d : ℚ) (h : CallHistory) : Prop :=
  ∀ x ∈ h, NotSend x.1 ∧ (x.1 = .isSet → x.2.cancelled = false) ∧ (x.1 = .monotonic → x.2.now < d)

/-- Opening no socket. -/
def NotOpening (l : TransportInstr) : Prop :=
  l ≠ .wrap ∧ ∀ host port t, l ≠ .connect host port t

/-- Nothing was opened or sent. -/
def Quiet (h : CallHistory) : Prop := ∀ x ∈ h, NotOpening x.1 ∧ NotSend x.1

/-- The peer showed a certificate, which has the expected fingerprint if there is one, and nothing
else happened on the way. -/
def Shown (E : TransportEnv) (T : SocketRemoteTransport) (h : CallHistory) : Prop :=
  ∃ h₁ s certificate h₂, h = h₁ ++ (.getpeercert, s) :: h₂ ∧ Quiet h₁ ∧ Quiet h₂ ∧
    s.certificate = some certificate ∧
    ∀ expected, T.expectedFingerprint = some expected →
      E.certificateFingerprint certificate = expected

/-- The last socket that was opened is a wrapped one, and its peer showed the certificate. -/
def Wrapped (E : TransportEnv) (T : SocketRemoteTransport) (h : CallHistory) : Prop :=
  ∃ h₁ s h₂, h = h₁ ++ (.wrap, s) :: h₂ ∧ Quiet h₁ ∧ s.fault = none ∧ Shown E T h₂

/-- The last connection that was made is one to the endpoint; its peer showed the certificate, and
nothing was sent since. -/
def Certified (E : TransportEnv) (T : SocketRemoteTransport) (h : CallHistory) : Prop :=
  ∃ before t s h₁, h = before ++ (.connect T.host T.port t, s) :: h₁ ∧ s.fault = none ∧
    Wrapped E T h₁

/-- Two calm histories make one.  Kind: L -/
theorem Calm.append (h₁c : Calm d h₁) (h₂c : Calm d h₂) : Calm d (h₁ ++ h₂) := by
  intro x hx
  rcases List.mem_append.mp hx with hx | hx
  · exact h₁c x hx
  · exact h₂c x hx

theorem calm_nil : Calm d [] := by
  intro x hx
  cases hx

/-- When one instruction is calm.  Kind: L -/
theorem calm_singleton {l : TransportInstr} {s : PeerWire} (hsend : NotSend l)
    (hset : l = .isSet → s.cancelled = false) (hclock : l = .monotonic → s.now < d) :
    Calm d [(l, s)] := by
  intro x hx
  obtain rfl := List.mem_singleton.mp hx
  exact ⟨hsend, hset, hclock⟩

/-- A part that sends nothing, and returns only if all its checks passed. -/
structure Silent (d : ℚ) (p : ClientCall α) : Prop where
  /-- It sends nothing. -/
  only : Prog.Only NotSend p
  /-- Its checks passed. -/
  calm : ∀ h a, Prog.Ends p h (.ok a) → Calm d h

/-- A sequence of silent parts is silent.  Kind: L -/
theorem Silent.bind {p : ClientCall α} {k : α → ClientCall β} (hp : Silent d p)
    (hk : ∀ a, Silent d (k a)) : Silent d (p >>= k) := by
  refine ⟨Prog.only_bind hp.only fun a => (hk a).only, fun h b hends => ?_⟩
  obtain ⟨h₁, h₂, a, rfl, hfirst, hrest⟩ := Prog.ends_bind_ok.mp hends
  exact (hp.calm h₁ a hfirst).append ((hk a).calm h₂ b hrest)

/-- `wireCall` sends nothing.  Kind: L -/
theorem wireCall_silent {l : TransportInstr} (hsend : NotSend l) (hset : l ≠ .isSet)
    (hclock : l ≠ .monotonic) : Silent d (wireCall l) := by
  refine ⟨Prog.only_call hsend _, fun h u hends => ?_⟩
  obtain ⟨s, rfl, -⟩ := Prog.ends_call.mp hends
  exact calm_singleton hsend (fun heq => absurd heq hset) fun heq => absurd heq hclock

/-- Asking for the cancellation sends nothing.  Kind: L -/
theorem isCancelled_only : Prog.Only NotSend (isCancelled E) := by
  unfold isCancelled
  split
  · exact Prog.only_call (fun bytes => by simp) _
  · exact Prog.only_pure _

/-- A check that passed saw no cancellation.  Kind: L -/
theorem checkCancelled_silent : Silent d (checkCancelled E) := by
  refine ⟨Prog.only_bind isCancelled_only fun _ => only_raiseIf, fun h u hends => ?_⟩
  obtain ⟨h₁, h₂, cancelled, rfl, hread, hraise⟩ := Prog.ends_bind_ok.mp hends
  unfold isCancelled at hread
  have hfalse : h₂ = [] ∧ cancelled = false := by
    cases cancelled <;> simp_all
  obtain ⟨rfl, rfl⟩ := hfalse
  split at hread
  · obtain ⟨s, rfl, hs⟩ := Prog.ends_call.mp hread
    rw [List.append_nil]
    exact calm_singleton (fun bytes => by simp) (fun _ => (Except.ok.inj hs).symm) (by simp)
  · obtain ⟨rfl, -⟩ := Prog.ends_pure.mp hread
    exact calm_nil

/-- There is time left when the deadline has not passed.  Kind: L -/
theorem remaining_silent : Silent d (remaining d) := by
  have hclock : Prog.Only NotSend monotonic := Prog.only_call (fun bytes => by simp) _
  refine ⟨Prog.only_bind hclock fun _ => Prog.only_bind only_raiseIf fun _ => Prog.only_pure _,
    fun h t hends => ?_⟩
  obtain ⟨h₁, h₂, now, rfl, hread, hrest⟩ := Prog.ends_bind_ok.mp hends
  obtain ⟨s, rfl, hs⟩ := Prog.ends_call.mp hread
  obtain ⟨hleft, hend⟩ := ends_raiseIf_bind.mp hrest
  obtain ⟨rfl, -⟩ := Prog.ends_pure.mp hend
  have hnow : s.now < d := by
    rw [← Except.ok.inj hs]
    linarith
  rw [List.append_nil]
  exact calm_singleton (fun bytes => by simp) (by simp) fun _ => hnow

/-- `setTimeout` sends nothing.  Kind: L -/
theorem setTimeout_silent : Silent d (setTimeout d) :=
  remaining_silent.bind fun _ =>
    wireCall_silent (fun bytes => by simp) (by simp) (by simp)

/-- A pin that matches is the certificate's fingerprint.  Kind: L -/
theorem comparePin_ok {certificate : List UInt8} {expected : String}
    (hok : comparePin E T certificate = .ok ()) (hpin : T.expectedFingerprint = some expected) :
    E.certificateFingerprint certificate = expected := by
  unfold comparePin at hok
  simp only [hpin] at hok
  rcases hsame : compareDigest (E.certificateFingerprint certificate) expected with e | same
  · rw [hsame] at hok
    cases hok
  · rw [hsame] at hok
    cases same with
    | false => cases hok
    | true => exact compareDigest_eq_true hsame

/-- A check of the certificate that passed.  Kind: L -/
theorem checkCertificate_ok {u : Unit} (hends : Prog.Ends (checkCertificate E T) h (.ok u)) :
    ∃ s certificate, h = [(.getpeercert, s)] ∧ s.certificate = some certificate ∧
      ∀ expected, T.expectedFingerprint = some expected →
        E.certificateFingerprint certificate = expected := by
  obtain ⟨s, rfl, hs⟩ := Prog.ends_call.mp hends
  split at hs
  · cases hs
  · cases hs
  · rename_i certificate hfault hcertificate
    exact ⟨s, certificate, rfl, hcertificate, fun expected hpin => comparePin_ok hs.symm hpin⟩

/-- `checkCertificate` sends nothing.  Kind: L -/
theorem checkCertificate_silent : Silent d (checkCertificate E T) := by
  refine ⟨Prog.only_call (fun bytes => by simp) _, fun h u hends => ?_⟩
  obtain ⟨s, rfl, -⟩ := Prog.ends_call.mp hends
  exact calm_singleton (fun bytes => by simp) (by simp) (by simp)

/-- What is sent is `wire`, after calm calls that meet `C`. -/
def Sends (d : ℚ) (wire : List UInt8) (C : CallHistory → Prop) (p : ClientCall α) : Prop :=
  ∀ h bytes, Prog.Reaches p h (.sendall bytes) → bytes = wire ∧ Calm d h ∧ C h

variable {C C' : CallHistory → Prop}

/-- What holds before a send may be weakened.  Kind: L -/
theorem Sends.mono {p : ClientCall α} (hp : Sends d wire C p) (hC : ∀ h, C h → C' h) :
    Sends d wire C' p := by
  intro h bytes hl
  obtain ⟨hwire, hcalm, hmet⟩ := hp h bytes hl
  exact ⟨hwire, hcalm, hC h hmet⟩

/-- What follows a send and sends nothing does not matter.  Kind: L -/
theorem Sends.before {p : ClientCall α} {k : α → ClientCall β} (hp : Sends d wire C p)
    (hk : ∀ a, Prog.Only NotSend (k a)) : Sends d wire C (p >>= k) := by
  intro h bytes hl
  rcases Prog.reaches_bind.mp hl with hl | ⟨h₁, h₂, a, rfl, -, hl⟩
  · exact hp h bytes hl
  · exact absurd rfl (hk a h₂ _ hl bytes)

/-- Catching does not matter.  Kind: L -/
theorem Sends.attempt {p : ClientCall α} (hp : Sends d wire C p) : Sends d wire C p.attempt :=
  fun h bytes hl => hp h bytes (Prog.reaches_attempt.mp hl)

/-- A silent part in front.  Its calls are a part of what `C` is about.  Kind: L -/
theorem Silent.thenSends {p : ClientCall α} {k : α → ClientCall β} (hp : Silent d p)
    (hk : ∀ a, Sends d wire C' (k a))
    (hC : ∀ h₁ h₂ a, Prog.Ends p h₁ (.ok a) → C' h₂ → C (h₁ ++ h₂)) :
    Sends d wire C (p >>= k) := by
  intro h bytes hl
  rcases Prog.reaches_bind.mp hl with hl | ⟨h₁, h₂, a, rfl, hends, hl⟩
  · exact absurd rfl (hp.only h _ hl bytes)
  · obtain ⟨hwire, hcalm, hmet⟩ := hk a h₂ bytes hl
    exact ⟨hwire, (hp.calm h₁ a hends).append hcalm, hC h₁ h₂ a hends hmet⟩

/-- An exception that a part raises ends the sending.  Kind: L -/
theorem Silent.attemptThenSends {p : ClientCall α} {k : Except PyError α → ClientCall β}
    (hp : Silent d p) (hok : ∀ a, Sends d wire C' (k (.ok a)))
    (herror : ∀ e, Prog.Only NotSend (k (.error e)))
    (hC : ∀ h₁ h₂ a, Prog.Ends p h₁ (.ok a) → C' h₂ → C (h₁ ++ h₂)) :
    Sends d wire C (p.attempt >>= k) := by
  intro h bytes hl
  rcases Prog.reaches_bind.mp hl with hl | ⟨h₁, h₂, r, rfl, hends, hl⟩
  · exact absurd rfl (hp.only h _ (Prog.reaches_attempt.mp hl) bytes)
  · cases r with
    | error e => exact absurd rfl (herror e h₂ _ hl bytes)
    | ok a =>
        obtain ⟨hwire, hcalm, hmet⟩ := hok a h₂ bytes hl
        have hfirst := Prog.ends_attempt_ok.mp hends
        exact ⟨hwire, (hp.calm h₁ a hfirst).append hcalm, hC h₁ h₂ a hfirst hmet⟩

theorem quiet_nil : Quiet [] := fun _ hx => absurd hx List.not_mem_nil

/-- Two quiet histories make one.  Kind: L -/
theorem Quiet.append (h₁q : Quiet h₁) (h₂q : Quiet h₂) : Quiet (h₁ ++ h₂) := by
  intro x hx
  rcases List.mem_append.mp hx with hx | hx
  · exact h₁q x hx
  · exact h₂q x hx

/-- A silent part that opens nothing is quiet.  Kind: L -/
theorem Silent.quiet {p : ClientCall α} {a : α} (hp : Silent d p)
    (hopening : Prog.Only NotOpening p) (hends : Prog.Ends p h (.ok a)) : Quiet h :=
  fun x hx => ⟨hopening.mem hends x hx, hp.only.mem hends x hx⟩

/-- What was shown is shown after a quiet beginning.  Kind: L -/
theorem Shown.append (h₁q : Quiet h₁) (hs : Shown E T h₂) : Shown E T (h₁ ++ h₂) := by
  obtain ⟨before, s, certificate, after, rfl, hbefore, hafter, hcertificate, hpin⟩ := hs
  exact ⟨h₁ ++ before, s, certificate, after, by simp, h₁q.append hbefore, hafter, hcertificate,
    hpin⟩

/-- What was wrapped is wrapped after a quiet beginning.  Kind: L -/
theorem Wrapped.append (h₁q : Quiet h₁) (hw : Wrapped E T h₂) : Wrapped E T (h₁ ++ h₂) := by
  obtain ⟨before, s, after, rfl, hbefore, hfault, hshown⟩ := hw
  exact ⟨h₁ ++ before, s, after, by simp, h₁q.append hbefore, hfault, hshown⟩

/-- What was certified stays so after any beginning.  Kind: L -/
theorem Certified.append (hc : Certified E T h₂) : Certified E T (h₁ ++ h₂) := by
  obtain ⟨before, t, s, after, rfl, hfault, hwrapped⟩ := hc
  exact ⟨h₁ ++ before, t, s, after, by simp, hfault, hwrapped⟩

end sending

/-! ## The parts of a request -/

section parts

variable {E : TransportEnv} {T : SocketRemoteTransport} {α β : Type} {d : ℚ}
  {data body : List UInt8} {h : CallHistory} {P : TransportInstr → Prop}

/-- The instructions `wireCall` consists of.  Kind: L -/
theorem wireCall_only {l : TransportInstr} (hl : P l) : Prog.Only P (wireCall l) :=
  Prog.only_call hl _

/-- The instructions `checkCancelled` consists of.  Kind: L -/
theorem checkCancelled_only (hset : P .isSet) : Prog.Only P (checkCancelled E) := by
  refine Prog.only_bind ?_ fun _ => only_raiseIf
  unfold isCancelled
  split
  · exact Prog.only_call hset _
  · exact Prog.only_pure _

/-- The instructions `remaining` consists of.  Kind: L -/
theorem remaining_only (hclock : P .monotonic) : Prog.Only P (remaining d) :=
  Prog.only_bind (Prog.only_call hclock _) fun _ =>
    Prog.only_bind only_raiseIf fun _ => Prog.only_pure _

/-- The instructions `setTimeout` consists of.  Kind: L -/
theorem setTimeout_only (hclock : P .monotonic) (hset : ∀ t, P (.settimeout t)) :
    Prog.Only P (setTimeout d) :=
  Prog.only_bind (remaining_only hclock) fun t => wireCall_only (hset t)

/-- The instructions `translated` consists of.  Kind: L -/
theorem translated_only (hset : P .isSet) (r : Except PyError (List UInt8)) :
    Prog.Only P (translated E r) := by
  cases r with
  | ok body => exact Prog.only_pure _
  | error e =>
      rw [translated]
      split
      · exact Prog.only_throw _
      · split
        · refine Prog.only_bind (checkCancelled_only hset) fun _ => ?_
          split
          · exact Prog.only_throw _
          · split <;> exact Prog.only_throw _
        · exact Prog.only_throw _

/-- The instructions `closeWrappedSocket` consists of.  Kind: L -/
theorem closeWrappedSocket_only (hclose : P .closeTls) (wrapped : Bool) :
    Prog.Only P (closeWrappedSocket wrapped) := by
  unfold closeWrappedSocket
  split
  · refine Prog.only_bind (Prog.only_attempt (wireCall_only hclose)) fun r => ?_
    cases r with
    | ok u => exact Prog.only_pure _
    | error e => exact only_raiseIf
  · exact Prog.only_pure _

/-- The instructions `settle` consists of.  Kind: L -/
theorem settle_only (hset : P .isSet) (hclose : P .closeTls)
    (out : Bool × Except PyError (List UInt8)) : Prog.Only P (settle E out) := by
  refine Prog.only_bind (Prog.only_attempt (translated_only hset _)) fun _ => ?_
  refine Prog.only_bind (closeWrappedSocket_only hclose _) fun _ => ?_
  exact Prog.only_bind (Prog.only_ofExcept _) fun _ => Prog.only_ofExcept _

/-- The instructions `receiveFrame` consists of.  Kind: L -/
theorem receiveFrame_only (hreceive : P .receive) : Prog.Only P (receiveFrame E) :=
  Prog.only_call hreceive _

/-- What `_send_frame` sends.  Kind: L -/
theorem sendFrame_wire {wire : List UInt8} {u : Unit}
    (hok : sendFrame maxEnvelopeBytes data [] = .ok u wire) : wire = frameBytes data := by
  by_cases hdata : Sendable maxEnvelopeBytes data
  · rw [sendFrame_sendable (by decide) hdata] at hok
    cases hok
    rfl
  · exfalso
    apply hdata
    unfold sendFrame at hok
    simp only [PyM.ofExcept_bind_eq_ok, PyM.raiseIf_bind_eq_ok] at hok
    obtain ⟨_, -, hne, hle, -⟩ := hok
    exact ⟨hne, not_lt.mp hle⟩

/-- `checkCancelled` opens no connection.  Kind: L -/
theorem checkCancelled_notOpening : Prog.Only NotOpening (checkCancelled E) :=
  checkCancelled_only (by simp [NotOpening])

/-- `setTimeout` opens no connection.  Kind: L -/
theorem setTimeout_notOpening : Prog.Only NotOpening (setTimeout d) :=
  setTimeout_only (by simp [NotOpening]) (by simp [NotOpening])

/-- `opening` opens no connection.  Kind: L -/
theorem opening_notOpening : Prog.Only NotOpening (opening E d) :=
  Prog.only_bind checkCancelled_notOpening fun _ =>
    remaining_only (by simp [NotOpening])

/-- `preparation` opens no connection.  Kind: L -/
theorem preparation_notOpening : Prog.Only NotOpening (preparation E d) :=
  Prog.only_bind checkCancelled_notOpening fun _ =>
    Prog.only_bind setTimeout_notOpening fun _ =>
      Prog.only_bind setTimeout_notOpening fun _ =>
        checkCancelled_notOpening

/-- A request that is not cancelled has done nothing but ask.  Kind: L -/
theorem checkCancelled_quiet {u : Unit} (hends : Prog.Ends (checkCancelled E) h (.ok u)) :
    Quiet h :=
  (checkCancelled_silent (d := 0)).quiet checkCancelled_notOpening hends

/-- A call of a socket that came to nothing bad.  Kind: L -/
theorem wireCall_ok {l : TransportInstr} {u : Unit} (hends : Prog.Ends (wireCall l) h (.ok u)) :
    ∃ s, h = [(l, s)] ∧ s.fault = none := by
  obtain ⟨s, rfl, hs⟩ := Prog.ends_call.mp hends
  refine ⟨s, rfl, ?_⟩
  cases hfault : s.fault with
  | none => rfl
  | some e => simp [hfault] at hs

/-- `sendEnvelope` sends the frame of the envelope.  Kind: L -/
theorem sendEnvelope_sends : Sends d (frameBytes data) Quiet (sendEnvelope data) := by
  intro h bytes hl
  unfold sendEnvelope at hl
  split at hl
  · exact (Prog.reaches_throw.mp hl).elim
  · rename_i u wire hwire
    obtain ⟨rfl, heq⟩ := Prog.reaches_call.mp hl
    cases heq
    exact ⟨sendFrame_wire hwire, calm_nil, quiet_nil⟩

/-- `converse` sends the frame of the envelope.  Kind: L -/
theorem converse_sends : Sends d (frameBytes data) Quiet (converse E d data) := by
  refine checkCancelled_silent.thenSends (fun _ => setTimeout_silent.thenSends (fun _ => ?_)
    fun _ _ _ hends => (setTimeout_silent.quiet setTimeout_notOpening hends).append)
    fun _ _ _ hends => (checkCancelled_quiet hends).append
  refine sendEnvelope_sends.before fun _ => Prog.only_bind ?_ fun _ => ?_
  · exact checkCancelled_only fun bytes => by simp
  · exact receiveFrame_only fun bytes => by simp

/-- The certificate is checked before the envelope goes out.  Kind: L -/
theorem certified_sends : Sends d (frameBytes data) (Shown E T) (certified E T d data) := by
  refine checkCancelled_silent.thenSends (fun _ => checkCertificate_silent.thenSends
    (fun _ => converse_sends) ?_) fun _ _ _ hends => Shown.append (checkCancelled_quiet hends)
  intro h₁ h₂ u hends hquiet
  obtain ⟨s, certificate, rfl, hcertificate, hpin⟩ := checkCertificate_ok hends
  exact ⟨[], s, certificate, h₂, rfl, quiet_nil, hquiet, hcertificate, hpin⟩

/-- `opening` sends nothing.  Kind: L -/
theorem opening_silent : Silent d (opening E d) :=
  checkCancelled_silent.bind fun _ => remaining_silent

/-- `preparation` sends nothing.  Kind: L -/
theorem preparation_silent : Silent d (preparation E d) :=
  checkCancelled_silent.bind fun _ => setTimeout_silent.bind fun _ =>
    setTimeout_silent.bind fun _ => checkCancelled_silent

/-- The socket is wrapped before that.  Kind: L -/
theorem session_sends : Sends d (frameBytes data) (fun h => T.hasTls = true → Wrapped E T h)
    (session E T d data) := by
  unfold session
  split
  · have hwrap : Silent d (preparation E d >>= fun _ => wireCall .wrap) :=
      preparation_silent.bind fun _ => wireCall_silent (fun bytes => by simp) (by simp) (by simp)
    refine hwrap.attemptThenSends (fun _ => certified_sends.attempt.before
      fun _ => Prog.only_pure _) (fun _ => Prog.only_pure _) ?_
    intro h₁ h₂ u hends hshown _
    obtain ⟨h₃, h₄, _, rfl, hprepared, hlast⟩ := Prog.ends_bind_ok.mp hends
    obtain ⟨s, rfl, hfault⟩ := wireCall_ok hlast
    exact ⟨h₃, s, h₂, by simp, preparation_silent.quiet preparation_notOpening hprepared, hfault,
      hshown⟩
  · rename_i hplain
    have hafter : ∀ _ : Unit, Sends d (frameBytes data) (fun _ => True)
        (setTimeout d >>= fun _ => converse E d data) := fun _ =>
      setTimeout_silent.thenSends (fun _ => converse_sends) fun _ _ _ _ _ => trivial
    have hsends : Sends d (frameBytes data) (fun _ => True)
        (checkCancelled E >>= fun _ => setTimeout d >>= fun _ => converse E d data) :=
      checkCancelled_silent.thenSends hafter fun _ _ _ _ _ => trivial
    exact (hsends.attempt.before fun _ => Prog.only_pure _).mono
      fun _ _ htls => absurd htls hplain

/-- And the connection is made before that.  Kind: L -/
theorem connected_sends : Sends d (frameBytes data) (fun h => T.hasTls = true → Certified E T h)
    (connected E T d data) := by
  have hconnect : Silent d (opening E d >>= fun t => wireCall (.connect T.host T.port t)) :=
    opening_silent.bind fun _ => wireCall_silent (fun bytes => by simp) (by simp) (by simp)
  refine hconnect.attemptThenSends (fun _ => session_sends.before fun _ => Prog.only_bind ?_
    fun _ => Prog.only_pure _) (fun _ => Prog.only_pure _) ?_
  · exact Prog.only_attempt (wireCall_only fun bytes => by simp)
  · intro h₁ h₂ u hends hwrapped htls
    obtain ⟨h₃, h₄, t, rfl, -, hlast⟩ := Prog.ends_bind_ok.mp hends
    obtain ⟨s, rfl, hfault⟩ := wireCall_ok hlast
    exact ⟨h₃, t, s, h₂, by simp, hfault, hwrapped htls⟩

/-- **What has been checked when the envelope goes out.**  Kind: L -/
theorem request_sends {text : String} {bytes : List UInt8}
    (hl : Prog.Reaches (request E T text) h (.sendall bytes)) :
    bytes = frameBytes (encoded text) ∧
      (∃ s rest, h = (.monotonic, s) :: rest ∧ Calm (s.now + T.timeout) h) ∧
      (T.hasTls = true → Certified E T h) := by
  rcases Prog.reaches_bind.mp hl with hl | ⟨h₁, h₂, started, rfl, hclock, hl⟩
  · cases (Prog.reaches_call.mp hl).2
  · obtain ⟨s, rfl, hs⟩ := Prog.ends_call.mp hclock
    obtain rfl := Except.ok.inj hs
    rcases Prog.reaches_bind.mp hl with hl | ⟨h₃, h₄, _, rfl, hraise, hrest⟩
    · exact (reaches_raiseIf.mp hl).elim
    · obtain ⟨rfl, -⟩ := ends_raiseIf.mp hraise
      have hafter : Sends (s.now + T.timeout) (frameBytes (encoded text))
          (fun h => T.hasTls = true → Certified E T h)
          (connected E T (s.now + T.timeout) (encoded text) >>= fun out => settle E out) :=
        connected_sends.before fun out =>
          settle_only (fun bytes => by simp) (fun bytes => by simp) out
      obtain ⟨hwire, hcalm, hcertified⟩ := hafter h₄ bytes hrest
      have hpos := T.timeout_pos
      have hstart : Calm (s.now + T.timeout) [(.monotonic, s)] :=
        calm_singleton (fun bytes => by simp) (by simp) fun _ => by linarith
      exact ⟨hwire, ⟨s, h₄, rfl, hstart.append hcalm⟩, fun htls => (hcertified htls).append⟩

end parts

end SocketRemoteTransport

end ExpraConnect
