import ExpraConnect.Base
import ExpraConnect.Lib.BigEndian

/-!
# Frames on a socket

`transport/socket_transport.py`, `_recv_exact`, `_recv_frame` and `_send_frame`: payloads with a
length of four bytes in front.

* `RecvTurn`, `Socket`: what the calls of `recv` on a socket find, one after the other, with what the
  loop reads of the cancel event and of the clock before each of them;
* `recvExact`, `recvFrame`, `sendFrame`: the code;
* `bytesOf`: the bytes that arrive, however they are cut;
* `recvLoop_ok`, `recvLoop_error`: what is read is a part of these bytes, and never more than was
  asked for;
* `framing_independent`: what is sent as frames is received as the same frames.
-/

namespace ExpraConnect

open ExpraConnect.Lib

/-! ## Sockets -/

/-- What a call of `recv` finds. -/
inductive Arrival where
  /-- Bytes that have arrived. Without bytes the peer has closed the connection. -/
  | data (bytes : List UInt8)
  /-- Nothing arrives before the timeout. -/
  | timedOut
  /-- `recv` raises. -/
  | failed (e : PyError)

/-- A round of the loop in `_recv_exact`. -/
structure RecvTurn where
  /-- `cancel_event.is_set()`, if there is an event. -/
  cancelled : Bool
  /-- The deadline has passed, if there is one. -/
  expired : Bool
  /-- What `recv` finds. -/
  arrival : Arrival

/-- The rounds to come. After them the peer has closed the connection. -/
abbrev Socket := List RecvTurn

/-- The keyword arguments of `_recv_exact`. -/
structure RecvOptions where
  /-- `closed_message` -/
  closedMessage : String
  /-- `cancel_event is not None` -/
  cancellable : Bool
  /-- `deadline is not None` -/
  timed : Bool

/-! ## The code -/

/-- Source: `transport/socket_transport.py`, `_validate_max_bytes`, of an integer.  Kind: D -/
def validateMaxBytes (maxBytes : ℤ) : Except PyError Unit :=
  raiseIf (maxBytes < 0) ⟨.value, "max_bytes must not be negative"⟩

/-- The loop of `_recv_exact`. `recv(remaining)` returns at most `remaining` bytes: what has arrived
beyond them stays for the next call.
Source: `transport/socket_transport.py`, `_recv_exact`.  Kind: D -/
def recvLoop (o : RecvOptions) (remaining : ℕ) (chunks : List UInt8) :
    Socket → EStateM.Result PyError Socket (List UInt8)
  | [] =>
      if remaining = 0 then .ok chunks []
      else .error ⟨.remoteTransport, o.closedMessage⟩ []
  | turn :: rest =>
      if remaining = 0 then .ok chunks (turn :: rest)
      else if o.cancellable ∧ turn.cancelled then
        .error ⟨.remoteExecution, "cancelled"⟩ (turn :: rest)
      else if o.timed ∧ turn.expired then .error ⟨.os, "operation timed out"⟩ (turn :: rest)
      else
        match turn.arrival with
        | .timedOut =>
            if o.cancellable then recvLoop o remaining chunks rest
            else .error ⟨.os, "timed out"⟩ rest
        | .failed e => .error e rest
        | .data bytes =>
            if bytes = [] then .error ⟨.remoteTransport, o.closedMessage⟩ rest
            else if remaining < bytes.length then
              .ok (chunks ++ bytes.take remaining)
                ({ turn with arrival := .data (bytes.drop remaining) } :: rest)
            else recvLoop o (remaining - bytes.length) (chunks ++ bytes) rest

/-- Source: `transport/socket_transport.py`, `_recv_exact`.  Kind: D -/
def recvExact (o : RecvOptions) (length : ℤ) : PyM Socket (List UInt8) := do
  raiseIf (length < 0) ⟨.value, "length must not be negative"⟩
  recvLoop o length.toNat []

/-- Source: `transport/socket_transport.py`, `_recv_frame`.  Kind: D -/
def recvFrame (o : RecvOptions) (maxBytes : ℤ) : PyM Socket (List UInt8) := do
  PyM.ofExcept (validateMaxBytes maxBytes)
  let header ← recvExact o 4
  let length := BigEndian.ofBytes header
  raiseIf (length = 0) ⟨.remoteProtocol, "empty frame is not a valid envelope"⟩
  raiseIf (maxBytes < length) ⟨.remoteTransport, "envelope is too large"⟩
  recvExact o length

/-- `struct.pack(">I", length)`. -/
def packLength (length : ℕ) : Except PyError (List UInt8) := do
  raiseIf (2 ^ 32 ≤ length) ⟨.other, "'I' format requires 0 <= number <= 4294967295"⟩
  return BigEndian.toBytes 4 length

/-- The state is what has been sent.
Source: `transport/socket_transport.py`, `_send_frame`.  Kind: D -/
def sendFrame (maxBytes : ℤ) (payload : List UInt8) : PyM (List UInt8) Unit := do
  PyM.ofExcept (validateMaxBytes maxBytes)
  raiseIf (payload = []) ⟨.remoteProtocol, "empty frame is not a valid envelope"⟩
  raiseIf (maxBytes < payload.length) ⟨.remoteTransport, "envelope is too large"⟩
  let header ← PyM.ofExcept (packLength payload.length)
  modify fun sent => sent ++ (header ++ payload)

/-- Sending one payload after the other. -/
def sendFrames (maxBytes : ℤ) : List (List UInt8) → PyM (List UInt8) Unit
  | [] => pure ()
  | payload :: payloads => do
      sendFrame maxBytes payload
      sendFrames maxBytes payloads

/-- Receiving a number of frames. -/
def recvFrames (o : RecvOptions) (maxBytes : ℤ) : ℕ → PyM Socket (List (List UInt8))
  | 0 => pure []
  | n + 1 => do
      let payload ← recvFrame o maxBytes
      let payloads ← recvFrames o maxBytes n
      return payload :: payloads

/-! ## What arrives -/

/-- The bytes of a round. -/
def RecvTurn.bytes (turn : RecvTurn) : List UInt8 :=
  match turn.arrival with
  | .data bytes => bytes
  | _ => []

/-- All the bytes that arrive, however they are cut. -/
def bytesOf (sock : Socket) : List UInt8 := sock.flatMap RecvTurn.bytes

/-- The round brings bytes, or is one to wait in; nothing interrupts the loop. -/
def RecvTurn.Calm (o : RecvOptions) (turn : RecvTurn) : Prop :=
  turn.cancelled = false ∧ turn.expired = false ∧
    match turn.arrival with
    | .data bytes => bytes ≠ []
    | .timedOut => o.cancellable = true
    | .failed _ => False

variable {o : RecvOptions} {n : ℕ} {chunks out : List UInt8} {turn : RecvTurn} {sock sock' : Socket}

@[simp] theorem bytesOf_nil : bytesOf [] = [] := rfl

@[simp] theorem bytesOf_cons (turn : RecvTurn) (sock : Socket) :
    bytesOf (turn :: sock) = turn.bytes ++ bytesOf sock := rfl

/-- Nothing left to read.  Kind: L -/
@[simp] theorem recvLoop_zero (o : RecvOptions) (chunks : List UInt8) (sock : Socket) :
    recvLoop o 0 chunks sock = .ok chunks sock := by
  rcases sock with _ | ⟨turn, rest⟩ <;> simp [recvLoop]

theorem recvLoop_nil (o : RecvOptions) (hn : n ≠ 0) (chunks : List UInt8) :
    recvLoop o n chunks [] = .error ⟨.remoteTransport, o.closedMessage⟩ [] := by
  rw [recvLoop, if_neg hn]

/-- A round stops the loop without reading, waits, reads all that was asked for and leaves the rest,
or reads all that has arrived and goes on.  Kind: L -/
theorem recvLoop_cases (o : RecvOptions) (hn : n ≠ 0) (chunks : List UInt8) (turn : RecvTurn)
    (rest : Socket) :
    (¬turn.Calm o ∧ ∃ e sock', recvLoop o n chunks (turn :: rest) = .error e sock' ∧
      bytesOf sock' = turn.bytes ++ bytesOf rest) ∨
    (turn.bytes = [] ∧ recvLoop o n chunks (turn :: rest) = recvLoop o n chunks rest) ∨
    (n < turn.bytes.length ∧
      recvLoop o n chunks (turn :: rest) = .ok (chunks ++ turn.bytes.take n)
        ({ turn with arrival := .data (turn.bytes.drop n) } :: rest)) ∨
    (turn.bytes ≠ [] ∧ turn.bytes.length ≤ n ∧ recvLoop o n chunks (turn :: rest) =
      recvLoop o (n - turn.bytes.length) (chunks ++ turn.bytes) rest) := by
  obtain ⟨cancelled, expired, arrival⟩ := turn
  rw [recvLoop, if_neg hn]
  by_cases hcancel : o.cancellable ∧ cancelled
  · rw [if_pos hcancel]
    refine .inl ⟨fun hcalm => ?_, _, _, rfl, rfl⟩
    exact Bool.noConfusion (hcalm.1.symm.trans hcancel.2)
  rw [if_neg hcancel]
  by_cases hexpired : o.timed ∧ expired
  · rw [if_pos hexpired]
    refine .inl ⟨fun hcalm => ?_, _, _, rfl, rfl⟩
    exact Bool.noConfusion (hcalm.2.1.symm.trans hexpired.2)
  rw [if_neg hexpired]
  rcases arrival with bytes | _ | e
  · dsimp only [RecvTurn.bytes]
    by_cases hempty : bytes = []
    · rw [if_pos hempty]
      refine .inl ⟨fun hcalm => hcalm.2.2 hempty, _, _, rfl, ?_⟩
      rw [hempty, List.nil_append]
    rw [if_neg hempty]
    by_cases hlt : n < bytes.length
    · rw [if_pos hlt]
      exact .inr (.inr (.inl ⟨hlt, rfl⟩))
    · rw [if_neg hlt]
      exact .inr (.inr (.inr ⟨hempty, not_lt.mp hlt, rfl⟩))
  · dsimp only
    by_cases hwait : o.cancellable
    · rw [if_pos hwait]
      exact .inr (.inl ⟨rfl, rfl⟩)
    · rw [if_neg hwait]
      exact .inl ⟨fun hcalm => hwait hcalm.2.2, _, _, rfl, rfl⟩
  · exact .inl ⟨fun hcalm => hcalm.2.2, _, _, rfl, rfl⟩

/-- What is read is the number of bytes that was asked for, from the front of what arrives.
Kind: L -/
theorem recvLoop_ok (h : recvLoop o n chunks sock = .ok out sock') :
    ∃ a, out = chunks ++ a ∧ a.length = n ∧ bytesOf sock = a ++ bytesOf sock' := by
  induction sock generalizing n chunks with
  | nil =>
      by_cases hn : n = 0
      · subst hn
        rw [recvLoop_zero] at h
        cases h
        exact ⟨[], (List.append_nil _).symm, rfl, rfl⟩
      · rw [recvLoop_nil o hn] at h
        cases h
  | cons turn rest ih =>
      by_cases hn : n = 0
      · subst hn
        rw [recvLoop_zero] at h
        cases h
        exact ⟨[], (List.append_nil _).symm, rfl, rfl⟩
      rcases recvLoop_cases o hn chunks turn rest with
        ⟨-, e, _, he, -⟩ | ⟨hbytes, heq⟩ | ⟨hlt, hok⟩ | ⟨-, hle, heq⟩
      · rw [he] at h
        cases h
      · rw [heq] at h
        obtain ⟨a, hout, hlength, hreceived⟩ := ih h
        refine ⟨a, hout, hlength, ?_⟩
        rw [bytesOf_cons, hbytes, List.nil_append, hreceived]
      · rw [hok] at h
        cases h
        refine ⟨turn.bytes.take n, rfl, List.length_take_of_le hlt.le, ?_⟩
        show turn.bytes ++ bytesOf rest =
          turn.bytes.take n ++ (turn.bytes.drop n ++ bytesOf rest)
        rw [← List.append_assoc, List.take_append_drop]
      · rw [heq] at h
        obtain ⟨a, hout, hlength, hreceived⟩ := ih h
        refine ⟨turn.bytes ++ a, ?_, ?_, ?_⟩
        · rw [hout, List.append_assoc]
        · rw [List.length_append, hlength]
          omega
        · rw [bytesOf_cons, hreceived, List.append_assoc]

/-- What is lost when the loop raises is less than what was asked for.  Kind: L -/
theorem recvLoop_error {e : PyError} (h : recvLoop o n chunks sock = .error e sock') :
    ∃ a, a.length < n ∧ bytesOf sock = a ++ bytesOf sock' := by
  induction sock generalizing n chunks with
  | nil =>
      by_cases hn : n = 0
      · subst hn
        rw [recvLoop_zero] at h
        cases h
      · rw [recvLoop_nil o hn] at h
        cases h
        exact ⟨[], Nat.pos_of_ne_zero hn, rfl⟩
  | cons turn rest ih =>
      by_cases hn : n = 0
      · subst hn
        rw [recvLoop_zero] at h
        cases h
      rcases recvLoop_cases o hn chunks turn rest with
        ⟨-, _, _, he, hreceived⟩ | ⟨hbytes, heq⟩ | ⟨-, hok⟩ | ⟨hne, hle, heq⟩
      · rw [he] at h
        cases h
        exact ⟨[], Nat.pos_of_ne_zero hn, hreceived.symm⟩
      · rw [heq] at h
        obtain ⟨a, hlength, hreceived⟩ := ih h
        refine ⟨a, hlength, ?_⟩
        rw [bytesOf_cons, hbytes, List.nil_append, hreceived]
      · rw [hok] at h
        cases h
      · rw [heq] at h
        obtain ⟨a, hlength, hreceived⟩ := ih h
        refine ⟨turn.bytes ++ a, ?_, ?_⟩
        · rw [List.length_append]
          omega
        · rw [bytesOf_cons, hreceived, List.append_assoc]

/-- Without interruptions the loop reads what was asked for, if it arrives.  Kind: L -/
theorem recvLoop_calm (chunks : List UInt8) (hcalm : ∀ turn ∈ sock, turn.Calm o)
    (hn : n ≤ (bytesOf sock).length) :
    ∃ out sock', recvLoop o n chunks sock = .ok out sock' ∧ ∀ turn ∈ sock', turn.Calm o := by
  induction sock generalizing n chunks with
  | nil =>
      have hzero : n = 0 := Nat.le_zero.mp hn
      subst hzero
      exact ⟨chunks, [], recvLoop_zero o chunks [], hcalm⟩
  | cons turn rest ih =>
      by_cases hzero : n = 0
      · subst hzero
        exact ⟨chunks, turn :: rest, recvLoop_zero o chunks _, hcalm⟩
      obtain ⟨hturn, hrest⟩ := List.forall_mem_cons.mp hcalm
      rw [bytesOf_cons, List.length_append] at hn
      rcases recvLoop_cases o hzero chunks turn rest with
        ⟨hnot, -⟩ | ⟨hbytes, heq⟩ | ⟨hlt, hok⟩ | ⟨-, hle, heq⟩
      · exact absurd hturn hnot
      · rw [heq]
        rw [hbytes, List.length_nil, Nat.zero_add] at hn
        exact ih chunks hrest hn
      · refine ⟨_, _, hok, ?_⟩
        have hleft : turn.bytes.drop n ≠ [] := by
          intro hnil
          have hlength := congrArg List.length hnil
          rw [List.length_drop, List.length_nil] at hlength
          omega
        exact List.forall_mem_cons.mpr ⟨⟨hturn.1, hturn.2.1, hleft⟩, hrest⟩
      · rw [heq]
        exact ih _ hrest (by omega)

/-- The front of what arrives is read, and the rest stays.  Kind: L -/
theorem recvLoop_front {a rest : List UInt8} (chunks : List UInt8)
    (hcalm : ∀ turn ∈ sock, turn.Calm o) (hreceived : bytesOf sock = a ++ rest) :
    ∃ sock', recvLoop o a.length chunks sock = .ok (chunks ++ a) sock' ∧
      bytesOf sock' = rest ∧ ∀ turn ∈ sock', turn.Calm o := by
  have hle : a.length ≤ (bytesOf sock).length := by
    rw [hreceived, List.length_append]
    omega
  obtain ⟨out, sock', hok, hcalm'⟩ := recvLoop_calm chunks hcalm hle
  obtain ⟨b, hout, hlength, hread⟩ := recvLoop_ok hok
  obtain ⟨hab, hrest⟩ := List.append_inj (hreceived.symm.trans hread) hlength.symm
  exact ⟨sock', by rw [hok, hout, hab], hrest.symm, hcalm'⟩

/-! ## Frames -/

/-- The length that a stream announces. -/
def announced (stream : List UInt8) : ℕ := BigEndian.ofBytes (stream.take 4)

/-- A stream that ends inside its first frame, or announces nothing or too much. -/
def Broken (maxBytes : ℤ) (stream : List UInt8) : Prop :=
  stream.length < 4 ∨ announced stream = 0 ∨ maxBytes < announced stream ∨
    stream.length < 4 + announced stream

/-- The end of the first frame, or of its header if no frame may follow. -/
def frameEnd (maxBytes : ℤ) (stream : List UInt8) : ℕ :=
  if 4 ≤ stream.length ∧ 0 < announced stream ∧ announced stream ≤ maxBytes then
    4 + announced stream
  else 4

/-- Equation lemma of `recv_exact`.  Kind: L -/
theorem recvExact_natCast (o : RecvOptions) (n : ℕ) : recvExact o n = recvLoop o n [] := by
  have hnonneg : ¬(n : ℤ) < 0 := by omega
  unfold recvExact raiseIf
  rw [if_neg hnonneg, Int.toNat_natCast]
  rfl

/-- Equation lemma of `recv_frame`.  Kind: L -/
theorem recvFrame_apply {maxBytes : ℤ} (hmax : 0 ≤ maxBytes) (o : RecvOptions) (sock : Socket) :
    recvFrame o maxBytes sock =
      match recvLoop o 4 [] sock with
      | .error e sock' => .error e sock'
      | .ok header sock' =>
          if BigEndian.ofBytes header = 0 then
            .error ⟨.remoteProtocol, "empty frame is not a valid envelope"⟩ sock'
          else if maxBytes < BigEndian.ofBytes header then
            .error ⟨.remoteTransport, "envelope is too large"⟩ sock'
          else recvLoop o (BigEndian.ofBytes header) [] sock' := by
  have hvalid : validateMaxBytes maxBytes = .ok () := by
    unfold validateMaxBytes raiseIf
    rw [if_neg (not_lt.mpr hmax)]
    rfl
  unfold recvFrame
  rw [PyM.bind_apply, PyM.ofExcept_apply, hvalid]
  dsimp only
  rw [PyM.bind_apply, show recvExact o 4 = recvLoop o 4 [] from recvExact_natCast o 4]
  rcases recvLoop o 4 [] sock with ⟨header, sock'⟩ | ⟨e, sock'⟩
  · dsimp only
    rw [PyM.bind_apply, PyM.raiseIf_apply]
    split_ifs with hzero hlarge
    · rfl
    · dsimp only
      rw [PyM.bind_apply, PyM.raiseIf_apply, if_pos hlarge]
    · dsimp only
      rw [PyM.bind_apply, PyM.raiseIf_apply, if_neg hlarge]
      exact congrFun (recvExact_natCast o _) sock'
  · rfl

/-- A broken stream is refused, and nothing behind the announced frame is read.  Kind: L -/
theorem recvFrame_broken {maxBytes : ℤ} (h : Broken maxBytes (bytesOf sock)) :
    ∃ e sock', recvFrame o maxBytes sock = .error e sock' ∧
      ∃ consumed, bytesOf sock = consumed ++ bytesOf sock' ∧
        consumed.length ≤ frameEnd maxBytes (bytesOf sock) := by
  have hfour : 4 ≤ frameEnd maxBytes (bytesOf sock) := by
    unfold frameEnd
    split_ifs
    · omega
    · exact le_rfl
  by_cases hmax : maxBytes < 0
  · have hraise : validateMaxBytes maxBytes =
        .error ⟨.value, "max_bytes must not be negative"⟩ := by
      unfold validateMaxBytes raiseIf
      rw [if_pos hmax]
      rfl
    refine ⟨⟨.value, "max_bytes must not be negative"⟩, sock, ?_, [], rfl, Nat.zero_le _⟩
    unfold recvFrame
    rw [PyM.bind_apply, PyM.ofExcept_apply, hraise]
  rw [recvFrame_apply (not_lt.mp hmax)]
  rcases hheader : recvLoop o 4 [] sock with ⟨header, sock'⟩ | ⟨e, sock'⟩
  · obtain ⟨a, hout, hlength, hreceived⟩ := recvLoop_ok hheader
    rw [List.nil_append] at hout
    subst hout
    have hannounced : announced (bytesOf sock) = BigEndian.ofBytes header := by
      unfold announced
      rw [hreceived, List.take_left' hlength]
    have hlong : 4 ≤ (bytesOf sock).length := by
      rw [hreceived, List.length_append]
      omega
    dsimp only
    by_cases hzero : BigEndian.ofBytes header = 0
    · rw [if_pos hzero]
      exact ⟨_, sock', rfl, header, hreceived, hlength.le.trans hfour⟩
    rw [if_neg hzero]
    by_cases hlarge : maxBytes < BigEndian.ofBytes header
    · rw [if_pos hlarge]
      exact ⟨_, sock', rfl, header, hreceived, hlength.le.trans hfour⟩
    rw [if_neg hlarge]
    rcases hbody : recvLoop o (BigEndian.ofBytes header) [] sock' with ⟨body, rest⟩ | ⟨e, rest⟩
    · -- the whole frame has arrived
      obtain ⟨b, -, hbodyLength, hbodyReceived⟩ := recvLoop_ok hbody
      have hwhole : (bytesOf sock).length = 4 + (b.length + (bytesOf rest).length) := by
        rw [hreceived, hbodyReceived, List.length_append, List.length_append, hlength]
      rw [Broken, hannounced] at h
      rcases h with h | h | h | h
      · omega
      · exact absurd h hzero
      · exact absurd h hlarge
      · omega
    · obtain ⟨b, hbodyLength, hbodyReceived⟩ := recvLoop_error hbody
      refine ⟨e, rest, rfl, header ++ b, ?_, ?_⟩
      · rw [hreceived, hbodyReceived, List.append_assoc]
      · have hframe : frameEnd maxBytes (bytesOf sock) = 4 + BigEndian.ofBytes header := by
          unfold frameEnd
          rw [hannounced, if_pos ⟨hlong, Nat.pos_of_ne_zero hzero, not_lt.mp hlarge⟩]
        rw [hframe, List.length_append]
        omega
  · obtain ⟨a, hlength, hreceived⟩ := recvLoop_error hheader
    exact ⟨e, sock', rfl, a, hreceived, hlength.le.trans hfour⟩

/-- What `_send_frame` puts on the wire. -/
def frameBytes (payload : List UInt8) : List UInt8 :=
  BigEndian.toBytes 4 payload.length ++ payload

/-- Payloads that can be sent. -/
def Sendable (maxBytes : ℤ) (payload : List UInt8) : Prop :=
  payload ≠ [] ∧ (payload.length : ℤ) ≤ maxBytes

instance (maxBytes : ℤ) (payload : List UInt8) : Decidable (Sendable maxBytes payload) :=
  inferInstanceAs (Decidable (_ ∧ _))

/-- A payload in bounds is sent as its frame.  Kind: L -/
theorem sendFrame_sendable {maxBytes : ℤ} {payload : List UInt8} (hmax : maxBytes < 2 ^ 32)
    (h : Sendable maxBytes payload) (sent : List UInt8) :
    sendFrame maxBytes payload sent = .ok () (sent ++ frameBytes payload) := by
  obtain ⟨hne, hle⟩ := h
  have hnonneg : ¬maxBytes < 0 := by omega
  have hfits : ¬2 ^ 32 ≤ payload.length := by omega
  have hpack : packLength payload.length = .ok (BigEndian.toBytes 4 payload.length) := by
    unfold packLength raiseIf
    rw [if_neg hfits]
    rfl
  have hvalid : validateMaxBytes maxBytes = .ok () := by
    unfold validateMaxBytes raiseIf
    rw [if_neg hnonneg]
    rfl
  unfold sendFrame
  rw [PyM.bind_apply, PyM.ofExcept_apply, hvalid]
  dsimp only
  rw [PyM.bind_apply, PyM.raiseIf_apply, if_neg hne]
  dsimp only
  rw [PyM.bind_apply, PyM.raiseIf_apply, if_neg (not_lt.mpr hle)]
  dsimp only
  rw [PyM.bind_apply, PyM.ofExcept_apply, hpack]
  exact PyM.modify_apply _ _

/-- Payloads in bounds are sent as their frames.  Kind: L -/
theorem sendFrames_sendable {maxBytes : ℤ} {payloads : List (List UInt8)}
    (hmax : maxBytes < 2 ^ 32) (h : ∀ payload ∈ payloads, Sendable maxBytes payload)
    (sent : List UInt8) :
    sendFrames maxBytes payloads sent = .ok () (sent ++ payloads.flatMap frameBytes) := by
  induction payloads generalizing sent with
  | nil =>
      rw [List.flatMap_nil, List.append_nil]
      rfl
  | cons payload payloads ih =>
      obtain ⟨hfirst, hrest⟩ := List.forall_mem_cons.mp h
      rw [sendFrames, PyM.bind_apply, sendFrame_sendable hmax hfirst]
      dsimp only
      rw [ih hrest, List.flatMap_cons, List.append_assoc]

/-- A frame at the front of what arrives is read, and the rest stays.  Kind: L -/
theorem recvFrame_front {maxBytes : ℤ} {payload rest : List UInt8} (hmax : maxBytes < 2 ^ 32)
    (h : Sendable maxBytes payload) (hcalm : ∀ turn ∈ sock, turn.Calm o)
    (hreceived : bytesOf sock = frameBytes payload ++ rest) :
    ∃ sock', recvFrame o maxBytes sock = .ok payload sock' ∧ bytesOf sock' = rest ∧
      ∀ turn ∈ sock', turn.Calm o := by
  obtain ⟨hne, hle⟩ := h
  have hpos : payload.length ≠ 0 := fun hzero => hne (List.length_eq_zero_iff.mp hzero)
  have hlength : BigEndian.ofBytes (BigEndian.toBytes 4 payload.length) = payload.length :=
    BigEndian.ofBytes_toBytes (by omega)
  rw [frameBytes, List.append_assoc] at hreceived
  obtain ⟨sock₁, hheader, hbody, hcalm₁⟩ := recvLoop_front [] hcalm hreceived
  rw [BigEndian.length_toBytes, List.nil_append] at hheader
  obtain ⟨sock₂, hpayload, hrest, hcalm₂⟩ := recvLoop_front [] hcalm₁ hbody
  rw [List.nil_append] at hpayload
  refine ⟨sock₂, ?_, hrest, hcalm₂⟩
  rw [recvFrame_apply (by omega), hheader]
  dsimp only
  rw [hlength, if_neg hpos, if_neg (not_lt.mpr hle), hpayload]

/-- Frames at the front of a stream are read back.  Kind: L -/
theorem recvFrames_front {maxBytes : ℤ} {payloads : List (List UInt8)} {rest : List UInt8}
    (hmax : maxBytes < 2 ^ 32) (h : ∀ payload ∈ payloads, Sendable maxBytes payload)
    (hcalm : ∀ turn ∈ sock, turn.Calm o)
    (hreceived : bytesOf sock = payloads.flatMap frameBytes ++ rest) :
    ∃ sock', recvFrames o maxBytes payloads.length sock = .ok payloads sock' ∧
      bytesOf sock' = rest := by
  induction payloads generalizing sock with
  | nil => exact ⟨sock, rfl, hreceived⟩
  | cons payload payloads ih =>
      obtain ⟨hfirst, hothers⟩ := List.forall_mem_cons.mp h
      rw [List.flatMap_cons, List.append_assoc] at hreceived
      obtain ⟨sock₁, hok, hreceived₁, hcalm₁⟩ := recvFrame_front hmax hfirst hcalm hreceived
      obtain ⟨sock₂, hoks, hrest⟩ := ih hothers hcalm₁ hreceived₁
      refine ⟨sock₂, ?_, hrest⟩
      rw [List.length_cons, recvFrames, PyM.bind_apply, hok]
      dsimp only
      rw [PyM.bind_apply, hoks]
      rfl

/-- Payloads that are sent as frames are received as the same payloads, however their bytes are cut
into pieces on the way, and nothing is left. A stream that ends inside a frame, or announces nothing
or too much, is refused whatever else happens, and nothing behind the announced frame is read.
Source: `transport/socket_transport.py`, `_recv_frame`, `_send_frame`.  Kind: P -/
theorem framing_independent (o : RecvOptions) (maxBytes : ℤ) :
    (∀ payloads, maxBytes < 2 ^ 32 → (∀ payload ∈ payloads, Sendable maxBytes payload) →
      ∃ wire, sendFrames maxBytes payloads [] = .ok () wire ∧
        ∀ sock, (∀ turn ∈ sock, RecvTurn.Calm o turn) → bytesOf sock = wire →
          ∃ sock', recvFrames o maxBytes payloads.length sock = .ok payloads sock' ∧
            bytesOf sock' = []) ∧
    ∀ sock, Broken maxBytes (bytesOf sock) →
      ∃ e sock', recvFrame o maxBytes sock = .error e sock' ∧
        ∃ consumed, bytesOf sock = consumed ++ bytesOf sock' ∧
          consumed.length ≤ frameEnd maxBytes (bytesOf sock) := by
  refine ⟨?_, fun sock h => recvFrame_broken h⟩
  intro payloads hmax hpayloads
  refine ⟨_, sendFrames_sendable hmax hpayloads [], ?_⟩
  intro sock hcalm hreceived
  rw [List.nil_append, ← List.append_nil (payloads.flatMap frameBytes)] at hreceived
  exact recvFrames_front hmax hpayloads hcalm hreceived

/-- Two payloads in three pieces. -/
theorem framing_independent_pieces :
    ∃ sock', recvFrames ⟨"closed", false, false⟩ 5 2
      ([[0, 0, 0], [2, 7, 8, 0, 0, 0, 1], [9]].map fun bytes => ⟨false, false, .data bytes⟩) =
        .ok [[7, 8], [9]] sock' ∧ bytesOf sock' = [] := by
  obtain ⟨wire, hwire, hall⟩ := (framing_independent ⟨"closed", false, false⟩ 5).1 [[7, 8], [9]]
    (by decide) (by decide)
  have hsent : wire = [0, 0, 0, 2, 7, 8, 0, 0, 0, 1, 9] := by
    cases hwire
    rfl
  exact hall _ (by simp [RecvTurn.Calm]) (by rw [hsent]; rfl)

end ExpraConnect
