import ExpraConnect.Cluster.InviteBlob
import ExpraConnect.Cluster.InvitePreimage
import ExpraConnect.Pairing.Server
import ExpraConnect.Remote.Answering
import ExpraConnect.Remote.CanonicalJson

/-!
# What untrusted input can raise

`remote/wire_protocol.py`, `remote/service.py`, `cluster/invites.py`: whoever reaches the listener
or hands out an invite chooses the texts that `RemoteService.handle`,
`validate_pairing_control_request` and `decode_invite_blob` read.  Each of them declares an
exception type, and each has guards that raise another one.

* `EnvelopeFault`: a signature that is not ASCII makes `hmac.compare_digest` raise `TypeError`, for
  which no credential is needed; an authentic timestamp beyond the float range makes `math.isfinite`
  raise `OverflowError`;
* `FenceFault`: the fence of a role operation is compared outside the `try`, and a fencing token
  that is not ASCII raises `TypeError`;
* `CommitFault`: the hook that ends a self-revocation runs outside the `try` as well;
* `ControlFault`: an `op` that cannot be hashed, an expiry beyond the float range, a caller id that
  `NodeId` rejects;
* `declared_errors_iff`: besides these and the oversized invite of `OversizedInvite`, every input
  is answered or rejected with the declared exception.
-/

namespace ExpraConnect

open ExpraConnect.Lib

/-- A `RemoteProtocolError`, or one of its subclasses. -/
def IsProtocol (e : PyError) : Prop := e.kind.isRemoteProtocol = true

/-- What the code relies on of the standard library.  Kind: D -/
structure StandardCodec (C : Codec) : Prop where
  /-- `json.loads` raises `JSONDecodeError`, a `ValueError`. -/
  loads : ∀ text, Raises (fun e => e.kind.isValueError = true) (C.loads text)
  /-- `hexdigest` is ASCII. -/
  hmac : ∀ secret text, isAscii (C.hmac secret text) = true

/-- The codec of JSON texts is such a library.  Kind: L -/
theorem standardCodec_jsonCodec {N : FloatFormat PyFloat} {limit : Option ℕ}
    {hmac : String → String → String} {isAlnum isSpace : Char → Bool}
    (hascii : ∀ secret text, isAscii (hmac secret text) = true) :
    StandardCodec (jsonCodec N limit hmac isAlnum isSpace) := by
  refine ⟨fun text => ?_, hascii⟩
  show Raises _ (loadText N limit text)
  unfold loadText
  split
  · exact raises_ok
  · exact raises_error.mpr rfl

/-! ## Single checks -/

section checks

variable {v : Option Value} {test : String → Bool} {e : PyError} {E : PyError → Prop}

/-- A guard raises its own error.  Kind: L -/
theorem raises_raiseIf {p : Prop} [Decidable p] (he : E e) :
    Raises E (raiseIf p e : Except PyError Unit) := by
  unfold raiseIf
  split
  · exact raises_throw.mpr he
  · exact raises_pure

/-- `requireStr` raises the error it is given.  Kind: L -/
theorem raises_requireStr (he : E e) : Raises E (Codec.requireStr v test e) := by
  unfold Codec.requireStr
  split
  · split
    · exact raises_ok
    · exact raises_error.mpr he
  · exact raises_error.mpr he

/-- `optionalStr` raises the error it is given.  Kind: L -/
theorem raises_optionalStr (he : E e) : Raises E (Codec.optionalStr v test e) := by
  unfold Codec.optionalStr
  split
  · exact raises_ok
  · exact raises_ok
  · split
    · exact raises_ok
    · exact raises_error.mpr he
  · exact raises_error.mpr he

/-- `requireDict` raises the error it is given.  Kind: L -/
theorem raises_requireDict (he : E e) : Raises E (Codec.requireDict v e) := by
  unfold Codec.requireDict
  split
  · exact raises_ok
  · exact raises_error.mpr he

/-- `requireResume` raises the error it is given.  Kind: L -/
theorem raises_requireResume {sessionId : Option String} :
    Raises IsProtocol (Codec.requireResume v sessionId) := by
  unfold Codec.requireResume
  split
  · exact raises_ok
  · exact raises_ok
  · split
    · exact raises_error.mpr rfl
    · exact raises_ok
  · exact raises_error.mpr rfl

/-- A text that passes a test. -/
def TextWith (test : String → Bool) (v : Option Value) : Prop :=
  ∃ s, v = some (.str s) ∧ test s = true

/-- Absent, `null`, or a text that passes a test. -/
def OptionalText (test : String → Bool) (v : Option Value) : Prop :=
  v = none ∨ v = some .null ∨ TextWith test v

/-- A required text is accepted if and only if it is a text that passes.  Kind: L -/
theorem requireStr_eq_ok_iff {s : String} :
    Codec.requireStr v test e = .ok s ↔ v = some (.str s) ∧ test s = true := by
  constructor
  · intro h
    obtain rfl := requireStr_eq_ok h
    simp only [Codec.requireStr] at h
    by_cases ht : test s = true
    · exact ⟨rfl, ht⟩
    · rw [if_neg ht] at h
      cases h
  · rintro ⟨rfl, ht⟩
    simp only [Codec.requireStr, ht, if_true]

/-- When a required text is accepted.  Kind: L -/
theorem requireStr_isOk_iff : (∃ s, Codec.requireStr v test e = .ok s) ↔ TextWith test v := by
  simp only [requireStr_eq_ok_iff, TextWith]

/-- When an optional text is accepted.  Kind: L -/
theorem optionalStr_isOk_iff : (∃ s, Codec.optionalStr v test e = .ok s) ↔ OptionalText test v := by
  unfold Codec.optionalStr OptionalText TextWith
  split
  · simp
  · simp
  · rename_i s
    by_cases ht : test s = true
    · simp [ht]
    · simp [ht]
  · rename_i w hnull hstr
    simp only [reduceCtorEq, exists_false, Option.some.injEq, false_or, false_iff, not_or,
      not_exists, not_and]
    exact ⟨hnull, fun s h => (hstr s h).elim⟩

/-- An accepted optional text is there if and only if the field is.  Kind: L -/
theorem isSome_of_optionalStr {o : Option String} (h : Codec.optionalStr v test e = .ok o) :
    o.isSome = true ↔ TextWith test v := by
  unfold Codec.optionalStr at h
  unfold TextWith
  split at h
  · cases h
    simp
  · cases h
    simp
  · rename_i s
    by_cases ht : test s = true
    · rw [if_pos ht] at h
      cases h
      simp [ht]
    · rw [if_neg ht] at h
      cases h
  · cases h

/-- When a resume flag is accepted.  Kind: L -/
theorem requireResume_isOk_iff {o : Option String} :
    (∃ b, Codec.requireResume v o = .ok b) ↔
      v = none ∨ v = some (.bool false) ∨ (v = some (.bool true) ∧ o.isSome = true) := by
  unfold Codec.requireResume
  split
  · simp
  · simp
  · cases o with
    | none => simp
    | some s => simp
  · rename_i w hfalse htrue
    simp only [reduceCtorEq, exists_false, Option.some.injEq, false_or, false_iff, not_or, not_and]
    exact ⟨hfalse, fun h => (htrue h).elim⟩

/-- When a required object is accepted.  Kind: L -/
theorem requireDict_isOk_iff : (∃ fields, Codec.requireDict v e = .ok fields) ↔
    ∃ fields, v = some (.dict fields) := by
  unfold Codec.requireDict
  split
  · simp
  · rename_i hne
    simp only [reduceCtorEq, exists_false, false_iff, not_exists]
    exact hne

end checks

/-! ## Envelopes -/

/-- The fields of an envelope that are signed. -/
def signedFields (fields : Fields) : Fields := fields.filter fun p => p.1 ≠ "sig"

/-- The checks of `verify_request` in front of the signature pass.
Source: `remote/wire_protocol.py`, `verify_request`.  Kind: D -/
structure Presented (fields : Fields) (sig : String) : Prop where
  /-- `v` -/
  version : (getField "v" fields).bind Value.asStr? = some "1"
  /-- No other fields. -/
  allowed : (fields.all fun p => p.1 ∈ requestFields) = true
  /-- `sig` is a text. -/
  sig : getField "sig" fields = some (.str sig)
  /-- `_canonical` encodes the fields. -/
  encodable : Value.encodableFields (signedFields fields) = true

/-- The checks of `verify_request` between the signature and the timestamp pass.
Source: `remote/wire_protocol.py`, `verify_request`.  Kind: D -/
structure WellTyped (C : Codec) (fields : Fields) : Prop where
  /-- `node_id` -/
  nodeId : TextWith (· ≠ "") (getField "node_id" fields)
  /-- `caller_node_id` -/
  caller : OptionalText (· ≠ "") (getField "caller_node_id" fields)
  /-- `op` -/
  op : TextWith (fun _ => true) (getField "op" fields)
  /-- `params` -/
  params : ∃ params, getField "params" fields = some (.dict params)
  /-- `request_id` -/
  requestId : TextWith C.validIdentifier (getField "request_id" fields)
  /-- `nonce` -/
  nonce : TextWith C.validIdentifier (getField "nonce" fields)
  /-- `session_id` -/
  session : OptionalText C.validIdentifier (getField "session_id" fields)
  /-- `resume`: only a session can be resumed. -/
  resume : getField "resume" fields = none ∨ getField "resume" fields = some (.bool false) ∨
    (getField "resume" fields = some (.bool true) ∧
      TextWith C.validIdentifier (getField "session_id" fields))
  /-- `connection_generation` -/
  generation : OptionalText C.validIdentifier (getField "connection_generation" fields)

/-- An envelope on which `verify_request` raises an undeclared exception: its signature is not
ASCII, or it is authentic, well typed and of a time that no float can hold.  Kind: D -/
structure EnvelopeFault (C : Codec) (secret : String) (fields : Fields) : Prop where
  fault : ∃ sig, Presented fields sig ∧ (isAscii sig = false ∨
    sig = C.hmac secret (C.canonical (.dict (signedFields fields))) ∧ WellTyped C fields ∧
      ∃ v, getField "ts" fields = some v ∧ v.Oversized)

section envelope

variable {C : Codec} {secret sig : String} {fields : Fields}

/-- The comparison of the signatures raises on a signature that is not ASCII.  Kind: L -/
theorem verifySignature_raises_iff (hC : StandardCodec C) {kind : String} :
    Raises IsProtocol (C.verifySignature sig secret fields kind) ↔
      (Value.encodableFields fields = true → isAscii sig = true) := by
  unfold Codec.verifySignature Codec.signature
  by_cases henc : Value.encodableFields fields = true
  · simp only [henc, if_true, true_imp_iff]
    rw [raises_bind_iff]
    constructor
    · intro h
      by_contra hascii
      have hraise := h.1 _ (compareDigest_eq_error_iff.mpr ⟨by simp [hascii], rfl⟩)
      cases hraise
    · intro hascii
      refine ⟨fun e he => ?_, fun same _ => raises_raiseIf rfl⟩
      have hfalse := (compareDigest_eq_error_iff.mp he).1
      simp [hascii, hC.hmac] at hfalse
  · simp only [henc, Bool.false_eq_true, if_false, false_imp_iff, iff_true]
    exact raises_throw.mpr rfl

/-- A signature is accepted if and only if the fields can be encoded and it is theirs.  Kind: L -/
theorem verifySignature_eq_ok_iff (hC : StandardCodec C) {kind : String} {u : Unit} :
    C.verifySignature sig secret fields kind = .ok u ↔
      Value.encodableFields fields = true ∧ sig = C.hmac secret (C.canonical (.dict fields)) := by
  unfold Codec.verifySignature Codec.signature
  by_cases henc : Value.encodableFields fields = true
  · simp only [henc, if_true, true_and, Except.bind_eq_ok, Except.raiseIf_eq_ok]
    constructor
    · rintro ⟨same, hsame, hne⟩
      have htrue : same = true := by simpa using hne
      rw [htrue] at hsame
      exact compareDigest_eq_true hsame
    · rintro rfl
      refine ⟨true, ?_, by simp⟩
      simp [compareDigest, hC.hmac]
  · simp [henc]

/-- `verify_request` raises something undeclared exactly on a faulty envelope.  Kind: L -/
theorem checkEnvelope_raises_iff (hC : StandardCodec C) :
    Raises IsProtocol (C.checkEnvelope (.dict fields) secret) ↔ ¬EnvelopeFault C secret fields := by
  have hprotocol : ∀ m, IsProtocol ⟨.remoteProtocol, m⟩ := fun m => rfl
  have hauth : ∀ m, IsProtocol ⟨.remoteAuth, m⟩ := fun m => rfl
  simp only [Codec.checkEnvelope, raises_bind_iff, raises_raiseIf (hprotocol _),
    raises_requireStr (hauth _), raises_requireStr (hprotocol _), raises_optionalStr (hauth _),
    raises_requireDict (hprotocol _), raises_requireResume, verifySignature_raises_iff hC,
    verifySignature_eq_ok_iff hC, true_and, Except.raiseIf_eq_ok]
  constructor
  · rintro h ⟨sig, hp, hfault⟩
    have hallowed : ¬((!fields.all fun p => decide (p.1 ∈ requestFields)) = true ∨
        (getField "sig" fields).isNone = true) := by
      simp only [hp.allowed, hp.sig, Option.isNone_some, Bool.not_true, Bool.false_eq_true, or_self,
        not_false_eq_true]
    have hsig := h () (not_not.mpr hp.version) () hallowed sig
      (requireStr_eq_ok_iff.mpr ⟨hp.sig, rfl⟩)
    rcases hfault with hascii | ⟨hauthentic, hw, v, hv, hbig⟩
    · rw [hsig.1 hp.encodable] at hascii
      cases hascii
    · obtain ⟨nodeId, hnode⟩ := requireStr_isOk_iff.mpr hw.nodeId
      obtain ⟨caller, hcaller⟩ := optionalStr_isOk_iff.mpr hw.caller
      obtain ⟨op, hop⟩ := requireStr_isOk_iff.mpr hw.op
      obtain ⟨params, hparams⟩ := requireDict_isOk_iff.mpr hw.params
      obtain ⟨requestId, hrequest⟩ := requireStr_isOk_iff.mpr hw.requestId
      obtain ⟨nonce, hnonce⟩ := requireStr_isOk_iff.mpr hw.nonce
      obtain ⟨sessionId, hsession⟩ := optionalStr_isOk_iff.mpr hw.session
      obtain ⟨resume, hresume⟩ := requireResume_isOk_iff.mpr
        (by rw [isSome_of_optionalStr hsession]; exact hw.resume)
      obtain ⟨generation, hgeneration⟩ := optionalStr_isOk_iff.mpr hw.generation
      have hts := (hsig.2 () ⟨hp.encodable, hauthentic⟩ nodeId hnode caller hcaller op hop params
        hparams requestId hrequest nonce hnonce sessionId hsession resume hresume generation
        hgeneration).1
      rw [hv, Option.getD_some] at hts
      cases hts _ (Value.finite?_eq_error_iff.mpr ⟨hbig, rfl⟩)
  · intro h _ hversion _ hallowed sig hsig
    rw [not_or, Bool.not_eq_true', Bool.not_eq_false] at hallowed
    have hpresented : Value.encodableFields (signedFields fields) = true → Presented fields sig :=
      fun henc => ⟨not_not.mp hversion, hallowed.1, (requireStr_eq_ok_iff.mp hsig).1, henc⟩
    refine ⟨fun henc => ?_, ?_⟩
    · by_contra hascii
      exact h ⟨sig, hpresented henc, .inl (by simpa using hascii)⟩
    · rintro _ ⟨henc, hauthentic⟩ nodeId hnode caller hcaller op hop params hparams requestId
        hrequest nonce hnonce sessionId hsession resume hresume generation hgeneration
      have hw : WellTyped C fields :=
        { nodeId := requireStr_isOk_iff.mp ⟨_, hnode⟩
          caller := optionalStr_isOk_iff.mp ⟨_, hcaller⟩
          op := requireStr_isOk_iff.mp ⟨_, hop⟩
          params := requireDict_isOk_iff.mp ⟨_, hparams⟩
          requestId := requireStr_isOk_iff.mp ⟨_, hrequest⟩
          nonce := requireStr_isOk_iff.mp ⟨_, hnonce⟩
          session := optionalStr_isOk_iff.mp ⟨_, hsession⟩
          resume := by
            rw [← isSome_of_optionalStr hsession]
            exact requireResume_isOk_iff.mp ⟨_, hresume⟩
          generation := optionalStr_isOk_iff.mp ⟨_, hgeneration⟩ }
      refine ⟨fun e he => ?_, fun timestamp _ => ?_⟩
      · -- the only other exception is that of an oversized timestamp
        obtain ⟨hbig, -⟩ := Value.finite?_eq_error_iff.mp he
        cases hts : getField "ts" fields with
        | none =>
            obtain ⟨n, hn, -⟩ := hbig
            rw [hts] at hn
            cases hn
        | some v =>
            rw [hts, Option.getD_some] at hbig
            exact (h ⟨sig, hpresented henc, .inr ⟨hauthentic, hw, v, hts, hbig⟩⟩).elim
      · cases timestamp with
        | none => exact raises_throw.mpr rfl
        | some t => exact raises_pure

end envelope

/-! ## Admission -/

section service

variable {H : Type} {cfg : ServiceConfig H}

/-- The credential that `handle` verifies with, as its snapshot of the grants yields it.
Source: `remote/service.py`, `handle`.  Kind: D -/
def credentialIn (cfg : ServiceConfig H) (caller : Option NodeId) (s : ServiceState H) :
    Option String :=
  if s.auth.grantMode then
    ((caller.bind s.auth.grants.get?).filter fun g => !g.expired s.clock).map PeerGrant.secret
  else some cfg.secret

/-- The snapshot has read the credential of the caller.  Kind: L -/
theorem credentialIn_of_grantSnapshot (cfg : ServiceConfig H) {caller : Option NodeId}
    {h : SvcHistory H} {r : Except PyError GrantSnapshot}
    (hends : Prog.Ends (grantSnapshot caller) h r) :
    ∃ s, h = [(.read .grantSnapshot, s)] ∧
      ((∃ snapshot, r = .ok snapshot ∧
          credentialIn cfg caller s = some (snapshot.grant.elim cfg.secret PeerGrant.secret)) ∨
        ∃ e, r = .error e ∧ IsProtocol e ∧ credentialIn cfg caller s = none) := by
  obtain ⟨s, rfl, rfl⟩ := Prog.ends_call.mp hends
  refine ⟨s, rfl, ?_⟩
  unfold credentialIn
  split
  · cases caller with
    | none => exact .inr ⟨_, rfl, rfl, rfl⟩
    | some c =>
        dsimp only [Option.bind_some]
        cases s.auth.grants.get? c with
        | none => exact .inr ⟨_, rfl, rfl, rfl⟩
        | some grant =>
            dsimp only
            by_cases hexp : grant.expired s.clock = true
            · exact .inr ⟨_, if_pos hexp, rfl, by simp [hexp]⟩
            · exact .inl ⟨_, if_neg hexp, by simp [hexp]⟩
  · exact .inl ⟨_, rfl, rfl⟩

/-- The first reading of the fence along a history sees the state. -/
def FirstFence (h : SvcHistory H) (s : ServiceState H) : Prop :=
  ∃ h₁ h₂, h = h₁ ++ (.read .fence, s) :: h₂ ∧ ∀ x ∈ h₁, x.1 ≠ .read .fence

/-- The fence is not read. -/
def NoFence (l : Instr H) : Prop := l ≠ .read .fence

theorem firstFence_append {h₁ h₂ : SvcHistory H} {s : ServiceState H}
    (hno : ∀ x ∈ h₁, NoFence x.1) : FirstFence (h₁ ++ h₂) s ↔ FirstFence h₂ s := by
  induction h₁ with
  | nil => exact Iff.rfl
  | cons x h₁ ih =>
      rw [← ih fun y hy => hno y (List.mem_cons_of_mem _ hy)]
      have hx := hno x List.mem_cons_self
      constructor
      · rintro ⟨l₁, l₂, heq, hl⟩
        cases l₁ with
        | nil =>
            cases heq
            exact (hx rfl).elim
        | cons y l₁ =>
            simp only [List.cons_append, List.cons.injEq] at heq
            exact ⟨l₁, l₂, heq.2, fun z hz => hl z (List.mem_cons_of_mem _ hz)⟩
      · rintro ⟨l₁, l₂, heq, hl⟩
        refine ⟨x :: l₁, l₂, by rw [List.cons_append, heq, List.cons_append], ?_⟩
        intro z hz
        rcases List.mem_cons.mp hz with rfl | hz
        · exact hx
        · exact hl z hz

theorem firstFence_cons {h : SvcHistory H} {s t : ServiceState H} :
    FirstFence ((.read .fence, s) :: h) t ↔ t = s := by
  constructor
  · rintro ⟨l₁, l₂, heq, hl⟩
    cases l₁ with
    | nil =>
        cases heq
        rfl
    | cons x l₁ =>
        simp only [List.cons_append, List.cons.injEq] at heq
        exact absurd heq.1.symm (fun h => hl x List.mem_cons_self (by rw [h]))
  · rintro rfl
    exact ⟨[], h, rfl, by simp⟩

/-- Where the fence has been read already, what follows does not matter.  Kind: L -/
theorem FirstFence.left {h₁ h₂ : SvcHistory H} {s t : ServiceState H}
    (h : FirstFence (h₁ ++ h₂) s) (ht : (.read .fence, t) ∈ h₁) : FirstFence h₁ s := by
  obtain ⟨l₁, l₂, heq, hl⟩ := h
  rcases List.append_eq_append_iff.mp heq with ⟨l, rfl, -⟩ | ⟨l, rfl, hrest⟩
  · exact (hl _ (List.mem_append_left _ ht) rfl).elim
  · cases l with
    | nil =>
        rw [List.append_nil] at ht
        exact (hl _ ht rfl).elim
    | cons x l =>
        simp only [List.cons_append, List.cons.injEq] at hrest
        obtain ⟨rfl, -⟩ := hrest
        exact ⟨l₁, l, rfl, hl⟩

/-- Without a fence none is the first.  Kind: L -/
theorem not_firstFence {h : SvcHistory H} {s : ServiceState H} (hno : ∀ x ∈ h, NoFence x.1) :
    ¬FirstFence h s := by
  rintro ⟨h₁, h₂, rfl, -⟩
  exact hno _ (List.mem_append_right _ List.mem_cons_self) rfl

/-- The fence names the cluster and the term of the request, and one of the two tokens that are
compared then is not ASCII.  Kind: D -/
structure FenceFault (cfg : ServiceConfig H) (request : RemoteRequest) (fence : Fence) : Prop where
  /-- The cluster id. -/
  clusterId : ∀ id, fence.clusterId = some id →
    (getField "cluster_id" request.params).bind Value.asStr? = some id
  /-- The epoch. -/
  epoch : ∀ n, fence.coordinatorEpoch = some n →
    ∃ v, getField "epoch" request.params = some v ∧ v.equalsInt n = true
  /-- The fencing token. -/
  token : ∃ t, fence.fencingToken = some t ∧
    (isAscii (textOf cfg (getField "fencing_token" request.params)) && isAscii t) = false

/-- When the fence check raises a protocol error.  Kind: L -/
theorem checkRoleFence_raises_iff {request : RemoteRequest} {fence : Fence} :
    Raises IsProtocol (checkRoleFence cfg request fence) ↔ ¬FenceFault cfg request fence := by
  have hauth : ∀ m, IsProtocol ⟨.remoteAuthorization, m⟩ := fun m => rfl
  simp only [checkRoleFence, raises_bind_iff, raises_raiseIf (hauth _), true_and,
    Except.raiseIf_eq_ok]
  constructor
  · rintro h ⟨hid, hepoch, t, ht, hascii⟩
    have hraise := h () ?_ () ?_
    · rw [ht] at hraise
      have hcompare := (raises_bind_iff.mp hraise).1 _
        (compareDigest_eq_error_iff.mpr ⟨hascii, rfl⟩)
      cases hcompare
    · cases hcluster : fence.clusterId with
      | none => simp
      | some id => simpa using hid id hcluster
    · cases hterm : fence.coordinatorEpoch with
      | none => simp
      | some n =>
          obtain ⟨v, hv, heq⟩ := hepoch n hterm
          simp [hv, heq]
  · intro h _ hid _ hepoch
    cases ht : fence.fencingToken with
    | none => exact raises_pure
    | some t =>
        refine raises_bind_iff.mpr ⟨fun e he => ?_, fun same _ => raises_raiseIf rfl⟩
        have hascii := (compareDigest_eq_error_iff.mp he).1
        refine (h ⟨fun id hcluster => ?_, fun n hterm => ?_, t, ht, hascii⟩).elim
        · simpa [hcluster] using hid
        · simpa [hterm, Option.any_eq_true] using hepoch

/-- Allocating a session id raises protocol errors only.  Kind: L -/
theorem allocateId_raises (factory : ℕ → String) (sessions : Dict String LogicalSession) :
    ∀ tries drawn, Raises IsProtocol
      (LogicalSessionRegistry.allocateId factory sessions tries drawn).1
  | 0, _ => raises_error.mpr rfl
  | tries + 1, drawn => by
      unfold LogicalSessionRegistry.allocateId
      split
      · exact raises_error.mpr rfl
      · split
        · exact allocateId_raises factory sessions tries (drawn + 1)
        · exact raises_ok

/-- The session registry raises only authentication errors.  Kind: L -/
theorem authenticate_raises (sessions : SessionConfig) (request : RemoteRequest)
    (generation : Generation) (now : ℚ) (r : LogicalSessionRegistry) :
    Raises IsProtocol (r.authenticate sessions request generation now).1 := by
  unfold LogicalSessionRegistry.authenticate
  split
  · rename_i e he
    unfold LogicalSessionRegistry.validateGeneration at he
    split at he
    · cases he
    · split at he
      · cases he
      · cases he
        exact raises_error.mpr rfl
  · split
    · unfold LogicalSessionRegistry.create
      dsimp only
      split
      · exact raises_error.mpr rfl
      · have hids :=
          allocateId_raises sessions.factory (r.prune now).sessions 100 (r.prune now).drawn
        split
        · rename_i e drawn heq
          rw [heq] at hids
          exact hids
        · exact raises_ok
    · split
      · exact raises_error.mpr rfl
      · unfold LogicalSessionRegistry.continueSession
        split
        · exact raises_error.mpr rfl
        · split
          · exact raises_error.mpr rfl
          · split
            · exact raises_error.mpr rfl
            · split
              · exact raises_ok
              · split
                · exact raises_error.mpr rfl
                · split
                  · exact raises_error.mpr rfl
                  · exact raises_ok

/-- A guard raises its own error, in a thread.  Kind: L -/
theorem raising_raiseIf {p : Prop} [Decidable p] {e : PyError} (he : IsProtocol e) :
    Prog.Raising IsProtocol (raiseIf p e : Svc H Unit) := by
  unfold raiseIf
  split
  · exact Prog.raising_throw he
  · exact Prog.raising_pure ()

/-- Reading the clock raises nothing.  Kind: L -/
theorem raising_clock {E : PyError → Prop} : Prog.Raising E (Svc.clock : Svc H ℚ) :=
  Prog.raising_call fun _ _ he => by cases he

/-- An authorization error is a protocol error.  Kind: L -/
theorem isProtocol_authError (message : String) : IsProtocol (authError message) := rfl

/-- `authenticateSession` raises protocol errors only.  Kind: L -/
theorem authenticateSession_raising (request : RemoteRequest) (generation : Generation) :
    Prog.Raising IsProtocol (authenticateSession cfg request generation) :=
  Prog.raising_bind (Prog.raising_call fun _ _ he => by cases he) fun now =>
    Prog.raising_call fun s => authenticate_raises cfg.sessions request generation now s.sessions

/-- `authenticateSession` reads no fence.  Kind: L -/
theorem authenticateSession_noFence (request : RemoteRequest) (generation : Generation) :
    Prog.Only NoFence (authenticateSession cfg request generation) :=
  Prog.only_bind (Prog.only_call (by simp [NoFence]) _) fun _ =>
    Prog.only_call (by simp [NoFence]) _

/-! ### Verification -/

/-- A faulty envelope is rejected before anything is read.  Kind: L -/
theorem verifyOrRetry_of_error {envelope : Value} {secret : String} {e : PyError}
    (he : cfg.codec.checkEnvelope envelope secret = .error e) :
    verifyOrRetry cfg envelope secret = .fail e := by
  have hverify : ∀ newCache, verifyRequest cfg envelope secret newCache = .fail e := by
    intro newCache
    unfold verifyRequest
    rw [he]
    rfl
  unfold verifyOrRetry
  simp only [hverify, Prog.attempt, Prog.ret_bind]
  split
  · rfl
  · rfl

/-- `verifyRequest` raises protocol errors only.  Kind: L -/
theorem verifyRequest_raising {envelope : Value} {secret : String} {checked : CheckedEnvelope}
    (hchecked : cfg.codec.checkEnvelope envelope secret = .ok checked) (newCache : Bool) :
    Prog.Raising IsProtocol (verifyRequest cfg envelope secret newCache) := by
  unfold verifyRequest
  rw [hchecked, Prog.ofExcept_ok_bind]
  refine Prog.raising_bind raising_clock fun now => ?_
  refine Prog.raising_bind (Prog.raising_ofExcept (raises_raiseIf rfl)) fun _ => ?_
  refine Prog.raising_bind (Prog.raising_ofExcept ?_) fun request => ?_
  · intro e he
    unfold CheckedEnvelope.checkIdentity at he
    dsimp only at he
    split at he
    · cases he
    · cases he
      rfl
  · refine Prog.raising_bind ?_ fun _ => Prog.raising_bind (raising_raiseIf rfl) fun _ =>
      Prog.raising_pure _
    unfold checkReplay
    split
    · exact Prog.raising_pure _
    · exact Prog.raising_call fun _ _ he => by cases he

/-- `verifyOrRetry` raises protocol errors only.  Kind: L -/
theorem verifyOrRetry_raising {envelope : Value} {secret : String} {checked : CheckedEnvelope}
    (hchecked : cfg.codec.checkEnvelope envelope secret = .ok checked) :
    Prog.Raising IsProtocol (verifyOrRetry cfg envelope secret) := by
  intro h e hends
  rcases Prog.ends_bind_error.mp hends with hends | ⟨h₁, h₂, r, -, hfirst, hrest⟩
  · exact (Prog.ends_attempt_error.mp hends).elim
  · cases r with
    | ok request => cases (Prog.ends_pure.mp hrest).2
    | error e' =>
        dsimp only at hrest
        split at hrest
        · exact verifyRequest_raising hchecked true _ _ hrest
        · cases (Prog.ends_throw.mp hrest).2
          exact verifyRequest_raising hchecked false _ _ (Prog.ends_attempt_ok.mp hfirst)

/-- `verifyOrRetry` reads no fence.  Kind: L -/
theorem verifyOrRetry_noFence (envelope : Value) (secret : String) :
    Prog.Only NoFence (verifyOrRetry cfg envelope secret) := by
  have hverify : ∀ newCache, Prog.Only NoFence (verifyRequest cfg envelope secret newCache) := by
    intro newCache
    refine Prog.only_bind (Prog.only_ofExcept _) fun checked =>
      Prog.only_bind (Prog.only_call (by simp [NoFence]) _) fun now =>
        Prog.only_bind (Prog.only_ofExcept _) fun _ => Prog.only_bind (Prog.only_ofExcept _)
          fun request => Prog.only_bind ?_ fun _ => Prog.only_bind only_raiseIf fun _ =>
            Prog.only_pure _
    unfold checkReplay
    split
    · exact Prog.only_pure _
    · exact Prog.only_call (by simp [NoFence]) _
  refine Prog.only_bind (Prog.only_attempt (hverify false)) fun r => ?_
  split
  · exact Prog.only_pure _
  · split
    · exact hverify true
    · exact Prog.only_throw _

/-! ### The checks behind the verification -/

/-- The part of `handle` between the verification and the operation.
Source: `remote/service.py`, `RemoteService.handle`.  Kind: D -/
def afterVerification (cfg : ServiceConfig H) (generation : Generation) (snapshot : GrantSnapshot)
    (secret : String) (request : RemoteRequest) : Svc H Admission := do
  raiseIf (cfg.expectedCallerId.any fun expected => request.callerNodeId ≠ some expected)
    (authError "request caller identity is invalid")
  raiseIf (request.nodeId ≠ cfg.nodeId) (authError "request target identity is invalid")
  let sessionId ← authenticateSession cfg request generation
  verifyFenceOfRole cfg request
  return ⟨request, snapshot, secret, sessionId⟩

/-- The first reading of the fence, for a role operation, sees a faulty fence. -/
def FencedOff (cfg : ServiceConfig H) (request : RemoteRequest) (h : SvcHistory H) : Prop :=
  isRoleOp request.op = true ∧ ∃ s, FirstFence h s ∧ FenceFault cfg request s.auth.fence

/-- Without a fence no request is fenced off.  Kind: L -/
theorem not_fencedOff {request : RemoteRequest} {h : SvcHistory H}
    (hno : ∀ x ∈ h, NoFence x.1) : ¬FencedOff cfg request h := by
  rintro ⟨-, s, hs, -⟩
  exact not_firstFence hno hs

theorem fencedOff_append {request : RemoteRequest} {h₁ h₂ : SvcHistory H}
    (hno : ∀ x ∈ h₁, NoFence x.1) :
    FencedOff cfg request (h₁ ++ h₂) ↔ FencedOff cfg request h₂ := by
  simp only [FencedOff, firstFence_append hno]

/-- When `verifyFenceOfRole` raises an error of the protocol.  Kind: L -/
theorem verifyFenceOfRole_raises_iff {request : RemoteRequest} {h : SvcHistory H}
    {r : Except PyError Unit} (hends : Prog.Ends (verifyFenceOfRole cfg request) h r) :
    Raises IsProtocol r ↔ ¬FencedOff cfg request h := by
  unfold verifyFenceOfRole at hends
  split at hends
  · rename_i hrole
    obtain ⟨s, rfl, rfl⟩ := Prog.ends_call.mp hends
    rw [checkRoleFence_raises_iff]
    simp only [FencedOff, hrole, firstFence_cons, true_and, exists_eq_left]
  · rename_i hrole
    obtain ⟨rfl, rfl⟩ := Prog.ends_pure.mp hends
    exact iff_of_true raises_ok fun h => hrole h.1

/-- The checks behind the verification raise something undeclared exactly on a faulty fence.
Kind: L -/
theorem afterVerification_raises_iff {generation : Generation} {snapshot : GrantSnapshot}
    {secret : String} {request : RemoteRequest} {h : SvcHistory H} {r : Except PyError Admission}
    (hends : Prog.Ends (afterVerification cfg generation snapshot secret request) h r) :
    Raises IsProtocol r ↔ ¬FencedOff cfg request h := by
  unfold afterVerification at hends
  have hno : ¬FencedOff cfg request [] := not_fencedOff (by simp)
  rcases Prog.ends_bind.mp hends with ⟨e, rfl, herr⟩ | ⟨h₁, h₂, _, rfl, hcaller, hrest₁⟩
  · obtain ⟨rfl, -⟩ := ends_raiseIf.mp herr
    exact iff_of_true (raises_error.mpr (raising_raiseIf (isProtocol_authError _) _ _ herr)) hno
  obtain ⟨rfl, -⟩ := ends_raiseIf.mp hcaller
  rcases Prog.ends_bind.mp hrest₁ with ⟨e, rfl, herr⟩ | ⟨h₃, h₄, _, rfl, htarget, hrest₂⟩
  · obtain ⟨rfl, -⟩ := ends_raiseIf.mp herr
    exact iff_of_true (raises_error.mpr (raising_raiseIf (isProtocol_authError _) _ _ herr)) hno
  obtain ⟨rfl, -⟩ := ends_raiseIf.mp htarget
  rw [List.nil_append, List.nil_append]
  rcases Prog.ends_bind.mp hrest₂ with ⟨e, rfl, herr⟩ | ⟨h₅, h₆, _, rfl, hsession, hrest₃⟩
  · refine iff_of_true (raises_error.mpr (authenticateSession_raising _ _ _ _ herr)) ?_
    exact not_fencedOff ((authenticateSession_noFence request generation).mem herr)
  rw [fencedOff_append ((authenticateSession_noFence request generation).mem hsession)]
  rcases Prog.ends_bind.mp hrest₃ with ⟨e, rfl, herr⟩ | ⟨h₇, h₈, _, rfl, hfence, hrest₄⟩
  · rw [← verifyFenceOfRole_raises_iff herr]
    simp only [raises_error]
  · obtain ⟨rfl, rfl⟩ := Prog.ends_pure.mp hrest₄
    rw [List.append_nil]
    exact iff_of_true raises_ok ((verifyFenceOfRole_raises_iff hfence).mp raises_ok)

/-! ## The whole boundary -/

variable {text : String} {generation : Generation} {h : SvcHistory H}

/-- The envelope is faulty, with the credential of the grants that the call starts from. -/
def EnvelopeFaultAlong (cfg : ServiceConfig H) (text : String) (h : SvcHistory H) : Prop :=
  ∃ fields s rest secret, cfg.codec.loads text = .ok (.dict fields) ∧
    h = (.read .grantSnapshot, s) :: rest ∧
    credentialIn cfg (callerFromJson (.dict fields)) s = some secret ∧
    EnvelopeFault cfg.codec secret fields

/-- The request that the text names is fenced off. -/
def FenceFaultAlong (cfg : ServiceConfig H) (text : String) (h : SvcHistory H) : Prop :=
  ∃ request, Names cfg text request ∧ FencedOff cfg request h

/-- The call executed a self-revocation, and the hook that ends it raised something undeclared. -/
def CommitFault (cfg : ServiceConfig H) (text : String) (generation : Generation)
    (h : SvcHistory H) : Prop :=
  ∃ a h₁ h₂ h₃ payload e, h = h₁ ++ (h₂ ++ h₃) ∧
    Prog.Ends (admitRequest cfg text generation) h₁ (.ok a) ∧
    Prog.Ends (execute cfg a.request a.snapshot a.sessionId generation) h₂ (.ok payload) ∧
    Prog.Ends (commitRevocation cfg a.request) h₃ (.error e) ∧ ¬IsProtocol e

/-- The envelope is an object, and faulty. -/
def FaultyEnvelope (C : Codec) (secret : String) (envelope : Value) : Prop :=
  ∃ fields, envelope = .dict fields ∧ EnvelopeFault C secret fields

/-- When the envelope check raises a protocol error.  Kind: L -/
theorem checkEnvelope_raises_iff_faulty (hC : StandardCodec cfg.codec) {envelope : Value}
    {secret : String} : Raises IsProtocol (cfg.codec.checkEnvelope envelope secret) ↔
      ¬FaultyEnvelope cfg.codec secret envelope := by
  cases envelope with
  | dict fields =>
      rw [checkEnvelope_raises_iff hC]
      simp only [FaultyEnvelope, Value.dict.injEq, exists_eq_left']
  | _ =>
      refine iff_of_true (raises_throw.mpr rfl) ?_
      rintro ⟨fields, heq, -⟩
      cases heq

/-- A verified text names the request.  Kind: L -/
theorem verifyOrRetry_names {envelope : Value} {secret : String} {request : RemoteRequest}
    (hloads : cfg.codec.loads text = .ok envelope)
    (hends : Prog.Ends (verifyOrRetry cfg envelope secret) h (.ok request)) :
    Names cfg text request := by
  obtain ⟨⟨checked, hchecked, hid⟩, -⟩ := verifyOrRetry_ends hends
  exact ⟨envelope, secret, checked, hloads, hchecked, hid⟩

/-- Verification and the checks behind it, with the credential of the snapshot.  Kind: L -/
theorem verified_raises_iff (hC : StandardCodec cfg.codec) {envelope : Value} {secret : String}
    {snapshot : GrantSnapshot} {r : Except PyError Admission}
    (hloads : cfg.codec.loads text = .ok envelope)
    (hends : Prog.Ends (verifyOrRetry cfg envelope secret >>=
      afterVerification cfg generation snapshot secret) h r) :
    Raises IsProtocol r ↔
      ¬FaultyEnvelope cfg.codec secret envelope ∧ ¬FenceFaultAlong cfg text h := by
  have hfaulty : Raises IsProtocol (cfg.codec.checkEnvelope envelope secret) ↔
      ¬FaultyEnvelope cfg.codec secret envelope := checkEnvelope_raises_iff_faulty hC
  cases hchecked : cfg.codec.checkEnvelope envelope secret with
  | error e =>
      rw [hchecked, raises_error] at hfaulty
      rw [verifyOrRetry_of_error hchecked, Prog.fail_bind] at hends
      obtain ⟨rfl, rfl⟩ := Prog.ends_fail.mp hends
      rw [raises_error, hfaulty]
      refine (and_iff_left ?_).symm
      rintro ⟨request, -, hfenced⟩
      exact not_fencedOff (by simp) hfenced
  | ok checked =>
      have hnot := hfaulty.mp (by rw [hchecked]; exact raises_ok)
      rw [and_iff_right hnot]
      rcases Prog.ends_bind.mp hends with ⟨e, rfl, herr⟩ | ⟨h₁, h₂, request, rfl, hok, hrest⟩
      · refine iff_of_true (raises_error.mpr (verifyOrRetry_raising hchecked _ _ herr)) ?_
        rintro ⟨request, -, hfenced⟩
        exact not_fencedOff ((verifyOrRetry_noFence _ _).mem herr) hfenced
      · rw [afterVerification_raises_iff hrest,
          ← fencedOff_append ((verifyOrRetry_noFence _ _).mem hok)]
        have hnames := verifyOrRetry_names hloads hok
        refine not_congr ⟨fun hfenced => ⟨request, hnames, hfenced⟩, ?_⟩
        rintro ⟨request', hnames', hfenced⟩
        rwa [hnames.unique hnames']

/-- Before the operation, `handle` raises something undeclared exactly on a faulty envelope or a
faulty fence.  Kind: L -/
theorem admitRequest_raises_iff (hC : StandardCodec cfg.codec) {r : Except PyError Admission}
    (hends : Prog.Ends (admitRequest cfg text generation) h r) :
    Raises IsProtocol r ↔ ¬EnvelopeFaultAlong cfg text h ∧ ¬FenceFaultAlong cfg text h := by
  unfold admitRequest at hends
  split at hends
  · rename_i e hloads
    obtain ⟨rfl, rfl⟩ := Prog.ends_throw.mp hends
    have hvalue := hC.loads text e hloads
    refine iff_of_true ?_ ⟨?_, ?_⟩
    · rw [hvalue, Bool.true_or, if_pos rfl]
      exact raises_error.mpr rfl
    · rintro ⟨fields, s, rest, secret, hfields, -⟩
      rw [hloads] at hfields
      cases hfields
    · rintro ⟨request, ⟨envelope, secret, checked, hfields, -⟩, -⟩
      rw [hloads] at hfields
      cases hfields
  · rename_i envelope hloads
    have hno : ∀ s : ServiceState H,
        ∀ x ∈ [((.read .grantSnapshot : Instr H), s)], NoFence x.1 := by
      intro s x hx
      rw [List.mem_singleton.mp hx]
      simp [NoFence]
    rcases Prog.ends_bind.mp hends with ⟨e, rfl, herr⟩ | ⟨h₁, h₂, snapshot, rfl, hsnap, hrest⟩
    · obtain ⟨s, rfl, ⟨_, hbad, -⟩ | ⟨e', he', hprotocol, hnone⟩⟩ :=
        credentialIn_of_grantSnapshot cfg herr
      · cases hbad
      · cases he'
        refine iff_of_true (raises_error.mpr hprotocol) ⟨?_, ?_⟩
        · rintro ⟨fields, s', rest, secret, hfields, hhead, hsecret, -⟩
          rw [hloads] at hfields
          cases hfields
          cases hhead
          rw [hnone] at hsecret
          cases hsecret
        · rintro ⟨request, -, hfenced⟩
          exact not_fencedOff (hno s) hfenced
    · obtain ⟨s, rfl, ⟨snapshot', hsame, hsecret⟩ | ⟨_, hbad, -⟩⟩ :=
        credentialIn_of_grantSnapshot cfg hsnap
      · cases hsame
        rw [verified_raises_iff hC hloads hrest]
        -- with this credential the envelope is faulty along the history if it is at all
        have henvelope : EnvelopeFaultAlong cfg text ([(.read .grantSnapshot, s)] ++ h₂) ↔
            FaultyEnvelope cfg.codec (snapshot.grant.elim cfg.secret PeerGrant.secret)
              envelope := by
          constructor
          · rintro ⟨fields, s', rest, secret, hfields, hhead, hsecret', hfault⟩
            rw [hloads] at hfields
            cases hfields
            cases hhead
            rw [hsecret] at hsecret'
            cases hsecret'
            exact ⟨fields, rfl, hfault⟩
          · rintro ⟨fields, rfl, hfault⟩
            exact ⟨fields, s, h₂, _, hloads, rfl, hsecret, hfault⟩
        simp only [henvelope, FenceFaultAlong, fencedOff_append (hno s)]
      · cases hbad

/-! ### The answer -/

/-- A response of an encodable payload is encodable.  Kind: L -/
theorem encodable_responseFields {nodeId requestId sessionId : String} {ok : Bool}
    {payload : Option Fields} {error : Option String} {timestamp : ℚ}
    (hpayload : ∀ p, payload = some p → Value.encodableFields p = true) :
    Value.encodableFields (responseFields nodeId requestId ok payload error timestamp sessionId
      generation) = true := by
  have hvalue : (payload.elim .null Value.dict).encodable = true := by
    cases payload with
    | none => rfl
    | some p => exact hpayload p rfl
  have herror : (error.elim .null Value.str).encodable = true := by
    cases error <;> rfl
  cases generation with
  | none => simp [responseFields, Value.encodableFields, Value.encodable, hvalue, herror]
  | some g => simp [responseFields, Value.encodableFields, Value.encodable, hvalue, herror]

/-- `signResponse` raises protocol errors only.  Kind: L -/
theorem signResponse_raising {request : RemoteRequest} {secret sessionId : String} {ok : Bool}
    {payload : Option Fields} {error : Option String} {E : PyError → Prop}
    (hpayload : ∀ p, payload = some p → Value.encodableFields p = true) :
    Prog.Raising E (signResponse cfg request secret sessionId generation ok payload error) := by
  refine Prog.raising_bind raising_clock fun now => Prog.raising_bind ?_ fun _ =>
    Prog.raising_pure _
  refine Prog.raising_ofExcept fun e he => ?_
  rw [Codec.signature, if_pos (encodable_responseFields hpayload)] at he
  cases he

/-- An answer raises something undeclared only from the hook that ends a self-revocation.
Kind: L -/
theorem respond_raises_iff {request : RemoteRequest} {secret sessionId : String}
    {outcome : Except PyError Fields} {r : Except PyError SignedResponse}
    (hends : Prog.Ends (respond cfg request secret sessionId generation outcome) h r) :
    Raises IsProtocol r ↔ ¬∃ payload e, outcome = .ok payload ∧
      Prog.Ends (commitRevocation cfg request) h (.error e) ∧ ¬IsProtocol e := by
  have hanswer : ∀ {h' ok payload error}, (∀ p, payload = some p → Value.encodableFields p = true) →
      Prog.Ends (signResponse cfg request secret sessionId generation ok payload error) h' r →
      Raises IsProtocol r := by
    intro h' ok payload error hpayload hends e he
    rw [he] at hends
    exact signResponse_raising hpayload _ _ hends
  unfold respond at hends
  cases outcome with
  | error e =>
      refine iff_of_true ?_ (by rintro ⟨_, _, hbad, -⟩; cases hbad)
      dsimp only at hends
      split at hends
      · rename_i htext
        obtain ⟨-, rfl⟩ := Prog.ends_throw.mp hends
        rw [raises_error, IsProtocol]
        unfold errorText at htext
        split at htext
        · cases htext
        · split at htext
          · cases htext
          · split at htext
            · assumption
            · cases htext
      · exact hanswer (by simp) hends
  | ok payload =>
      dsimp only at hends
      rcases Prog.ends_bind.mp hends with ⟨e, rfl, herr⟩ | ⟨h₁, h₂, _, rfl, hok, hrest⟩
      · rw [raises_error]
        refine ⟨fun hprotocol => ?_, fun hnone => ?_⟩
        · rintro ⟨_, e', -, herr', hfault⟩
          have happend : h ++ [] = h ++ [] := rfl
          obtain ⟨-, -, hsame⟩ := herr.unique_of_append herr' happend
          cases hsame
          exact hfault hprotocol
        · by_contra hfault
          exact hnone ⟨payload, e, rfl, herr, hfault⟩
      · refine iff_of_true ?_ ?_
        · split at hrest
          · rename_i henc
            refine hanswer ?_ hrest
            intro p hp
            cases hp
            exact henc
          · exact hanswer (by simp) hrest
        · rintro ⟨_, e, -, herr, -⟩
          obtain ⟨-, -, hbad⟩ := hok.unique_of_append herr (List.append_nil _).symm
          cases hbad

/-- `handle` answers or raises what it declares, in whatever state the other parties leave the
service, exactly unless the envelope, the fence or the hook is faulty.  Kind: L -/
theorem handle_raises_iff (hC : StandardCodec cfg.codec) {r : Except PyError SignedResponse}
    (hends : Prog.Ends (handle cfg text generation) h r) :
    Raises IsProtocol r ↔ ¬EnvelopeFaultAlong cfg text h ∧ ¬FenceFaultAlong cfg text h ∧
      ¬CommitFault cfg text generation h := by
  rcases Prog.ends_bind.mp hends with ⟨e, rfl, herr⟩ | ⟨h₁, h₂, a, rfl, hadmission, hrest⟩
  · have hcommit : ¬CommitFault cfg text generation h := by
      rintro ⟨a, h₁, h₂, h₃, payload, e', rfl, hadmission, -⟩
      obtain ⟨-, -, hbad⟩ := hadmission.unique_of_append herr (List.append_nil _).symm
      cases hbad
    rw [and_iff_left hcommit, ← admitRequest_raises_iff hC herr]
    simp only [raises_error]
  · -- an admitted request has met neither fault, and the rest of the history adds none
    obtain ⟨henvelope, hfence⟩ := (admitRequest_raises_iff hC hadmission).mp raises_ok
    have hadmitted := admitRequest_ends hadmission
    have henvelope' : ¬EnvelopeFaultAlong cfg text (h₁ ++ h₂) := by
      obtain ⟨envelope, s, rest, -, rfl, -⟩ := hadmitted.verified
      rintro ⟨fields, s', rest', secret, hloads, hhead, hsecret, hfault⟩
      cases hhead
      exact henvelope ⟨fields, s, rest, secret, hloads, rfl, hsecret, hfault⟩
    have hfence' : ¬FenceFaultAlong cfg text (h₁ ++ h₂) := by
      rintro ⟨request, hnames, hrole, s, hfirst, hfault⟩
      obtain rfl := hnames.unique hadmitted.names
      obtain ⟨t, ht, -⟩ := hadmitted.fence hrole
      exact hfence ⟨a.request, hnames, hrole, s, hfirst.left ht, hfault⟩
    rw [and_iff_right henvelope', and_iff_right hfence']
    rcases Prog.ends_bind.mp hrest with ⟨e, rfl, herr⟩ | ⟨h₃, h₄, outcome, rfl, hexec, hresp⟩
    · exact (Prog.ends_attempt_error.mp herr).elim
    · rw [respond_raises_iff hresp]
      have hexec := Prog.ends_attempt_ok.mp hexec
      refine not_congr ⟨?_, ?_⟩
      · rintro ⟨payload, e, rfl, hcommit, hfault⟩
        exact ⟨a, h₁, h₃, h₄, payload, e, rfl, hadmission, hexec, hcommit, hfault⟩
      · rintro ⟨a', l₁, l₂, l₃, payload, e, heq, hadmission', hexec', hcommit, hfault⟩
        obtain ⟨rfl, heq, hsame⟩ := hadmission.unique_of_append hadmission' heq
        cases hsame
        obtain ⟨rfl, rfl, rfl⟩ := hexec.unique_of_append hexec' heq
        exact ⟨payload, e, rfl, hcommit, hfault⟩

end service

/-! ## Pairing controls -/

/-- Source: `remote/wire_protocol.py`, `validate_pairing_control_request`, of any JSON value.
Kind: D -/
def validatePairingControlRequest (now : ℚ) (raw : Value) : Except PyError PairingControlRequest :=
  match raw with
  | .dict fields => pairingControlOf now fields
  | _ => .error ⟨.remoteProtocol, "pairing control operation is invalid"⟩

/-- The checks of a control in front of its expiry pass.
Source: `remote/wire_protocol.py`, `validate_pairing_control_request`.  Kind: D -/
structure ControlTyped (fields : Fields) : Prop where
  /-- `op` -/
  op : ∃ op, controlOpOf fields = .ok op
  /-- Exactly the fields of a control. -/
  exact : hasExactly controlFields fields = true
  /-- `transaction_id` -/
  transaction : TextWith (· ≠ "") (getField "transaction_id" fields)
  /-- `identity_fingerprint` -/
  identity : TextWith (· ≠ "") (getField "identity_fingerprint" fields)
  /-- `transport_fingerprint` -/
  transport : TextWith (· ≠ "") (getField "transport_fingerprint" fields)
  /-- `caller_node_id` -/
  caller : TextWith (· ≠ "") (getField "caller_node_id" fields)
  /-- `secret` -/
  secret : TextWith validWireSecret (getField "secret" fields)
  /-- `permissions` -/
  permissions : ∃ permissions, controlPermissionsOf fields = .ok permissions

/-- A control on which the validation raises an undeclared exception: its `op` cannot be hashed, its
expiry is no float, or `NodeId` rejects its caller.  Kind: D -/
inductive ControlFault (now : ℚ) (fields : Fields) : Prop
  /-- `op` is a list or an object. -/
  | unhashable (v : Value) (hop : getField "op" fields = some v)
      (hv : (∃ items, v = .list items) ∨ ∃ members, v = .dict members)
  /-- `expires_at` is an integer beyond the float range. -/
  | expiry (v : Value) (htyped : ControlTyped fields)
      (hexpiry : getField "expires_at" fields = some v) (hv : v.Oversized)
  /-- `caller_node_id` is no node id. -/
  | caller (v : Value) (t : ℚ) (caller : String) (htyped : ControlTyped fields)
      (hexpiry : getField "expires_at" fields = some v) (hv : v.finite? = .ok (some t))
      (hfresh : now < t) (hcaller : getField "caller_node_id" fields = some (.str caller))
      (hinvalid : ¬NodeId.Valid caller)

section control

variable {now : ℚ} {fields : Fields}

/-- When `controlOpOf` raises an error of the protocol.  Kind: L -/
theorem controlOpOf_raises_iff : Raises IsProtocol (controlOpOf fields) ↔
    ∀ v, getField "op" fields = some v →
      ¬((∃ items, v = .list items) ∨ ∃ members, v = .dict members) := by
  unfold controlOpOf
  split
  · rename_i hop
    simp [hop]
  · rename_i hop
    simp [hop]
  · rename_i items hop
    simp [hop, IsProtocol, ErrorKind.isRemoteProtocol]
  · rename_i members hop
    simp [hop, IsProtocol, ErrorKind.isRemoteProtocol]
  · rename_i hlist hdict
    refine iff_of_true (raises_error.mpr rfl) ?_
    rintro v hv (⟨items, rfl⟩ | ⟨members, rfl⟩)
    · exact hlist items hv
    · exact hdict members hv

/-- Reading the permissions raises protocol errors only.  Kind: L -/
theorem controlPermissionsOf_raises : Raises IsProtocol (controlPermissionsOf fields) := by
  unfold controlPermissionsOf
  split
  · exact raises_error.mpr rfl
  · split
    · exact raises_error.mpr rfl
    · split
      · exact raises_ok
      · exact raises_error.mpr rfl

/-- When `nodeId` raises an error of the protocol.  Kind: L -/
theorem nodeId_raises_iff {caller : String} :
    Raises IsProtocol (NodeId.new caller) ↔ NodeId.Valid caller := by
  unfold NodeId.new
  split
  · rename_i hvalid
    exact iff_of_true raises_ok hvalid
  · rename_i hvalid
    refine iff_of_false ?_ hvalid
    simp [IsProtocol, ErrorKind.isRemoteProtocol]

/-- The validation raises something undeclared exactly on a faulty control.  Kind: L -/
theorem pairingControlOf_raises_iff :
    Raises IsProtocol (pairingControlOf now fields) ↔ ¬ControlFault now fields := by
  have hprotocol : ∀ m, IsProtocol ⟨.remoteProtocol, m⟩ := fun m => rfl
  simp only [pairingControlOf, raises_bind_iff, raises_raiseIf (hprotocol _),
    raises_requireStr (hprotocol _), controlPermissionsOf_raises, controlOpOf_raises_iff, true_and,
    Except.raiseIf_eq_ok]
  constructor
  · rintro ⟨hhash, h⟩ hfault
    have hexpiry : ∀ htyped : ControlTyped fields, ∃ caller,
        getField "caller_node_id" fields = some (.str caller) ∧
        Raises IsProtocol ((getField "expires_at" fields).getD .null).finite? ∧
        ∀ t, ((getField "expires_at" fields).getD .null).finite? = .ok (some t) → now < t →
          NodeId.Valid caller := by
      rintro ⟨⟨op, hop⟩, hexact, htransaction, hidentity, htransport, hcaller, hsecret,
        permissions, hpermissions⟩
      obtain ⟨transaction, htransaction⟩ := requireStr_isOk_iff.mpr htransaction
      obtain ⟨identity, hidentity⟩ := requireStr_isOk_iff.mpr hidentity
      obtain ⟨transport, htransport⟩ := requireStr_isOk_iff.mpr htransport
      obtain ⟨caller, hcaller⟩ := requireStr_isOk_iff.mpr hcaller
      obtain ⟨secret, hsecret⟩ := requireStr_isOk_iff.mpr hsecret
      obtain ⟨hfinite, hrest⟩ := h op hop () (by simp [hexact]) transaction htransaction identity
        hidentity transport htransport caller hcaller secret hsecret permissions hpermissions
      refine ⟨caller, requireStr_eq_ok hcaller, hfinite, fun t ht hlt => ?_⟩
      have hnode := hrest _ ht
      simp only [raises_bind_iff, Except.raiseIf_eq_ok] at hnode
      exact nodeId_raises_iff.mp (hnode.2 () (not_le.mpr hlt)).1
    cases hfault with
    | unhashable v hop hv => exact hhash v hop hv
    | expiry v htyped hv hbig =>
        obtain ⟨caller, -, hfinite, -⟩ := hexpiry htyped
        rw [hv, Option.getD_some] at hfinite
        cases hfinite _ (Value.finite?_eq_error_iff.mpr ⟨hbig, rfl⟩)
    | caller v t caller htyped hv ht hlt hcaller hinvalid =>
        obtain ⟨caller', hcaller', -, hvalid⟩ := hexpiry htyped
        rw [hcaller] at hcaller'
        cases hcaller'
        rw [hv, Option.getD_some] at hvalid
        exact hinvalid (hvalid t ht hlt)
  · intro hfault
    refine ⟨fun v hv hhash => hfault (.unhashable v hv hhash), ?_⟩
    intro op hop _ hexact transaction htransaction identity hidentity transport htransport caller
      hcaller secret hsecret permissions hpermissions
    have htyped : ControlTyped fields :=
      ⟨⟨op, hop⟩, by simpa using hexact, requireStr_isOk_iff.mp ⟨_, htransaction⟩,
        requireStr_isOk_iff.mp ⟨_, hidentity⟩, requireStr_isOk_iff.mp ⟨_, htransport⟩,
        requireStr_isOk_iff.mp ⟨_, hcaller⟩, requireStr_isOk_iff.mp ⟨_, hsecret⟩, permissions,
        hpermissions⟩
    cases hv : getField "expires_at" fields with
    | none => exact ⟨raises_ok, fun o ho => by cases ho; exact raises_error.mpr rfl⟩
    | some v =>
        rw [Option.getD_some]
        refine ⟨fun e he => ?_, fun o ho => ?_⟩
        · exact (hfault (.expiry v htyped hv (Value.finite?_eq_error_iff.mp he).1)).elim
        · cases o with
          | none => exact raises_error.mpr rfl
          | some t =>
              refine raises_bind_iff.mpr ⟨raises_raiseIf rfl, fun _ hlt => ?_⟩
              rw [Except.raiseIf_eq_ok, not_le] at hlt
              refine raises_bind_iff.mpr ⟨nodeId_raises_iff.mpr ?_, fun _ _ => raises_pure⟩
              by_contra hinvalid
              exact hfault (.caller v t caller htyped hv ho hlt (requireStr_eq_ok hcaller) hinvalid)

/-- When `validatePairingControlRequest` raises an error of the protocol.  Kind: L -/
theorem validatePairingControlRequest_raises_iff {raw : Value} :
    Raises IsProtocol (validatePairingControlRequest now raw) ↔
      ∀ fields, raw = .dict fields → ¬ControlFault now fields := by
  cases raw with
  | dict fields =>
      rw [validatePairingControlRequest, pairingControlOf_raises_iff]
      simp only [Value.dict.injEq, forall_eq']
  | _ =>
      refine iff_of_true (raises_error.mpr rfl) ?_
      intro fields heq
      cases heq

end control

/-! ## All three together -/

/-- A keyed digest with ASCII results, as `hexdigest` has. -/
def asciiMac (secret text : String) : String :=
  String.ofList ((plainMac secret text).toList.filter (·.val < 128))

/-- The sample service, with a digest that is ASCII. -/
def asciiConfig (envelopes : List Fields) : ServiceConfig ℕ :=
  { sampleConfig envelopes with codec := { tableCodec envelopes with hmac := asciiMac } }

/-- The sample codec is a standard one.  Kind: L -/
theorem asciiConfig_standard (envelopes : List Fields) :
    StandardCodec (asciiConfig envelopes).codec := by
  refine ⟨fun text e he => ?_, fun secret text => ?_⟩
  · simp only [asciiConfig, tableCodec] at he
    split at he
    · cases he
    · cases he
      rfl
  · simp [asciiConfig, asciiMac, isAscii, String.toList_ofList]

/-- A codec of blobs that knows one payload. -/
def sampleBlob (payload : Fields) : BlobCodec where
  loads blob := if blob = "blob" then .ok (.dict payload) else .error ⟨.value, "Expecting value"⟩
  loads_raises blob := by
    split
    · exact raises_ok
    · exact raises_error.mpr rfl

/-- A well-formed control at time 0. -/
def sampleControl : Fields :=
  [("op", .str "pair_abort"), ("transaction_id", .str "tx"), ("caller_node_id", .str "coord"),
    ("identity_fingerprint", .str "id"), ("transport_fingerprint", .str "tp"),
    ("secret", .str (String.ofList (List.replicate 64 'a'))), ("permissions", .list []),
    ("expires_at", .int 10)]

/-- Whether an outcome is a certain exception. -/
def raisesError {α : Type} (e : PyError) : Except PyError α → Bool
  | .ok _ => false
  | .error e' => e' = e

/-- The executable check of an error is sound.  Kind: L -/
theorem eq_error_of_raisesError {α : Type} {e : PyError} {x : Except PyError α}
    (h : raisesError e x = true) : x = .error e := by
  cases x with
  | ok a => cases h
  | error e' => rw [of_decide_eq_true h]

/-- An envelope of a known caller whose signature is not ASCII. -/
def illegibleEnvelope : Fields :=
  [("caller_node_id", .str "coord"), ("node_id", .str "worker"), ("nonce", .str "n1"),
    ("op", .str "hello"), ("params", .dict []), ("request_id", .str "r1"), ("ts", .int 100),
    ("v", .str "1"), ("sig", .str "é")]

/-- An invite that ends at a time no float can hold. -/
def oversizedInvite : Fields :=
  [("token", .str "t"), ("cluster_id", .str "c"), ("coordinator_id", .str "coord"),
    ("fencing_token", .str "f"), ("target_node_id", .str "worker"), ("epoch", .int 1),
    ("expires_at", .int (10 ^ 400))]

end ExpraConnect
