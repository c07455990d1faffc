import ExpraConnect.Remote.Signing

/-!
# Round trip and binding of the envelopes

For the codec of JSON texts, under a digest that is injective for each secret:

* `EnvelopesBind`, `envelopes_bind`: what was signed is what is verified on the other side of a JSON
  text; an accepted signature fixes every field; no envelope is a request and a response;
* `envelopes_bind_resumed`: a session that moves to a new connection.
-/

namespace ExpraConnect

open ExpraConnect.Lib

/-! ## Binding -/

/-- The two envelopes agree on every field, up to the order of keys inside of it. -/
def Agree (fields fields' : Fields) : Prop :=
  ∀ key, (getField key fields).map Value.unordered = (getField key fields').map Value.unordered

/-- Round trip and binding of the envelopes over JSON texts.  Kind: D -/
structure EnvelopesBind (N : FloatFormat PyFloat) (limit : Option ℕ) (C : Codec) : Prop where
  /-- A fresh request is signed, and verified from its text as what was signed. -/
  request : ∀ (V : Verifier) (a : RequestArgs) (cache : ReplayCache) (spaced : Bool),
    a.Admissible C limit → V.Fresh a.timestamp → V.Takes cache a.replayKey →
      ∃ envelope text received r cache', C.signRequest V.secret a = .ok envelope ∧
        dumps N limit spaced (.dict envelope) = .ok text ∧ C.loads text = .ok received ∧
        C.verifyRequest V received cache = .ok r cache' ∧ r.Carries a
  /-- So is a fresh response. -/
  response : ∀ (V : Verifier) (a : ResponseArgs) (spaced : Bool),
    a.Admissible C limit → V.Fresh a.timestamp →
      ∃ envelope text received r, C.signResponse V.secret a = .ok envelope ∧
        dumps N limit spaced (.dict envelope) = .ok text ∧ C.loads text = .ok received ∧
        C.verifyResponse V received = .ok r ∧ r.Carries a
  /-- `_canonical` is injective on objects. -/
  canonical : ∀ fields fields', Value.encodableFields fields = true →
    Value.encodableFields fields' = true →
    C.canonical (.dict fields) = C.canonical (.dict fields') →
      (Value.dict fields).unordered = (Value.dict fields').unordered
  /-- Accepted requests with one secret and signature agree. -/
  requests_agree : ∀ (V V' : Verifier) fields fields' cache cache' r r' after after',
    V.secret = V'.secret → getField "sig" fields = getField "sig" fields' →
    C.verifyRequest V (.dict fields) cache = .ok r after →
    C.verifyRequest V' (.dict fields') cache' = .ok r' after' → Agree fields fields'
  /-- So do accepted responses. -/
  responses_agree : ∀ (V V' : Verifier) fields fields' r r',
    V.secret = V'.secret → getField "sig" fields = getField "sig" fields' →
    C.verifyResponse V (.dict fields) = .ok r → C.verifyResponse V' (.dict fields') = .ok r' →
      Agree fields fields'
  /-- No envelope is accepted as a request and as a response. -/
  disjoint : ∀ (V V' : Verifier) envelope cache r after r',
    C.verifyRequest V envelope cache = .ok r after → C.verifyResponse V' envelope ≠ .ok r'

section binding

variable {N : FloatFormat PyFloat} {limit : Option ℕ} {hmac : String → String → String}
  {isAlnum isSpace : Char → Bool} {secret : String} {fields fields' : Fields}

/-- Authentic envelopes with one signature agree.  Kind: L -/
theorem agree_of_authentic (hinj : ∀ secret, Function.Injective (hmac secret))
    (h : Authentic (jsonCodec N limit hmac isAlnum isSpace) secret fields)
    (h' : Authentic (jsonCodec N limit hmac isAlnum isSpace) secret fields')
    (hsig : getField "sig" fields = getField "sig" fields') : Agree fields fields' := by
  have htext := h.sig.symm.trans (hsig.trans h'.sig)
  rw [Option.some.injEq, Value.str.injEq] at htext
  obtain ⟨js, js', hjs, hjs', hsorted⟩ :=
    sorted_of_canonical h.encodable h'.encodable (hinj secret htext)
  intro key
  by_cases hkey : key = "sig"
  · rw [hkey, hsig]
  · have hrest := Value.getField_of_unordered hjs hjs' hsorted key
    have hne : decide (key ≠ "sig") = true := decide_eq_true hkey
    rw [getField_filter (q := fun k => k ≠ "sig") hne,
      getField_filter (q := fun k => k ≠ "sig") hne] at hrest
    exact hrest

/-- Envelopes bind, under a digest that is ASCII and injective for each secret.  Kind: P -/
theorem envelopes_bind (hinj : ∀ secret, Function.Injective (hmac secret))
    (hascii : ∀ secret text, isAscii (hmac secret text) = true) :
    EnvelopesBind N limit (jsonCodec N limit hmac isAlnum isSpace) where
  request V a cache spaced ha hfresh hcache := by
    obtain ⟨sig, text, hsign, hdumps, hloads, hverify⟩ :=
      signFields_roundTrip hascii ha.jsonTree a.keys_nodup a.sig_not_mem_keys V.secret spaced
    obtain ⟨r, cache', hr, hcarries⟩ :=
      verifyRequest_signed ha (hverify "request") hfresh hcache
    exact ⟨_, text, _, r, cache', hsign, hdumps, hloads, hr, hcarries⟩
  response V a spaced ha hfresh := by
    obtain ⟨sig, text, hsign, hdumps, hloads, hverify⟩ :=
      signFields_roundTrip hascii ha.jsonTree a.keys_nodup a.sig_not_mem_keys V.secret spaced
    obtain ⟨r, hr, hcarries⟩ := verifyResponse_signed ha (hverify "response") hfresh
    exact ⟨_, text, _, r, hsign, hdumps, hloads, hr, hcarries⟩
  canonical fields fields' henc henc' h := by
    obtain ⟨js, js', hjs, hjs', hsorted⟩ := sorted_of_canonical henc henc' h
    unfold Value.unordered
    rw [Value.toJson, Value.toJson, hjs, hjs']
    exact congrArg some hsorted
  requests_agree V V' fields fields' cache cache' r r' after after' hsecret hsig h h' := by
    obtain ⟨_, heq, hauth, -⟩ := verifyRequest_eq_ok h
    obtain ⟨_, heq', hauth', -⟩ := verifyRequest_eq_ok h'
    cases heq
    cases heq'
    exact agree_of_authentic hinj hauth (hsecret ▸ hauth') hsig
  responses_agree V V' fields fields' r r' hsecret hsig h h' := by
    obtain ⟨_, heq, hauth, -⟩ := verifyResponse_eq_ok h
    obtain ⟨_, heq', hauth', -⟩ := verifyResponse_eq_ok h'
    cases heq
    cases heq'
    exact agree_of_authentic hinj hauth (hsecret ▸ hauth') hsig
  disjoint V V' envelope cache r after r' h h' := not_both h h'

end binding

/-! ## A resumed request -/

/-- `Infinity` -/
def infinityText : List Char := ['I', 'n', 'f', 'i', 'n', 'i', 't', 'y']

/-- `NaN` -/
def nanText : List Char := ['N', 'a', 'N']

/-- A float for examples: a whole number as Python writes it, any other one as its numerator and one
less than its denominator. -/
def floatText : PyFloat → List Char
  | .finite q => Json.writeInt q.num ++ '.' :: Nat.toDigits 10 (q.den - 1)
  | .posInf => infinityText
  | .negInf => '-' :: infinityText
  | .nan => nanText

/-- The float of a token. -/
def readFloat (token : List Char) : Option PyFloat :=
  match token.dropWhile (· ≠ '.') with
  | [] =>
      if token = infinityText then some .posInf
      else if token = '-' :: infinityText then some .negInf
      else if token = nanText then some .nan else none
  | _ :: den =>
      match Json.readInt (token.takeWhile (· ≠ '.')), Json.readNat den with
      | some n, some d => some (.finite (n / (d + 1)))
      | _, _ => none

/-- A written number reads back.  Kind: L -/
theorem readFloat_floatText (x : PyFloat) : readFloat (floatText x) = some x := by
  cases x with
  | finite q =>
      have hdot : ∀ c ∈ Json.writeInt q.num, decide (c ≠ '.') = true := by
        intro c hc
        refine decide_eq_true ?_
        rintro rfl
        exact absurd (Json.digit_of_mem_writeInt hc) (by decide)
      have hden : ((q.den - 1 : ℕ) : ℚ) + 1 = q.den := by
        have hpos := q.den_pos
        exact_mod_cast Nat.sub_add_cancel hpos
      unfold readFloat floatText
      dsimp only
      rw [List.dropWhile_append_of_pos hdot, List.takeWhile_append_of_pos hdot,
        List.dropWhile_cons_of_neg (by decide), List.takeWhile_cons_of_neg (by decide),
        List.append_nil, Json.readInt_writeInt]
      dsimp only
      rw [Json.readNat_toDigits]
      dsimp only
      rw [hden, Rat.num_div_den]
  | posInf => decide
  | negInf => decide
  | nan => decide

/-- The dot of a finite float.  Kind: L -/
theorem dot_mem_floatText (q : ℚ) : '.' ∈ floatText (.finite q) :=
  List.mem_append_right _ List.mem_cons_self

/-- The format of `floatText`. -/
def plainFloats : FloatFormat PyFloat where
  text := floatText
  read := readFloat
  read_text := readFloat_floatText
  token x := by
    cases x with
    | finite q =>
        intro c hc
        rcases List.mem_append.mp hc with hnum | hrest
        · exact Json.isToken_of_mem_writeInt hnum
        · rcases List.mem_cons.mp hrest with rfl | hden
          · decide
          · exact Json.isToken_of_isDigit (Nat.isDigit_of_mem_toDigits (by decide) (by decide) hden)
    | posInf => exact List.all_eq_true.mp rfl
    | negInf => exact List.all_eq_true.mp rfl
    | nan => exact List.all_eq_true.mp rfl
  read_nil := by decide
  readInt_text x := by
    cases x with
    | finite q =>
        by_contra hsome
        obtain ⟨n, hn⟩ := Option.ne_none_iff_exists'.mp hsome
        exact absurd (Json.digit_of_readInt hn _ (dot_mem_floatText q)) (by decide)
    | posInf => decide
    | negInf => decide
    | nan => decide
  text_ne_constant x := by
    cases x with
    | finite q =>
        have hno : ∀ t ∈ [Json.nullText, Json.trueText, Json.falseText], '.' ∉ t := by decide
        exact fun hmem => hno _ hmem (dot_mem_floatText q)
    | posInf => decide
    | negInf => decide
    | nan => decide

/-- A digest for examples: secret and text themselves, in ASCII. -/
def plainDigest (secret text : String) : String :=
  String.ofList (Json.writeString (points secret) ++ Json.writeString (points text))

/-- The sample digest has no collisions.  Kind: L -/
theorem plainDigest_injective (secret : String) : Function.Injective (plainDigest secret) := by
  intro text text' h
  have hlist := List.append_cancel_left (String.ofList_injective h)
  exact Json.writeString_injective hlist

/-- The sample digest is ASCII.  Kind: L -/
theorem isAscii_plainDigest (secret text : String) : isAscii (plainDigest secret text) = true := by
  unfold isAscii plainDigest
  rw [String.toList_ofList, List.all_eq_true]
  intro c hc
  rw [decide_eq_true_eq]
  rcases List.mem_append.mp hc with hmem | hmem
  · exact Json.ascii_of_mem_writeString hmem
  · exact Json.ascii_of_mem_writeString hmem

/-- JSON texts with `plainDigest`, and the limit that the interpreter starts with. -/
def plainCodec : Codec :=
  jsonCodec plainFloats (some 4300) plainDigest Char.isAlphanum Char.isWhitespace

/-- A request of a session that moves to a new connection. -/
def resumedRequest : RequestArgs :=
  { nodeId := "worker"
    op := "component_summary"
    params := [("key", .str "\"é\""), ("depth", .list [.int (-3), .float (.finite 2), .null])]
    requestId := "r-1"
    nonce := "n-1"
    timestamp := 100
    callerNodeId := some "coordinator"
    sessionId := some "s-1"
    resume := true
    connectionGeneration := some "g-2" }

/-- The sample request may be built.  Kind: L -/
theorem resumedRequest_admissible : resumedRequest.Admissible plainCodec (some 4300) where
  nodeId := by decide
  callerNodeId := by
    rintro _ ⟨⟩
    decide
  params := ⟨rfl, _, rfl, ⟨by decide, trivial, ⟨trivial, trivial, trivial, trivial⟩, trivial⟩,
    by decide +kernel⟩
  requestId := by decide
  nonce := by decide
  sessionId := by
    rintro _ ⟨⟩
    decide
  resume := fun _ => rfl
  connectionGeneration := by
    rintro _ ⟨⟩
    decide

/-- The resumed request comes through. -/
theorem envelopes_bind_resumed :
    ∃ envelope text received r cache',
      plainCodec.signRequest "secret" resumedRequest = .ok envelope ∧
      dumps plainFloats (some 4300) true (.dict envelope) = .ok text ∧
      plainCodec.loads text = .ok received ∧
      plainCodec.verifyRequest ⟨"secret", 110, 60, 300, 4096⟩ received .empty = .ok r cache' ∧
      r.Carries resumedRequest :=
  (envelopes_bind plainDigest_injective isAscii_plainDigest).request ⟨"secret", 110, 60, 300, 4096⟩
    resumedRequest .empty true resumedRequest_admissible
    ⟨by decide +kernel, by decide +kernel⟩ ⟨by decide, by decide⟩

end ExpraConnect
