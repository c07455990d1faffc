import ExpraConnect.Remote.SessionSafety

/-!
# What a provider does with a session that is gone

`remote/requests.py`, `ProviderRequestMixin._request`, with `request_with_retry` of
`transport/socket_transport.py`, against the session registry behind the listener of
`transport/server.py`.  Each delivery has a connection of its own, with a generation that the
listener draws; a request that the registry rejects closes its connection without an answer.

* `deliver`, `requestWithRetry`, `Provider.request`: one delivery, the retry loop, one request;
* `ProviderEvent`: a request of the provider, a call of someone else, a restart of the service;
* `Held`: what the registry keeps for the id that a provider stores;
* `request_stored`: a stored session that is not `Alive` is rejected, and then it is gone;
* `recovers_iff_sustained`: a rejected request is followed by another rejected one, so a provider
  recovers in a run exactly if no session dies under a request that another request follows.
-/

namespace ExpraConnect

open ExpraConnect.Lib

/-! ## The client -/

/-- The number of deliveries that a request may take.
Source: `remote/requests.py`, `_request`.  Kind: D -/
def attempts (op : String) : ℕ :=
  if (Op.ofString? op).any fun o => o.safety = .unsafeOnce then 1 else 2

/-- One delivery of an envelope to `authenticate`.  A connection that fails before that has no
effect and is left out. -/
structure Delivery where
  /-- The generation that the listener drew for the connection. -/
  generation : String
  /-- It is a token. -/
  valid : validToken generation = true
  /-- The session clock in `authenticate`. -/
  now : ℚ
  /-- The session clock in the `assert_current` calls of `handle`. -/
  checks : List ℚ
  /-- Whether no usable response arrives although the registry accepts the request. -/
  lost : Bool

/-- One call of `_request`. -/
structure ProviderCall where
  /-- The operation. -/
  op : String
  /-- Its parameters. -/
  params : Fields
  /-- `secrets.token_hex(16)`. -/
  requestId : String
  /-- `secrets.token_hex(16)`. -/
  nonce : String
  /-- The client's clock. -/
  timestamp : ℚ
  /-- The deliveries that the retry loop makes, unless it gets a response earlier. -/
  tries : List Delivery
  /-- The request reaches the service. -/
  reaches : tries ≠ []
  /-- The loop ends. -/
  bounded : tries.length ≤ attempts op

/-- The session state of a provider.
Source: `remote/provider.py`, `AuthenticatedNodeProvider`.  Kind: D -/
structure Provider where
  /-- The node it talks to. -/
  nodeId : NodeId
  /-- The node it talks for. -/
  callerNodeId : Option NodeId
  /-- The number of requests so far. -/
  requestSequence : ℕ
  /-- The latest request with a response. -/
  responseSequence : ℕ
  /-- The session of that response. -/
  sessionId : Option String
  deriving DecidableEq

namespace Provider

/-- A provider that has not sent anything. -/
def new (nodeId : NodeId) (callerNodeId : Option NodeId) : Provider :=
  ⟨nodeId, callerNodeId, 0, 0, none⟩

/-- The envelope of a request, as the service verifies it.
Source: `remote/requests.py`, `_request`.  Kind: D -/
def envelope (p : Provider) (q : ProviderCall) : RemoteRequest :=
  ⟨p.nodeId, p.callerNodeId, q.op, q.params, q.requestId, q.nonce, q.timestamp, p.sessionId,
    p.sessionId.isSome, none⟩

/-- The identity that owns the provider's sessions. -/
def owner (p : Provider) : String :=
  match p.callerNodeId with
  | some caller => caller.value
  | none => p.nodeId.value

/-- An envelope of a provider is its owner's.  Kind: L -/
@[simp]
theorem envelope_owner (p : Provider) (q : ProviderCall) : (p.envelope q).owner = p.owner := rfl

/-- The provider after a verified response to its request number `sequence`.
Source: `remote/requests.py`, `_request`.  Kind: D -/
def receive (p : Provider) (sequence : ℕ) (sessionId : String) : Provider :=
  if p.responseSequence ≤ sequence then
    { p with responseSequence := sequence, sessionId := some sessionId }
  else p

end Provider

/-! ## The service behind the listener -/

/-- What becomes of one delivery. -/
inductive Reply where
  /-- The session registry raises, and the listener closes the connection. -/
  | rejected (e : PyError)
  /-- The client gets no usable response. -/
  | lost
  /-- A response; it names the session. -/
  | answered (sessionId : String)
  deriving DecidableEq

namespace LogicalSessionRegistry

variable (cfg : SessionConfig)

/-- The `assert_current` calls of one `handle`, in order; the first failure leaves it. -/
def assertAll (sessionId : String) (generation : Generation) :
    List ℚ → LogicalSessionRegistry → Except PyError Unit × LogicalSessionRegistry
  | [], r => (.ok (), r)
  | now :: rest, r =>
      match assertCurrent sessionId generation now r with
      | (.error e, r) => (.error e, r)
      | (.ok _, r) => assertAll sessionId generation rest r

/-- One delivery.
Source: `remote/service.py`, `RemoteService.handle`, what it does with the registry.  Kind: D -/
def deliver (request : RemoteRequest) (d : Delivery) (r : LogicalSessionRegistry) :
    Reply × LogicalSessionRegistry :=
  match authenticate cfg request (some d.generation) d.now r with
  | (.error e, r) => (.rejected e, r)
  | (.ok sessionId, r) =>
      match assertAll sessionId (some d.generation) d.checks r with
      | (.error e, r) => (.rejected e, r)
      | (.ok _, r) => (if d.lost then .lost else .answered sessionId, r)

/-- The retry loop: one envelope, on a new connection each time, until a response arrives.
Source: `transport/socket_transport.py`, `request_with_retry`; `transport/server.py`,
`Handler.handle`.  Kind: D -/
def requestWithRetry (request : RemoteRequest) :
    List Delivery → LogicalSessionRegistry → List Reply × LogicalSessionRegistry
  | [], r => ([], r)
  | d :: rest, r =>
      match deliver cfg request d r with
      | (.answered sessionId, r) => ([.answered sessionId], r)
      | (reply, r) =>
          let later := requestWithRetry request rest r
          (reply :: later.1, later.2)

end LogicalSessionRegistry

/-! ## Runs -/

/-- The answer of a delivery, if one arrived. -/
def Reply.sessionId? : Reply → Option String
  | .answered sessionId => some sessionId
  | _ => none

/-- A request and what became of its deliveries. -/
structure Exchange where
  /-- The session the request presented. -/
  presented : Option String
  /-- The replies to its deliveries. -/
  replies : List Reply
  deriving DecidableEq

/-- The session layer rejects the request. -/
def Exchange.Rejected (x : Exchange) : Prop := ∃ e, .rejected e ∈ x.replies

/-- The session layer rejects the session that the request presents. -/
def Exchange.RejectedSession (x : Exchange) : Prop := x.presented.isSome = true ∧ x.Rejected

/-- A provider and the registry of the service it talks to. -/
structure ProviderWorld where
  /-- The client. -/
  provider : Provider
  /-- The session registry of the service. -/
  registry : LogicalSessionRegistry

/-- What happens in a run. -/
inductive ProviderEvent where
  /-- The provider sends a request. -/
  | request (q : ProviderCall)
  /-- Someone else calls the registry, or a handler still running does. -/
  | call (c : LogicalSessionRegistry.SessionCall)
  /-- The service restarts, with an empty registry. -/
  | restart

/-- The call does not continue the session that the provider stores under the provider's name. -/
def Provider.Foreign (p : Provider) : LogicalSessionRegistry.SessionCall → Prop
  | .authenticate request _ _ =>
      ∀ id, p.sessionId = some id → request.sessionId = some id → request.owner ≠ p.owner
  | .assertCurrent _ _ _ => True

namespace ProviderWorld

open LogicalSessionRegistry

variable (cfg : SessionConfig)

/-- Source: `remote/requests.py`, `_request`.  Kind: D -/
def exchange (q : ProviderCall) (w : ProviderWorld) : Exchange :=
  ⟨w.provider.sessionId,
    (requestWithRetry cfg (w.provider.envelope q) q.tries w.registry).1⟩

/-- Source: `remote/requests.py`, `_request`.  Kind: D -/
def request (q : ProviderCall) (w : ProviderWorld) : ProviderWorld :=
  let sequence := w.provider.requestSequence + 1
  let sent : Provider := { w.provider with requestSequence := sequence }
  let out := requestWithRetry cfg (w.provider.envelope q) q.tries w.registry
  let received : Provider :=
    match out.1.findSome? Reply.sessionId? with
    | some id => sent.receive sequence id
    | none => sent
  ⟨received, out.2⟩

end ProviderWorld

namespace ProviderEvent

open LogicalSessionRegistry

variable (cfg : SessionConfig)

/-- What an event does.  The ids that a restarted service draws are new ones. -/
def apply (w : ProviderWorld) : ProviderEvent → ProviderWorld
  | request q => w.request cfg q
  | call c => { w with registry := c.apply cfg w.registry }
  | restart => { w with registry := { empty with drawn := w.registry.drawn } }

/-- Nobody else uses the provider's session. -/
def Legal (w : ProviderWorld) : ProviderEvent → Prop
  | call c => w.provider.Foreign c
  | _ => True

/-- The exchanges of a run, in order. -/
def exchanges : List ProviderEvent → ProviderWorld → List Exchange
  | [], _ => []
  | request q :: rest, w => w.exchange cfg q :: exchanges rest (w.request cfg q)
  | e :: rest, w => exchanges rest (e.apply cfg w)

/-- Every event of the run is legal when it happens. -/
def LegalRun : List ProviderEvent → ProviderWorld → Prop
  | [], _ => True
  | e :: rest, w => e.Legal w ∧ LegalRun rest (e.apply cfg w)

/-- The generations of the connections of an event. -/
def generations : ProviderEvent → List String
  | request q => q.tries.map Delivery.generation
  | _ => []

/-- **Recovery.**  A request whose session is rejected is followed by one that is not rejected.
Kind: D -/
def Recovers (run : List ProviderEvent) (w : ProviderWorld) : Prop :=
  (exchanges cfg run w).IsChain fun x next => x.RejectedSession → ¬next.Rejected

end ProviderEvent

/-- The deliveries that a loop makes while the registry accepts them. -/
def made : List Delivery → List Delivery
  | [] => []
  | d :: rest => if d.lost then d :: made rest else [d]

/-- The session lasts for the deliveries: no clock reading reaches its expiry, and each of them can
retire the generation before it. -/
def LogicalSession.Lasts (cfg : SessionConfig) (s : LogicalSession) (ds : List Delivery) : Prop :=
  s.retired.card + ds.length ≤ cfg.maxGenerations ∧
    ∀ d ∈ ds, d.now < s.expiresAt ∧ ∀ t ∈ d.checks, t < s.expiresAt

/-- The registry has the session, and it lasts for the deliveries. -/
def LogicalSessionRegistry.Alive (cfg : SessionConfig) (r : LogicalSessionRegistry) (id : String)
    (ds : List Delivery) : Prop :=
  ∃ s, r.sessions.get? id = some s ∧ s.Lasts cfg ds

/-- No session dies under a request that another one follows. -/
def ProviderEvent.Sustained (cfg : SessionConfig) : List ProviderEvent → ProviderWorld → Prop
  | [], _ => True
  | e :: rest, w =>
      (∀ q id, e = .request q → w.provider.sessionId = some id → (∃ q', .request q' ∈ rest) →
        w.registry.Alive cfg id (made q.tries)) ∧
      ProviderEvent.Sustained cfg rest (e.apply cfg w)

namespace LogicalSessionRegistry

variable {cfg : SessionConfig} {r r' : LogicalSessionRegistry} {id owner : String}
  {s : LogicalSession} {g : String} {request : RemoteRequest} {d : Delivery} {ds : List Delivery}

/-! ## One delivery -/

/-- A valid token is a valid generation.  Kind: L -/
theorem validateGeneration_some (hg : validToken g = true) :
    validateGeneration (some g) = .ok (some g) := by
  simp [validateGeneration, hg]

/-- A passed check of the session leaves the registry alone.  Kind: L -/
theorem assertCurrent_eq_ok {sessionId : String} {generation : Generation} {now : ℚ} {u : Unit}
    (h : assertCurrent sessionId generation now r = (.ok u, r')) : r' = r := by
  unfold assertCurrent at h
  split at h
  · cases h
  · split at h
    · cases h
    · split at h
      · cases h
      · split at h
        · cases h
        · cases h
          rfl

/-- Checks that pass change nothing.  Kind: L -/
theorem assertAll_eq_ok {sessionId : String} {generation : Generation} {checks : List ℚ} {u : Unit}
    (h : assertAll sessionId generation checks r = (.ok u, r')) : r' = r := by
  induction checks with
  | nil =>
      cases h
      rfl
  | cons now rest ih =>
      unfold assertAll at h
      rcases hnow : assertCurrent sessionId generation now r with ⟨e | u, r₁⟩
      · rw [hnow] at h
        cases h
      · rw [hnow] at h
        obtain rfl := assertCurrent_eq_ok hnow
        exact ih h

/-- A check of the generation that a session is on raises exactly at its expiry, and then the
session is gone.  Kind: L -/
theorem assertCurrent_active (hid : validToken id = true) (hg : validToken g = true)
    (hs : r.sessions.get? id = some s) (hactive : s.activeGeneration = some g) (now : ℚ) :
    (now < s.expiresAt ∧ assertCurrent id (some g) now r = (.ok (), r)) ∨
      (s.expiresAt ≤ now ∧ ∃ e r', assertCurrent id (some g) now r = (.error e, r') ∧
        r'.sessions.get? id = none) := by
  simp only [assertCurrent, validateGeneration_some hg, hid, Bool.not_true, Bool.false_eq_true,
    if_false]
  rcases lt_or_ge now s.expiresAt with hlt | hge
  · have hlive : r.live id now = some s := live_eq_some_iff.mpr ⟨hs, hlt⟩
    exact .inl ⟨hlt, by simp [hlive, hactive]⟩
  · have hlive : r.live id now = none := by simpa [live, hs] using hge
    exact .inr ⟨hge, _, _, by rw [hlive], by simp⟩

/-- On the active generation every check passes that comes before the expiry.  Kind: L -/
theorem assertAll_active (hid : validToken id = true) (hg : validToken g = true)
    (hs : r.sessions.get? id = some s) (hactive : s.activeGeneration = some g) (checks : List ℚ) :
    ((∀ t ∈ checks, t < s.expiresAt) ∧ assertAll id (some g) checks r = (.ok (), r)) ∨
      ((∃ t ∈ checks, s.expiresAt ≤ t) ∧ ∃ e r', assertAll id (some g) checks r = (.error e, r') ∧
        r'.sessions.get? id = none) := by
  induction checks with
  | nil => exact .inl ⟨by simp, rfl⟩
  | cons now rest ih =>
      unfold assertAll
      rcases assertCurrent_active hid hg hs hactive now with ⟨hlt, hok⟩ | ⟨hge, e, r', herr, hnone⟩
      · rw [hok]
        rcases ih with ⟨hall, hrest⟩ | ⟨⟨t, ht, hexp⟩, hrest⟩
        · exact .inl ⟨List.forall_mem_cons.mpr ⟨hlt, hall⟩, hrest⟩
        · exact .inr ⟨⟨t, List.mem_cons_of_mem _ ht, hexp⟩, hrest⟩
      · rw [herr]
        exact .inr ⟨⟨now, List.mem_cons_self, hge⟩, e, r', rfl, hnone⟩

/-- A session serves the client `owner` over later connections on the given generations. -/
structure Serves (cfg : SessionConfig) (later : List String) (owner : String)
    (s : LogicalSession) : Prop where
  /-- It belongs to the client. -/
  owned : s.owner = owner
  /-- It has not seen these generations. -/
  fresh : ∀ g ∈ later, some g ∉ insert s.activeGeneration s.retired
  /-- It is not on a retired generation. -/
  current : s.activeGeneration ∉ s.retired
  /-- It has not retired too many. -/
  bounded : s.retired.card ≤ cfg.maxGenerations

/-- Fewer generations to come are served as well.  Kind: L -/
theorem Serves.mono {later later' : List String} (h : Serves cfg later owner s)
    (hsub : later' ⊆ later) : Serves cfg later' owner s :=
  ⟨h.owned, fun g hg => h.fresh g (hsub hg), h.current, h.bounded⟩

/-- A session that serves a new generation serves the rest after moving to it.  Kind: L -/
theorem Serves.moveTo {later : List String} (h : Serves cfg (g :: later) owner s)
    (hg : g ∉ later) (hcard : s.retired.card < cfg.maxGenerations) :
    Serves cfg later owner (s.moveTo (some g)) := by
  refine ⟨h.owned, fun g' hg' => ?_, h.fresh g List.mem_cons_self, ?_⟩
  · have hne : g' ≠ g := fun heq => hg (heq ▸ hg')
    have hold := h.fresh g' (List.mem_cons_of_mem _ hg')
    simp only [LogicalSession.moveTo, Finset.mem_insert, Option.some.injEq, not_or] at hold ⊢
    exact ⟨hne, hold⟩
  · exact (Finset.card_insert_le _ _).trans hcard

/-- What the registry has for an id that the client `owner` stores. -/
structure Registered (cfg : SessionConfig) (r : LogicalSessionRegistry) (later : List String)
    (owner id : String) : Prop where
  /-- The factory has returned it. -/
  drawn : Drawn cfg r id
  /-- It is a token. -/
  valid : validToken id = true
  /-- Its session serves the client. -/
  serves : ∀ s, r.sessions.get? id = some s → Serves cfg later owner s

/-- A request that continues the session `id` on whatever connection it comes. -/
structure Presents (request : RemoteRequest) (id : String) : Prop where
  /-- It names the session. -/
  session : request.sessionId = some id
  /-- It resumes it. -/
  resumes : request.resume = true

variable (cfg) in
/-- A session that is gone is rejected.  Kind: L -/
theorem deliver_dead (hp : request.sessionId = some id) (hid : validToken id = true)
    (hs : r.sessions.get? id = none) (d : Delivery) :
    ∃ e r', deliver cfg request d r = (.rejected e, r') ∧ r'.sessions.get? id = none := by
  have hlive : r.live id d.now = none := by simp [live, hs]
  have hauth : authenticate cfg request (some d.generation) d.now r =
      (.error (authError "logical session is expired"),
        { r with sessions := r.sessions.erase id }) := by
    simp [authenticate, validateGeneration_some d.valid, hp, hid, continueSession, hlive]
  refine ⟨_, _, by rw [deliver, hauth], ?_⟩
  simp

/-- A delivery to a session that serves the client moves it, or the session ends there.  Kind: L -/
theorem deliver_serving {later : List String} (hp : Presents request id)
    (howner : request.owner = owner) (hid : validToken id = true)
    (hs : r.sessions.get? id = some s) (hserves : Serves cfg (d.generation :: later) owner s) :
    (s.Lasts cfg [d] ∧ deliver cfg request d r =
      (if d.lost then .lost else .answered id,
        { r with sessions := r.sessions.insert id (s.moveTo (some d.generation)) })) ∨
    (¬s.Lasts cfg [d] ∧ ∃ e r', deliver cfg request d r = (.rejected e, r') ∧
      r'.sessions.get? id = none) := by
  have hnew := hserves.fresh d.generation List.mem_cons_self
  simp only [Finset.mem_insert, not_or] at hnew
  obtain ⟨hact, hret⟩ := hnew
  have hauth : authenticate cfg request (some d.generation) d.now r =
      continueSession cfg id owner true (some d.generation) d.now r := by
    simp [authenticate, validateGeneration_some d.valid, hp.session, hp.resumes, howner, hid]
  simp only [LogicalSession.Lasts, List.length_singleton, List.mem_singleton, forall_eq, deliver,
    hauth]
  by_cases hnow : d.now < s.expiresAt
  · have hlive : r.live id d.now = some s := live_eq_some_iff.mpr ⟨hs, hnow⟩
    by_cases hcard : s.retired.card < cfg.maxGenerations
    · have hcont : continueSession cfg id owner true (some d.generation) d.now r =
          (.ok id, { r with sessions := r.sessions.insert id (s.moveTo (some d.generation)) }) := by
        simp [continueSession, hlive, hserves.owned, hret, hact, hcard]
      simp only [hcont]
      have hmoved : ({ r with sessions := r.sessions.insert id (s.moveTo (some d.generation)) } :
          LogicalSessionRegistry).sessions.get? id = some (s.moveTo (some d.generation)) := by simp
      rcases assertAll_active hid d.valid hmoved rfl d.checks with
        ⟨hall, hok⟩ | ⟨⟨t, ht, hexp⟩, e, r', herr, hnone⟩
      · exact .inl ⟨⟨hcard, hnow, hall⟩, by rw [hok]⟩
      · refine .inr ⟨fun h => ?_, e, r', by rw [herr], hnone⟩
        exact absurd (h.2.2 t ht) (not_lt.mpr hexp)
    · have hcont : continueSession cfg id owner true (some d.generation) d.now r =
          (.error (authError "logical session retired-generation limit exceeded"),
            { r with sessions := r.sessions.erase id }) := by
        simp [continueSession, hlive, hserves.owned, hret, hact, not_lt.mp hcard]
      rw [hcont]
      exact .inr ⟨fun h => hcard h.1, _, _, rfl, by simp⟩
  · have hlive : r.live id d.now = none := by simpa [live, hs] using hnow
    refine .inr ⟨fun h => hnow h.2.1, authError "logical session is expired",
      { r with sessions := r.sessions.erase id }, ?_, by simp⟩
    simp [continueSession, hlive]

/-- A delivery is answered under the session that `authenticate` returned.  Kind: L -/
theorem deliver_eq_answered (h : deliver cfg request d r = (.answered id, r')) :
    authenticate cfg request (some d.generation) d.now r = (.ok id, r') := by
  unfold deliver at h
  rcases hauth : authenticate cfg request (some d.generation) d.now r with ⟨e | sessionId, r₁⟩
  · rw [hauth] at h
    cases h
  · rw [hauth] at h
    simp only at h
    rcases hall : assertAll sessionId (some d.generation) d.checks r₁ with ⟨e | u, r₂⟩
    · rw [hall] at h
      cases h
    · obtain rfl := assertAll_eq_ok hall
      rw [hall] at h
      cases hlost : d.lost with
      | true => simp [hlost] at h
      | false =>
          simp only [hlost, Bool.false_eq_true, if_false, Prod.mk.injEq,
            Reply.answered.injEq] at h
          rw [h.1, h.2]

/-- A request that presents a session is authenticated under that session.  Kind: L -/
theorem authenticate_session {generation : Generation} {now : ℚ} {id' : String}
    (hp : request.sessionId = some id)
    (h : authenticate cfg request generation now r = (.ok id', r')) : id' = id :=
  (authenticate_eq_ok hp (by rw [h])).1

/-- Checks draw no session id.  Kind: L -/
theorem assertAll_drawn (sessionId : String) (generation : Generation) (checks : List ℚ) :
    (assertAll sessionId generation checks r).2.drawn = r.drawn := by
  induction checks generalizing r with
  | nil => rfl
  | cons now rest ih =>
      have hcall : (assertCurrent sessionId generation now r).2.drawn = r.drawn := by
        unfold assertCurrent
        split
        · rfl
        · split
          · rfl
          · split
            · rfl
            · split <;> rfl
      unfold assertAll
      rcases hnow : assertCurrent sessionId generation now r with ⟨e | u, r₁⟩
      · rw [hnow] at hcall
        exact hcall
      · rw [hnow] at hcall
        exact ih.trans hcall

/-- Session ids are drawn upwards in a delivery.  Kind: L -/
theorem drawn_le_deliver (request : RemoteRequest) (d : Delivery) :
    r.drawn ≤ (deliver cfg request d r).2.drawn := by
  have hcall : r.drawn ≤ (authenticate cfg request (some d.generation) d.now r).2.drawn :=
    apply_drawn_le (.authenticate request (some d.generation) d.now)
  unfold deliver
  rcases hauth : authenticate cfg request (some d.generation) d.now r with ⟨e | sessionId, r₁⟩
  · rw [hauth] at hcall
    exact hcall
  · rw [hauth] at hcall
    have hchecks := assertAll_drawn (r := r₁) sessionId (some d.generation) d.checks
    simp only
    rcases hall : assertAll sessionId (some d.generation) d.checks r₁ with ⟨e | u, r₂⟩
    · rw [hall] at hchecks
      exact hcall.trans hchecks.ge
    · rw [hall] at hchecks
      exact hcall.trans hchecks.ge

/-- An allocated session id is a valid token.  Kind: L -/
theorem valid_of_allocateId {factory : ℕ → String} {sessions : Dict String LogicalSession}
    {tries drawn drawn' : ℕ} (h : allocateId factory sessions tries drawn = (.ok id, drawn')) :
    validToken id = true := by
  induction tries generalizing drawn with
  | zero => simp [allocateId] at h
  | succ tries ih =>
      unfold allocateId at h
      split at h
      · simp at h
      · rename_i hvalid
        split at h
        · exact ih h
        · cases h
          simpa using hvalid

/-- A new session serves the client that asked for it.  Kind: L -/
theorem registered_of_create {now : ℚ} {later : List String} (hg : g ∉ later)
    (h : create cfg owner (some g) now r = (.ok id, r')) : Registered cfg r' later owner id := by
  unfold create at h
  dsimp only at h
  split at h
  · cases h
  · split at h
    · cases h
    · rename_i new drawn halloc
      cases h
      obtain ⟨-, m, -, hm, hid⟩ := allocateId_eq_ok halloc
      refine ⟨⟨m, hm, hid⟩, valid_of_allocateId halloc, fun s hs => ?_⟩
      simp only [Dict.get?_insert_self, Option.some.injEq] at hs
      subst hs
      refine ⟨rfl, fun g' hg' => ?_, by simp, by simp⟩
      have hne : g' ≠ g := fun heq => hg (heq ▸ hg')
      simpa using hne

/-! ## The retry loop -/

/-- An answered delivery ends the retries.  Kind: L -/
theorem requestWithRetry_answered (h : deliver cfg request d r = (.answered id, r'))
    (rest : List Delivery) :
    requestWithRetry cfg request (d :: rest) r = ([.answered id], r') := by
  simp only [requestWithRetry, h]

/-- A delivery without an answer is followed by the next.  Kind: L -/
theorem requestWithRetry_again {reply : Reply} (h : deliver cfg request d r = (reply, r'))
    (hreply : reply.sessionId? = none) (rest : List Delivery) :
    requestWithRetry cfg request (d :: rest) r =
      (reply :: (requestWithRetry cfg request rest r').1,
        (requestWithRetry cfg request rest r').2) := by
  cases reply with
  | rejected e => simp only [requestWithRetry, h]
  | lost => simp only [requestWithRetry, h]
  | answered sessionId => cases hreply

/-- What every delivery keeps, the loop keeps.  Kind: L -/
theorem requestWithRetry_induct {P : LogicalSessionRegistry → Prop}
    (hstep : ∀ r d, P r → P (deliver cfg request d r).2) (ds : List Delivery) (h : P r) :
    P (requestWithRetry cfg request ds r).2 := by
  induction ds generalizing r with
  | nil => exact h
  | cons d rest ih =>
      have hnext := hstep r d h
      rcases hd : deliver cfg request d r with ⟨reply, r'⟩
      rw [hd] at hnext
      cases reply with
      | answered sessionId =>
          rw [requestWithRetry_answered hd]
          exact hnext
      | rejected e =>
          rw [requestWithRetry_again hd rfl]
          exact ih hnext
      | lost =>
          rw [requestWithRetry_again hd rfl]
          exact ih hnext

/-- Session ids are drawn upwards along the retries.  Kind: L -/
theorem drawn_le_requestWithRetry (request : RemoteRequest) (ds : List Delivery) :
    r.drawn ≤ (requestWithRetry cfg request ds r).2.drawn :=
  requestWithRetry_induct (P := fun r' => r.drawn ≤ r'.drawn)
    (fun _ d h => h.trans (drawn_le_deliver request d)) ds le_rfl

/-- The answer of a loop is the answer to one of its deliveries, which ends it.  Kind: L -/
theorem requestWithRetry_findSome?
    (h : (requestWithRetry cfg request ds r).1.findSome? Reply.sessionId? = some id) :
    ∃ d ∈ ds, ∃ r₀, deliver cfg request d r₀ =
      (.answered id, (requestWithRetry cfg request ds r).2) := by
  induction ds generalizing r with
  | nil => cases h
  | cons d rest ih =>
      rcases hd : deliver cfg request d r with ⟨reply, r'⟩
      cases reply with
      | answered sessionId =>
          rw [requestWithRetry_answered hd] at h ⊢
          have hid : sessionId = id := by simpa [Reply.sessionId?] using h
          subst hid
          exact ⟨d, List.mem_cons_self, r, hd⟩
      | rejected e =>
          rw [requestWithRetry_again hd rfl] at h ⊢
          obtain ⟨d', hmem, hd'⟩ := ih h
          exact ⟨d', List.mem_cons_of_mem _ hmem, hd'⟩
      | lost =>
          rw [requestWithRetry_again hd rfl] at h ⊢
          obtain ⟨d', hmem, hd'⟩ := ih h
          exact ⟨d', List.mem_cons_of_mem _ hmem, hd'⟩

variable (cfg) in
/-- Every delivery to a session that is gone is rejected.  Kind: L -/
theorem requestWithRetry_dead (hp : request.sessionId = some id) (hid : validToken id = true)
    (hs : r.sessions.get? id = none) (ds : List Delivery) :
    (ds ≠ [] → ∃ e, .rejected e ∈ (requestWithRetry cfg request ds r).1) ∧
      (requestWithRetry cfg request ds r).2.sessions.get? id = none := by
  constructor
  · intro hne
    obtain ⟨d, rest, rfl⟩ := List.exists_cons_of_ne_nil hne
    obtain ⟨e, r', hd, -⟩ := deliver_dead cfg hp hid hs d
    rw [requestWithRetry_again hd rfl]
    exact ⟨e, List.mem_cons_self⟩
  · refine requestWithRetry_induct (P := fun r' => r'.sessions.get? id = none)
      (fun r₀ d h => ?_) ds hs
    obtain ⟨e, r', hd, hnone⟩ := deliver_dead cfg hp hid h d
    rw [hd]
    exact hnone

/-- A session lasts through deliveries if and only if it lasts through the first and, moved, the
rest.  Kind: L -/
theorem lasts_cons_iff (g : Generation) (hcurrent : s.activeGeneration ∉ s.retired) :
    s.Lasts cfg (d :: ds) ↔ s.Lasts cfg [d] ∧ (s.moveTo g).Lasts cfg ds := by
  have hcard : (s.moveTo g).retired.card = s.retired.card + 1 :=
    Finset.card_insert_of_notMem hcurrent
  have hexpires : (s.moveTo g).expiresAt = s.expiresAt := rfl
  simp only [LogicalSession.Lasts, hcard, hexpires, List.length_cons, List.length_nil,
    List.forall_mem_cons, List.not_mem_nil, false_implies, implies_true, and_true]
  constructor
  · rintro ⟨hlen, hd, hds⟩
    exact ⟨⟨by omega, hd⟩, by omega, hds⟩
  · rintro ⟨⟨-, hd⟩, hlen, hds⟩
    exact ⟨by omega, hd, hds⟩

/-- **A session under the retry loop.**  It lasts for the deliveries, none is rejected and it still
serves the client; or one is rejected and it is gone.  Kind: L -/
theorem requestWithRetry_serving {later : List String} (hp : Presents request id)
    (howner : request.owner = owner) (hid : validToken id = true)
    (hs : r.sessions.get? id = some s)
    (hserves : Serves cfg (ds.map Delivery.generation ++ later) owner s)
    (hnodup : (ds.map Delivery.generation ++ later).Nodup) :
    let out := requestWithRetry cfg request ds r
    (s.Lasts cfg (made ds) ∧ (∀ e, .rejected e ∉ out.1) ∧
        ∃ s', out.2.sessions.get? id = some s' ∧ Serves cfg later owner s') ∨
      (¬s.Lasts cfg (made ds) ∧ (∃ e, .rejected e ∈ out.1) ∧ out.2.sessions.get? id = none) := by
  induction ds generalizing r s with
  | nil =>
      exact .inl ⟨⟨hserves.bounded, by simp [made]⟩, by simp [requestWithRetry], s, hs, hserves⟩
  | cons d rest ih =>
      simp only [List.map_cons, List.cons_append, List.nodup_cons] at hserves hnodup
      rcases deliver_serving hp howner hid hs hserves with
        ⟨hlasts, hd⟩ | ⟨hends, e, r', hd, hnone⟩
      · have hmoved := hserves.moveTo hnodup.1 hlasts.1
        cases hlost : d.lost with
        | false =>
            simp only [hlost, Bool.false_eq_true, if_false] at hd
            simp only [requestWithRetry_answered hd, made, hlost, Bool.false_eq_true, if_false]
            exact .inl ⟨hlasts, by simp, _, by simp, hmoved.mono (List.subset_append_right _ _)⟩
        | true =>
            simp only [hlost, if_true] at hd
            simp only [requestWithRetry_again hd rfl, made, hlost, if_true]
            rw [lasts_cons_iff (some d.generation) hserves.current]
            have hs' : ({ r with sessions := r.sessions.insert id (s.moveTo (some d.generation)) } :
                LogicalSessionRegistry).sessions.get? id = some (s.moveTo (some d.generation)) :=
              Dict.get?_insert_self _ _ _
            rcases ih hs' hmoved hnodup.2 with
              ⟨hrest, hnot, hleft⟩ | ⟨hrest, ⟨e, he⟩, hnone⟩
            · exact .inl ⟨⟨hlasts, hrest⟩, by simpa using hnot, hleft⟩
            · exact .inr ⟨fun h => hrest h.2, ⟨e, List.mem_cons_of_mem _ he⟩, hnone⟩
      · -- the session ended with this delivery, and the retries find nothing
        have hdead := (requestWithRetry_dead cfg hp.session hid hnone rest).2
        simp only [requestWithRetry_again hd rfl]
        refine .inr ⟨fun h => hends ?_, ⟨e, List.mem_cons_self⟩, hdead⟩
        cases hlost : d.lost with
        | false => simpa [made, hlost] using h
        | true =>
            simp only [made, hlost, if_true] at h
            exact ((lasts_cons_iff (some d.generation) hserves.current).mp h).1

/-- A request without a session that is answered has one that serves the client.  Kind: L -/
theorem requestWithRetry_opens {later : List String} (hp : request.sessionId = none)
    (hnodup : (ds.map Delivery.generation ++ later).Nodup)
    (h : (requestWithRetry cfg request ds r).1.findSome? Reply.sessionId? = some id) :
    Registered cfg (requestWithRetry cfg request ds r).2 later request.owner id := by
  obtain ⟨d, hmem, r₀, hd⟩ := requestWithRetry_findSome? h
  have hnew : d.generation ∉ later :=
    List.disjoint_of_nodup_append hnodup (List.mem_map_of_mem hmem)
  have hauth := deliver_eq_answered hd
  unfold authenticate at hauth
  split at hauth
  · cases hauth
  · rename_i g hg
    cases validateGeneration_eq_ok hg
    rw [hp] at hauth
    exact registered_of_create hnew hauth

end LogicalSessionRegistry

/-! ## The stored session over a run -/

namespace ProviderWorld

open LogicalSessionRegistry

variable {cfg : SessionConfig} {w : ProviderWorld} {q : ProviderCall} {id : String}
  {later : List String}

/-- What a run keeps: the session that the provider stores was given to it, and serves it over the
later connections.  Kind: D -/
structure Held (cfg : SessionConfig) (later : List String) (w : ProviderWorld) : Prop where
  /-- Responses belong to requests. -/
  sequences : w.provider.responseSequence ≤ w.provider.requestSequence
  /-- The stored session, if any. -/
  registered : ∀ id, w.provider.sessionId = some id →
    Registered cfg w.registry later w.provider.owner id

/-- A new provider holds no session.  Kind: L -/
theorem held_new (nodeId : NodeId) (callerNodeId : Option NodeId) (r : LogicalSessionRegistry) :
    Held cfg later ⟨Provider.new nodeId callerNodeId, r⟩ :=
  ⟨le_rfl, fun _ h => by cases h⟩

/-- A provider with a session presents it.  Kind: L -/
theorem presents_envelope (q : ProviderCall) (h : w.provider.sessionId = some id) :
    Presents (w.provider.envelope q) id :=
  ⟨h, by simp [Provider.envelope, h]⟩

/-- What a request leaves in the provider.  Kind: L -/
theorem request_provider (q : ProviderCall) (hw : w.Held cfg later) :
    (w.request cfg q).provider.owner = w.provider.owner ∧
      (w.request cfg q).provider.responseSequence ≤ (w.request cfg q).provider.requestSequence ∧
      (w.request cfg q).provider.sessionId =
        ((w.exchange cfg q).replies.findSome? Reply.sessionId?).or w.provider.sessionId := by
  have hle := hw.sequences
  have hnext : w.provider.responseSequence ≤ w.provider.requestSequence + 1 := by omega
  simp only [request, exchange]
  cases (requestWithRetry cfg (w.provider.envelope q) q.tries w.registry).1.findSome?
    Reply.sessionId? with
  | none => exact ⟨rfl, hnext, rfl⟩
  | some id' => simp [Provider.receive, hnext, Provider.owner]

/-- A provider with a session keeps presenting it.  Kind: L -/
theorem request_sessionId (q : ProviderCall) (hw : w.Held cfg later)
    (hid : w.provider.sessionId = some id) :
    (w.request cfg q).provider.sessionId = some id := by
  rw [(request_provider q hw).2.2]
  cases hfind : (w.exchange cfg q).replies.findSome? Reply.sessionId? with
  | none => exact hid
  | some id' =>
      obtain ⟨d, -, r₀, hd⟩ := requestWithRetry_findSome? hfind
      have hsame : id' = id :=
        authenticate_session (presents_envelope q hid).session (deliver_eq_answered hd)
      rw [hsame]
      rfl

variable (cfg q) in
/-- A request that presents a session that is gone is rejected, and the session stays gone.
Kind: L -/
theorem rejected_of_dead (hid : w.provider.sessionId = some id) (hvalid : validToken id = true)
    (hs : w.registry.sessions.get? id = none) :
    (w.exchange cfg q).Rejected ∧ (w.request cfg q).registry.sessions.get? id = none := by
  have hdead := requestWithRetry_dead cfg (presents_envelope q hid).session hvalid hs q.tries
  exact ⟨hdead.1 q.reaches, hdead.2⟩

section stored

variable (hw : w.Held cfg (q.tries.map Delivery.generation ++ later))
  (hnodup : (q.tries.map Delivery.generation ++ later).Nodup)

include hw hnodup

/-- **What a request does with a stored session.**  The session lasts for it, it is not rejected
and still has a session that serves it; or it is rejected and the session is gone.  Kind: L -/
theorem request_stored (hid : w.provider.sessionId = some id) :
    (w.registry.Alive cfg id (made q.tries) ∧ ¬(w.exchange cfg q).Rejected ∧
        ∃ s, (w.request cfg q).registry.sessions.get? id = some s ∧
          Serves cfg later w.provider.owner s) ∨
      (¬w.registry.Alive cfg id (made q.tries) ∧ (w.exchange cfg q).Rejected ∧
        (w.request cfg q).registry.sessions.get? id = none) := by
  have hreg := hw.registered id hid
  cases hs : w.registry.sessions.get? id with
  | none =>
      refine .inr ⟨?_, rejected_of_dead cfg q hid hreg.valid hs⟩
      rintro ⟨s, hs', -⟩
      rw [hs] at hs'
      cases hs'
  | some s =>
      have halive : w.registry.Alive cfg id (made q.tries) ↔ s.Lasts cfg (made q.tries) := by
        simp [LogicalSessionRegistry.Alive, hs]
      rw [halive]
      rcases requestWithRetry_serving (presents_envelope q hid) rfl hreg.valid hs
        (hreg.serves s hs) hnodup with ⟨hlasts, hnot, hleft⟩ | ⟨hends, hrejected, hnone⟩
      · exact .inl ⟨hlasts, fun h => h.elim hnot, hleft⟩
      · exact .inr ⟨hends, hrejected, hnone⟩

/-- A request keeps the invariant.  Kind: L -/
theorem Held.request : (w.request cfg q).Held cfg later := by
  obtain ⟨howner, hseq, hsession⟩ := request_provider q hw
  refine ⟨hseq, fun id hid => ?_⟩
  rw [howner]
  cases hold : w.provider.sessionId with
  | none =>
      -- the stored id is the answer to this request
      rw [hsession, hold, Option.or_none] at hid
      exact requestWithRetry_opens hold hnodup hid
  | some id₀ =>
      rw [request_sessionId q hw hold] at hid
      cases hid
      have hreg := hw.registered _ hold
      refine ⟨hreg.drawn.mono (drawn_le_requestWithRetry _ _), hreg.valid, fun s' hs' => ?_⟩
      rcases request_stored hw hnodup hold with ⟨-, -, s, hs, hserves⟩ | ⟨-, -, hnone⟩
      · rw [hs] at hs'
        cases hs'
        exact hserves
      · rw [hnone] at hs'
        cases hs'

end stored

end ProviderWorld

namespace ProviderEvent

open LogicalSessionRegistry ProviderWorld

section recovery

variable {cfg : SessionConfig} {w : ProviderWorld} {e : ProviderEvent} {id : String}
  {later : List String} (hf : Function.Injective cfg.factory)

include hf

/-- An event of someone else keeps the invariant.  Kind: L -/
theorem held_call {c : SessionCall} (hw : w.Held cfg later) (hc : w.provider.Foreign c) :
    ((call c).apply cfg w).Held cfg later := by
  refine ⟨hw.sequences, fun id hid => ?_⟩
  have hreg := hw.registered id hid
  refine ⟨hreg.drawn.apply c, hreg.valid, fun s' hs' => ?_⟩
  change (c.apply cfg w.registry).sessions.get? id = some s' at hs'
  cases hs : w.registry.sessions.get? id with
  | none =>
      rw [apply_dead hf hreg.drawn hs] at hs'
      cases hs'
  | some s =>
      have hserves := hreg.serves s hs
      have hfate := apply_fate hf hreg.drawn hs c
      rw [hs'] at hfate
      cases hfate with
      | kept => exact hserves
      | moved g hres _ _ _ =>
          -- only the provider itself resumes its session
          cases c with
          | authenticate request generation now =>
              obtain ⟨-, hsession, -, howner⟩ := hres
              exact absurd (howner.trans hserves.owned) (hc id hid hsession)
          | assertCurrent sessionId generation now => exact hres.elim

/-- A legal event keeps the invariant.  Kind: L -/
theorem held_apply (hw : w.Held cfg (e.generations ++ later)) (hlegal : e.Legal w)
    (hnodup : (e.generations ++ later).Nodup) : (e.apply cfg w).Held cfg later := by
  cases e with
  | request q => exact Held.request hw hnodup
  | call c => exact held_call hf hw hlegal
  | restart =>
      refine ⟨hw.sequences, fun id hid => ?_⟩
      have hreg := hw.registered id hid
      exact ⟨hreg.drawn, hreg.valid, fun s hs => by cases hs⟩

/-- After the session that a provider presents is gone, its next request is rejected.  Kind: L -/
theorem rejected_head (run : List ProviderEvent) (hid : w.provider.sessionId = some id)
    (hdrawn : Drawn cfg w.registry id) (hvalid : validToken id = true)
    (hs : w.registry.sessions.get? id = none) :
    ∀ x ∈ (exchanges cfg run w).head?, x.Rejected := by
  induction run generalizing w with
  | nil => simp [exchanges]
  | cons e rest ih =>
      cases e with
      | request q =>
          intro x hx
          cases hx
          exact (rejected_of_dead cfg q hid hvalid hs).1
      | call c => exact ih hid (hdrawn.apply c) (apply_dead hf hdrawn hs c)
      | restart => exact ih hid hdrawn rfl

omit hf in

/-- A run has a first exchange if and only if it has a request.  Kind: L -/
theorem head?_exchanges_isSome_iff (run : List ProviderEvent) (w : ProviderWorld) :
    (exchanges cfg run w).head?.isSome = true ↔ ∃ q, request q ∈ run := by
  induction run generalizing w with
  | nil => simp [exchanges]
  | cons e rest ih =>
      cases e with
      | request q => simp [exchanges]
      | call c => simp [exchanges, ih]
      | restart => simp [exchanges, ih]

/-- From any state that a run can reach.  Kind: L -/
theorem recovers_iff_of_held {run : List ProviderEvent}
    (hw : w.Held cfg (run.flatMap generations)) (hnodup : (run.flatMap generations).Nodup)
    (hlegal : LegalRun cfg run w) : Recovers cfg run w ↔ Sustained cfg run w := by
  induction run generalizing w with
  | nil => simp [Recovers, exchanges, Sustained]
  | cons e rest ih =>
      simp only [List.flatMap_cons] at hw hnodup
      have hnext := ih (held_apply hf hw hlegal.1 hnodup) (List.nodup_append.mp hnodup).2.1
        hlegal.2
      simp only [Sustained, ← hnext]
      cases e with
      | request q =>
          simp only [Recovers, exchanges, List.isChain_cons, request.injEq]
          refine and_congr_left fun _ => ⟨?_, ?_⟩
          · rintro hchain q' id rfl hid hasks
            rcases request_stored hw hnodup hid with ⟨halive, -, -⟩ | ⟨-, hrejected, hnone⟩
            · exact halive
            · -- the session died, and the next request presents it again
              obtain ⟨x, hx⟩ := Option.isSome_iff_exists.mp
                ((head?_exchanges_isSome_iff rest (w.request cfg q)).mpr hasks)
              have hreg := hw.registered id hid
              have hpresented : (w.exchange cfg q).RejectedSession :=
                ⟨Option.isSome_iff_exists.mpr ⟨id, hid⟩, hrejected⟩
              have hagain := rejected_head hf rest (request_sessionId q hw hid)
                (hreg.drawn.mono (drawn_le_requestWithRetry _ _)) hreg.valid hnone x hx
              exact absurd hagain (hchain x hx hpresented)
          · rintro halive x hx ⟨hsome, hrejected⟩
            obtain ⟨id, hid⟩ := Option.isSome_iff_exists.mp hsome
            have hasks := (head?_exchanges_isSome_iff rest (w.request cfg q)).mp
              (Option.isSome_iff_exists.mpr ⟨x, hx⟩)
            rcases request_stored hw hnodup hid with ⟨-, hnot, -⟩ | ⟨hends, -, -⟩
            · exact absurd hrejected hnot
            · exact absurd (halive q id rfl hid hasks) hends
      | call c => simp [Recovers, exchanges]
      | restart => simp [Recovers, exchanges]

/-- **Whether a provider recovers.**  From a provider that has not sent anything, whatever the
registry holds, with connections on distinct generations: each request whose session is rejected
is followed by one that is not rejected, exactly if no session dies under a request that another
request follows.
Source: `remote/requests.py`, `_request`; `remote/session.py`, `authenticate`;
`docs/SESSION_MODEL.md`.  Kind: P -/
theorem recovers_iff_sustained (nodeId : NodeId) (callerNodeId : Option NodeId)
    (r : LogicalSessionRegistry) (run : List ProviderEvent)
    (hnodup : (run.flatMap generations).Nodup)
    (hlegal : LegalRun cfg run ⟨Provider.new nodeId callerNodeId, r⟩) :
    Recovers cfg run ⟨Provider.new nodeId callerNodeId, r⟩ ↔
      Sustained cfg run ⟨Provider.new nodeId callerNodeId, r⟩ :=
  recovers_iff_of_held hf (held_new nodeId callerNodeId r) hnodup hlegal

end recovery

/-- A provider before its first request, and a service that has just started. -/
def firstUse : ProviderWorld :=
  ⟨Provider.new (.named "worker") (some (.named "coord")), LogicalSessionRegistry.empty⟩

/-- A `hello` that is delivered once, at `now`. -/
def helloAt (now : ℚ) (generation : String) (valid : validToken generation = true) :
    ProviderEvent :=
  request ⟨"hello", [], "r1", "n1", now, [⟨generation, valid, now, [now], false⟩], by simp,
    show 1 ≤ attempts "hello" by decide⟩

/-- Three requests within the lifetime of the session. -/
def steadyRun : List ProviderEvent :=
  [helloAt 0 "first" (by decide), helloAt 10 "second" (by decide), helloAt 20 "third" (by decide)]

/-- A run that recovers after the first use.  Kind: P -/
theorem recovers_iff_sustained_steady :
    Recovers unaryConfig steadyRun firstUse := by
  refine (recovers_iff_sustained unaryConfig_injective _ _ _ steadyRun (by decide)
    ⟨trivial, trivial, trivial, trivial⟩).mpr ⟨?_, ?_, ?_, trivial⟩
  · intro q id hq hid
    cases hid
  · rintro q id hq hid -
    cases hq
    have hs : ((helloAt 0 "first" (by decide)).apply unaryConfig firstUse).registry.sessions.get?
        "a" = some ⟨"coord", some "first", 600, ∅⟩ := by decide +kernel
    have hid' : ((helloAt 0 "first" (by decide)).apply unaryConfig firstUse).provider.sessionId =
        some "a" := by decide +kernel
    cases hid'.symm.trans hid
    exact ⟨_, hs, by decide, by norm_num [made]⟩
  · rintro q id - - ⟨q', hq'⟩
    cases hq'

/-- Three requests, the last two after the session has expired. -/
def expiryRun : List ProviderEvent :=
  [helloAt 0 "first" (by decide), helloAt 600 "second" (by decide),
    helloAt 601 "third" (by decide)]

/-- The expired session is presented again, and rejected again. -/
theorem expired_session_is_presented_again :
    (expiryRun.flatMap generations).Nodup ∧ LegalRun unaryConfig expiryRun firstUse ∧
      ¬Recovers unaryConfig expiryRun firstUse := by
  refine ⟨by decide, ⟨trivial, trivial, trivial, trivial⟩, fun h => ?_⟩
  have hrun : exchanges unaryConfig expiryRun firstUse =
      [⟨none, [.answered "a"]⟩,
        ⟨some "a", [.rejected (authError "logical session is expired")]⟩,
        ⟨some "a", [.rejected (authError "logical session is expired")]⟩] := by decide +kernel
  rw [Recovers, hrun, List.isChain_cons_cons, List.isChain_cons_cons] at h
  exact h.2.1 ⟨rfl, _, List.mem_singleton_self _⟩ ⟨_, List.mem_singleton_self _⟩

end ProviderEvent

end ExpraConnect
