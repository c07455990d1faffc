import ExpraConnect.Remote.Answering
import ExpraConnect.Remote.SessionSafety

/-!
# When a result survives reconnects

The check that the connection is still current is part of the idempotent operation: it is made
behind the handler, and its outcome is what the cache remembers.  So the result of a handler that
has returned is what every later duplicate gets, as long as nobody resumed the session on another
connection before that check; else the duplicates get the check's error for good.

* `HandlerReturned`: along its history, a delivery owns its entry and its handler has returned;
* `Lasting`: what is asked of the session (unexpired, a new connection for every delivery, within
  the bound of generations);
* `Uninterrupted`: between the authentication of a delivery and its check nobody resumes the
  session;
* `publishes_result`: who records an outcome for the entry, and which;
* `result_reused`: the duplicates are answered with the result;
  `overlapping_duplicate_is_refused`: a duplicate that overlaps the first delivery is not.
-/

namespace ExpraConnect

open ExpraConnect.Lib

variable {H : Type} {cfg : ServiceConfig H}

/-! ## The session registry of a service -/

/-- The call of the session registry that an instruction makes. -/
def Instr.sessionCall : Instr H → Option LogicalSessionRegistry.SessionCall
  | .authenticate request generation now => some (.authenticate request generation now)
  | .assertCurrent sessionId generation now => some (.assertCurrent sessionId generation now)
  | _ => none

/-- An instruction changes the sessions by its registry call alone.  Kind: L -/
theorem sessions_apply (l : Instr H) (s : ServiceState H) :
    (l.apply cfg s).sessions =
      l.sessionCall.elim s.sessions fun call => call.apply cfg.sessions s.sessions := by
  cases l <;> rfl

/-- The environment leaves the sessions alone.  Kind: L -/
theorem sessions_env (e : EnvMove H) (s : ServiceState H) :
    (e.apply s).sessions = s.sessions := by
  cases e <;> rfl

/-- The event resumes the session `sid` of `owner`. -/
def Resumes (sid owner : String) : SvcEvent H → Prop
  | .own _ (.authenticate request _ _) _ =>
      request.sessionId = some sid ∧ request.resume = true ∧ request.owner = owner
  | _ => False

/-- Throughout the run the session `sid` is unexpired, and whoever names it comes on a connection
that it accepts: a new one, within its bound of generations.  Kind: D -/
structure Lasting (cfg : ServiceConfig H) (sid : String) (tr : List (SvcEvent H)) : Prop where
  /-- No clock reading reaches the expiry. -/
  unexpired : ∀ k l s call session, Event.own k l s ∈ tr → l.sessionCall = some call →
    s.sessions.sessions.get? sid = some session → call.now < session.expiresAt
  /-- The connections are new. -/
  accepts : ∀ k request generation now s session,
    Event.own k (.authenticate request generation now) s ∈ tr → request.sessionId = some sid →
      s.sessions.sessions.get? sid = some session →
        LogicalSessionRegistry.Accepts cfg.sessions session generation

/-- The session `sid` exists, belongs to `owner`, and `P` holds of its active connection. -/
def SessionOn (sid owner : String) (P : Generation → Prop) (s : ServiceState H) : Prop :=
  ∃ session, s.sessions.sessions.get? sid = some session ∧ session.owner = owner ∧
    P session.activeGeneration

section runs

variable {deliveries : ℕ → String × Generation} {s₀ : ServiceState H} {tr : List (SvcEvent H)}
  {c : Pool (ServiceState H) (Instr H) PyError SignedResponse} {sid owner : String}

/-- The registry is sound before every event of a run.  Kind: L -/
theorem sound_pre (hfactory : Function.Injective cfg.sessions.factory)
    (hsound : LogicalSessionRegistry.Sound cfg.sessions s₀.sessions)
    (hrun : Run (serviceMachine cfg monotoneClock) (servicePool cfg deliveries s₀) tr c) :
    ∀ e ∈ tr, LogicalSessionRegistry.Sound cfg.sessions e.pre.sessions := by
  refine hrun.preserves_pre (P := fun s => LogicalSessionRegistry.Sound cfg.sessions s.sessions)
    (fun e _ h => ?_) hsound
  cases e with
  | own k l s =>
      change LogicalSessionRegistry.Sound cfg.sessions (l.apply cfg s).sessions
      rw [sessions_apply]
      cases l.sessionCall with
      | none => exact h
      | some call => exact LogicalSessionRegistry.Sound.apply hfactory h call
  | env e s =>
      change LogicalSessionRegistry.Sound cfg.sessions (e.apply s).sessions
      rw [sessions_env]
      exact h

/-- What one event does to a lasting session: it stays on its connection, or the event resumes
it.  Kind: L -/
theorem sessionOn_post {P : Generation → Prop}
    (hfactory : Function.Injective cfg.sessions.factory) (hlasting : Lasting cfg sid tr)
    {e : SvcEvent H} (he : e ∈ tr)
    (hsound : LogicalSessionRegistry.Sound cfg.sessions e.pre.sessions)
    (hmoves : Resumes sid owner e → ∀ g, P g) (h : SessionOn sid owner P e.pre) :
    SessionOn sid owner P (e.post (serviceMachine cfg monotoneClock)) := by
  cases e with
  | env e s =>
      change SessionOn sid owner P (e.apply s)
      unfold SessionOn
      rw [sessions_env]
      exact h
  | own k l s =>
      change SessionOn sid owner P (l.apply cfg s)
      unfold SessionOn
      rw [sessions_apply]
      cases hcall : l.sessionCall with
      | none => exact h
      | some call =>
          obtain ⟨session, hget, howner, hP⟩ := h
          have haccepts : ∀ g, call.ResumesOnto session sid g →
              LogicalSessionRegistry.Accepts cfg.sessions session g := by
            intro g hres
            cases l with
            | authenticate request g' now =>
                cases hcall
                obtain ⟨rfl, hsession, -, -⟩ := hres
                exact hlasting.accepts k request g' now s session he hsession hget
            | assertCurrent sid' g' now =>
                cases hcall
                exact hres.elim
            | _ => cases hcall
          rcases LogicalSessionRegistry.apply_lasting hfactory (hsound.drawn sid session hget) hget
            (hlasting.unexpired k l s call session he hcall hget) haccepts with
            hkept | ⟨g, hres, hmoved⟩
          · exact ⟨session, hkept, howner, hP⟩
          · refine ⟨session.moveTo g, hmoved, howner, hmoves ?_ g⟩
            -- the call that moved the session is the event's own
            cases l with
            | authenticate request g' now =>
                cases hcall
                obtain ⟨-, hsession, hresume, hown⟩ := hres
                exact ⟨hsession, hresume, hown.trans howner⟩
            | assertCurrent sid' g' now =>
                cases hcall
                exact hres.elim
            | _ => cases hcall

/-- A delivery that resumes the lasting session is authenticated, and the session is on its
connection.  Kind: L -/
theorem sessionOn_authenticate (hlasting : Lasting cfg sid tr) {k : ℕ} {request : RemoteRequest}
    {generation : Generation} {now : ℚ} {s : ServiceState H}
    (he : Event.own k (.authenticate request generation now) s ∈ tr)
    (hsession : request.sessionId = some sid) (hresume : request.resume = true)
    (hvalid : validToken sid = true) (h : SessionOn sid request.owner (fun _ => True) s) :
    (s.sessions.authenticate cfg.sessions request generation now).1 = .ok sid ∧
      SessionOn sid request.owner (· = generation)
        ((Instr.authenticate request generation now).apply cfg s) := by
  obtain ⟨session, hget, howner, -⟩ := h
  have hlive : now < session.expiresAt := hlasting.unexpired k _ s _ session he rfl hget
  have hmoves := LogicalSessionRegistry.authenticate_moves hsession hresume hvalid hget hlive howner
    (hlasting.accepts k request generation now s session he hsession hget)
  refine ⟨by rw [hmoves], session.moveTo generation, ?_, howner, rfl⟩
  simp [Instr.apply, hmoves]

/-- From the authentication of delivery `k` on, nobody resumes the session until its check of the
connection; checks behind the recording of its own outcome do not count.  Kind: D -/
def Uninterrupted (sid owner : String) (k : ℕ) (tr : List (SvcEvent H)) : Prop :=
  ∀ tr₁ request generation now s tr₂ sid' generation' now' s' tr₃,
    tr = tr₁ ++ Event.own k (.authenticate request generation now) s :: tr₂ ++
      Event.own k (.assertCurrent sid' generation' now') s' :: tr₃ →
    (∀ x ∈ history k tr₂, ∀ id, ¬Publishes id x.1) → ∀ e ∈ tr₂, ¬Resumes sid owner e

/-- The check of an uninterrupted delivery that resumed the session passes.  Kind: L -/
theorem current_of_uninterrupted (hfactory : Function.Injective cfg.sessions.factory)
    (hsound : LogicalSessionRegistry.Sound cfg.sessions s₀.sessions)
    (hrun : Run (serviceMachine cfg monotoneClock) (servicePool cfg deliveries s₀) tr c)
    (hlasting : Lasting cfg sid tr) {k : ℕ} {request : RemoteRequest} {generation : Generation}
    {now now' : ℚ} {s s' : ServiceState H} {h₁ h₂ h₃ : SvcHistory H}
    (hh : history k tr = h₁ ++ (.authenticate request generation now, s) ::
      (h₂ ++ (.assertCurrent sid generation now', s') :: h₃))
    (hquiet : ∀ x ∈ h₂, ∀ id, ¬Publishes id x.1)
    (hfree : Uninterrupted sid request.owner k tr) (hvalid : validToken sid = true)
    (hsession : request.sessionId = some sid) (hresume : request.resume = true)
    (hon : SessionOn sid request.owner (fun _ => True) s) :
    (s'.sessions.assertCurrent sid generation now').1 = .ok () := by
  obtain ⟨tr₁, rest, htr, -, hrest⟩ := eq_append_of_history_eq hh
  obtain ⟨tr₂, tr₃, rfl, hbetween, -⟩ := eq_append_of_history_eq hrest
  have htr' : tr = tr₁ ++ Event.own k (.authenticate request generation now) s :: tr₂ ++
      Event.own k (.assertCurrent sid generation now') s' :: tr₃ := by simp [htr]
  have hauth : Event.own k (.authenticate request generation now) s ∈ tr := by simp [htr]
  have hcheck : Event.own k (.assertCurrent sid generation now') s' ∈ tr := by simp [htr]
  have hpre := sound_pre hfactory hsound hrun
  have hnone := hfree tr₁ request generation now s tr₂ sid generation now' s' tr₃ htr'
    (by rw [hbetween]; exact hquiet)
  obtain ⟨-, hmoved⟩ := sessionOn_authenticate hlasting hauth hsession hresume hvalid hon
  have hlater : SessionOn sid request.owner (· = generation) s' := by
    rw [htr'] at hrun
    refine hrun.preserves_between hmoved fun e he hon => ?_
    have hmem : e ∈ tr := by simp [htr, he]
    exact sessionOn_post hfactory hlasting hmem (hpre e hmem)
      (fun hres => absurd hres (hnone e he)) hon
  obtain ⟨session, hget, -, hactive⟩ := hlater
  obtain ⟨before, hbefore, howner, -⟩ := hon
  have hg := (hlasting.accepts k request generation now s before hauth hsession hbefore).valid
  have hlive : now' < session.expiresAt :=
    hlasting.unexpired k (.assertCurrent sid generation now') s' _ session hcheck rfl hget
  rw [LogicalSessionRegistry.assertCurrent_of_active hvalid hg hget hlive hactive]

/-! ## One owner for each entry -/

/-- No instruction forgets an entry object.  Kind: L -/
theorem length_objects_apply (l : Instr H) (s : ServiceState H) :
    s.idempotency.objects.length ≤ (l.apply cfg s).idempotency.objects.length := by
  cases l with
  | idemEnter key fp now => exact IdempotencyCache.length_objects_le_enter
  | idemFail id e => simp [Instr.apply, IdempotencyCache.fail, IdempotencyCache.modifyObject]
  | idemComplete id result => exact (IdempotencyCache.length_objects_complete).ge
  | _ => exact le_rfl

/-- The environment leaves the idempotency cache alone.  Kind: L -/
theorem idempotency_env (e : EnvMove H) (s : ServiceState H) :
    (e.apply s).idempotency = s.idempotency := by
  cases e <;> rfl

/-- The entry of an owner is a new one.  Kind: L -/
theorem not_owner_twice {k k' : ℕ} {key key' : IdemKey} {fp fp' : String} {now now' : ℚ}
    {s s' : ServiceState H} {id : ℕ} {tr₁ tr₂ tr₃ : List (SvcEvent H)}
    (hrun : Run (serviceMachine cfg monotoneClock) (servicePool cfg deliveries s₀)
      (tr₁ ++ Event.own k (.idemEnter key fp now) s :: tr₂ ++
        Event.own k' (.idemEnter key' fp' now') s' :: tr₃) c)
    (howner : turnIn cfg key fp now s = .owner id) :
    turnIn cfg key' fp' now' s' ≠ .owner id := by
  intro howner'
  have hlater : id < s'.idempotency.objects.length := by
    refine hrun.preserves_between (P := fun u => id < u.idempotency.objects.length) ?_ ?_
    · exact (IdempotencyCache.tracks_of_owner howner).2.lt_length
    · intro e _ hlt
      cases e with
      | own j l u => exact hlt.trans_le (length_objects_apply l u)
      | env e u =>
          change id < (e.apply u).idempotency.objects.length
          rw [idempotency_env]
          exact hlt
  have hnew := (IdempotencyCache.tracks_of_owner howner').1
  omega

/-- Two deliveries do not own one entry.  Kind: L -/
theorem owner_unique {k k' : ℕ} {key key' : IdemKey} {fp fp' : String} {now now' : ℚ}
    {s s' : ServiceState H} {id : ℕ}
    (hrun : Run (serviceMachine cfg monotoneClock) (servicePool cfg deliveries s₀) tr c)
    (he : Event.own k (.idemEnter key fp now) s ∈ tr)
    (he' : Event.own k' (.idemEnter key' fp' now') s' ∈ tr)
    (howner : turnIn cfg key fp now s = .owner id)
    (howner' : turnIn cfg key' fp' now' s' = .owner id) : k = k' := by
  obtain ⟨tr₁, tr₂, rfl⟩ := List.append_of_mem he
  rcases List.mem_append.mp he' with hbefore | hafter
  · obtain ⟨tr₃, tr₄, rfl⟩ := List.append_of_mem hbefore
    exact (not_owner_twice hrun howner' howner).elim
  · rcases List.mem_cons.mp hafter with heq | hafter
    · cases heq
      rfl
    · obtain ⟨tr₃, tr₄, rfl⟩ := List.append_of_mem hafter
      rw [← List.cons_append, ← List.append_assoc] at hrun
      exact (not_owner_twice hrun howner howner').elim

end runs

/-! ## What the owner records -/

/-- Along its history `h`, a delivery was admitted, passed the checks in front of the operation and
became the owner of entry `id`, and the handler behind `solve` returned `result`.
Source: `remote/service.py`, `handle`, the closure `solve`.  Kind: D -/
def HandlerReturned (cfg : ServiceConfig H) (text : String) (generation : Generation)
    (a : Admission) (id : ℕ) (result : Fields) (h : SvcHistory H) : Prop :=
  ∃ hadm first hauth g t entered second hop,
    h = hadm ++ ([(.read .grantCheck, first)] ++ (hauth ++ ([(.read .clock, t),
      (.idemEnter (cacheKey a.request) (fingerprint cfg a.request) t.clock, entered)] ++
        ([(.read .grantCheck, second)] ++ hop)))) ∧
    Prog.Ends (admitRequest cfg text generation) hadm (.ok a) ∧
    Prog.Ends (assertGrantSnapshotCurrent a.snapshot) [(.read .grantCheck, first)] (.ok ()) ∧
    Prog.Ends (authorizeRequest cfg a.request a.snapshot.grant) hauth (.ok g) ∧
    turnIn cfg (cacheKey a.request) (fingerprint cfg a.request) t.clock entered = .owner id ∧
    Prog.Ends (assertGrantSnapshotCurrent a.snapshot) [(.read .grantCheck, second)] (.ok ()) ∧
    Prog.Ends (solveRequest cfg a.request a.snapshot.grant) hop (.ok result)

section owner

variable {text : String} {generation : Generation} {a : Admission} {id : ℕ} {result : Fields}
  {h h' : SvcHistory H}

/-- Behind the handler, the owner records the outcome of the checks that follow it.  Kind: L -/
theorem publishes_of_returned (hret : HandlerReturned cfg text generation a id result h)
    (hidem : isIdempotentOp a.request.op = true) {l : Instr H} {id' : ℕ} (hp : Publishes id' l)
    (hl : Prog.Reaches (handle cfg text generation) (h ++ h') l) :
    ∃ outcome, Prog.Ends (postchecks a.snapshot a.sessionId generation result) h' outcome ∧
      l = match outcome with
        | .ok r => .idemComplete id r
        | .error e => .idemFail id e := by
  obtain ⟨hadm, first, hauth, g, t, entered, second, hop, rfl, hadmission, hfirst, hg, howner,
    hsecond, hsolve⟩ := hret
  simp only [List.append_assoc] at hl
  have hl₁ := Prog.Reaches.rest hadmission hl
  have hl₂ : Prog.Reaches (execute cfg a.request a.snapshot a.sessionId generation)
      ([(.read .grantCheck, first)] ++ (hauth ++ ([(.read .clock, t),
        (.idemEnter (cacheKey a.request) (fingerprint cfg a.request) t.clock, entered)] ++
          ([(.read .grantCheck, second)] ++ (hop ++ h'))))) l := by
    rcases Prog.reaches_bind.mp hl₁ with hl | ⟨_, _, outcome, -, -, hl⟩
    · exact Prog.reaches_attempt.mp hl
    · rcases respond_only _ _ _ _ outcome _ _ hl with rfl | ⟨act, rfl⟩
      · exact hp.elim
      · exact hp.elim
  have hpost : ∀ outcome, Prog.Ends (solve cfg a.request a.snapshot a.sessionId generation)
      ([(.read .grantCheck, second)] ++ (hop ++ h')) outcome →
        Prog.Ends (postchecks a.snapshot a.sessionId generation result) h' outcome := by
    intro outcome hends
    have hrest := Prog.Ends.rest hsecond hends
    exact Prog.Ends.rest hsolve hrest
  have hl₃ := Prog.Reaches.rest hfirst hl₂
  have hl₄ := Prog.Reaches.rest hg hl₃
  rcases Prog.reaches_bind.mp hl₄ with hl | ⟨_, _, payload, -, -, hl⟩
  · rw [runOperation, if_pos hidem] at hl
    rcases idempotencyRun_reaches hl with ⟨-, rfl⟩ | ⟨u, -, rfl⟩ | ⟨u, s, rest, heq, hturn⟩
    · exact hp.elim
    · exact hp.elim
    · simp only [List.cons_append, List.nil_append, List.cons.injEq, Prod.mk.injEq] at heq
      obtain ⟨⟨-, rfl⟩, ⟨-, rfl⟩, rfl⟩ := heq
      rw [howner] at hturn
      cases hturn with
      | inside id h l hl => exact absurd hp.recording (solve_not_recording _ _ _ _ _ _ hl)
      | fail id h e hsolve' =>
          exact ⟨.error e, hpost _ hsolve', rfl⟩
      | complete id h r hsolve' =>
          exact ⟨.ok r, hpost _ hsolve', rfl⟩
  · exact absurd hp.recording.inner (finalChecks_not_inner _ _ _ _ payload _ _ hl)

/-- Where the handler has returned, the delivery owns the entry.  Kind: L -/
theorem owning_of_returned (hret : HandlerReturned cfg text generation a id result h) :
    Owning cfg text generation a id h := by
  obtain ⟨hadm, first, hauth, g, t, entered, second, hop, rfl, hadmission, -, -, howner, -, -⟩ :=
    hret
  refine ⟨hadm, (.read .grantCheck, first) :: hauth, t, entered,
    (.read .grantCheck, second) :: hop, ?_, admitRequest_ends hadmission, howner⟩
  simp

/-- Until its handler has returned, the owner records nothing.  Kind: L -/
theorem not_publishes_of_returned (hret : HandlerReturned cfg text generation a id result h) :
    ∀ x ∈ h, ∀ id', ¬Publishes id' x.1 := by
  obtain ⟨hadm, first, hauth, g, t, entered, second, hop, rfl, hadmission, -, hg, -, -, hsolve⟩ :=
    hret
  intro x hx id' hp
  simp only [List.mem_append, List.mem_cons, List.not_mem_nil, or_false] at hx
  rcases hx with hx | rfl | hx | (rfl | rfl) | rfl | hx
  · exact (admitRequest_ends hadmission).not_inner x hx hp.recording.inner
  · exact hp
  · exact ((authorizeRequest_only _ _).mem hg x hx).not_inner hp.recording.inner
  · exact hp
  · exact hp
  · exact hp
  · exact ((solveRequest_only _ _).mem hsolve x hx).not_recording hp.recording

/-- What the owner's checks saw lets them pass again.  Kind: L -/
theorem passed_of_returned {s₀ : ServiceState H}
    (hret : HandlerReturned cfg text generation a id result h)
    (halong : Prog.Along (fun _ s => Unchanged cfg a.request s₀ s) h) :
    Passed cfg a.request a.snapshot s₀ := by
  obtain ⟨hadm, first, hauth, g, t, entered, second, hop, rfl, hadmission, hfirst, hg, -⟩ := hret
  obtain ⟨_, _, _, _, hfence, -, rfl, -, -, -, -, -, -, hfence'⟩ := admitRequest_parts hadmission
  exact ⟨snapshotOf_of_admitRequest hadmission halong.left, ⟨_, halong.right.left, hfirst⟩,
    ⟨hauth, g, halong.right.right.left, hg⟩, ⟨hfence, halong.left.right.right.right, hfence'⟩⟩

/-- The envelope is admitted again, on a connection that the session accepts.  Kind: L -/
theorem admits_of_returned {s₀ : ServiceState H} {generation' : Generation}
    (hret : HandlerReturned cfg text generation a id result h)
    (halong : Prog.Along (fun _ s => Unchanged cfg a.request s₀ s) h) :
    Prog.Yields (Arriving cfg a.request generation' a.sessionId s₀) (· = a)
      (admitRequest cfg text generation') := by
  obtain ⟨hadm, first, hauth, g, t, entered, second, hop, rfl, hadmission, -, hg, -⟩ := hret
  obtain ⟨op, hop', -⟩ := (authorizeRequest_ends hg).permitted
  exact admitRequest_yields hadmission halong.left (by rw [hop']; rfl)

/-- The instructions the checks after the operation consist of.  Kind: L -/
theorem postchecks_only (snapshot : GrantSnapshot) (sessionId : String) (result : Fields) :
    Prog.Only (fun l : Instr H => ¬Recording l)
      (postchecks snapshot sessionId generation result) :=
  Prog.only_bind ((assertSessionCurrent_only _ _).mono fun _ hq => Acting.not_recording (.inl hq))
    fun _ => Prog.only_bind (only_read id _) fun _ => Prog.only_pure _

end owner

/-! ## Reuse -/

/-- A delivery reads the wall clock within the freshness window until it is authenticated. -/
def DeliveredFresh (cfg : ServiceConfig H) (request : RemoteRequest) (h : SvcHistory H) : Prop :=
  ∀ h₁ s h₂, h = h₁ ++ (.read .clock, s) :: h₂ →
    (∀ x ∈ h₁, ∀ other generation now, x.1 ≠ .authenticate other generation now) →
      FreshAt cfg request s

/-- Delivery `i` of an operation that is not a read, which resumes the session `sid`, owns entry
`id`, and its handler returned `result`; delivery `j` of the same envelope started after that and
has ended.  Meanwhile neither the caller's authority nor the fence changed, the session lasted, `j`
came within the freshness window and nobody resumed the session while it ran.  Kind: D -/
structure Reconnects (cfg : ServiceConfig H) (deliveries : ℕ → String × Generation)
    (s₀ : ServiceState H) (tr : List (SvcEvent H))
    (c : Pool (ServiceState H) (Instr H) PyError SignedResponse) (i j : ℕ) (a : Admission) (id : ℕ)
    (sid : String) (result : Fields) : Prop where
  /-- The operation is not a read. -/
  notRead : isIdempotentOp a.request.op = true
  /-- The request names the session. -/
  session : a.request.sessionId = some sid
  /-- It resumes it. -/
  resume : a.request.resume = true
  /-- `j` delivers the same envelope. -/
  duplicate : (deliveries j).1 = (deliveries i).1
  /-- It started after the handler of `i` had returned. -/
  returned : ∃ tr₁ tr₂, tr = tr₁ ++ tr₂ ∧ history j tr₁ = [] ∧
    HandlerReturned cfg (deliveries i).1 (deliveries i).2 a id result (history i tr₁)
  /-- It has run to completion. -/
  ended : ∃ out, c.threads j = Prog.finished out
  /-- The caller's grants and the fence are unchanged. -/
  unchanged : ∀ e ∈ tr, Unchanged cfg a.request s₀ e.pre
  /-- The session is unexpired and within its generation limit, each connection is new. -/
  lasting : Lasting cfg sid tr
  /-- `j` is delivered within the freshness window. -/
  fresh : DeliveredFresh cfg a.request (history j tr)
  /-- Nobody resumes the session while `j` runs. -/
  undisturbed : Uninterrupted sid a.request.owner j tr

/-- What the surroundings have to grant: the deliveries of the envelope reach the cache promptly,
the result can be saved and encoded, and what ends a self-revocation does not raise.  Kind: D -/
structure Recorded (cfg : ServiceConfig H) (deliveries : ℕ → String × Generation)
    (tr : List (SvcEvent H)) (i : ℕ) (a : Admission) (result : Fields) : Prop where
  /-- No delivery is stalled in front of the cache until the entry has expired. -/
  prompt : Prompt cfg deliveries (deliveries i).1 a.request.timestamp tr
  /-- The store saves the result. -/
  saved : ∀ id r s, Event.own i (.idemComplete id r) s ∈ tr → s.storeFault = none
  /-- The result is JSON. -/
  encodable : Value.encodableFields result = true
  /-- The commit of a self-revocation returns. -/
  commit : CommitReturns cfg a.request

section reuse

variable {deliveries : ℕ → String × Generation} {s₀ : ServiceState H} {tr : List (SvcEvent H)}
  {c : Pool (ServiceState H) (Instr H) PyError SignedResponse} {i j id : ℕ} {a : Admission}
  {sid : String} {result : Fields}

/-- The history of a delivery along a run in which nothing changed.  Kind: L -/
theorem Reconnects.along (h : Reconnects cfg deliveries s₀ tr c i j a id sid result) (k : ℕ)
    {tr' : List (SvcEvent H)} (hsub : tr' ⊆ tr) :
    Prog.Along (fun _ s => Unchanged cfg a.request s₀ s) (history k tr') :=
  fun x hx => h.unchanged (.own k x.1 x.2) (hsub (mem_history.mp hx))

/-- The first delivery resumed the session before its handler returned.  Kind: L -/
theorem resumed_of_returned {text : String} {generation : Generation} {h : SvcHistory H}
    (hret : HandlerReturned cfg text generation a id result h)
    (hsession : a.request.sessionId = some sid) :
    a.sessionId = sid ∧ validToken sid = true ∧ ∃ now s,
      (.authenticate a.request generation now, s) ∈ h ∧
        SessionOn sid a.request.owner (fun _ => True) s := by
  obtain ⟨h₁, h₂, t, s, h₃, rfl, ha, -⟩ := owning_of_returned hret
  obtain ⟨u, now, hmem, hok⟩ := ha.session
  obtain ⟨hsid, hvalid, session, hget, -, howner⟩ :=
    LogicalSessionRegistry.authenticate_eq_ok hsession hok
  exact ⟨hsid, hvalid, now, u, by simp [hmem], session, hget, howner, trivial⟩

section runs

variable (hfactory : Function.Injective cfg.sessions.factory)
  (hsound : LogicalSessionRegistry.Sound cfg.sessions s₀.sessions)
  (hrun : Run (serviceMachine cfg monotoneClock) (servicePool cfg deliveries s₀) tr c)
  (h : Reconnects cfg deliveries s₀ tr c i j a id sid result)
  (hfree : Uninterrupted sid a.request.owner i tr)

include hfactory hsound hrun h hfree

/-- **Who records an outcome for the entry** is its owner, and the outcome is the result of the
handler.  Kind: L -/
theorem publishes_result {k : ℕ} {l : Instr H} {s : ServiceState H} (he : Event.own k l s ∈ tr)
    (hp : Publishes id l) : k = i ∧ l = .idemComplete id result := by
  obtain ⟨tr₁, tr₂, rfl, -, hret⟩ := h.returned
  -- the owner of the entry is delivery `i`
  have hki : k = i := by
    obtain ⟨tr₃, tr₄, htr⟩ := List.append_of_mem he
    rw [htr] at hrun
    obtain ⟨a', h₁, h₂, t, u, h₃, hh, -, howner⟩ := handle_reaches_publishes hp hrun.reaches
    obtain ⟨g₁, g₂, t', u', g₃, hh', -, howner'⟩ := owning_of_returned hret
    refine owner_unique hrun ?_ ?_ howner howner'
    · refine List.mem_append_left _ (mem_history.mp ?_)
      rw [hh]
      simp
    · rw [← htr]
      refine List.mem_append_left _ (mem_history.mp ?_)
      rw [hh']
      simp
  subst hki
  refine ⟨rfl, ?_⟩
  rcases List.mem_append.mp he with he | he
  · exact absurd hp (not_publishes_of_returned hret _ (mem_history.mpr he) id)
  · obtain ⟨tr₃, tr₄, rfl⟩ := List.append_of_mem he
    have hreach : Prog.Reaches (handle cfg (deliveries k).1 (deliveries k).2)
        (history k tr₁ ++ history k tr₃) l := by
      rw [← List.append_assoc] at hrun
      rw [← history_append]
      exact hrun.reaches
    obtain ⟨outcome, hpost, hl⟩ := publishes_of_returned hret h.notRead hp hreach
    have hpassed := passed_of_returned hret (h.along k (List.subset_append_left _ _))
    obtain ⟨hsid, hvalid, now, u, hauth, hon⟩ := resumed_of_returned hret h.session
    have halong : Prog.Along (Passing cfg a.request (deliveries k).2 a.sessionId s₀)
        (history k tr₃) := by
      rintro ⟨l', s'⟩ hx
      refine ⟨h.along k (fun e he => by simp [he]) _ hx, ?_⟩
      rintro now' rfl
      rw [hsid]
      -- the owner has recorded nothing yet
      obtain ⟨g₁, g₂, hg⟩ := List.append_of_mem hauth
      obtain ⟨g₃, g₄, hg'⟩ := List.append_of_mem hx
      rw [hsid] at hg'
      have hhist : history k (tr₁ ++ (tr₃ ++ Event.own k l s :: tr₄)) =
          g₁ ++ (.authenticate a.request (deliveries k).2 now, u) :: ((g₂ ++ g₃) ++
            (.assertCurrent sid (deliveries k).2 now', s') :: (g₄ ++ (l, s) :: history k tr₄)) := by
        rw [history_append, history_append, history_cons, history_own_self, hg, hg']
        simp
      refine current_of_uninterrupted hfactory hsound hrun h.lasting hhist ?_ hfree hvalid h.session
        h.resume hon
      intro x hx id'
      rcases List.mem_append.mp hx with hx | hx
      · exact not_publishes_of_returned hret x (by simp [hg, hx]) id'
      · have hrec := (postchecks_only _ _ _).mem hpost x (by simp [hg', hx])
        exact fun hp => hrec hp.recording
    obtain ⟨r, rfl, rfl⟩ := postchecks_yields hpassed result _ _ hpost halong
    exact hl

/-- Behind the return of the handler, the entry holds the result as soon as its event is set.
Kind: L -/
theorem holds_of_returned (hsaved : ∀ id r s, Event.own i (.idemComplete id r) s ∈ tr →
      s.storeFault = none) {tr₁ tr₂ tr₃ : List (SvcEvent H)} {e : SvcEvent H}
    (htr : tr = tr₁ ++ tr₂ ++ e :: tr₃)
    (hret : HandlerReturned cfg (deliveries i).1 (deliveries i).2 a id result (history i tr₁)) :
    IdempotencyCache.Holds id (fingerprint cfg a.request) result e.pre.idempotency := by
  obtain ⟨h₁, h₂, t, u, h₃, hh, -, howner⟩ := owning_of_returned hret
  have henter : Event.own i (.idemEnter (cacheKey a.request) (fingerprint cfg a.request) t.clock) u
      ∈ tr₁ := mem_history.mp (by rw [hh]; simp)
  obtain ⟨tr₄, tr₅, rfl⟩ := List.append_of_mem henter
  have hpublishes := fun {k : ℕ} {l : Instr H} {s : ServiceState H}
    (he : Event.own k l s ∈ tr) (hp : Publishes id l) =>
      publishes_result hfactory hsound hrun h hfree he hp
  have hrun' : Run (serviceMachine cfg monotoneClock) (servicePool cfg deliveries s₀)
      (tr₄ ++ Event.own i (.idemEnter (cacheKey a.request) (fingerprint cfg a.request) t.clock) u ::
        (tr₅ ++ tr₂) ++ e :: tr₃) c := by
    rw [htr] at hrun
    simpa using hrun
  refine hrun'.preserves_between
    (P := fun s => IdempotencyCache.Holds id (fingerprint cfg a.request) result s.idempotency)
    (IdempotencyCache.holds_of_owner howner) fun x hx hholds => ?_
  have hmem : x ∈ tr := by
    rw [htr]
    rcases List.mem_append.mp hx with hx | hx
    · simp [hx]
    · simp [hx]
  cases x with
  | env x s =>
      change IdempotencyCache.Holds id _ result (x.apply s).idempotency
      rw [idempotency_env]
      exact hholds
  | own k l s =>
      cases l with
      | idemEnter key fp now => exact hholds.enter
      | idemFail id' e' =>
          by_cases hid : id' = id
          · cases (hpublishes hmem hid).2
          · exact hholds.fail hid e'
      | idemComplete id' r =>
          by_cases hid : id' = id
          · -- the owner's own record, which is saved
            obtain ⟨rfl, hl⟩ := hpublishes hmem hid
            cases hl
            have hsaved' := hsaved _ _ _ hmem
            change IdempotencyCache.Holds id _ result
              (s.idempotency.complete id result s.clock s.storeFault)
            rw [hsaved']
            exact hholds.complete
          · exact hholds.complete_other hid
      | _ => exact hholds

omit hfree in
/-- Behind the return of the handler, the session goes on.  Kind: L -/
theorem sessionOn_of_returned {tr₁ tr₂ tr₃ : List (SvcEvent H)} {e : SvcEvent H}
    (htr : tr = tr₁ ++ tr₂ ++ e :: tr₃)
    (hret : HandlerReturned cfg (deliveries i).1 (deliveries i).2 a id result (history i tr₁)) :
    SessionOn sid a.request.owner (fun _ => True) e.pre := by
  obtain ⟨-, hvalid, now, u, hauth, hon⟩ := resumed_of_returned hret h.session
  obtain ⟨tr₄, tr₅, rfl⟩ := List.append_of_mem (mem_history.mp hauth)
  have hauth' : Event.own i (.authenticate a.request (deliveries i).2 now) u ∈ tr := by
    rw [htr]
    simp
  have hpre := sound_pre hfactory hsound hrun
  obtain ⟨-, session, hget, howner, -⟩ :=
    sessionOn_authenticate h.lasting hauth' h.session h.resume hvalid hon
  have hrun' : Run (serviceMachine cfg monotoneClock) (servicePool cfg deliveries s₀)
      (tr₄ ++ Event.own i (.authenticate a.request (deliveries i).2 now) u ::
        (tr₅ ++ tr₂) ++ e :: tr₃) c := by
    rw [htr] at hrun
    simpa using hrun
  refine hrun'.preserves_between ⟨session, hget, howner, trivial⟩ fun x hx hon => ?_
  have hmem : x ∈ tr := by
    rw [htr]
    rcases List.mem_append.mp hx with hx | hx
    · simp [hx]
    · simp [hx]
  exact sessionOn_post hfactory h.lasting hmem (hpre x hmem) (fun _ _ => trivial) hon

omit hfactory hsound hrun hfree in
/-- The duplicate starts behind the return of the handler.  Kind: L -/
theorem later_of_duplicate {l : Instr H} {s : ServiceState H} (he : Event.own j l s ∈ tr) :
    ∃ tr₁ tr₂ tr₃, tr = tr₁ ++ tr₂ ++ Event.own j l s :: tr₃ ∧
      HandlerReturned cfg (deliveries i).1 (deliveries i).2 a id result (history i tr₁) := by
  obtain ⟨tr₁, rest, rfl, hnone, hret⟩ := h.returned
  rcases List.mem_append.mp he with he | he
  · have hmem := mem_history.mpr he
    rw [hnone] at hmem
    cases hmem
  · obtain ⟨tr₂, tr₃, rfl⟩ := List.append_of_mem he
    exact ⟨tr₁, tr₂, tr₃, by simp, hret⟩

omit hfactory hsound hfree in
/-- The duplicate is not an owner, and records nothing.  Kind: L -/
theorem duplicate_silent (hprompt : Prompt cfg deliveries (deliveries i).1 a.request.timestamp tr) :
    ∀ x ∈ history j tr, ∀ id', ¬Publishes id' x.1 := by
  rintro ⟨l, s⟩ hx id' hp
  obtain ⟨tr₁, tr₂, htr, hnone, hret⟩ := h.returned
  obtain ⟨tr₃, tr₄, htr'⟩ := List.append_of_mem (mem_history.mp hx)
  have howning := owning_of_returned hret
  have hnames : Names cfg (deliveries i).1 a.request := by
    obtain ⟨_, _, _, _, _, -, ha, -⟩ := howning
    exact ha.names
  obtain ⟨expiry, howns⟩ : ∃ expiry, OwnsIn cfg a.request i id expiry tr := by
    rw [htr] at hrun
    obtain ⟨c₁, hrun₁, -⟩ := hrun.cut
    obtain ⟨expiry, howns⟩ := ownsIn_of_owning hrun₁ howning
    exact ⟨expiry, howns.mono (by rw [htr]; exact List.subset_append_left _ _)⟩
  obtain ⟨id'', expiry', howns'⟩ : ∃ id'' expiry', OwnsIn cfg a.request j id'' expiry' tr := by
    rw [htr'] at hrun
    obtain ⟨a', howning'⟩ := handle_reaches_publishes hp hrun.reaches
    have hsame : a'.request = a.request := by
      obtain ⟨_, _, _, _, _, -, ha, -⟩ := howning'
      have hnames' := ha.names
      rw [h.duplicate] at hnames'
      exact hnames'.unique hnames
    obtain ⟨c₁, hrun₁, -⟩ := hrun.cut
    obtain ⟨expiry', howns'⟩ := ownsIn_of_owning hrun₁ howning'
    rw [hsame] at howns'
    exact ⟨id', expiry', howns'.mono (by rw [htr']; exact List.subset_append_left _ _)⟩
  -- both would be owners of the envelope
  have hij := ownsIn_unique hrun hprompt (h.duplicate ▸ hprompt) howns howns'
  subst hij
  obtain ⟨h₁, h₂, t, u, h₃, hh, -⟩ := howning
  rw [hnone] at hh
  simp at hh

omit hfree in
/-- The session goes on in front of every step of the duplicate.  Kind: L -/
theorem sessionOn_of_duplicate {l : Instr H} {s : ServiceState H} (hx : (l, s) ∈ history j tr) :
    SessionOn sid a.request.owner (fun _ => True) s := by
  obtain ⟨_, _, _, htr, hret⟩ := later_of_duplicate h (mem_history.mp hx)
  exact sessionOn_of_returned hfactory hsound hrun h htr hret

omit hfree in
/-- The duplicate finds what it needs to be admitted.  Kind: L -/
theorem duplicate_arrives {h₁ h₂ : SvcHistory H} {r : Except PyError Admission}
    (hh : history j tr = h₁ ++ h₂)
    (hadm : Prog.Ends (admitRequest cfg (deliveries j).1 (deliveries j).2) h₁ r) :
    Prog.Along (Arriving cfg a.request (deliveries j).2 a.sessionId s₀) h₁ := by
  rintro ⟨l, s⟩ hx
  have hmem : (l, s) ∈ history j tr := by
    rw [hh]
    exact List.mem_append_left _ hx
  refine ⟨h.along j (List.Subset.refl _) _ hmem, ?_, ?_⟩
  · rintro rfl
    obtain ⟨g₁, g₂, rfl⟩ := List.append_of_mem hx
    exact h.fresh g₁ s (g₂ ++ h₂) (by rw [hh]; simp)
      (admitRequest_reaches_clock (Prog.Follows.reaches hadm))
  · rintro now rfl
    obtain ⟨_, _, _, -, hret⟩ := h.returned
    obtain ⟨hsid, hvalid, -⟩ := resumed_of_returned hret h.session
    rw [hsid]
    exact (sessionOn_authenticate h.lasting (mem_history.mp hmem) h.session h.resume hvalid
      (sessionOn_of_duplicate hfactory hsound hrun h hmem)).1

omit hfactory hsound hfree in
/-- A duplicate that reaches the cache promptly finds the entry there.  Kind: L -/
theorem tracks_of_duplicate
    (hprompt : Prompt cfg deliveries (deliveries i).1 a.request.timestamp tr) {key : IdemKey}
    {fp : String} {now : ℚ} {s : ServiceState H}
    (hx : (.idemEnter key fp now, s) ∈ history j tr) :
    ∃ expiry, s.idempotency.Tracks (cacheKey a.request) id expiry ∧ now < expiry := by
  have hmem := mem_history.mp hx
  obtain ⟨tr₁, tr₂, tr₃, rfl, hret⟩ := later_of_duplicate h hmem
  obtain ⟨c₁, hrun₁, hpre, ⟨next, hnext⟩, -⟩ := hrun.split
  have hpre' : c₁.state = s := hpre
  obtain ⟨c₂, hrun₂, -⟩ := hrun₁.cut
  obtain ⟨expiry, howns⟩ := ownsIn_of_owning hrun₂ (owning_of_returned hret)
  have hbound : s.clock < expiry := by
    have hsoon := hprompt j key fp now s hmem h.duplicate
    obtain ⟨u, v, -, -, hexpiry, hfresh⟩ := howns
    linarith
  have hnow : now ≤ s.clock := by
    rw [← hpre']
    exact now_le_of_idemEnter hrun₁ hnext
  have htracks := tracksUntil_of_run hrun₁
    (howns.mono (List.subset_append_left _ tr₂)).claimed
  rw [hpre'] at htracks
  exact ⟨expiry, htracks.resolve_right (not_le.mpr hbound), hnow.trans_lt hbound⟩

/-- Once admitted, the duplicate finds the result of the first delivery.  Kind: L -/
theorem duplicate_reuses (hrec : Recorded cfg deliveries tr i a result) {h₁ h₂ : SvcHistory H}
    (hh : history j tr = h₁ ++ h₂)
    (hadm : Prog.Ends (admitRequest cfg (deliveries j).1 (deliveries j).2) h₁ (.ok a)) :
    Prog.Along (Reusing cfg a.request (deliveries j).2 a.sessionId s₀ id result) h₂ := by
  rintro ⟨l, s⟩ hx
  have hmem : (l, s) ∈ history j tr := by
    rw [hh]
    exact List.mem_append_right _ hx
  obtain ⟨tr₃, tr₄, tr₅, htr, hret⟩ := later_of_duplicate h (mem_history.mp hmem)
  have hholds : IdempotencyCache.Holds id (fingerprint cfg a.request) result s.idempotency :=
    holds_of_returned hfactory hsound hrun h hfree hrec.saved htr hret
  obtain ⟨hsid, hvalid, -⟩ := resumed_of_returned hret h.session
  refine ⟨⟨h.along j (List.Subset.refl _) _ hmem, ?_⟩, ?_, ?_⟩
  · -- the check of the connection
    rintro now' rfl
    obtain ⟨u, now, hauth, -⟩ := (admitRequest_ends hadm).session
    obtain ⟨g₁, g₂, hg⟩ := List.append_of_mem hauth
    obtain ⟨g₃, g₄, hg'⟩ := List.append_of_mem hx
    have hhist : history j tr = g₁ ++ (.authenticate a.request (deliveries j).2 now, u) ::
        ((g₂ ++ g₃) ++ (.assertCurrent sid (deliveries j).2 now', s) :: g₄) := by
      rw [hh, hg, hg', hsid]
      simp
    have hu : (.authenticate a.request (deliveries j).2 now, u) ∈ history j tr := by
      rw [hhist]
      simp
    rw [hsid]
    refine current_of_uninterrupted hfactory hsound hrun h.lasting hhist ?_ h.undisturbed hvalid
      h.session h.resume (sessionOn_of_duplicate hfactory hsound hrun h hu)
    intro x hx'
    refine duplicate_silent hrun h hrec.prompt x ?_
    rw [hhist]
    rcases List.mem_append.mp hx' with hx' | hx'
    · simp [hx']
    · simp [hx']
  · -- the cache
    rintro now rfl
    obtain ⟨expiry, htracks, hnow⟩ := tracks_of_duplicate hrun h hrec.prompt hmem
    exact IdempotencyCache.waiter_of_tracks htracks hholds hnow
  · -- the event
    rintro rfl
    rw [htr] at hrun
    obtain ⟨c₁, -, -, -, hready⟩ := hrun.split
    obtain ⟨entry, hobject, hout⟩ := IdempotencyCache.outcome_of_holds hholds hready
    simp only [awaited, hobject, hout]

/-- **Result reuse.**  However the deliveries interleave, when the handler of an operation that is
not a read has returned and nobody resumed the session between the authentication of its delivery
and the check behind the handler, every later duplicate that runs to completion undisturbed is
answered with status ok and the result of the handler.
Source: `remote/service.py`, `RemoteService.handle`; `remote/wire_protocol.py`,
`IdempotencyCache.run`; `remote/session.py`.  Kind: P -/
theorem result_reused (hrec : Recorded cfg deliveries tr i a result) :
    ∃ response, c.threads j = .ret response ∧ response.ok = true ∧
      response.payload = some result := by
  obtain ⟨out, hout⟩ := h.ended
  obtain ⟨tr₁, tr₂, htr, -, hret⟩ := h.returned
  have hsub : tr₁ ⊆ tr := by
    rw [htr]
    exact List.subset_append_left _ _
  have halong := h.along i hsub
  have hadmits : Prog.Yields (Arriving cfg a.request (deliveries j).2 a.sessionId s₀) (· = a)
      (admitRequest cfg (deliveries j).1 (deliveries j).2) := by
    rw [h.duplicate]
    exact admits_of_returned hret halong
  obtain ⟨response, rfl, hok, hpayload⟩ := handle_reuses (passed_of_returned hret halong) h.notRead
    hadmits hrec.encodable hrec.commit (hrun.ends hout)
    (fun h₁ h₂ r => duplicate_arrives hfactory hsound hrun h)
    (fun h₁ h₂ => duplicate_reuses hfactory hsound hrun h hfree hrec)
  exact ⟨response, hout, hok, hpayload⟩

end runs

end reuse

/-! ## Two deliveries on two connections -/

/-- Evaluation of `HandlerReturned` on the states that a delivery has seen: its admission, its entry
and the result of its handler, when that has just returned. -/
def handlerResult (cfg : ServiceConfig H) (text : String) (generation : Generation)
    (states : List (ServiceState H)) : Option (Admission × ℕ × Fields) :=
  match (admitRequest cfg text generation).feed states with
  | some (.ok a, rest₁) =>
      match (assertGrantSnapshotCurrent a.snapshot).feed rest₁ with
      | some (.ok (), rest₂) =>
          match (authorizeRequest cfg a.request a.snapshot.grant).feed rest₂ with
          | some (.ok _, t :: entered :: rest₃) =>
              match turnIn cfg (cacheKey a.request) (fingerprint cfg a.request) t.clock entered,
                (assertGrantSnapshotCurrent a.snapshot).feed rest₃ with
              | .owner id, some (.ok (), rest₄) =>
                  match (solveRequest cfg a.request a.snapshot.grant).feed rest₄ with
                  | some (.ok result, []) => some (a, id, result)
                  | _ => none
              | _, _ => none
          | _ => none
      | _ => none
  | _ => none

/-- The executable check of a returned handler is sound.  Kind: L -/
theorem handlerReturned_of_handlerResult {text : String} {generation : Generation} {a : Admission}
    {id : ℕ} {result : Fields} {h : SvcHistory H} {q : Svc H SignedResponse}
    (hfollows : Prog.Follows (handle cfg text generation) h q)
    (hidem : isIdempotentOp a.request.op = true)
    (hresult : handlerResult cfg text generation (h.map Prod.snd) = some (a, id, result)) :
    HandlerReturned cfg text generation a id result h := by
  unfold handlerResult at hresult
  split at hresult
  · rename_i a' rest₁ hadmission
    split at hresult
    · rename_i rest₂ hfirst
      split at hresult
      · rename_i g t entered rest₃ hauth
        split at hresult
        · rename_i id' rest₄ howner hsecond
          split at hresult
          · rename_i r hsolve
            cases hresult
            -- the evaluation stops in front of the checks behind the handler
            have hoperation : (solve cfg a.request a.snapshot a.sessionId generation).feed rest₃ =
                none := (Prog.feed_bind_ok hsecond).trans (Prog.feed_bind_ok hsolve)
            have hrun : (runOperation cfg a.request
                (solve cfg a.request a.snapshot a.sessionId generation)).feed
                  (t :: entered :: rest₃) = none := by
              rw [runOperation, if_pos hidem]
              change (idempotencyTurn _ (turnIn cfg _ _ t.clock entered)).feed rest₃ = none
              rw [howner]
              exact Prog.feed_bind_none (Prog.feed_attempt_none hoperation)
            have hexec : (execute cfg a.request a.snapshot a.sessionId generation).feed rest₁ =
                none := by
              refine (Prog.feed_bind_ok hfirst).trans ((Prog.feed_bind_ok hauth).trans ?_)
              exact Prog.feed_bind_none hrun
            have hnone : (handle cfg text generation).feed (h.map Prod.snd) = none :=
              (Prog.feed_bind_ok hadmission).trans
                (Prog.feed_bind_none (Prog.feed_attempt_none hexec))
            obtain ⟨l, hl⟩ := hfollows.reaches_of_feed hnone
            obtain ⟨hadm, h₁, rfl, hadmission', hl, rfl⟩ := hl.of_feed hadmission
            have hl₁ := Prog.reaches_attempt.mp (hl.of_feed_none (Prog.feed_attempt_none hexec))
            obtain ⟨hf, h₂, rfl, hfirst', hl₂, rfl⟩ := Prog.Reaches.of_feed hl₁ hfirst
            obtain ⟨hau, h₃, rfl, hauth', hl₃, hs₃⟩ := Prog.Reaches.of_feed hl₂ hauth
            have hl₄ := Prog.Reaches.of_feed_none hl₃ (by rw [hs₃]; exact hrun)
            rw [runOperation, if_pos hidem] at hl₄
            obtain ⟨u, rfl, -⟩ := assertGrantSnapshotCurrent_ends hfirst'
            rcases idempotencyRun_reaches hl₄ with ⟨rfl, -⟩ | ⟨_, rfl, -⟩ | ⟨_, _, h₄, rfl, hturn⟩
            · cases hs₃
            · cases hs₃
            · cases hs₃
              rw [howner] at hturn
              have hunended : ∀ out, ¬Prog.Ends
                  (solve cfg a.request a.snapshot a.sessionId generation) h₄ out := by
                intro out hends
                have hfeed := hends.feed []
                rw [List.append_nil, hoperation] at hfeed
                cases hfeed
              have hl₅ : Prog.Reaches (solve cfg a.request a.snapshot a.sessionId generation) h₄
                  l := by
                cases hturn with
                | inside id h l hl => exact hl
                | fail id h e hop => exact (hunended _ hop).elim
                | complete id h r hop => exact (hunended _ hop).elim
              obtain ⟨hs, h₅, rfl, hsecond', hl₆, rfl⟩ := Prog.Reaches.of_feed hl₅ hsecond
              obtain ⟨hop, h₆, rfl, hsolve', -, hnil⟩ := Prog.Reaches.of_feed hl₆ hsolve
              obtain ⟨v, rfl, -⟩ := assertGrantSnapshotCurrent_ends hsecond'
              rw [List.map_eq_nil_iff] at hnil
              subst hnil
              exact ⟨hadm, u, hau, g, _, _, v, hop, by simp, hadmission', hfirst', hauth', howner,
                hsecond', hsolve'⟩
          · cases hresult
        · cases hresult
      · cases hresult
    · cases hresult
  · cases hresult

/-- A self-revocation of the peer, which resumes its session. -/
def resumeEnvelope : Fields :=
  signFields "secret" [("caller_node_id", .str "coord"), ("node_id", .str "worker"),
    ("nonce", .str "n1"), ("op", .str "revoke_self"), ("params", .dict []),
    ("request_id", .str "r1"), ("resume", .bool true), ("session_id", .str "a"),
    ("ts", .int 100), ("v", .str "1")]

/-- The sample service that knows it. -/
def resumeConfig : ServiceConfig ℕ := sampleConfig [resumeEnvelope]

/-- The sample service, on which the peer has a session. -/
def resumeState : ServiceState ℕ :=
  { sampleState {.readState} with
    sessions := ⟨Dict.empty.insert "a" ⟨"coord", some "g0", 600, ∅⟩, [toLex (600, "a")], 1⟩ }

/-- Two deliveries on two connections. -/
def resumeDeliveries : ℕ → String × Generation := fun i =>
  (renderJson (.dict resumeEnvelope), if i = 0 then some "g1" else some "g2")

/-- Whether the event authenticates delivery `k`. -/
def authenticatesDelivery (k : ℕ) : SvcEvent ℕ → Bool
  | .own j (.authenticate _ _ _) _ => j = k
  | _ => false

/-- Whether the event authenticates a delivery. -/
def authenticatesAny : SvcEvent ℕ → Bool
  | .own _ (.authenticate _ _ _) _ => true
  | _ => false

/-- Whether the event is one of delivery `k`. -/
def ownedBy (k : ℕ) : SvcEvent ℕ → Bool
  | .own j _ _ => j = k
  | .env _ _ => false

/-- Whether `Lasting` holds at an event. -/
def lastsAt : SvcEvent ℕ → Bool
  | .own _ (.authenticate request generation now) s =>
      (s.sessions.sessions.get? "a").all fun session => decide (now < session.expiresAt) &&
        (request.sessionId != some "a" ||
          (decide ((LogicalSessionRegistry.validateGeneration generation).toOption =
              some generation) && decide (generation ∉ session.retired) &&
            decide (generation ≠ session.activeGeneration) && decide (session.retired.card < 64)))
  | .own _ (.assertCurrent _ _ now) s =>
      (s.sessions.sessions.get? "a").all fun session => decide (now < session.expiresAt)
  | _ => true

/-- Whether nothing around the deliveries has changed at an event. -/
def steadyAt (e : SvcEvent ℕ) : Bool :=
  decide (e.pre.auth = resumeState.auth) && decide (e.pre.clock = 100) &&
    e.pre.storeFault.isNone && lastsAt e

/-- The executable check of a lasting session is sound.  Kind: L -/
theorem lasting_of_lastsAt {tr : List (SvcEvent ℕ)} (h : tr.all lastsAt = true) :
    Lasting resumeConfig "a" tr := by
  have hat := List.all_eq_true.mp h
  refine ⟨fun k l s call session he hcall hget => ?_,
    fun k request generation now s session he hsession hget => ?_⟩
  · have hlast := hat _ he
    cases l with
    | authenticate request generation now =>
        cases hcall
        simp only [lastsAt, hget, Option.all_some, Bool.and_eq_true, decide_eq_true_eq] at hlast
        exact hlast.1
    | assertCurrent sessionId generation now =>
        cases hcall
        have hnow : now < session.expiresAt := by simpa [lastsAt, hget] using hlast
        exact hnow
    | _ => cases hcall
  · have hlast := hat _ he
    simp only [lastsAt, hget, hsession, Option.all_some, bne_self_eq_false, Bool.false_or,
      Bool.and_eq_true, decide_eq_true_eq] at hlast
    obtain ⟨-, ⟨⟨hvalid, hfresh⟩, hother⟩, hroom⟩ := hlast
    exact ⟨Except.eq_ok_of_toOption hvalid, hfresh, hother, hroom⟩

/-- The executable check of an unchanged authority is sound.  Kind: L -/
theorem unchanged_of_steadyAt {tr : List (SvcEvent ℕ)} (h : tr.all steadyAt = true)
    (request : RemoteRequest) : ∀ e ∈ tr, Unchanged resumeConfig request resumeState e.pre := by
  intro e he
  have hsteady := List.all_eq_true.mp h e he
  simp only [steadyAt, Bool.and_eq_true, decide_eq_true_eq] at hsteady
  obtain ⟨⟨⟨hauth, -⟩, -⟩, -⟩ := hsteady
  refine ⟨⟨by rw [hauth], by rw [hauth], by rw [hauth], by rw [hauth], ?_, ?_, ?_⟩, by rw [hauth]⟩
  · -- the only grant does not expire
    intro caller g _ hget
    have hexpiry : g.expiresAt = none := by
      simp only [resumeState, sampleState, Dict.get?_insert] at hget
      split at hget
      · cases hget
        rfl
      · cases hget
    simp [PeerGrant.expired, hexpiry]
  · intro g hg
    cases hg
  · intro authorize hauthorize
    cases hauthorize

/-- A delivery is uninterrupted when nobody else is authenticated behind it, within a part of the
trace behind which it does nothing.  Kind: L -/
theorem uninterrupted_of_all {tr tr' : List (SvcEvent ℕ)} {k : ℕ} (owner : String)
    (h : (tr.dropWhile (!authenticatesDelivery k ·)).tail.all (!authenticatesAny ·) = true)
    (h' : tr'.all (!ownedBy k ·) = true) : Uninterrupted "a" owner k (tr ++ tr') := by
  rintro tr₁ request generation now s tr₂ sid generation' now' s' tr₃ htr - e he hres
  -- the check is in the first part
  obtain ⟨rest, rfl⟩ : ∃ rest, tr = tr₁ ++ Event.own k (.authenticate request generation now) s ::
      tr₂ ++ Event.own k (.assertCurrent sid generation' now') s' :: rest := by
    have hout : Event.own k (.assertCurrent sid generation' now') s' ∉ tr' := by
      intro hmem
      have hnot := List.all_eq_true.mp h' _ hmem
      simp [ownedBy] at hnot
    rcases List.append_eq_append_iff.mp htr with ⟨a, -, rfl⟩ | ⟨b, rfl, hb⟩
    · simp at hout
    · cases b with
      | nil =>
          rw [List.nil_append] at hb
          simp [← hb] at hout
      | cons x b =>
          rw [List.cons_append, List.cons.injEq] at hb
          obtain ⟨rfl, -⟩ := hb
          exact ⟨b, rfl⟩
  have hmem : ∀ tr₁ : List (SvcEvent ℕ), e ∈ ((tr₁ ++ Event.own k (.authenticate request generation
      now) s :: tr₂ ++ Event.own k (.assertCurrent sid generation' now') s' ::
        rest).dropWhile (!authenticatesDelivery k ·)).tail := by
    intro tr₁
    induction tr₁ with
    | nil => simp [authenticatesDelivery, he]
    | cons x tr₁ ih =>
        by_cases hx : authenticatesDelivery k x = true
        · simp [hx, he]
        · simpa [hx] using ih
  have hnot := List.all_eq_true.mp h e (hmem tr₁)
  cases e with
  | env x s => exact hres
  | own j l s =>
      cases l with
      | authenticate request generation now => simp [authenticatesAny] at hnot
      | _ => exact hres

/-- Whether a thread has ended. -/
def hasEnded {σ ι ε α : Type} : Prog σ ι ε α → Bool
  | .step _ _ => false
  | _ => true

/-- The executable check of a finished thread is sound.  Kind: L -/
theorem eq_finished_of_hasEnded {σ ι ε α : Type} {p : Prog σ ι ε α} (h : hasEnded p = true) :
    ∃ out, p = Prog.finished out := by
  cases p with
  | ret a => exact ⟨.ok a, rfl⟩
  | fail e => exact ⟨.error e, rfl⟩
  | step l next => cases h

/-- Whether the second delivery is a later duplicate of the first, whose handler has returned after
`n` events. -/
def reconnectsTest (n : ℕ)
    (out : List (SvcEvent ℕ) × Pool (ServiceState ℕ) (Instr ℕ) PyError SignedResponse) : Bool :=
  out.1.all steadyAt && (history 1 (out.1.take n)).isEmpty && hasEnded (out.2.threads 1) &&
    (out.1.dropWhile (!authenticatesDelivery 1 ·)).tail.all (!authenticatesAny ·) &&
    (handlerResult resumeConfig (renderJson (.dict resumeEnvelope)) (some "g1")
      ((history 0 (out.1.take n)).map Prod.snd)).any fun x =>
        isIdempotentOp x.1.request.op && decide (x.1.request.sessionId = some "a") &&
          x.1.request.resume && decide (x.1.request.timestamp = 100) && Value.encodableFields x.2.2

/-- The executable check of the reconnection is sound.  Kind: L -/
theorem reconnects_of_test {tr : List (SvcEvent ℕ)}
    {c : Pool (ServiceState ℕ) (Instr ℕ) PyError SignedResponse} {n : ℕ}
    (hrun : Run (serviceMachine resumeConfig monotoneClock)
      (servicePool resumeConfig resumeDeliveries resumeState) tr c)
    (h : reconnectsTest n (tr, c) = true) :
    ∃ a id result, Reconnects resumeConfig resumeDeliveries resumeState tr c 0 1 a id "a" result ∧
      Recorded resumeConfig resumeDeliveries tr 0 a result := by
  simp only [reconnectsTest, Bool.and_eq_true] at h
  obtain ⟨⟨⟨⟨hsteady, hlater⟩, hended⟩, hfree⟩, hresult⟩ := h
  obtain ⟨⟨a, id, result⟩, hresult, htest⟩ := Option.any_eq_true _ _ |>.mp hresult
  simp only [Bool.and_eq_true, decide_eq_true_eq] at htest
  obtain ⟨⟨⟨⟨hidem, hsession⟩, hresume⟩, hts⟩, hencodable⟩ := htest
  have hat : ∀ e ∈ tr, e.pre.clock = 100 ∧ e.pre.storeFault = none ∧ lastsAt e = true := by
    intro e he
    have hat := List.all_eq_true.mp hsteady e he
    simp only [steadyAt, Bool.and_eq_true, decide_eq_true_eq, Option.isNone_iff_eq_none] at hat
    exact ⟨hat.1.1.2, hat.1.2, hat.2⟩
  have hreturned : HandlerReturned resumeConfig (resumeDeliveries 0).1 (resumeDeliveries 0).2 a id
      result (history 0 (tr.take n)) := by
    rw [← List.take_append_drop n tr] at hrun
    obtain ⟨c₁, hrun₁, -⟩ := hrun.cut
    exact handlerReturned_of_handlerResult (hrun₁.follows 0) hidem hresult
  refine ⟨a, id, result, ⟨hidem, hsession, hresume, rfl, ⟨tr.take n, tr.drop n,
    (List.take_append_drop n tr).symm, by simpa using hlater, hreturned⟩,
    eq_finished_of_hasEnded hended, unchanged_of_steadyAt hsteady a.request, ?_, ?_, ?_⟩,
    ⟨?_, ?_, hencodable, ?_⟩⟩
  · exact lasting_of_lastsAt (List.all_eq_true.mpr fun e he => (hat e he).2.2)
  · intro h₁ s h₂ hh _
    have hclock := (hat (.own 1 (.read .clock) s) (mem_history.mp (by rw [hh]; simp))).1
    simp only [Event.pre] at hclock
    simp only [FreshAt, hclock, hts]
    norm_num [resumeConfig, sampleConfig]
  · have hnone : ([] : List (SvcEvent ℕ)).all (!ownedBy 1 ·) = true := rfl
    have hall := uninterrupted_of_all a.request.owner hfree hnone
    rwa [List.append_nil] at hall
  · intro k key fp now s hmem _
    have hclock := (hat _ hmem).1
    simp only [Event.pre] at hclock
    rw [hclock, hts]
    norm_num [resumeConfig, sampleConfig]
  · exact fun id r s hmem => (hat _ hmem).2.1
  · intro commit hcommit
    cases hcommit

/-- The registry of the sample is sound.  Kind: L -/
theorem resumeState_sound :
    LogicalSessionRegistry.Sound resumeConfig.sessions resumeState.sessions := by
  have hone : ∀ id s, resumeState.sessions.sessions.get? id = some s →
      id = "a" ∧ s = ⟨"coord", some "g0", 600, ∅⟩ := by
    intro id s hs
    simp only [resumeState, Dict.get?_insert] at hs
    split at hs
    · rename_i hid
      cases hs
      exact ⟨hid.symm, rfl⟩
    · cases hs
  refine ⟨fun id s hs => ?_, fun id s hs => ?_, fun id s hs => ?_⟩
  · obtain ⟨rfl, -⟩ := hone id s hs
    exact ⟨0, Nat.zero_lt_one, rfl⟩
  · obtain ⟨-, rfl⟩ := hone id s hs
    exact Nat.zero_le _
  · obtain ⟨-, rfl⟩ := hone id s hs
    simp

/-- The second delivery arrives on a new connection after the first has run to its end: it gets the
result. -/
theorem result_reused_revoke :
    ∃ tr c response result, Run (serviceMachine resumeConfig monotoneClock)
        (servicePool resumeConfig resumeDeliveries resumeState) tr c ∧
      c.threads 1 = .ret response ∧ response.ok = true ∧ response.payload = some result := by
  have hexec : (Pool.exec (serviceMachine resumeConfig monotoneClock) clockOk
      (List.replicate 22 (.thread 0) ++ List.replicate 16 (.thread 1))
      (servicePool resumeConfig resumeDeliveries resumeState)).any
      (fun out => reconnectsTest 13 out &&
        ((out.1.take 22).dropWhile (!authenticatesDelivery 0 ·)).tail.all (!authenticatesAny ·) &&
          (out.1.drop 22).all (!ownedBy 0 ·)) = true := by decide +kernel
  obtain ⟨tr, c, hrun, htest⟩ := Run.of_exec monotoneClock_of_clockOk hexec
  simp only [Bool.and_eq_true] at htest
  obtain ⟨⟨htest, hfirst⟩, hrest⟩ := htest
  obtain ⟨a, id, result, hreconnects, hrecorded⟩ := reconnects_of_test hrun htest
  have hfree : Uninterrupted "a" a.request.owner 0 tr := by
    have hall := uninterrupted_of_all a.request.owner hfirst hrest
    rwa [List.take_append_drop] at hall
  obtain ⟨response, hret, hok, hpayload⟩ := result_reused
    LogicalSessionRegistry.unaryConfig_injective resumeState_sound hrun hreconnects hfree hrecorded
  exact ⟨tr, c, response, result, hrun, hret, hok, hpayload⟩

/-- The second delivery arrives, on a new connection, between the return of the handler and the
check behind it: the effect is committed, and both deliveries are refused. -/
theorem overlapping_duplicate_is_refused :
    ∃ tr c a id result, Function.Injective resumeConfig.sessions.factory ∧
      LogicalSessionRegistry.Sound resumeConfig.sessions resumeState.sessions ∧
      Run (serviceMachine resumeConfig monotoneClock)
        (servicePool resumeConfig resumeDeliveries resumeState) tr c ∧
      Reconnects resumeConfig resumeDeliveries resumeState tr c 0 1 a id "a" result ∧
      Recorded resumeConfig resumeDeliveries tr 0 a result ∧
      ¬∃ response, c.threads 1 = .ret response ∧ response.ok = true ∧
        response.payload = some result := by
  have hexec : (Pool.exec (serviceMachine resumeConfig monotoneClock) clockOk
      (List.replicate 13 (.thread 0) ++ List.replicate 10 (.thread 1) ++
        List.replicate 3 (.thread 0) ++ [.thread 1])
      (servicePool resumeConfig resumeDeliveries resumeState)).any
      (fun out => reconnectsTest 13 out && !answeredOk 1 out.2) = true := by decide +kernel
  obtain ⟨tr, c, hrun, htest⟩ := Run.of_exec monotoneClock_of_clockOk hexec
  rw [Bool.and_eq_true] at htest
  obtain ⟨a, id, result, hreconnects, hrecorded⟩ := reconnects_of_test hrun htest.1
  refine ⟨tr, c, a, id, result, LogicalSessionRegistry.unaryConfig_injective, resumeState_sound,
    hrun, hreconnects, hrecorded, ?_⟩
  rintro ⟨response, hret, hok, -⟩
  simp [answeredOk, hret, hok] at htest

end ExpraConnect
