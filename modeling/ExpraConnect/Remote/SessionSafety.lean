import ExpraConnect.Remote.Session

/-!
# What a logical session keeps over whole runs

`SessionCall` is one atomic call of the registry, with the clock reading it gets; readings are
arbitrary, also going back.  A run is a list of calls from the empty registry.

* `apply_cases`: everything one call can do to a given session: leave it, delete it, or move it to
  another generation, the last only as a resume of its owner (the inversion lemma everything
  else is derived from);
* `Registry` invariant `Sound`: ids come from the factory and histories are bounded;
* `runCalls_cases`: what a whole run can do to a session, and a dead id stays dead;
* `session_safety`: retired generations never come back, owner and expiry are fixed, foreign and
  retired requests have no effect, only the owner's resume moves a session, and the retired set
  only grows, within its bound.
-/

namespace ExpraConnect

open ExpraConnect.Lib

namespace LogicalSessionRegistry

/-- One atomic call of the registry.  Source: `remote/session.py`.  Kind: D -/
inductive SessionCall where
  /-- `authenticate(request, connection_generation=generation)` at clock reading `now`. -/
  | authenticate (request : RemoteRequest) (generation : Generation) (now : ℚ)
  /-- `assert_current(session_id, generation)` at clock reading `now`. -/
  | assertCurrent (sessionId : String) (generation : Generation) (now : ℚ)

/-- The clock reading of a call. -/
def SessionCall.now : SessionCall → ℚ
  | authenticate _ _ now => now
  | assertCurrent _ _ now => now

variable (cfg : SessionConfig)

/-- What a call does to the registry. -/
def SessionCall.apply : SessionCall → LogicalSessionRegistry → LogicalSessionRegistry
  | .authenticate request generation now, r =>
      (LogicalSessionRegistry.authenticate cfg request generation now r).2
  | .assertCurrent sessionId generation now, r =>
      (LogicalSessionRegistry.assertCurrent sessionId generation now r).2

/-- A finite run of calls. -/
def runCalls (calls : List SessionCall) (r : LogicalSessionRegistry) : LogicalSessionRegistry :=
  calls.foldl (fun r call => call.apply cfg r) r

/-- The call is a resume of the session `id` by its owner, onto `generation`. -/
def SessionCall.ResumesOnto (s : LogicalSession) (id : String) (generation : Generation) :
    SessionCall → Prop
  | .authenticate request g _ =>
      g = generation ∧ request.sessionId = some id ∧ request.resume = true ∧
        request.owner = s.owner
  | .assertCurrent _ _ _ => False

/-- The call comes from another identity or from a superseded connection. -/
def SessionCall.Fenced (s : LogicalSession) : SessionCall → Prop
  | .authenticate request g _ => request.owner ≠ s.owner ∨ g ∈ s.retired
  | .assertCurrent _ g _ => g ∈ s.retired

variable {cfg} {r : LogicalSessionRegistry} {id : String} {s : LogicalSession}

/-! ## One call -/

/-- Pruning deletes expired sessions only.  Kind: L -/
theorem pruneLoop_get? {now : ℚ} {items : List (ℚ ×ₗ String)}
    {sessions : Dict String LogicalSession}
    (hs : sessions.get? id = some s) (hlive : now < s.expiresAt) :
    (pruneLoop now items sessions).2.get? id = some s := by
  induction items generalizing sessions with
  | nil => exact hs
  | cons item rest ih =>
      unfold pruneLoop
      split
      · rename_i hexp
        apply ih
        split
        · rename_i hany
          have hne : (ofLex item).2 ≠ id := by
            rintro rfl
            rw [hs] at hany
            simp only [Option.any_some, decide_eq_true_eq] at hany
            rw [hany] at hlive
            exact absurd hexp (not_le.mpr hlive)
          rw [Dict.get?_erase_of_ne _ hne]
          exact hs
        · exact hs
      · exact hs

/-- Pruning never creates or changes a session.  Kind: L -/
theorem get?_of_pruneLoop {now : ℚ} {items : List (ℚ ×ₗ String)}
    {sessions : Dict String LogicalSession}
    (h : (pruneLoop now items sessions).2.get? id = some s) : sessions.get? id = some s := by
  induction items generalizing sessions with
  | nil => exact h
  | cons item rest ih =>
      unfold pruneLoop at h
      split at h
      · have h' := ih h
        split at h'
        · rw [Dict.get?_erase] at h'
          split at h'
          · cases h'
          · exact h'
        · exact h'
      · exact h

/-- An allocated id is drawn by the call and was free.  Kind: L -/
theorem allocateId_eq_ok {factory : ℕ → String} {sessions : Dict String LogicalSession}
    {tries drawn drawn' : ℕ} (h : allocateId factory sessions tries drawn = (.ok id, drawn')) :
    sessions.get? id = none ∧ ∃ n, drawn ≤ n ∧ n < drawn' ∧ factory n = id := by
  induction tries generalizing drawn with
  | zero => simp [allocateId] at h
  | succ tries ih =>
      unfold allocateId at h
      split at h
      · simp at h
      · split at h
        · obtain ⟨hnone, n, hn, hn', hid⟩ := ih h
          exact ⟨hnone, n, by omega, hn', hid⟩
        · rename_i hnew
          cases h
          refine ⟨?_, drawn, le_rfl, Nat.lt_succ_self _, rfl⟩
          simpa [Dict.contains] using hnew

/-- Ids are drawn upwards.  Kind: L -/
theorem drawn_le_allocateId (factory : ℕ → String) (sessions : Dict String LogicalSession)
    (tries drawn : ℕ) : drawn ≤ (allocateId factory sessions tries drawn).2 := by
  induction tries generalizing drawn with
  | zero => exact le_rfl
  | succ tries ih =>
      unfold allocateId
      split
      · exact Nat.le_succ _
      · split
        · exact (Nat.le_succ _).trans (ih _)
        · exact Nat.le_succ _

/-- The id was returned by the factory before. -/
def Drawn (cfg : SessionConfig) (r : LogicalSessionRegistry) (id : String) : Prop :=
  ∃ n, n < r.drawn ∧ cfg.factory n = id

/-- `_create` touches an id that was drawn before only by pruning it.  Kind: L -/
theorem create_get? (hf : Function.Injective cfg.factory) (hid : Drawn cfg r id) (owner : String)
    (generation : Generation) (now : ℚ) :
    (create cfg owner generation now r).2.sessions.get? id = (r.prune now).sessions.get? id := by
  unfold create
  dsimp only
  split
  · rfl
  · split
    · rfl
    · rename_i new drawn halloc
      obtain ⟨-, n, hn, -, hnew⟩ := allocateId_eq_ok halloc
      obtain ⟨m, hm, rfl⟩ := hid
      have hne : new ≠ cfg.factory m := by
        rintro rfl
        have hlt : m < n := lt_of_lt_of_le hm hn
        exact absurd (hf hnew) (ne_of_gt hlt)
      exact Dict.get?_insert_of_ne _ _ hne

/-- What `continueSession` can do to the session it names.  Kind: L -/
theorem continueSession_cases (owner : String) (resume : Bool) (generation : Generation) (now : ℚ)
    (h : r.sessions.get? id = some s) :
    let out := (continueSession cfg id owner resume generation now r).2.sessions.get? id
    out = some s ∨ (out = none ∧ s.expiresAt ≤ now) ∨
      (resume = true ∧ owner = s.owner ∧ generation ∉ s.retired ∧ generation ≠ s.activeGeneration ∧
        (out = none ∨ s.retired.card < cfg.maxGenerations ∧ out = some (s.moveTo generation))) := by
  intro out
  by_cases hlive : now < s.expiresAt
  · have hs : r.live id now = some s := live_eq_some_iff.mpr ⟨h, hlive⟩
    by_cases howner : s.owner = owner
    · by_cases hret : generation ∈ s.retired
      · exact .inl (by simpa [out, continueSession, hs, howner, hret] using h)
      · by_cases hact : generation = s.activeGeneration
        · exact .inl (by simpa [out, continueSession, hs, howner, ← hact, hret] using h)
        · cases resume with
          | false => exact .inl (by simpa [out, continueSession, hs, howner, hret, hact] using h)
          | true =>
              refine .inr (.inr ⟨rfl, howner.symm, hret, hact, ?_⟩)
              by_cases hlimit : cfg.maxGenerations ≤ s.retired.card
              · exact .inl (by simp [out, continueSession, hs, howner, hret, hact, hlimit])
              · refine .inr ⟨not_le.mp hlimit, ?_⟩
                simp [out, continueSession, hs, howner, hret, hact, hlimit]
    · exact .inl (by simpa [out, continueSession, hs, howner] using h)
  · have hs : r.live id now = none := by simpa [live, h] using hlive
    exact .inr (.inl ⟨by simp [out, continueSession, hs], not_lt.mp hlive⟩)

/-- Continuing a session leaves the others alone.  Kind: L -/
theorem continueSession_of_ne {sessionId owner : String} {resume : Bool} {generation : Generation}
    {now : ℚ} (hne : sessionId ≠ id) :
    (continueSession cfg sessionId owner resume generation now r).2.sessions.get? id =
      r.sessions.get? id := by
  unfold continueSession
  split
  · exact Dict.get?_erase_of_ne _ hne
  · split_ifs
    · rfl
    · rfl
    · rfl
    · rfl
    · exact Dict.get?_erase_of_ne _ hne
    · exact Dict.get?_insert_of_ne _ _ hne

/-- A call on an id without a session does not make one.  Kind: L -/
theorem continueSession_none {owner : String} {resume : Bool} {generation : Generation} {now : ℚ}
    (h : r.sessions.get? id = none) :
    (continueSession cfg id owner resume generation now r).2.sessions.get? id = none := by
  simp [continueSession, live, h]

/-- What one call did to the session `s` under `id`. -/
inductive Fate (cfg : SessionConfig) (s : LogicalSession) (id : String) (call : SessionCall) :
    Option LogicalSession → Prop
  /-- Nothing. -/
  | kept : Fate cfg s id call (some s)
  /-- It was expired and is gone. -/
  | expired (h : s.expiresAt ≤ call.now) : Fate cfg s id call none
  /-- Its owner asked for more generations than it may retire, and it is gone. -/
  | exhausted (generation : Generation) (h : call.ResumesOnto s id generation)
      (hret : generation ∉ s.retired) : Fate cfg s id call none
  /-- Its owner moved it. -/
  | moved (generation : Generation) (h : call.ResumesOnto s id generation)
      (hret : generation ∉ s.retired) (hact : generation ≠ s.activeGeneration)
      (hlimit : s.retired.card < cfg.maxGenerations) :
      Fate cfg s id call (some (s.moveTo generation))

/-- **Everything one call can do to a session.**  Kind: L -/
theorem apply_fate (hf : Function.Injective cfg.factory) (hid : Drawn cfg r id)
    (hs : r.sessions.get? id = some s) (call : SessionCall) :
    Fate cfg s id call ((call.apply cfg r).sessions.get? id) := by
  cases call with
  | authenticate request generation now =>
      simp only [SessionCall.apply, authenticate]
      split
      · rw [hs]
        exact .kept
      · rename_i g hg
        cases validateGeneration_eq_ok hg
        split
        · -- a new session: this one is at most pruned
          rw [create_get? hf hid]
          by_cases hlive : now < s.expiresAt
          · have hkept : (r.prune now).sessions.get? id = some s := pruneLoop_get? hs hlive
            rw [hkept]
            exact .kept
          · cases hp : (r.prune now).sessions.get? id with
            | none => exact .expired (not_lt.mp hlive)
            | some s' =>
                have hs' := get?_of_pruneLoop hp
                rw [hs] at hs'
                cases hs'
                exact .kept
        · rename_i sessionId hsession
          split
          · rw [hs]
            exact .kept
          · by_cases hsid : sessionId = id
            · subst hsid
              rcases continueSession_cases request.owner request.resume generation now hs with
                h | ⟨h, hexp⟩ | ⟨hres, howner, hret, hact, h⟩
              · rw [h]
                exact .kept
              · rw [h]
                exact .expired hexp
              · have hresumes : (SessionCall.authenticate request generation now).ResumesOnto s
                    sessionId generation := ⟨rfl, hsession, hres, howner⟩
                rcases h with h | ⟨hlimit, h⟩
                · rw [h]
                  exact .exhausted generation hresumes hret
                · rw [h]
                  exact .moved generation hresumes hret hact hlimit
            · rw [continueSession_of_ne hsid, hs]
              exact .kept
  | assertCurrent sessionId generation now =>
      simp only [SessionCall.apply, assertCurrent]
      split
      · rw [hs]
        exact .kept
      · split
        · rw [hs]
          exact .kept
        · split
          · rename_i hlive
            by_cases hsid : sessionId = id
            · subst hsid
              simp only [Dict.get?_erase_self]
              have hexp : s.expiresAt ≤ now := by simpa [live, hs] using hlive
              exact .expired hexp
            · simp only [Dict.get?_erase_of_ne _ hsid, hs]
              exact .kept
          · split <;>
            · rw [hs]
              exact .kept

/-- A drawn id without a session never gets one again.  Kind: L -/
theorem apply_dead (hf : Function.Injective cfg.factory) (hid : Drawn cfg r id)
    (hs : r.sessions.get? id = none) (call : SessionCall) :
    (call.apply cfg r).sessions.get? id = none := by
  cases call with
  | authenticate request generation now =>
      simp only [SessionCall.apply, authenticate]
      split
      · exact hs
      · split
        · rw [create_get? hf hid]
          cases hp : (r.prune now).sessions.get? id with
          | none => rfl
          | some s' =>
              have hs' := get?_of_pruneLoop hp
              rw [hs] at hs'
              cases hs'
        · rename_i sessionId hsession
          split
          · exact hs
          · by_cases hsid : sessionId = id
            · subst hsid
              exact continueSession_none hs
            · rw [continueSession_of_ne hsid]
              exact hs
  | assertCurrent sessionId generation now =>
      simp only [SessionCall.apply, assertCurrent]
      split
      · exact hs
      · split
        · exact hs
        · split
          · rw [Dict.get?_erase]
            split
            · rfl
            · exact hs
          · split <;> exact hs

/-! ## A session that lasts -/

/-- The session can be resumed onto `generation`: a valid token that it has not been on, within the
bound of retirements. -/
structure Accepts (cfg : SessionConfig) (s : LogicalSession)
    (generation : Generation) : Prop where
  /-- The token is valid. -/
  valid : validateGeneration generation = .ok generation
  /-- It is not a superseded connection. -/
  fresh : generation ∉ s.retired
  /-- It is not the current connection. -/
  other : generation ≠ s.activeGeneration
  /-- The current connection can still be retired. -/
  room : s.retired.card < cfg.maxGenerations

/-- A request that names a session is authenticated under that session, which is live and its
caller's.  Kind: L -/
theorem authenticate_eq_ok {request : RemoteRequest} {generation : Generation} {now : ℚ}
    {out : String} (hsession : request.sessionId = some id)
    (h : (authenticate cfg request generation now r).1 = .ok out) :
    out = id ∧ validToken id = true ∧
      ∃ s, r.sessions.get? id = some s ∧ now < s.expiresAt ∧ s.owner = request.owner := by
  simp only [authenticate, hsession] at h
  split at h
  · cases h
  · split at h
    · cases h
    · rename_i hvalid
      unfold continueSession at h
      split at h
      · cases h
      · rename_i s hlive
        obtain ⟨hs, hnow⟩ := live_eq_some_iff.mp hlive
        by_cases howner : s.owner = request.owner
        · refine ⟨?_, by simpa using hvalid, s, hs, hnow, howner⟩
          simp only [howner, ne_eq, not_true_eq_false, if_false] at h
          split_ifs at h <;> cases h <;> rfl
        · simp [howner] at h

/-- The owner's resume moves a live session onto a connection that it accepts.  Kind: L -/
theorem authenticate_moves {request : RemoteRequest} {generation : Generation} {now : ℚ}
    (hsession : request.sessionId = some id) (hresume : request.resume = true)
    (hid : validToken id = true) (hs : r.sessions.get? id = some s) (hlive : now < s.expiresAt)
    (howner : s.owner = request.owner) (ha : Accepts cfg s generation) :
    authenticate cfg request generation now r =
      (.ok id, { r with sessions := r.sessions.insert id (s.moveTo generation) }) := by
  have hlive' : r.live id now = some s := live_eq_some_iff.mpr ⟨hs, hlive⟩
  simp [authenticate, ha.valid, hsession, hid, continueSession, hlive', howner, ha.fresh, ha.other,
    hresume, ha.room]

/-- The connection that a live session is on is current.  Kind: L -/
theorem assertCurrent_of_active {generation : Generation} {now : ℚ} (hid : validToken id = true)
    (hg : validateGeneration generation = .ok generation) (hs : r.sessions.get? id = some s)
    (hlive : now < s.expiresAt) (hactive : s.activeGeneration = generation) :
    assertCurrent id generation now r = (.ok (), r) := by
  have hlive' : r.live id now = some s := live_eq_some_iff.mpr ⟨hs, hlive⟩
  simp [assertCurrent, hg, hid, hlive', hactive]

/-- A call before the expiry of a session keeps it, or moves it onto a connection it accepts.
Kind: L -/
theorem apply_lasting (hf : Function.Injective cfg.factory) (hid : Drawn cfg r id)
    (hs : r.sessions.get? id = some s) {call : SessionCall} (hlive : call.now < s.expiresAt)
    (haccepts : ∀ g, call.ResumesOnto s id g → Accepts cfg s g) :
    (call.apply cfg r).sessions.get? id = some s ∨ ∃ g, call.ResumesOnto s id g ∧
      (call.apply cfg r).sessions.get? id = some (s.moveTo g) := by
  have hfate := apply_fate hf hid hs call
  generalize hout : (call.apply cfg r).sessions.get? id = out at hfate ⊢
  cases hfate with
  | kept => exact .inl rfl
  | expired hexp => exact absurd hlive (not_lt.mpr hexp)
  | moved g hres _ _ _ => exact .inr ⟨g, hres, rfl⟩
  | exhausted g hres _ =>
      -- a session that accepts the connection is not exhausted
      have ha := haccepts g hres
      cases call with
      | assertCurrent sessionId g' now => exact hres.elim
      | authenticate request g' now =>
          obtain ⟨rfl, hsession, hresume, howner⟩ := hres
          by_cases hvalid : validToken id = true
          · have hmoves : authenticate cfg request g' now r = _ :=
              authenticate_moves hsession hresume hvalid hs hlive howner.symm ha
            simp [SessionCall.apply, hmoves] at hout
          · have hsame : (SessionCall.authenticate request g' now).apply cfg r = r := by
              simp [SessionCall.apply, authenticate, ha.valid, hsession, hvalid]
            rw [hsame, hs] at hout
            cases hout

/-! ## Whole runs -/

/-- What holds of every reachable registry. -/
structure Sound (cfg : SessionConfig) (r : LogicalSessionRegistry) : Prop where
  /-- Session ids come from the factory. -/
  drawn : ∀ id s, r.sessions.get? id = some s → Drawn cfg r id
  /-- No session retires more generations than it may. -/
  bounded : ∀ id s, r.sessions.get? id = some s → s.retired.card ≤ cfg.maxGenerations
  /-- The active generation is not a retired one. -/
  current : ∀ id s, r.sessions.get? id = some s → s.activeGeneration ∉ s.retired

/-- The empty registry is sound.  Kind: L -/
theorem sound_empty : Sound cfg empty :=
  ⟨by simp [empty], by simp [empty], by simp [empty]⟩

/-- Creating a session draws ids upwards.  Kind: L -/
theorem create_drawn_le (owner : String) (generation : Generation) (now : ℚ) :
    r.drawn ≤ (create cfg owner generation now r).2.drawn := by
  unfold create
  dsimp only
  have hle := drawn_le_allocateId cfg.factory (r.prune now).sessions 100 (r.prune now).drawn
  split
  · exact le_rfl
  · split
    · rename_i halloc
      rw [halloc] at hle
      exact hle
    · rename_i halloc
      rw [halloc] at hle
      exact hle

/-- Continuing a session draws no id.  Kind: L -/
theorem continueSession_drawn (sessionId owner : String) (resume : Bool) (generation : Generation)
    (now : ℚ) :
    (continueSession cfg sessionId owner resume generation now r).2.drawn = r.drawn := by
  unfold continueSession
  split
  · rfl
  · split_ifs <;> rfl

/-- No call takes drawn ids back.  Kind: L -/
theorem apply_drawn_le (call : SessionCall) : r.drawn ≤ (call.apply cfg r).drawn := by
  cases call with
  | authenticate request generation now =>
      simp only [SessionCall.apply, authenticate]
      split
      · exact le_rfl
      · split
        · exact create_drawn_le _ _ _
        · split
          · exact le_rfl
          · exact (continueSession_drawn _ _ _ _ _).ge
  | assertCurrent sessionId generation now =>
      simp only [SessionCall.apply, assertCurrent]
      split
      · exact le_rfl
      · split
        · exact le_rfl
        · split
          · exact le_rfl
          · split <;> exact le_rfl

/-- A drawn id stays drawn.  Kind: L -/
theorem Drawn.mono {r' : LogicalSessionRegistry} (hid : Drawn cfg r id) (hle : r.drawn ≤ r'.drawn) :
    Drawn cfg r' id := by
  obtain ⟨n, hn, hn'⟩ := hid
  exact ⟨n, lt_of_lt_of_le hn hle, hn'⟩

/-- A drawn id stays drawn through a call.  Kind: L -/
theorem Drawn.apply (hid : Drawn cfg r id) (call : SessionCall) :
    Drawn cfg (call.apply cfg r) id :=
  hid.mono (apply_drawn_le call)

/-- A session that a call makes is fresh, under a freshly drawn id.  Kind: L -/
theorem create_new {owner : String} {generation : Generation} {now : ℚ}
    (hs : r.sessions.get? id = none)
    (h : (create cfg owner generation now r).2.sessions.get? id = some s) :
    s.retired = ∅ ∧ Drawn cfg (create cfg owner generation now r).2 id := by
  have hpruned : (r.prune now).sessions.get? id = none := by
    cases hp : (r.prune now).sessions.get? id with
    | none => rfl
    | some s' =>
        have hs' := get?_of_pruneLoop hp
        rw [hs] at hs'
        cases hs'
  unfold create at h ⊢
  dsimp only at h ⊢
  split at h
  · rw [hpruned] at h
    cases h
  · rename_i hlimit
    split at h
    · rw [hpruned] at h
      cases h
    · rename_i new drawn halloc
      obtain ⟨-, n, -, hn', hnew⟩ := allocateId_eq_ok halloc
      rw [Dict.get?_insert] at h
      split at h
      · rename_i hid
        cases h
        rw [if_neg hlimit]
        exact ⟨rfl, n, hn', hnew.trans hid⟩
      · rw [hpruned] at h
        cases h

/-- A session that is new after a call has retired nothing, and its id is drawn.  Kind: L -/
theorem apply_new (hs : r.sessions.get? id = none) {call : SessionCall}
    (h : (call.apply cfg r).sessions.get? id = some s) :
    s.retired = ∅ ∧ Drawn cfg (call.apply cfg r) id := by
  cases call with
  | authenticate request generation now =>
      simp only [SessionCall.apply, authenticate] at h ⊢
      split at h
      · rw [hs] at h
        cases h
      · split at h
        · exact create_new hs h
        · rename_i sessionId hsession
          split at h
          · rw [hs] at h
            cases h
          · by_cases hsid : sessionId = id
            · subst hsid
              rw [continueSession_none hs] at h
              cases h
            · rw [continueSession_of_ne hsid, hs] at h
              cases h
  | assertCurrent sessionId generation now =>
      simp only [SessionCall.apply, assertCurrent] at h
      split at h
      · rw [hs] at h
        cases h
      · split at h
        · rw [hs] at h
          cases h
        · split at h
          · rw [Dict.get?_erase, hs, ite_self] at h
            cases h
          · split at h <;>
            · rw [hs] at h
              cases h

/-- A call keeps the registry sound.  Kind: L -/
theorem Sound.apply (hf : Function.Injective cfg.factory) (hr : Sound cfg r) (call : SessionCall) :
    Sound cfg (call.apply cfg r) := by
  refine ⟨fun id s' h => ?_, fun id s' h => ?_, fun id s' h => ?_⟩
  · cases hs : r.sessions.get? id with
    | none => exact (apply_new hs h).2
    | some s => exact (hr.drawn id s hs).apply call
  · cases hs : r.sessions.get? id with
    | none => simp [(apply_new hs h).1]
    | some s =>
        have hfate := apply_fate hf (hr.drawn id s hs) hs call
        rw [h] at hfate
        cases hfate with
        | kept => exact hr.bounded id _ hs
        | moved generation _ _ _ hlimit => exact (Finset.card_insert_le _ _).trans hlimit
  · cases hs : r.sessions.get? id with
    | none => simp [(apply_new hs h).1]
    | some s =>
        have hfate := apply_fate hf (hr.drawn id s hs) hs call
        rw [h] at hfate
        cases hfate with
        | kept => exact hr.current id _ hs
        | moved generation _ hret hact _ => simp [LogicalSession.moveTo, hret, hact]

/-- A run of calls keeps the registry sound.  Kind: L -/
theorem sound_runCalls (hf : Function.Injective cfg.factory) (calls : List SessionCall)
    (hr : Sound cfg r) : Sound cfg (runCalls cfg calls r) := by
  induction calls generalizing r with
  | nil => exact hr
  | cons call calls ih => exact ih (hr.apply hf call)

/-- `s'` is what `s` has become: the same session, with at least its retirements. -/
structure Descends (s s' : LogicalSession) : Prop where
  /-- The owner is fixed. -/
  owner : s'.owner = s.owner
  /-- The expiry is fixed. -/
  expiresAt : s'.expiresAt = s.expiresAt
  /-- Retirements are permanent. -/
  retired : s.retired ⊆ s'.retired

theorem Descends.refl (s : LogicalSession) : Descends s s := ⟨rfl, rfl, Finset.Subset.refl _⟩

theorem Descends.trans {s s' s'' : LogicalSession} (h : Descends s s') (h' : Descends s' s'') :
    Descends s s'' :=
  ⟨h'.owner.trans h.owner, h'.expiresAt.trans h.expiresAt, h.retired.trans h'.retired⟩

/-- A moved session descends from the one before.  Kind: L -/
theorem descends_moveTo (s : LogicalSession) (g : Generation) : Descends s (s.moveTo g) :=
  ⟨rfl, rfl, Finset.subset_insert _ _⟩

/-- A session that is gone stays gone.  Kind: L -/
theorem runCalls_dead (hf : Function.Injective cfg.factory) (calls : List SessionCall)
    (hid : Drawn cfg r id) (hs : r.sessions.get? id = none) :
    (runCalls cfg calls r).sessions.get? id = none := by
  induction calls generalizing r with
  | nil => exact hs
  | cons call calls ih => exact ih (hid.apply call) (apply_dead hf hid hs call)

/-- What a whole run leaves of a session.  Kind: L -/
theorem runCalls_descends (hf : Function.Injective cfg.factory) (calls : List SessionCall)
    (hr : Sound cfg r) (hs : r.sessions.get? id = some s) :
    (runCalls cfg calls r).sessions.get? id = none ∨
      ∃ s', (runCalls cfg calls r).sessions.get? id = some s' ∧ Descends s s' := by
  induction calls generalizing r s with
  | nil => exact .inr ⟨s, hs, .refl s⟩
  | cons call calls ih =>
      have hid := hr.drawn id s hs
      have hfate := apply_fate hf hid hs call
      have hdead : (call.apply cfg r).sessions.get? id = none →
          (runCalls cfg (call :: calls) r).sessions.get? id = none :=
        runCalls_dead hf calls (hid.apply call)
      cases hnext : (call.apply cfg r).sessions.get? id with
      | none => exact .inl (hdead hnext)
      | some t =>
          rw [hnext] at hfate
          have hst : Descends s t := by
            cases hfate with
            | kept => exact .refl s
            | moved generation _ _ _ _ => exact descends_moveTo s generation
          rcases ih (hr.apply hf call) hnext with h | ⟨s', hs', hts'⟩
          · exact .inl h
          · exact .inr ⟨s', hs', hst.trans hts'⟩

/-! ## The result -/

/-- A generation a session has retired is refused by `authenticate`.  Kind: L -/
theorem not_authenticate_of_retired {request : RemoteRequest} {g : Generation} {now : ℚ}
    (hsession : request.sessionId = some id)
    (hret : ∀ s, r.sessions.get? id = some s → g ∈ s.retired) :
    ∀ out, (authenticate cfg request g now r).1 ≠ .ok out := by
  intro out h
  simp only [authenticate, hsession] at h
  split at h
  · simp at h
  · rename_i g' hg
    cases validateGeneration_eq_ok hg
    split at h
    · simp at h
    · simp only [continueSession] at h
      split at h
      · simp at h
      · rename_i s hlive
        have hg : g ∈ s.retired := hret s (live_eq_some_iff.mp hlive).1
        split at h
        · simp at h
        · simp at h

/-- Nor is it current.  Kind: L -/
theorem not_assertCurrent_of_retired (hr : Sound cfg r) {g : Generation} {now : ℚ}
    (hret : ∀ s, r.sessions.get? id = some s → g ∈ s.retired) :
    (assertCurrent id g now r).1 ≠ .ok () := by
  intro h
  simp only [assertCurrent] at h
  split at h
  · simp at h
  · rename_i g' hg
    cases validateGeneration_eq_ok hg
    split at h
    · simp at h
    · split at h
      · simp at h
      · rename_i s hlive
        have hs := (live_eq_some_iff.mp hlive).1
        split at h
        · simp at h
        · rename_i hact
          have hmem := hret s hs
          rw [← not_not.mp hact] at hmem
          exact hr.current id s hs hmem

/-- A fenced call leaves an unexpired session as it is.  Kind: L -/
theorem apply_fenced (hf : Function.Injective cfg.factory) (hr : Sound cfg r)
    (hs : r.sessions.get? id = some s) {call : SessionCall} (hfenced : call.Fenced s)
    (hlive : call.now < s.expiresAt) : (call.apply cfg r).sessions.get? id = some s := by
  have hfate := apply_fate hf (hr.drawn id s hs) hs call
  -- a resume of the owner onto a generation that is not retired is not fenced
  have hno : ∀ g, call.ResumesOnto s id g → g ∈ s.retired := by
    intro g hres
    cases call with
    | authenticate request g' now =>
        obtain ⟨rfl, -, -, howner⟩ := hres
        exact hfenced.resolve_left (not_not.mpr howner)
    | assertCurrent sessionId g' now => exact hres.elim
  generalize (call.apply cfg r).sessions.get? id = out at hfate ⊢
  cases hfate with
  | kept => rfl
  | expired h => exact absurd hlive (not_lt.mpr h)
  | exhausted g h hret => exact absurd (hno g h) hret
  | moved g h hret _ _ => exact absurd (hno g h) hret

/-- **Logical-session safety.**  From any session `s` reached by any run: whatever happens
later, its retired generations are never accepted for it again, it keeps its owner and expiry and
its retirements, within the bound; a fenced call leaves it alone while it lasts, and only its
owner's resume changes its active generation.
Source: `remote/session.py`, `LogicalSessionRegistry`; `docs/SESSION_MODEL.md`.  Kind: P -/
theorem session_safety (hf : Function.Injective cfg.factory) (before later : List SessionCall)
    (id : String) (s : LogicalSession)
    (hs : (runCalls cfg before empty).sessions.get? id = some s) :
    (∀ g ∈ s.retired, ∀ now,
      (∀ request : RemoteRequest, request.sessionId = some id → ∀ out,
        (authenticate cfg request g now (runCalls cfg later (runCalls cfg before empty))).1 ≠
          .ok out) ∧
      (assertCurrent id g now (runCalls cfg later (runCalls cfg before empty))).1 ≠ .ok ()) ∧
    (∀ s', (runCalls cfg later (runCalls cfg before empty)).sessions.get? id = some s' →
      s'.owner = s.owner ∧ s'.expiresAt = s.expiresAt ∧ s.retired ⊆ s'.retired ∧
        s'.retired.card ≤ cfg.maxGenerations) ∧
    (∀ call : SessionCall, call.Fenced s → call.now < s.expiresAt →
      (call.apply cfg (runCalls cfg before empty)).sessions.get? id = some s) ∧
    (∀ (call : SessionCall) s',
      (call.apply cfg (runCalls cfg before empty)).sessions.get? id = some s' →
        s'.activeGeneration ≠ s.activeGeneration →
          call.ResumesOnto s id s'.activeGeneration) := by
  have hr : Sound cfg (runCalls cfg before empty) := sound_runCalls hf before sound_empty
  have hr' := sound_runCalls hf later hr
  have hrun := runCalls_descends hf later hr hs
  refine ⟨fun g hg now => ?_, fun s' hs' => ?_, fun call hfenced hlive => ?_,
    fun call s' hs' hne => ?_⟩
  · have hret : ∀ s', (runCalls cfg later (runCalls cfg before empty)).sessions.get? id = some s' →
        g ∈ s'.retired := by
      intro s' hs'
      rcases hrun with h | ⟨t, ht, hd⟩
      · rw [h] at hs'
        cases hs'
      · rw [ht] at hs'
        cases hs'
        exact hd.retired hg
    exact ⟨fun request hsession => not_authenticate_of_retired hsession hret,
      not_assertCurrent_of_retired hr' hret⟩
  · rcases hrun with h | ⟨t, ht, hd⟩
    · rw [h] at hs'
      cases hs'
    · rw [ht] at hs'
      cases hs'
      exact ⟨hd.owner, hd.expiresAt, hd.retired, hr'.bounded id _ ht⟩
  · exact apply_fenced hf hr hs hfenced hlive
  · have hfate := apply_fate hf (hr.drawn id s hs) hs call
    rw [hs'] at hfate
    cases hfate with
    | kept => exact absurd rfl hne
    | moved g h _ _ _ => exact h

/-- A registry whose factory counts in unary. -/
def unaryConfig : SessionConfig :=
  ⟨600, 1024, 64, fun n => String.ofList (List.replicate (n + 1) 'a')⟩

/-- The factory of the sample draws fresh ids.  Kind: L -/
theorem unaryConfig_injective : Function.Injective unaryConfig.factory := by
  intro m n h
  have hlen := congrArg String.length h
  simpa [unaryConfig] using hlen

/-- A node opens a session on one socket and resumes it on another. -/
def reconnectCalls : List SessionCall :=
  let request : RemoteRequest := ⟨.named "worker", some (.named "coord"), "hello", [],
    "r1", "n1", 0, none, false, none⟩
  [.authenticate request (some "first") 0,
    .authenticate { request with sessionId := some "a", resume := true } (some "second") 1]

/-- The first socket is fenced off for good. -/
theorem session_safety_reconnect :
    ∃ s, (runCalls unaryConfig reconnectCalls empty).sessions.get? "a" = some s ∧
      some "first" ∈ s.retired ∧ ∀ request : RemoteRequest, request.sessionId = some "a" →
        ∀ out, (authenticate unaryConfig request (some "first") 2
          (runCalls unaryConfig [] (runCalls unaryConfig reconnectCalls empty))).1 ≠ .ok out := by
  have hs : (runCalls unaryConfig reconnectCalls empty).sessions.get? "a" =
      some ⟨"coord", some "second", 600, {some "first"}⟩ := by decide +kernel
  have hmem : some "first" ∈ ({some "first"} : Finset Generation) := by decide
  exact ⟨_, hs, hmem, ((session_safety unaryConfig_injective reconnectCalls [] "a" _ hs).1
    (some "first") hmem 2).1⟩

end LogicalSessionRegistry

end ExpraConnect
