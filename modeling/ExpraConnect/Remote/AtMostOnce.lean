import ExpraConnect.Remote.IdempotencyFacts
import ExpraConnect.Remote.InFlight

/-!
# At-most-once execution

A replayed envelope is verified again with a new replay cache, so that only the idempotency cache
stands between a duplicate and a second execution.  It does for as long as its entry lives: an
owner that read the clock at `now` is remembered until `now + ttl`, however the run goes on.

* `TracksUntil`: the entry is in the table, or the wall clock has passed its expiry; every step of
  every party keeps that (`tracksUntil_of_run`).
* `Prompt`: the deliveries of an envelope reach the cache before `ts + (ttl - freshness)`.  An
  envelope is fresh until `ts + freshness`, so with a lifetime above twice the window there is slack
  between the freshness check and the cache; a delivery that is stalled for longer than that slack
  executes again (`stalled_delivery_executes_again`).
* `Kept`: a result that was saved stays in the document, and a service that loads the document
  remembers the key for at least as long.
* `at_most_once`: all deliveries of one envelope, in whatever texts it comes, within one process and
  across a restart.
-/

namespace ExpraConnect

open ExpraConnect.Lib

variable {H : Type} {cfg : ServiceConfig H}

/-! ## What is assumed of the environment -/

/-- The wall clock never goes back; everything else may happen. -/
def monotoneClock : EnvMove H → ServiceState H → Prop
  | .tick clock _, s => s.clock ≤ clock
  | _, _ => True

/-- Instructions do not move the wall clock.  Kind: L -/
theorem clock_apply (l : Instr H) (s : ServiceState H) : (l.apply cfg s).clock = s.clock := by
  cases l <;> rfl

/-- The environment does not turn the clock back.  Kind: L -/
theorem clock_le_env {e : EnvMove H} {s : ServiceState H} (h : monotoneClock e s) :
    s.clock ≤ (e.apply s).clock := by
  cases e with
  | host act => exact le_rfl
  | tick clock sessionClock => exact h
  | store fault => exact le_rfl

/-! ## An entry is tracked until it expires -/

/-- The entry is in the table, or the wall clock has passed its expiry. -/
def TracksUntil (key : IdemKey) (id : ℕ) (expiry : ℚ) (s : ServiceState H) : Prop :=
  s.idempotency.Tracks key id expiry ∨ expiry ≤ s.clock

section tracking

variable {key : IdemKey} {id : ℕ} {expiry : ℚ} {s : ServiceState H}

/-- An instruction keeps a tracked entry.  Kind: L -/
theorem TracksUntil.apply {l : Instr H} (h : TracksUntil key id expiry s)
    (hnow : ∀ k fp now, l = .idemEnter k fp now → now ≤ s.clock) :
    TracksUntil key id expiry (l.apply cfg s) := by
  rcases h with h | h
  · by_cases hexp : expiry ≤ s.clock
    · exact .inr (by rwa [clock_apply])
    · refine .inl ?_
      cases l with
      | idemEnter k fp now =>
          exact h.enter ((hnow k fp now rfl).trans_lt (not_le.mp hexp))
      | idemFail id' e => exact h.fail
      | idemComplete id' result => exact h.complete
      | _ => exact h
  · exact .inr (by rwa [clock_apply])

/-- The environment keeps a tracked entry.  Kind: L -/
theorem TracksUntil.env {e : EnvMove H} (h : TracksUntil key id expiry s)
    (hallowed : monotoneClock e s) : TracksUntil key id expiry (e.apply s) := by
  rcases h with h | h
  · refine .inl ?_
    cases e with
    | host act => exact h
    | tick clock sessionClock => exact h
    | store fault => exact h
  · exact .inr (h.trans (clock_le_env hallowed))

end tracking

section runs

variable {deliveries : ℕ → String × Generation} {s₀ : ServiceState H} {tr : List (SvcEvent H)}
  {c : Pool (ServiceState H) (Instr H) PyError SignedResponse}

/-- The clock of a thread's history does not go back.  Kind: L -/
theorem clock_le_of_history {i : ℕ} {l l' : Instr H} {s s' : ServiceState H}
    {h₁ h₂ : SvcHistory H}
    (hrun : Run (serviceMachine cfg monotoneClock) (servicePool cfg deliveries s₀) tr c)
    (hh : history i tr = h₁ ++ (l', s') :: h₂) (hmem : (l, s) ∈ h₁) : s.clock ≤ s'.clock :=
  hrun.le_of_history (f := fun u : ServiceState H => u.clock)
    (fun l s => (clock_apply l s).ge) (fun _ _ h => clock_le_env h) hh hmem

/-- The clock reading with which the cache is entered is not ahead of the clock.  Kind: L -/
theorem now_le_of_idemEnter {i : ℕ} {k : IdemKey} {fp : String} {now : ℚ}
    {next : ServiceState H → Svc H SignedResponse}
    (hrun : Run (serviceMachine cfg monotoneClock) (servicePool cfg deliveries s₀) tr c)
    (hi : c.threads i = .step (.idemEnter k fp now) next) : now ≤ c.state.clock := by
  have hreach : Prog.Reaches (handle cfg (deliveries i).1 (deliveries i).2) (history i tr)
      (.idemEnter k fp now) := by
    have h := hrun.follows i
    rw [hi] at h
    exact ⟨next, h⟩
  obtain ⟨a, h₁, h₂, t, hh, -, -, rfl⟩ := handle_reaches_idemEnter hreach
  have hrun' := Run.own i hrun hi rfl
  have hhist : history i (tr ++ [Event.own i (.idemEnter k fp t.clock) c.state]) =
      (h₁ ++ h₂ ++ [(.read .clock, t)]) ++ (.idemEnter k fp t.clock, c.state) :: [] := by
    rw [history_append, hh, history_own_self]
  exact clock_le_of_history (l := .read .clock) hrun' hhist (by simp)

/-- The entry `id` of `key` was tracked at the start, or somebody became its owner since. -/
def Claimed (cfg : ServiceConfig H) (key : IdemKey) (id : ℕ) (expiry : ℚ) (s₀ : ServiceState H)
    (tr : List (SvcEvent H)) : Prop :=
  TracksUntil key id expiry s₀ ∨ ∃ i fp now s, Event.own i (.idemEnter key fp now) s ∈ tr ∧
    turnIn cfg key fp now s = .owner id ∧ expiry = now + cfg.idempotencyTtl

/-- **A claimed entry is remembered until it expires**, whatever the parties do.
Source: `remote/wire_protocol.py`, `IdempotencyCache`.  Kind: P -/
theorem tracksUntil_of_run {key : IdemKey} {id : ℕ} {expiry : ℚ}
    (hrun : Run (serviceMachine cfg monotoneClock) (servicePool cfg deliveries s₀) tr c)
    (h : Claimed cfg key id expiry s₀ tr) : TracksUntil key id expiry c.state := by
  induction hrun with
  | start =>
      rcases h with h | ⟨_, _, _, _, h, -⟩
      · exact h
      · cases h
  | @own tr c i l next hrun hi hready ih =>
      have hkeep : Claimed cfg key id expiry s₀ tr →
          TracksUntil key id expiry (l.apply cfg c.state) :=
        fun h => (ih h).apply fun k fp now hl => now_le_of_idemEnter hrun (hl ▸ hi)
      rcases h with h | ⟨j, fp, now, s, hmem, howner, hexp⟩
      · exact hkeep (.inl h)
      · rcases List.mem_append.mp hmem with hmem | hmem
        · exact hkeep (.inr ⟨j, fp, now, s, hmem, howner, hexp⟩)
        · -- the owner enters with this very event
          obtain heq := List.mem_singleton.mp hmem
          cases heq
          rw [hexp]
          exact .inl (IdempotencyCache.tracks_of_owner howner).2
  | env e hrun hallowed ih =>
      refine (ih ?_).env hallowed
      rcases h with h | ⟨j, fp, now, s, hmem, howner, hexp⟩
      · exact .inl h
      · rcases List.mem_append.mp hmem with hmem | hmem
        · exact .inr ⟨j, fp, now, s, hmem, howner, hexp⟩
        · cases List.mem_singleton.mp hmem

/-- While a claimed entry lives, nobody else becomes an owner of its key.  Kind: L -/
theorem not_owner_of_claimed {key : IdemKey} {id id' j : ℕ} {expiry now : ℚ} {fp : String}
    {s : ServiceState H} {tr₁ tr₂ : List (SvcEvent H)}
    (hrun : Run (serviceMachine cfg monotoneClock) (servicePool cfg deliveries s₀)
      (tr₁ ++ Event.own j (.idemEnter key fp now) s :: tr₂) c)
    (h : Claimed cfg key id expiry s₀ tr₁) (hlive : s.clock < expiry) :
    turnIn cfg key fp now s ≠ .owner id' := by
  obtain ⟨c₁, hrun₁, hstate, ⟨next, hnext⟩, -⟩ := hrun.split
  have hstate' : c₁.state = s := hstate
  rcases tracksUntil_of_run hrun₁ h with ht | ht
  · rw [hstate'] at ht
    have hnow := now_le_of_idemEnter hrun₁ hnext
    rw [hstate'] at hnow
    exact ht.not_owner (hnow.trans_lt hlive)
  · rw [hstate'] at ht
    exact absurd hlive (not_lt.mpr ht)

/-! ## One owner for each envelope -/

/-- Delivery `i` has become the owner of entry `id` for the request, to expire at `expiry`. -/
def OwnsIn (cfg : ServiceConfig H) (request : RemoteRequest) (i id : ℕ) (expiry : ℚ)
    (tr : List (SvcEvent H)) : Prop :=
  ∃ now s, Event.own i (.idemEnter (cacheKey request) (fingerprint cfg request) now) s ∈ tr ∧
    turnIn cfg (cacheKey request) (fingerprint cfg request) now s = .owner id ∧
      expiry = now + cfg.idempotencyTtl ∧ request.timestamp - cfg.freshnessSeconds ≤ now

/-- An owner has claimed the key.  Kind: L -/
theorem OwnsIn.claimed {request : RemoteRequest} {i id : ℕ} {expiry : ℚ}
    (h : OwnsIn cfg request i id expiry tr) :
    Claimed cfg (cacheKey request) id expiry s₀ tr := by
  obtain ⟨now, s, hmem, howner, hexp, -⟩ := h
  exact .inr ⟨i, _, now, s, hmem, howner, hexp⟩

/-- A longer run shows the same owners.  Kind: L -/
theorem OwnsIn.mono {request : RemoteRequest} {i id : ℕ} {expiry : ℚ} {tr₁ tr₂ : List (SvcEvent H)}
    (h : OwnsIn cfg request i id expiry tr₁) (hsub : tr₁ ⊆ tr₂) :
    OwnsIn cfg request i id expiry tr₂ := by
  obtain ⟨now, s, hmem, hrest⟩ := h
  exact ⟨now, s, hsub hmem, hrest⟩

/-- An owner was fresh when it was admitted, and read the clock after that.  Kind: L -/
theorem ownsIn_of_owning {i id : ℕ} {a : Admission}
    (hrun : Run (serviceMachine cfg monotoneClock) (servicePool cfg deliveries s₀) tr c)
    (h : Owning cfg (deliveries i).1 (deliveries i).2 a id (history i tr)) :
    ∃ expiry, OwnsIn cfg a.request i id expiry tr := by
  obtain ⟨h₁, h₂, t, s, h₃, hh, ha, hturn⟩ := h
  obtain ⟨envelope, u, h', -, -, -, ⟨-, now, ⟨v, hv, rfl⟩, -, hfresh⟩, -⟩ := ha.verified
  refine ⟨t.clock + cfg.idempotencyTtl, t.clock, s, ?_, hturn, rfl, ?_⟩
  · rw [← mem_history, hh]
    simp
  · have hle : v.clock ≤ t.clock := clock_le_of_history (l := .read .clock) hrun hh (by simp [hv])
    linarith

/-- The deliveries of the envelope reach the idempotency cache before `ts + (ttl - freshness)`. -/
def Prompt (cfg : ServiceConfig H) (deliveries : ℕ → String × Generation) (text : String)
    (timestamp : ℚ) (tr : List (SvcEvent H)) : Prop :=
  ∀ i key fp now s, Event.own i (.idemEnter key fp now) s ∈ tr → (deliveries i).1 = text →
    s.clock < timestamp + (cfg.idempotencyTtl - cfg.freshnessSeconds)

/-- No delivery becomes an owner behind a claim that outlives the promptness bound.  Kind: L -/
theorem not_owner_of_prompt {text : String} {request : RemoteRequest} {id j id' : ℕ}
    {expiry now : ℚ} {tr₁ tr₂ : List (SvcEvent H)} {s : ServiceState H} {fp : String}
    (hrun : Run (serviceMachine cfg monotoneClock) (servicePool cfg deliveries s₀)
      (tr₁ ++ Event.own j (.idemEnter (cacheKey request) fp now) s :: tr₂) c)
    (hprompt : Prompt cfg deliveries text request.timestamp
      (tr₁ ++ Event.own j (.idemEnter (cacheKey request) fp now) s :: tr₂))
    (hj : (deliveries j).1 = text) (hclaim : Claimed cfg (cacheKey request) id expiry s₀ tr₁)
    (hexp : request.timestamp - cfg.freshnessSeconds + cfg.idempotencyTtl ≤ expiry) :
    turnIn cfg (cacheKey request) fp now s ≠ .owner id' := by
  have hlive : s.clock < expiry := by
    have hbound := hprompt j (cacheKey request) fp now s (by simp) hj
    linarith
  exact not_owner_of_claimed hrun hclaim hlive

/-- Two prompt deliveries of one request do not both become owners.  Kind: L -/
theorem ownsIn_unique {request : RemoteRequest} {i j id id' : ℕ} {expiry expiry' : ℚ}
    (hrun : Run (serviceMachine cfg monotoneClock) (servicePool cfg deliveries s₀) tr c)
    (hi : Prompt cfg deliveries (deliveries i).1 request.timestamp tr)
    (hj : Prompt cfg deliveries (deliveries j).1 request.timestamp tr)
    (h : OwnsIn cfg request i id expiry tr) (h' : OwnsIn cfg request j id' expiry' tr) : i = j := by
  by_contra hne
  obtain ⟨now, s, hmem, howner, hexp, hfresh⟩ := h
  obtain ⟨now', s', hmem', howner', hexp', hfresh'⟩ := h'
  obtain ⟨tr₁, tr₂, rfl⟩ := List.append_of_mem hmem
  rcases List.mem_append.mp hmem' with hbefore | hafter
  · -- `j` came first
    have hclaim : Claimed cfg (cacheKey request) id' expiry' s₀ tr₁ :=
      .inr ⟨j, _, now', s', hbefore, howner', hexp'⟩
    exact not_owner_of_prompt hrun hi rfl hclaim (by linarith) howner
  · rcases List.mem_cons.mp hafter with heq | hafter
    · cases heq
      exact hne rfl
    · -- `i` came first
      obtain ⟨tr₃, tr₄, rfl⟩ := List.append_of_mem hafter
      rw [← List.cons_append, ← List.append_assoc] at hrun hj
      have hclaim : Claimed cfg (cacheKey request) id expiry s₀
          (tr₁ ++ Event.own i (.idemEnter (cacheKey request) (fingerprint cfg request) now) s ::
            tr₃) := .inr ⟨i, _, now, s, by simp, howner, hexp⟩
      exact not_owner_of_prompt hrun hj rfl hclaim (by linarith) howner'

/-! ## Entering a call -/

/-- Whether an event enters a call for a delivery of one of the texts. -/
def entersFor (deliveries : ℕ → String × Generation) (texts : String → Bool) : SvcEvent H → Bool
  | .own i (.enter _) _ => texts (deliveries i).1
  | _ => false

/-- An event that enters for a text is a thread's own, of a delivery of that text.  Kind: L -/
theorem eq_own_of_entersFor {texts : String → Bool} {e : SvcEvent H}
    (h : entersFor deliveries texts e = true) :
    ∃ i call s, e = .own i (.enter call) s ∧ texts (deliveries i).1 = true := by
  cases e with
  | own i l s =>
      cases l with
      | enter call => exact ⟨i, call, s, rfl, h⟩
      | _ => cases h
  | env e s => cases h

/-- Who enters a call for a request that is not a read has become its owner before.  Kind: L -/
theorem ownsIn_of_enter {request : RemoteRequest} {i : ℕ} {call : Call}
    {s : ServiceState H} {tr₁ tr₂ : List (SvcEvent H)}
    (hrun : Run (serviceMachine cfg monotoneClock) (servicePool cfg deliveries s₀)
      (tr₁ ++ Event.own i (.enter call) s :: tr₂) c)
    (hnames : Names cfg (deliveries i).1 request) (hop : isIdempotentOp request.op = true) :
    ∃ id expiry, OwnsIn cfg request i id expiry tr₁ := by
  have hreach : Prog.Reaches (handle cfg (deliveries i).1 (deliveries i).2) (history i tr₁)
      (.enter call) := hrun.reaches
  obtain ⟨c₁, hrun₁, -⟩ := hrun.split
  obtain ⟨a, h₁, ha, -, howning⟩ := handle_reaches_enter hreach
  have hreq : a.request = request := ha.names.unique hnames
  rw [hreq] at howning
  obtain ⟨id, hid⟩ := howning hop
  obtain ⟨expiry, h⟩ := ownsIn_of_owning hrun₁ hid
  rw [hreq] at h
  exact ⟨id, expiry, h⟩

/-- In a list where `p` holds of no two places, it holds of at most one.  Kind: L -/
theorem countP_le_one {α : Type} {p : α → Bool} {l : List α}
    (h : ∀ l₁ a l₂ b l₃, l = l₁ ++ a :: l₂ ++ b :: l₃ → p a = true → p b = true → False) :
    l.countP p ≤ 1 := by
  induction l with
  | nil => simp
  | cons x l ih =>
      by_cases hx : p x = true
      · have hzero : l.countP p = 0 := by
          rw [List.countP_eq_zero]
          intro b hb hpb
          obtain ⟨l₂, l₃, rfl⟩ := List.append_of_mem hb
          exact h [] x l₂ b l₃ (by simp) hx hpb
        rw [List.countP_cons_of_pos hx, hzero]
      · rw [List.countP_cons_of_neg hx]
        refine ih fun l₁ a l₂ b l₃ hl => h (x :: l₁) a l₂ b l₃ ?_
        rw [hl]
        simp

/-- Within one process, the deliveries of a request enter at most one call.  Kind: L -/
theorem countP_entersFor_le_one {texts : String → Bool} {request : RemoteRequest}
    (hrun : Run (serviceMachine cfg monotoneClock) (servicePool cfg deliveries s₀) tr c)
    (hnames : ∀ text, texts text = true → Names cfg text request)
    (hop : isIdempotentOp request.op = true)
    (hprompt : ∀ text, texts text = true → Prompt cfg deliveries text request.timestamp tr) :
    tr.countP (entersFor deliveries texts) ≤ 1 := by
  refine countP_le_one fun tr₁ e tr₂ e' tr₃ htr he he' => ?_
  obtain ⟨i, call, s, rfl, hi⟩ := eq_own_of_entersFor he
  obtain ⟨j, call', s', rfl, hj⟩ := eq_own_of_entersFor he'
  subst htr
  by_cases hij : i = j
  · -- one delivery calls once
    subst hij
    have hreach : Prog.Reaches (handle cfg (deliveries i).1 (deliveries i).2)
        (history i (tr₁ ++ Event.own i (.enter call) s :: tr₂)) (.enter call') := hrun.reaches
    refine handle_callsOnce _ _ _ _ hreach (.enter call, s) ?_ call rfl
    rw [mem_history]
    simp
  · have hrun' := hrun
    rw [List.append_assoc, List.cons_append] at hrun'
    obtain ⟨id, expiry, howns⟩ := ownsIn_of_enter hrun' (hnames _ hi) hop
    obtain ⟨id', expiry', howns'⟩ := ownsIn_of_enter hrun (hnames _ hj) hop
    exact hij (ownsIn_unique hrun (hprompt _ hi) (hprompt _ hj)
      (howns.mono fun e he => by simp [he]) (howns'.mono (List.subset_append_left _ _)))

/-! ## Across a restart -/

/-- A service process starts with a cache loaded from a document, an empty one for a new node.
Source: `remote/wire_protocol.py`, `IdempotencyCache.__init__`.  Kind: D -/
def Started (cfg : ServiceConfig H) (s : ServiceState H) : Prop :=
  ∃ readings store, s.idempotency = .load cfg.idempotencyMaxEntries readings store

/-- A process in state `s` ends, and one that loads its document starts in state `s'`; the wall
clock does not go back meanwhile. -/
def Restarted (cfg : ServiceConfig H) (s s' : ServiceState H) : Prop :=
  ∃ readings, (∀ n, s.clock ≤ readings n) ∧ (∀ n, readings n ≤ s'.clock) ∧
    s'.idempotency = .load cfg.idempotencyMaxEntries readings s.idempotency.store

/-- The table stays within its bound.  Kind: L -/
theorem size_table_le_of_run (hstart : Started cfg s₀)
    (hrun : Run (serviceMachine cfg monotoneClock) (servicePool cfg deliveries s₀) tr c) :
    c.state.idempotency.table.size ≤ cfg.idempotencyMaxEntries := by
  induction hrun with
  | start =>
      obtain ⟨readings, store, h⟩ := hstart
      change s₀.idempotency.table.size ≤ _
      rw [h]
      exact IdempotencyCache.size_load_le
  | @own tr c i l next hrun hi hready ih =>
      cases l with
      | idemEnter key fp now => exact IdempotencyCache.size_enter_le ih
      | idemComplete id result =>
          change (c.state.idempotency.complete id result _ _).table.size ≤ _
          rwa [IdempotencyCache.table_complete]
      | _ => exact ih
  | env e hrun hallowed ih =>
      cases e with
      | host act => exact ih
      | tick clock sessionClock => exact ih
      | store fault => exact ih

/-- The result of entry `id` is recorded and in the document, or the wall clock has passed its
expiry. -/
def Kept (cfg : ServiceConfig H) (key : IdemKey) (id : ℕ) (expiry : ℚ) (s : ServiceState H) :
    Prop :=
  (s.idempotency.Tracks key id expiry ∧ s.idempotency.Returned id ∧
    IdempotencyCache.Persists cfg.idempotencyMaxEntries key expiry s.clock s.idempotency.store) ∨
      expiry ≤ s.clock

section kept

variable {key : IdemKey} {id : ℕ} {expiry : ℚ} {s : ServiceState H}

/-- An instruction keeps what is kept of an entry.  Kind: L -/
theorem Kept.apply {l : Instr H} (h : Kept cfg key id expiry s)
    (hsize : s.idempotency.table.size ≤ cfg.idempotencyMaxEntries)
    (hnow : ∀ k fp now, l = .idemEnter k fp now → now ≤ s.clock) :
    Kept cfg key id expiry (l.apply cfg s) := by
  rcases h with ⟨ht, hr, hp⟩ | h
  · by_cases hexp : expiry ≤ s.clock
    · exact .inr (by rwa [clock_apply])
    · refine .inl ?_
      cases l with
      | idemEnter k fp now =>
          refine ⟨ht.enter ((hnow k fp now rfl).trans_lt (not_le.mp hexp)), hr.enter, ?_⟩
          simpa [Instr.apply] using hp
      | idemFail id' e => exact ⟨ht.fail, hr.fail, hp⟩
      | idemComplete id' result =>
          exact ⟨ht.complete, hr.complete, hp.complete ht hr (not_le.mp hexp) hsize⟩
      | _ => exact ⟨ht, hr, hp⟩
  · exact .inr (by rwa [clock_apply])

/-- The environment keeps what is kept of an entry.  Kind: L -/
theorem Kept.env {e : EnvMove H} (h : Kept cfg key id expiry s) (hallowed : monotoneClock e s) :
    Kept cfg key id expiry (e.apply s) := by
  rcases h with ⟨ht, hr, hp⟩ | h
  · refine .inl ?_
    cases e with
    | host act => exact ⟨ht, hr, hp⟩
    | tick clock sessionClock => exact ⟨ht, hr, hp.mono hallowed⟩
    | store fault => exact ⟨ht, hr, hp⟩
  · exact .inr (h.trans (clock_le_env hallowed))

/-- The owner's result is saved: it is kept.  Kind: L -/
theorem kept_of_complete {result : Fields} (h : TracksUntil key id expiry s)
    (hfault : s.storeFault = none)
    (hsize : s.idempotency.table.size ≤ cfg.idempotencyMaxEntries) :
    Kept cfg key id expiry ((Instr.idemComplete id result).apply cfg s) := by
  rcases h with ht | h
  · by_cases hexp : expiry ≤ s.clock
    · exact .inr hexp
    · refine .inl ⟨ht.complete, IdempotencyCache.returned_complete ht.lt_length, ?_⟩
      simp only [Instr.apply, hfault]
      exact IdempotencyCache.persists_complete ht (not_le.mp hexp) hsize
  · exact .inr h

end kept

/-- The result of the claimed entry `id` was recorded and saved. -/
def SavedIn (cfg : ServiceConfig H) (key : IdemKey) (id : ℕ) (expiry : ℚ) (s₀ : ServiceState H)
    (tr : List (SvcEvent H)) : Prop :=
  ∃ tr₁ tr₂ i result s, tr = tr₁ ++ Event.own i (.idemComplete id result) s :: tr₂ ∧
    s.storeFault = none ∧ Claimed cfg key id expiry s₀ tr₁

/-- A saved result at the end of a longer trace was saved before, or with the last event.
Kind: L -/
theorem SavedIn.of_snoc {key : IdemKey} {id : ℕ} {expiry : ℚ} {e : SvcEvent H}
    (h : SavedIn cfg key id expiry s₀ (tr ++ [e])) :
    SavedIn cfg key id expiry s₀ tr ∨ ∃ i result s, e = .own i (.idemComplete id result) s ∧
      s.storeFault = none ∧ Claimed cfg key id expiry s₀ tr := by
  obtain ⟨tr₁, tr₂, i, result, s, htr, hfault, hclaim⟩ := h
  rcases List.eq_nil_or_concat tr₂ with rfl | ⟨tr₃, e', rfl⟩
  · obtain ⟨rfl, he⟩ := List.append_inj' htr rfl
    exact .inr ⟨i, result, s, by simpa using he, hfault, hclaim⟩
  · rw [List.concat_eq_append, ← List.cons_append, ← List.append_assoc] at htr
    obtain ⟨rfl, -⟩ := List.append_inj' htr rfl
    exact .inl ⟨tr₁, tr₃, i, result, s, rfl, hfault, hclaim⟩

/-- **A saved result is kept until it expires**, whatever the parties do.
Source: `remote/wire_protocol.py`, `IdempotencyCache._save_state`.  Kind: P -/
theorem kept_of_run {key : IdemKey} {id : ℕ} {expiry : ℚ} (hstart : Started cfg s₀)
    (hrun : Run (serviceMachine cfg monotoneClock) (servicePool cfg deliveries s₀) tr c)
    (h : SavedIn cfg key id expiry s₀ tr) : Kept cfg key id expiry c.state := by
  induction hrun with
  | start =>
      obtain ⟨tr₁, tr₂, i, result, s, htr, -⟩ := h
      simp at htr
  | @own tr c i l next hrun hi hready ih =>
      have hsize := size_table_le_of_run hstart hrun
      rcases h.of_snoc with h | ⟨j, result, s, he, hfault, hclaim⟩
      · exact (ih h).apply hsize fun k fp now hl => now_le_of_idemEnter hrun (hl ▸ hi)
      · cases he
        exact kept_of_complete (tracksUntil_of_run hrun hclaim) hfault hsize
  | env e hrun hallowed ih =>
      rcases h.of_snoc with h | ⟨j, result, s, he, -⟩
      · exact (ih h).env hallowed
      · cases he

/-- A restarted service remembers what was kept for at least as long.  Kind: L -/
theorem tracksUntil_of_restarted {key : IdemKey} {id : ℕ} {expiry : ℚ} {s s' : ServiceState H}
    (h : Kept cfg key id expiry s) (hrestart : Restarted cfg s s') :
    ∃ id' expiry', expiry ≤ expiry' ∧ TracksUntil key id' expiry' s' := by
  obtain ⟨readings, hlow, hhigh, hload⟩ := hrestart
  rcases h with ⟨-, -, hp⟩ | h
  · obtain ⟨id', expiry', hle, ht⟩ := IdempotencyCache.tracks_load hp hlow
    exact ⟨id', expiry', hle, .inl (by rwa [hload])⟩
  · exact ⟨id, expiry, le_rfl, .inr (h.trans ((hlow 0).trans (hhigh 0)))⟩

/-- The execution of the envelope returned, and the idempotency store was saved. -/
def SavedResult (deliveries : ℕ → String × Generation) (text : String)
    (tr : List (SvcEvent H)) : Prop :=
  ∃ i id result s, Event.own i (.idemComplete id result) s ∈ tr ∧ (deliveries i).1 = text ∧
    s.storeFault = none

/-- A saved result is an entry of the stored document that outlives the text.  Kind: L -/
theorem savedIn_of_savedResult {text : String} {request : RemoteRequest}
    (hrun : Run (serviceMachine cfg monotoneClock) (servicePool cfg deliveries s₀) tr c)
    (hnames : Names cfg text request) (h : SavedResult deliveries text tr) :
    ∃ id expiry, SavedIn cfg (cacheKey request) id expiry s₀ tr ∧
      request.timestamp - cfg.freshnessSeconds + cfg.idempotencyTtl ≤ expiry := by
  obtain ⟨i, id, result, s, hmem, hi, hfault⟩ := h
  obtain ⟨tr₁, tr₂, rfl⟩ := List.append_of_mem hmem
  have hreach : Prog.Reaches (handle cfg (deliveries i).1 (deliveries i).2) (history i tr₁)
      (.idemComplete id result) := hrun.reaches
  obtain ⟨c₁, hrun₁, -⟩ := hrun.split
  obtain ⟨a, howning⟩ := handle_reaches_idemComplete hreach
  have hnames' : Names cfg text a.request := by
    obtain ⟨h₁, h₂, t, u, h₃, -, ha, -⟩ := howning
    rw [← hi]
    exact ha.names
  obtain ⟨expiry, howns⟩ := ownsIn_of_owning hrun₁ howning
  rw [hnames'.unique hnames] at howns
  refine ⟨id, expiry, ⟨tr₁, tr₂, i, result, s, rfl, hfault, howns.claimed⟩, ?_⟩
  obtain ⟨now, u, -, -, hexp, hfresh⟩ := howns
  linarith

/-- **At-most-once execution.**  For every request whose operation is not a read, in whatever texts
its envelope is delivered, whatever is delivered in between and however the deliveries interleave:
as long as its deliveries reach the idempotency cache promptly, its handler is entered at most once;
and when the execution returned and was saved, also if the process is restarted and loads the
document.
Source: `remote/service.py`, `RemoteService.handle`; `remote/wire_protocol.py`, `IdempotencyCache`.
Kind: P -/
theorem at_most_once {texts : String → Bool} {request : RemoteRequest}
    (hnames : ∀ text, texts text = true → Names cfg text request)
    (hop : isIdempotentOp request.op = true) (hstart : Started cfg s₀)
    (hrun : Run (serviceMachine cfg monotoneClock) (servicePool cfg deliveries s₀) tr c)
    (hprompt : ∀ text, texts text = true → Prompt cfg deliveries text request.timestamp tr) :
    tr.countP (entersFor deliveries texts) ≤ 1 ∧
      ((∃ text, texts text = true ∧ SavedResult deliveries text tr) →
        ∀ deliveries' s₁ tr' c', Restarted cfg c.state s₁ →
        Run (serviceMachine cfg monotoneClock) (servicePool cfg deliveries' s₁) tr' c' →
        (∀ text, texts text = true → Prompt cfg deliveries' text request.timestamp tr') →
        tr.countP (entersFor deliveries texts) + tr'.countP (entersFor deliveries' texts) ≤ 1) := by
  have hone := countP_entersFor_le_one hrun hnames hop hprompt
  refine ⟨hone, fun hsaved deliveries' s₁ tr' c' hrestart hrun' hprompt' => ?_⟩
  obtain ⟨text, htext, hsaved⟩ := hsaved
  have hzero : tr'.countP (entersFor deliveries' texts) = 0 := by
    rw [List.countP_eq_zero]
    intro e he henter
    obtain ⟨j, call, s, rfl, hj⟩ := eq_own_of_entersFor henter
    obtain ⟨tr₁, tr₂, rfl⟩ := List.append_of_mem he
    -- who enters after the restart has become an owner after the restart
    obtain ⟨id', _, now, u, hmem, howner, -, -⟩ := ownsIn_of_enter hrun' (hnames _ hj) hop
    obtain ⟨tr₃, tr₄, rfl⟩ := List.append_of_mem hmem
    -- but what was saved is still remembered
    obtain ⟨id, expiry, hsavedIn, hexp⟩ := savedIn_of_savedResult hrun (hnames _ htext) hsaved
    obtain ⟨id₁, expiry₁, hle, htracks⟩ :=
      tracksUntil_of_restarted (kept_of_run hstart hrun hsavedIn) hrestart
    have hbound := hprompt' _ hj
    rw [List.append_assoc, List.cons_append] at hrun' hbound
    exact not_owner_of_prompt hrun' hbound rfl (.inl htracks) (hexp.trans hle) howner
  omega

end runs

/-! ## The sample service -/

/-- The sample service with a wall clock that does not go back. -/
def sampleTimedMachine : Machine (ServiceState ℕ) (Instr ℕ) (EnvMove ℕ) :=
  serviceMachine (sampleConfig [sampleEnvelope]) monotoneClock

/-- Every delivery is the peer's self-revocation. -/
def sampleDeliveries : ℕ → String × Generation := fun _ => (renderJson (.dict sampleEnvelope), none)

/-- The text of the self-revocation. -/
def isSampleText (text : String) : Bool := text = renderJson (.dict sampleEnvelope)

/-- `monotoneClock`, as a test. -/
def clockOk : EnvMove ℕ → ServiceState ℕ → Bool
  | .tick clock _, s => s.clock ≤ clock
  | _, _ => true

/-- The executable check of the clock is sound.  Kind: L -/
theorem monotoneClock_of_clockOk (e : EnvMove ℕ) (s : ServiceState ℕ) (h : clockOk e s = true) :
    monotoneClock e s := by
  cases e with
  | tick clock sessionClock => simpa [clockOk, monotoneClock] using h
  | _ => trivial

/-- The self-revocation is a request of time 100 that is not a read.  Kind: L -/
theorem sampleEnvelope_names : ∃ request,
    Names (sampleConfig [sampleEnvelope]) (renderJson (.dict sampleEnvelope)) request ∧
      isIdempotentOp request.op = true ∧ request.timestamp = 100 := by
  have hloads : (sampleConfig [sampleEnvelope]).codec.loads (renderJson (.dict sampleEnvelope)) =
      .ok (.dict sampleEnvelope) := by
    simp [sampleConfig, tableCodec]
  have hchecked : ((sampleConfig [sampleEnvelope]).codec.checkEnvelope (.dict sampleEnvelope)
      "secret").toOption.any (fun e => e.checkIdentity.toOption.any fun r =>
        isIdempotentOp r.op && decide (r.timestamp = 100)) = true := by decide +kernel
  obtain ⟨checked, hchecked, hany⟩ := Option.any_eq_true _ _ |>.mp hchecked
  obtain ⟨request, hid, hop⟩ := Option.any_eq_true _ _ |>.mp hany
  simp only [Bool.and_eq_true, decide_eq_true_eq] at hop
  exact ⟨request, ⟨_, "secret", checked, hloads, Except.eq_ok_of_toOption hchecked,
    Except.eq_ok_of_toOption hid⟩, hop⟩

/-- A delivery that is stalled between its freshness check and the idempotency cache, until the
entry of the first one has expired, executes the operation a second time: here the lifetime is 300,
the window 60, and the clock moves from 100 to 400 meanwhile. -/
theorem stalled_delivery_executes_again :
    ∃ tr c request, Run sampleTimedMachine
        (servicePool (sampleConfig [sampleEnvelope]) sampleDeliveries (sampleState {.readState}))
        tr c ∧
      2 * (sampleConfig [sampleEnvelope]).freshnessSeconds <
        (sampleConfig [sampleEnvelope]).idempotencyTtl ∧
      Names (sampleConfig [sampleEnvelope]) (renderJson (.dict sampleEnvelope)) request ∧
      isIdempotentOp request.op = true ∧
      tr.countP (entersFor sampleDeliveries isSampleText) = 2 := by
  have hexec : (Pool.exec sampleTimedMachine clockOk
      (List.replicate 22 (.thread 0) ++ List.replicate 8 (.thread 1) ++ [.env (.tick 400 0)] ++
        List.replicate 5 (.thread 1))
      (servicePool (sampleConfig [sampleEnvelope]) sampleDeliveries
        (sampleState {.readState}))).any
      (fun out => decide (out.1.countP
        (entersFor sampleDeliveries isSampleText) = 2)) = true := by
    decide +kernel
  obtain ⟨tr, c, hrun, htest⟩ := Run.of_exec monotoneClock_of_clockOk hexec
  obtain ⟨request, hnames, hop, -⟩ := sampleEnvelope_names
  exact ⟨tr, c, request, hrun, by norm_num [sampleConfig], hnames, hop, by simpa using htest⟩

/-- Whether every entry into the idempotency cache happens before `bound`. -/
def entersBefore (bound : ℚ) : SvcEvent ℕ → Bool
  | .own _ (.idemEnter _ _ _) s => s.clock < bound
  | _ => true

/-- The executable check of promptness is sound.  Kind: L -/
theorem prompt_of_entersBefore {tr : List (SvcEvent ℕ)} {timestamp : ℚ} (ht : timestamp = 100)
    (h : tr.all (entersBefore 340) = true) :
    Prompt (sampleConfig [sampleEnvelope]) sampleDeliveries (renderJson (.dict sampleEnvelope))
      timestamp tr := by
  intro i key fp now s hmem _
  have hbefore : s.clock < 340 := by
    simpa [entersBefore] using List.all_eq_true.mp h _ hmem
  rw [ht]
  norm_num [sampleConfig]
  exact hbefore

/-- All deliveries of the self-revocation are prompt.  Kind: L -/
theorem prompt_of_isSampleText {tr : List (SvcEvent ℕ)} {timestamp : ℚ} (ht : timestamp = 100)
    (h : tr.all (entersBefore 340) = true) (text : String) (htext : isSampleText text = true) :
    Prompt (sampleConfig [sampleEnvelope]) sampleDeliveries text timestamp tr := by
  rw [of_decide_eq_true htext]
  exact prompt_of_entersBefore ht h

/-- Whether an event records and saves a result. -/
def savesResult : SvcEvent ℕ → Bool
  | .own _ (.idemComplete _ _) s => s.storeFault.isNone
  | _ => false

/-- The executable check of a saved result is sound.  Kind: L -/
theorem savedResult_of_any {tr : List (SvcEvent ℕ)} (h : tr.any savesResult = true) :
    SavedResult sampleDeliveries (renderJson (.dict sampleEnvelope)) tr := by
  obtain ⟨e, hmem, hsaves⟩ := List.any_eq_true.mp h
  cases e with
  | own i l s =>
      cases l with
      | idemComplete id result =>
          exact ⟨i, id, result, s, hmem, rfl, by simpa [savesResult] using hsaves⟩
      | _ => cases hsaves
  | env e s => cases hsaves

/-- The state of the sample service after a restart at time 100. -/
def sampleRestart (s : ServiceState ℕ) : ServiceState ℕ :=
  { sampleState {.readState} with idempotency := .load 4096 (fun _ => 100) s.idempotency.store }

/-- The self-revocation is delivered, executed and saved; after a restart it is delivered again:
one execution in all. -/
theorem at_most_once_revoke :
    ∃ tr c tr' c', Run sampleTimedMachine
        (servicePool (sampleConfig [sampleEnvelope]) sampleDeliveries (sampleState {.readState}))
        tr c ∧
      Run sampleTimedMachine (servicePool (sampleConfig [sampleEnvelope]) sampleDeliveries
        (sampleRestart c.state)) tr' c' ∧ answeredOk 0 c' = true ∧
      tr.countP (entersFor sampleDeliveries isSampleText) +
        tr'.countP (entersFor sampleDeliveries isSampleText) ≤ 1 := by
  have hexec : (Pool.exec sampleTimedMachine clockOk (List.replicate 22 (.thread 0))
      (servicePool (sampleConfig [sampleEnvelope]) sampleDeliveries
        (sampleState {.readState}))).any
      (fun out => out.1.all (entersBefore 340) && out.1.any savesResult &&
        decide (out.2.state.clock = 100) &&
        (Pool.exec sampleTimedMachine clockOk (List.replicate 15 (.thread 0))
          (servicePool (sampleConfig [sampleEnvelope]) sampleDeliveries
            (sampleRestart out.2.state))).any
          fun out' => out'.1.all (entersBefore 340) && answeredOk 0 out'.2) = true := by
    decide +kernel
  obtain ⟨tr, c, hrun, htest⟩ := Run.of_exec monotoneClock_of_clockOk hexec
  simp only [Bool.and_eq_true, decide_eq_true_eq] at htest
  obtain ⟨⟨⟨hbefore, hsaves⟩, hclock⟩, hexec'⟩ := htest
  obtain ⟨tr', c', hrun', htest'⟩ := Run.of_exec monotoneClock_of_clockOk hexec'
  rw [Bool.and_eq_true] at htest'
  obtain ⟨request, hnames, hop, hts⟩ := sampleEnvelope_names
  have hrestart : Restarted (sampleConfig [sampleEnvelope]) c.state (sampleRestart c.state) :=
    ⟨fun _ => 100, fun _ => hclock.le, fun _ => le_rfl, rfl⟩
  have hstart : Started (sampleConfig [sampleEnvelope]) (sampleState {.readState}) :=
    ⟨fun _ => 0, [], rfl⟩
  have hall : ∀ text, isSampleText text = true →
      Names (sampleConfig [sampleEnvelope]) text request := by
    intro text htext
    rw [of_decide_eq_true htext]
    exact hnames
  exact ⟨tr, c, tr', c', hrun, hrun', htest'.2,
    (at_most_once hall hop hstart hrun (prompt_of_isSampleText hts hbefore)).2
      ⟨_, decide_eq_true rfl, savedResult_of_any hsaves⟩ _ _ tr' c' hrestart hrun'
      (prompt_of_isSampleText hts htest'.1)⟩

end ExpraConnect
