import ExpraConnect.Lib.Prog

/-!
# What a thread returns when its instructions find what they need

In an interleaved run a thread meets states that others have changed.  Two notions say what it makes
of them, both relative to a predicate `P` on the steps of its history:

* `Yields P Q p`: a thread `p` that has ended along steps with `P` returned a value with `Q`;
* `Settles P p`: along steps with `P`, the outcome of `p` is always the same.

`Raising E p` says that whatever the thread raises, along any history, satisfies `E`.

The rules follow the way a thread is built.  `Ends.unique_of_append` says that a thread ends at most
once along a history, `feed` evaluates a thread on the states it sees, and `Run.preserves` says that
what every event of a run keeps, the run keeps.
-/

namespace ExpraConnect.Lib

namespace Prog

variable {σ ι ε α β : Type} {P P' : ι → σ → Prop} {Q Q' : α → Prop} {R : β → Prop}

/-- Every step of the history satisfies `P`. -/
def Along (P : ι → σ → Prop) (h : History σ ι) : Prop := ∀ x ∈ h, P x.1 x.2

/-- A property along a history holds along its front.  Kind: L -/
theorem Along.left {h₁ h₂ : History σ ι} (h : Along P (h₁ ++ h₂)) : Along P h₁ :=
  fun x hx => h x (List.mem_append_left _ hx)

/-- A property along a history holds along its back.  Kind: L -/
theorem Along.right {h₁ h₂ : History σ ι} (h : Along P (h₁ ++ h₂)) : Along P h₂ :=
  fun x hx => h x (List.mem_append_right _ hx)

/-- A property along a history holds along its tail.  Kind: L -/
theorem Along.tail {x : ι × σ} {h : History σ ι} (hx : Along P (x :: h)) : Along P h :=
  fun y hy => hx y (List.mem_cons_of_mem _ hy)

/-- Ended along steps with `P`, the thread returned a value with `Q`.
Source: none: infrastructure.  Kind: D -/
def Yields (P : ι → σ → Prop) (Q : α → Prop) (p : Prog σ ι ε α) : Prop :=
  ∀ h r, Ends p h r → Along P h → ∃ a, r = .ok a ∧ Q a

/-- Along steps with `P`, the outcome of the thread is always the same.
Source: none: infrastructure.  Kind: D -/
def Settles (P : ι → σ → Prop) (p : Prog σ ι ε α) : Prop :=
  ∀ h h' r r', Ends p h r → Ends p h' r' → Along P h → Along P h' → r = r'

/-- A lifted value is handed on.  Kind: L -/
theorem ofExcept_ok_bind (a : α) (k : α → Prog σ ι ε β) :
    ((ofExcept (.ok a) : Prog σ ι ε α) >>= k) = k a := rfl

/-! ## Threads that return -/

/-- `pure` yields its value.  Kind: L -/
theorem yields_pure {a : α} (ha : Q a) : Yields P Q (pure a : Prog σ ι ε α) := by
  intro h r hends _
  obtain ⟨-, rfl⟩ := ends_pure.mp hends
  exact ⟨a, rfl, ha⟩

/-- A lifted result that is a value yields it.  Kind: L -/
theorem yields_ofExcept {x : Except ε α} {a : α} (hx : x = .ok a) (ha : Q a) :
    Yields P Q (ofExcept x : Prog σ ι ε α) := by
  intro h r hends _
  obtain ⟨-, rfl⟩ := ends_ofExcept.mp hends
  exact ⟨a, hx, ha⟩

/-- An instruction yields what it computes on every admissible state.  Kind: L -/
theorem yields_call {l : ι} {f : σ → Except ε α} (hf : ∀ s, P l s → ∃ a, f s = .ok a ∧ Q a) :
    Yields P Q (call l f) := by
  intro h r hends halong
  obtain ⟨s, rfl, rfl⟩ := ends_call.mp hends
  exact hf s (halong (l, s) (List.mem_singleton_self _))

/-- Sequence rule.  Kind: L -/
theorem yields_bind {p : Prog σ ι ε α} {k : α → Prog σ ι ε β} (hp : Yields P Q p)
    (hk : ∀ a, Q a → Yields P R (k a)) : Yields P R (p >>= k) := by
  intro h r hends halong
  rcases ends_bind.mp hends with ⟨e, -, herr⟩ | ⟨h₁, h₂, a, rfl, ha, hrest⟩
  · obtain ⟨a, hbad, -⟩ := hp h _ herr halong
    cases hbad
  · obtain ⟨a', heq, hQ⟩ := hp h₁ _ ha halong.left
    cases heq
    exact hk a hQ h₂ r hrest halong.right

/-- A caught thread that yields does not fail.  Kind: L -/
theorem yields_attempt {p : Prog σ ι ε α} (hp : Yields P Q p) :
    Yields P (fun r => ∃ a, r = .ok a ∧ Q a) (attempt p) := by
  intro h r hends halong
  cases r with
  | error e => exact (ends_attempt_error.mp hends).elim
  | ok r => exact ⟨r, rfl, hp h r (ends_attempt_ok.mp hends) halong⟩

/-- Consequence rule.  Kind: L -/
theorem Yields.mono {p : Prog σ ι ε α} (hp : Yields P Q p) (hP : ∀ l s, P' l s → P l s)
    (hQ : ∀ a, Q a → Q' a) : Yields P' Q' p := by
  intro h r hends halong
  obtain ⟨a, hr, ha⟩ := hp h r hends fun x hx => hP _ _ (halong x hx)
  exact ⟨a, hr, hQ a ha⟩

/-! ## Threads with one outcome -/

/-- `pure` has one outcome.  Kind: L -/
theorem settles_pure (a : α) : Settles P (pure a : Prog σ ι ε α) := by
  intro h h' r r' hr hr' _ _
  rw [(ends_pure.mp hr).2, (ends_pure.mp hr').2]

/-- `throw` has one outcome.  Kind: L -/
theorem settles_throw (e : ε) : Settles P (throw e : Prog σ ι ε α) := by
  intro h h' r r' hr hr' _ _
  rw [(ends_throw.mp hr).2, (ends_throw.mp hr').2]

/-- A lifted result has one outcome.  Kind: L -/
theorem settles_ofExcept (x : Except ε α) : Settles P (ofExcept x : Prog σ ι ε α) := by
  intro h h' r r' hr hr' _ _
  rw [(ends_ofExcept.mp hr).2, (ends_ofExcept.mp hr').2]

/-- An instruction settles that computes the same on all admissible states.  Kind: L -/
theorem settles_call {l : ι} {f : σ → Except ε α} (hf : ∀ s s', P l s → P l s' → f s = f s') :
    Settles P (call l f) := by
  intro h h' r r' hr hr' halong halong'
  obtain ⟨s, rfl, rfl⟩ := ends_call.mp hr
  obtain ⟨s', rfl, rfl⟩ := ends_call.mp hr'
  exact hf s s' (halong _ (List.mem_singleton_self _)) (halong' _ (List.mem_singleton_self _))

/-- Sequence rule.  Kind: L -/
theorem settles_bind {p : Prog σ ι ε α} {k : α → Prog σ ι ε β} (hp : Settles P p)
    (hk : ∀ a, Settles P (k a)) : Settles P (p >>= k) := by
  intro h h' r r' hr hr' halong halong'
  rcases ends_bind.mp hr with ⟨e, rfl, he⟩ | ⟨h₁, h₂, a, rfl, ha, hrest⟩
  · rcases ends_bind.mp hr' with ⟨e', rfl, he'⟩ | ⟨h₁', h₂', a', rfl, ha', -⟩
    · cases hp _ _ _ _ he he' halong halong'
      rfl
    · cases hp _ _ _ _ he ha' halong halong'.left
  · rcases ends_bind.mp hr' with ⟨e', rfl, he'⟩ | ⟨h₁', h₂', a', rfl, ha', hrest'⟩
    · cases hp _ _ _ _ ha he' halong.left halong'
    · cases hp _ _ _ _ ha ha' halong.left halong'.left
      exact hk a _ _ _ _ hrest hrest' halong.right halong'.right

/-- A thread with one outcome that has returned once, returns.  Kind: L -/
theorem Settles.yields {p : Prog σ ι ε α} {h : History σ ι} {a : α} (hp : Settles P p)
    (hends : Ends p h (.ok a)) (halong : Along P h) : Yields P (· = a) p :=
  fun _ _ hr halong' => ⟨a, hp _ _ _ _ hr hends halong' halong, rfl⟩

/-! ## What a thread raises -/

section raising

variable {E : ε → Prop}

/-- Whatever the thread raises satisfies `E`.  Source: none: infrastructure.  Kind: D -/
def Raising (E : ε → Prop) (p : Prog σ ι ε α) : Prop := ∀ h e, Ends p h (.error e) → E e

/-- `pure` raises nothing.  Kind: L -/
theorem raising_pure (a : α) : Raising E (pure a : Prog σ ι ε α) := by
  intro h e hends
  cases (ends_pure.mp hends).2

/-- `throw` raises its error.  Kind: L -/
theorem raising_throw {e : ε} (he : E e) : Raising E (throw e : Prog σ ι ε α) := by
  intro h e' hends
  cases (ends_throw.mp hends).2
  exact he

/-- A lifted result raises its own error.  Kind: L -/
theorem raising_ofExcept {x : Except ε α} (hx : ∀ e, x = .error e → E e) :
    Raising E (ofExcept x : Prog σ ι ε α) := by
  intro h e hends
  exact hx e (ends_ofExcept.mp hends).2.symm

/-- An instruction raises what it computes.  Kind: L -/
theorem raising_call {l : ι} {f : σ → Except ε α} (hf : ∀ s e, f s = .error e → E e) :
    Raising E (call l f) := by
  intro h e hends
  obtain ⟨s, -, hs⟩ := ends_call.mp hends
  exact hf s e hs.symm

/-- Sequence rule.  Kind: L -/
theorem raising_bind {p : Prog σ ι ε α} {k : α → Prog σ ι ε β} (hp : Raising E p)
    (hk : ∀ a, Raising E (k a)) : Raising E (p >>= k) := by
  intro h e hends
  rcases ends_bind_error.mp hends with hends | ⟨-, h₂, a, -, -, hends⟩
  · exact hp h e hends
  · exact hk a h₂ e hends

end raising

/-! ## A thread ends once -/

theorem Ends.unique_of_append {p : Prog σ ι ε α} {h₁ h₂ h₁' h₂' : History σ ι}
    {r r' : Except ε α} (hr : Ends p h₁ r) (hr' : Ends p h₁' r') (heq : h₁ ++ h₂ = h₁' ++ h₂') :
    h₁ = h₁' ∧ h₂ = h₂' ∧ r = r' := by
  induction p generalizing h₁ h₁' with
  | ret a =>
      obtain ⟨rfl, rfl⟩ := ends_ret.mp hr
      obtain ⟨rfl, rfl⟩ := ends_ret.mp hr'
      exact ⟨rfl, heq, rfl⟩
  | fail e =>
      obtain ⟨rfl, rfl⟩ := ends_fail.mp hr
      obtain ⟨rfl, rfl⟩ := ends_fail.mp hr'
      exact ⟨rfl, heq, rfl⟩
  | step l next ih =>
      obtain ⟨s, t, rfl, ht⟩ := ends_step.mp hr
      obtain ⟨s', t', rfl, ht'⟩ := ends_step.mp hr'
      simp only [List.cons_append, List.cons.injEq, Prod.mk.injEq, true_and] at heq
      obtain ⟨rfl, heq⟩ := heq
      obtain ⟨rfl, rfl, rfl⟩ := ih s ht ht' heq
      exact ⟨rfl, rfl, rfl⟩

/-- What is left of a sequence once its first part has returned.  Kind: L -/
theorem Ends.rest {p : Prog σ ι ε α} {k : α → Prog σ ι ε β} {h₁ h₂ : History σ ι} {a : α}
    {r : Except ε β} (ha : Ends p h₁ (.ok a)) (hr : Ends (p >>= k) (h₁ ++ h₂) r) :
    Ends (k a) h₂ r := by
  rcases ends_bind.mp hr with ⟨e, rfl, he⟩ | ⟨h₁', h₂', a', heq, ha', hrest⟩
  · have happend : h₁ ++ h₂ = (h₁ ++ h₂) ++ [] := (List.append_nil _).symm
    obtain ⟨-, -, hbad⟩ := ha.unique_of_append he happend
    cases hbad
  · obtain ⟨rfl, rfl, hsame⟩ := ha.unique_of_append ha' heq
    cases hsame
    exact hrest

/-- A thread that has ended has nothing left to execute.  Kind: L -/
theorem Ends.not_reaches {p : Prog σ ι ε α} {h₁ h₂ : History σ ι} {r : Except ε α} {l : ι}
    (hr : Ends p h₁ r) (hl : Reaches p (h₁ ++ h₂) l) : False := by
  induction p generalizing h₁ with
  | ret a => exact reaches_ret.mp hl
  | fail e => exact reaches_fail.mp hl
  | step l' next ih =>
      obtain ⟨s, t, rfl, ht⟩ := ends_step.mp hr
      rcases reaches_step.mp hl with ⟨hnil, -⟩ | ⟨s', t', heq, hl⟩
      · cases hnil
      · simp only [List.cons_append, List.cons.injEq, Prod.mk.injEq, true_and] at heq
        obtain ⟨rfl, rfl⟩ := heq
        exact ih s ht hl

/-- Where a sequence is once its first part has returned.  Kind: L -/
theorem Reaches.rest {p : Prog σ ι ε α} {k : α → Prog σ ι ε β} {h₁ h₂ : History σ ι} {a : α}
    {l : ι} (ha : Ends p h₁ (.ok a)) (hl : Reaches (p >>= k) (h₁ ++ h₂) l) :
    Reaches (k a) h₂ l := by
  rcases reaches_bind.mp hl with hl | ⟨h₁', h₂', a', heq, ha', hl⟩
  · exact (ha.not_reaches hl).elim
  · obtain ⟨rfl, rfl, hsame⟩ := ha.unique_of_append ha' heq
    cases hsame
    exact hl

/-! ## Following a thread by evaluation -/

/-- The outcome of a thread that sees the given states, with the states it leaves. -/
def feed : Prog σ ι ε α → List σ → Option (Except ε α × List σ)
  | ret a, states => some (.ok a, states)
  | fail e, states => some (.error e, states)
  | step _ _, [] => none
  | step _ next, s :: states => feed (next s) states

/-- A part that has not ended leaves the sequence unended.  Kind: L -/
theorem feed_bind_none {p : Prog σ ι ε α} {k : α → Prog σ ι ε β} {states : List σ}
    (hp : p.feed states = none) : (p >>= k).feed states = none := by
  change (bind p k).feed states = none
  induction p generalizing states with
  | ret a => cases hp
  | fail e => cases hp
  | step l next ih =>
      cases states with
      | nil => rfl
      | cons s states => exact ih s hp

/-- A sequence is fed the front first, then the rest.  Kind: L -/
theorem feed_bind_ok {p : Prog σ ι ε α} {k : α → Prog σ ι ε β} {states rest : List σ} {a : α}
    (hp : p.feed states = some (.ok a, rest)) : (p >>= k).feed states = (k a).feed rest := by
  change (bind p k).feed states = (k a).feed rest
  induction p generalizing states with
  | ret b =>
      cases hp
      rfl
  | fail e => cases hp
  | step l next ih =>
      cases states with
      | nil => cases hp
      | cons s states => exact ih s hp

/-- A caught thread that runs out of states runs out of them.  Kind: L -/
theorem feed_attempt_none {p : Prog σ ι ε α} {states : List σ} (hp : p.feed states = none) :
    (attempt p).feed states = none := by
  induction p generalizing states with
  | ret a => cases hp
  | fail e => cases hp
  | step l next ih =>
      cases states with
      | nil => rfl
      | cons s states => exact ih s hp

/-- Feeding the states of a history gives the outcome the history ends with.  Kind: L -/
theorem Ends.feed {p : Prog σ ι ε α} {h : History σ ι} {r : Except ε α} (hr : Ends p h r)
    (states : List σ) : p.feed (h.map Prod.snd ++ states) = some (r, states) := by
  induction p generalizing h with
  | ret a =>
      obtain ⟨rfl, rfl⟩ := ends_ret.mp hr
      rfl
  | fail e =>
      obtain ⟨rfl, rfl⟩ := ends_fail.mp hr
      rfl
  | step l next ih =>
      obtain ⟨s, t, rfl, ht⟩ := ends_step.mp hr
      exact ih s ht

/-- A thread that has not ended by evaluation is in front of an instruction.  Kind: L -/
theorem Follows.reaches_of_feed {p q : Prog σ ι ε α} {h : History σ ι} (hf : Follows p h q)
    (hnone : p.feed (h.map Prod.snd) = none) : ∃ l, Reaches p h l := by
  cases q with
  | ret a =>
      have hfeed := Ends.feed (r := .ok a) hf []
      rw [List.append_nil, hnone] at hfeed
      cases hfeed
  | fail e =>
      have hfeed := Ends.feed (r := .error e) hf []
      rw [List.append_nil, hnone] at hfeed
      cases hfeed
  | step l next => exact ⟨l, next, hf⟩

/-- A sequence whose first part returned by evaluation is in its rest.  Kind: L -/
theorem Reaches.of_feed {p : Prog σ ι ε α} {k : α → Prog σ ι ε β} {h : History σ ι} {l : ι} {a : α}
    {states : List σ} (hl : Reaches (p >>= k) h l)
    (hfeed : p.feed (h.map Prod.snd) = some (.ok a, states)) :
    ∃ h₁ h₂, h = h₁ ++ h₂ ∧ Ends p h₁ (.ok a) ∧ Reaches (k a) h₂ l ∧
      h₂.map Prod.snd = states := by
  change Reaches (bind p k) h l at hl
  induction p generalizing h with
  | ret b =>
      cases hfeed
      exact ⟨[], h, rfl, ends_ret.mpr ⟨rfl, rfl⟩, hl, rfl⟩
  | fail e => cases hfeed
  | step l' next ih =>
      rcases reaches_step.mp hl with ⟨rfl, -⟩ | ⟨s, t, rfl, ht⟩
      · cases hfeed
      · obtain ⟨h₁, h₂, rfl, hends, hrest⟩ := ih s hfeed ht
        exact ⟨(l', s) :: h₁, h₂, rfl, ends_step.mpr ⟨s, h₁, rfl, hends⟩, hrest⟩

/-- A sequence whose first part has not ended by evaluation is in that part.  Kind: L -/
theorem Reaches.of_feed_none {p : Prog σ ι ε α} {k : α → Prog σ ι ε β} {h : History σ ι} {l : ι}
    (hl : Reaches (p >>= k) h l) (hnone : p.feed (h.map Prod.snd) = none) : Reaches p h l := by
  rcases reaches_bind.mp hl with hl | ⟨h₁, h₂, a, rfl, hends, -⟩
  · exact hl
  · have hfeed := hends.feed (h₂.map Prod.snd)
    rw [← List.map_append, hnone] at hfeed
    cases hfeed

end Prog

/-! ## What a run keeps -/

variable {σ ι ε α κ : Type} {M : Machine σ ι κ} {c₀ c : Pool σ ι ε α} {tr : List (Event σ ι κ)}

/-- What every event of a run keeps, the run keeps.  Kind: L -/
theorem Run.preserves {P : σ → Prop} (hrun : Run M c₀ tr c)
    (hstep : ∀ e ∈ tr, P e.pre → P (e.post M)) (h₀ : P c₀.state) : P c.state := by
  induction hrun with
  | start => exact h₀
  | @own tr c i l next hrun hi hready ih =>
      have hbefore := ih fun e he => hstep e (List.mem_append_left _ he)
      exact hstep (.own i l c.state) (by simp) hbefore
  | @env tr c x hrun hallowed ih =>
      have hbefore := ih fun e he => hstep e (List.mem_append_left _ he)
      exact hstep (.env x c.state) (by simp) hbefore

/-- It holds in front of every event.  Kind: L -/
theorem Run.preserves_pre {P : σ → Prop} (hrun : Run M c₀ tr c)
    (hstep : ∀ e ∈ tr, P e.pre → P (e.post M)) (h₀ : P c₀.state) : ∀ e ∈ tr, P e.pre := by
  intro e he
  obtain ⟨tr₁, tr₂, rfl⟩ := List.append_of_mem he
  obtain ⟨c₁, hrun₁, hpre, -⟩ := hrun.split
  rw [← hpre]
  exact hrun₁.preserves (fun x hx => hstep x (List.mem_append_left _ hx)) h₀

/-- What an event establishes and the events behind it keep, a later event finds.  Kind: L -/
theorem Run.preserves_between {P : σ → Prop} {tr₁ tr₂ tr₃ : List (Event σ ι κ)}
    {e e' : Event σ ι κ} (hrun : Run M c₀ (tr₁ ++ e :: tr₂ ++ e' :: tr₃) c) (hpost : P (e.post M))
    (hstep : ∀ x ∈ tr₂, P x.pre → P (x.post M)) : P e'.pre := by
  obtain ⟨c₂, hrun₂, hpre, -⟩ := hrun.split
  rw [← List.singleton_append, ← List.append_assoc] at hrun₂
  obtain ⟨c₁, hrun₁, hrest⟩ := hrun₂.cut
  rw [← hrun₁.state_eq_post] at hpost
  rw [← hpre]
  exact hrest.preserves hstep hpost

end ExpraConnect.Lib
