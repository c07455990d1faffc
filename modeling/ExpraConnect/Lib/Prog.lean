import Mathlib.Data.List.Basic
import Mathlib.Logic.Function.Basic
import Mathlib.Tactic

/-!
# Threads made of atomic instructions

A `Prog σ ι ε α` is a thread over a shared state `σ`: a tree whose nodes are atomic instructions
`l : ι`.  Executing `l` in state `s` moves the shared state to `M.upd l s` and lets the thread
continue with a program that may depend on the `s` it saw.  A thread ends by returning (`ret`) or
by raising (`fail`).  A `Machine` says what the instructions do, which of them block
(`M.ready`), and what the environment can do between them (`M.env`, `M.allowed`).

* `Prog.Ends p h r`, `Prog.Reaches p h l`: along its own history `h`, the list of
  `(instruction, state it was executed in)`, the thread `p` ends with outcome `r`, or has `l` as
  its next instruction; with one inversion rule for every way to build a program, so that what
  earlier checks of a thread saw is read off its history, *whatever the other parties did in
  between*.
* `Run M c₀ tr c`: an interleaved run of a pool of threads and environment moves, with its trace.
* `Run.ends`, `Run.reaches`: what happens in a run, as facts about the programs of its threads;
  `Run.split` cuts a run at an event of its trace.
* `Pool.exec`: an executable scheduler, sound for `Run` (`Pool.exec_sound`).
-/

namespace ExpraConnect.Lib

/-- A thread: a tree of atomic instructions.  Source: none: infrastructure.  Kind: D -/
inductive Prog (σ ι ε α : Type) where
  /-- Return a value. -/
  | ret (a : α)
  /-- Raise an error. -/
  | fail (e : ε)
  /-- Execute `l`; the rest may depend on the state `l` was executed in. -/
  | step (l : ι) (next : σ → Prog σ ι ε α)

namespace Prog

variable {σ ι ε α β : Type}

/-- Sequencing; an error skips the rest. -/
def bind (p : Prog σ ι ε α) (k : α → Prog σ ι ε β) : Prog σ ι ε β :=
  match p with
  | ret a => k a
  | fail e => fail e
  | step l next => step l fun s => bind (next s) k

/-- Run `p` and hand its outcome on as a value: `try: ... except BaseException as e: ...`. -/
def attempt : Prog σ ι ε α → Prog σ ι ε (Except ε α)
  | ret a => ret (.ok a)
  | fail e => ret (.error e)
  | step l next => step l fun s => attempt (next s)

instance : Monad (Prog σ ι ε) where
  pure := ret
  bind := bind

/-- `throw` raises, `tryCatch` hands a raised error to the handler. -/
instance : MonadExceptOf ε (Prog σ ι ε) where
  throw := fail
  tryCatch p handler := bind (attempt p) fun
    | .ok a => ret a
    | .error e => handler e

/-- A value or an error, without an instruction. -/
def ofExcept : Except ε α → Prog σ ι ε α
  | .ok a => ret a
  | .error e => fail e

/-- One instruction whose outcome is a function of the state it is executed in. -/
def call (l : ι) (f : σ → Except ε α) : Prog σ ι ε α := step l fun s => ofExcept (f s)

/-- `try: p finally: cleanup`; an error of `cleanup` takes the place of `p`'s outcome. -/
def ensuring (p : Prog σ ι ε α) (cleanup : Prog σ ι ε Unit) : Prog σ ι ε α :=
  bind (attempt p) fun r => bind cleanup fun _ => ofExcept r

/-- A returned value is handed on.  Kind: L -/
@[simp] theorem ret_bind (a : α) (k : α → Prog σ ι ε β) : (ret a >>= k) = k a := rfl

/-- `pure` is a returned value.  Kind: L -/
@[simp] theorem pure_bind' (a : α) (k : α → Prog σ ι ε β) : (pure a >>= k) = k a := rfl

/-- A failed thread ends its sequence.  Kind: L -/
@[simp] theorem fail_bind (e : ε) (k : α → Prog σ ι ε β) : (fail e >>= k) = fail e := rfl

/-! ## Following a thread along its history -/

/-- What a thread has executed so far, with the state each instruction was executed in. -/
abbrev History (σ ι : Type) := List (ι × σ)

/-- After executing `h`, what is left of `p` is `q`.  Source: none: infrastructure.  Kind: D -/
def Follows : Prog σ ι ε α → History σ ι → Prog σ ι ε α → Prop
  | p, [], q => q = p
  | step l next, (l', s) :: h, q => l' = l ∧ Follows (next s) h q
  | ret _, _ :: _, _ => False
  | fail _, _ :: _, _ => False

/-- The program that has ended with an outcome. -/
def finished : Except ε α → Prog σ ι ε α
  | .ok a => ret a
  | .error e => fail e

/-- `p` ends along `h` with outcome `r`. -/
def Ends (p : Prog σ ι ε α) (h : History σ ι) (r : Except ε α) : Prop := Follows p h (finished r)

/-- What `p` does when its instructions find the states, if they are as many as it executes. -/
def play : Prog σ ι ε α → List σ → Option (History σ ι × Except ε α)
  | ret a, [] => some ([], .ok a)
  | fail e, [] => some ([], .error e)
  | step l next, s :: states => (play (next s) states).map fun out => ((l, s) :: out.1, out.2)
  | _, _ => none

/-- A thread played against a list of states ends as the play says.  Kind: L -/
theorem ends_of_play {p : Prog σ ι ε α} {states : List σ} {h : History σ ι} {r : Except ε α}
    (hplay : play p states = some (h, r)) : Ends p h r := by
  induction states generalizing p h with
  | nil => cases p <;> cases hplay <;> rfl
  | cons s states ih =>
      cases p with
      | ret a => cases hplay
      | fail e => cases hplay
      | step l next =>
          obtain ⟨⟨rest, r'⟩, hrest, heq⟩ := Option.map_eq_some_iff.mp hplay
          cases heq
          exact ⟨rfl, ih hrest⟩

/-- After `h`, the next instruction of `p` is `l`. -/
def Reaches (p : Prog σ ι ε α) (h : History σ ι) (l : ι) : Prop :=
  ∃ next, Follows p h (step l next)

/-- A thread followed one instruction further.  Kind: L -/
theorem follows_snoc {p q : Prog σ ι ε α} {h : History σ ι} {l : ι} {s : σ} :
    Follows p (h ++ [(l, s)]) q ↔ ∃ next, Follows p h (step l next) ∧ q = next s := by
  induction h generalizing p with
  | nil =>
      cases p with
      | ret a => simp [Follows]
      | fail e => simp [Follows]
      | step l' next => simp only [List.nil_append, Follows, step.injEq]; aesop
  | cons x h ih =>
      obtain ⟨l', s'⟩ := x
      cases p with
      | ret a => simp [Follows]
      | fail e => simp [Follows]
      | step l'' next =>
          simp only [List.cons_append, Follows, ih]
          constructor
          · rintro ⟨hl, n, hn, hq⟩
            exact ⟨n, ⟨hl, hn⟩, hq⟩
          · rintro ⟨n, ⟨hl, hn⟩, hq⟩
            exact ⟨hl, n, hn, hq⟩

/-- A returned value ends at once.  Kind: L -/
@[simp] theorem ends_ret {a : α} {h : History σ ι} {r : Except ε α} :
    Ends (ret a : Prog σ ι ε α) h r ↔ h = [] ∧ r = .ok a := by
  cases h with
  | nil => cases r <;> simp [Ends, Follows, finished]
  | cons x h => simp [Ends, Follows]

/-- `pure` ends at once.  Kind: L -/
@[simp] theorem ends_pure {a : α} {h : History σ ι} {r : Except ε α} :
    Ends (pure a : Prog σ ι ε α) h r ↔ h = [] ∧ r = .ok a := ends_ret

/-- A failure ends at once.  Kind: L -/
@[simp] theorem ends_fail {e : ε} {h : History σ ι} {r : Except ε α} :
    Ends (fail e : Prog σ ι ε α) h r ↔ h = [] ∧ r = .error e := by
  cases h with
  | nil => cases r <;> simp [Ends, Follows, finished]
  | cons x h => simp [Ends, Follows]

/-- `throw` ends at once.  Kind: L -/
@[simp] theorem ends_throw {e : ε} {h : History σ ι} {r : Except ε α} :
    Ends (throw e : Prog σ ι ε α) h r ↔ h = [] ∧ r = .error e := ends_fail

/-- A lifted result ends at once.  Kind: L -/
@[simp] theorem ends_ofExcept {x : Except ε α} {h : History σ ι} {r : Except ε α} :
    Ends (ofExcept x : Prog σ ι ε α) h r ↔ h = [] ∧ r = x := by
  cases x with
  | ok a => exact ends_ret
  | error e => exact ends_fail

/-- An instruction is the first entry of the history.  Kind: L -/
theorem ends_step {l : ι} {next : σ → Prog σ ι ε α} {h : History σ ι} {r : Except ε α} :
    Ends (step l next) h r ↔ ∃ s h', h = (l, s) :: h' ∧ Ends (next s) h' r := by
  cases h with
  | nil => cases r <;> simp [Ends, Follows, finished]
  | cons x h =>
      obtain ⟨l', s⟩ := x
      simp only [Ends, Follows, List.cons.injEq, Prod.mk.injEq]
      constructor
      · rintro ⟨rfl, hr⟩
        exact ⟨s, h, ⟨⟨rfl, rfl⟩, rfl⟩, hr⟩
      · rintro ⟨s', h', ⟨⟨rfl, rfl⟩, rfl⟩, hr⟩
        exact ⟨rfl, hr⟩

/-- A single instruction ends after it with what it computes.  Kind: L -/
@[simp] theorem ends_call {l : ι} {f : σ → Except ε α} {h : History σ ι} {r : Except ε α} :
    Ends (call l f) h r ↔ ∃ s, h = [(l, s)] ∧ r = f s := by
  simp only [call, ends_step, ends_ofExcept]
  constructor
  · rintro ⟨s, h', rfl, rfl, hr⟩
    exact ⟨s, rfl, hr⟩
  · rintro ⟨s, rfl, hr⟩
    exact ⟨s, [], rfl, rfl, hr⟩

/-- A sequence that returns: its first part returned, then its rest.  Kind: L -/
theorem ends_bind_ok {p : Prog σ ι ε α} {k : α → Prog σ ι ε β} {h : History σ ι} {b : β} :
    Ends (p >>= k) h (.ok b) ↔
      ∃ h₁ h₂ a, h = h₁ ++ h₂ ∧ Ends p h₁ (.ok a) ∧ Ends (k a) h₂ (.ok b) := by
  change Ends (bind p k) h (.ok b) ↔ _
  induction p generalizing h with
  | ret a => simp [bind]
  | fail e => simp [bind]
  | step l next ih =>
      simp only [bind, ends_step, ih]
      constructor
      · rintro ⟨s, h', rfl, h₁, h₂, a, rfl, hp, hk⟩
        exact ⟨(l, s) :: h₁, h₂, a, rfl, ⟨s, h₁, rfl, hp⟩, hk⟩
      · rintro ⟨_, h₂, a, rfl, ⟨s, h₁, rfl, hp⟩, hk⟩
        exact ⟨s, h₁ ++ h₂, rfl, h₁, h₂, a, rfl, hp, hk⟩

/-- A sequence that raises: its first part raised, or its rest did.  Kind: L -/
theorem ends_bind_error {p : Prog σ ι ε α} {k : α → Prog σ ι ε β} {h : History σ ι} {e : ε} :
    Ends (p >>= k) h (.error e) ↔ Ends p h (.error e) ∨
      ∃ h₁ h₂ a, h = h₁ ++ h₂ ∧ Ends p h₁ (.ok a) ∧ Ends (k a) h₂ (.error e) := by
  change Ends (bind p k) h (.error e) ↔ _
  induction p generalizing h with
  | ret a => simp [bind]
  | fail e => simp [bind]
  | step l next ih =>
      simp only [bind, ends_step, ih]
      constructor
      · rintro ⟨s, h', rfl, hp | ⟨h₁, h₂, a, rfl, hp, hk⟩⟩
        · exact .inl ⟨s, h', rfl, hp⟩
        · exact .inr ⟨(l, s) :: h₁, h₂, a, rfl, ⟨s, h₁, rfl, hp⟩, hk⟩
      · rintro (⟨s, h', rfl, hp⟩ | ⟨_, h₂, a, rfl, ⟨s, h₁, rfl, hp⟩, hk⟩)
        · exact ⟨s, h', rfl, .inl hp⟩
        · exact ⟨s, h₁ ++ h₂, rfl, .inr ⟨h₁, h₂, a, rfl, hp, hk⟩⟩

/-- How a sequence ends, whatever the outcome.  Kind: L -/
theorem ends_bind {p : Prog σ ι ε α} {k : α → Prog σ ι ε β} {h : History σ ι} {r : Except ε β} :
    Ends (p >>= k) h r ↔ (∃ e, r = .error e ∧ Ends p h (.error e)) ∨
      ∃ h₁ h₂ a, h = h₁ ++ h₂ ∧ Ends p h₁ (.ok a) ∧ Ends (k a) h₂ r := by
  cases r with
  | ok b => simp [ends_bind_ok]
  | error e => simp [ends_bind_error]

/-- A caught thread ends with the outcome of the thread.  Kind: L -/
theorem ends_attempt_ok {p : Prog σ ι ε α} {h : History σ ι} {r : Except ε α} :
    Ends (attempt p) h (.ok r) ↔ Ends p h r := by
  induction p generalizing h with
  | ret a => simp [attempt]
  | fail e => simp [attempt]
  | step l next ih => simp only [attempt, ends_step, ih]

/-- A caught thread does not fail.  Kind: L -/
@[simp] theorem ends_attempt_error {p : Prog σ ι ε α} {h : History σ ι} {e : ε} :
    Ends (attempt p) h (.error e) ↔ False := by
  induction p generalizing h with
  | ret a => simp [attempt]
  | fail e => simp [attempt]
  | step l next ih => simp [attempt, ends_step, ih]

/-- A thread with a cleanup returns when both do.  Kind: L -/
theorem ends_ensuring_ok {p : Prog σ ι ε α} {cleanup : Prog σ ι ε Unit} {h : History σ ι} {a : α} :
    Ends (ensuring p cleanup) h (.ok a) ↔
      ∃ h₁ h₂, h = h₁ ++ h₂ ∧ Ends p h₁ (.ok a) ∧ Ends cleanup h₂ (.ok ()) := by
  refine ends_bind_ok.trans ⟨?_, ?_⟩
  · rintro ⟨h₁, h₂, r, rfl, hp, hrest⟩
    obtain ⟨h₃, h₄, _, rfl, hc, hr⟩ := ends_bind_ok.mp hrest
    obtain ⟨rfl, rfl⟩ := ends_ofExcept.mp hr
    exact ⟨h₁, h₃, by simp, ends_attempt_ok.mp hp, hc⟩
  · rintro ⟨h₁, h₂, rfl, hp, hc⟩
    refine ⟨h₁, h₂, .ok a, rfl, ends_attempt_ok.mpr hp, ?_⟩
    exact ends_bind_ok.mpr ⟨h₂, [], (), by simp, hc, ends_ofExcept.mpr ⟨rfl, rfl⟩⟩

/-! ## Reaching an instruction -/

/-- A returned value reaches no instruction.  Kind: L -/
@[simp] theorem reaches_ret {a : α} {h : History σ ι} {l : ι} :
    Reaches (ret a : Prog σ ι ε α) h l ↔ False := by
  cases h <;> simp [Reaches, Follows]

/-- `pure` reaches no instruction.  Kind: L -/
@[simp] theorem reaches_pure {a : α} {h : History σ ι} {l : ι} :
    Reaches (pure a : Prog σ ι ε α) h l ↔ False := reaches_ret

/-- A failure reaches no instruction.  Kind: L -/
@[simp] theorem reaches_fail {e : ε} {h : History σ ι} {l : ι} :
    Reaches (fail e : Prog σ ι ε α) h l ↔ False := by
  cases h <;> simp [Reaches, Follows]

/-- `throw` reaches no instruction.  Kind: L -/
@[simp] theorem reaches_throw {e : ε} {h : History σ ι} {l : ι} :
    Reaches (throw e : Prog σ ι ε α) h l ↔ False := reaches_fail

/-- A lifted result reaches no instruction.  Kind: L -/
@[simp] theorem reaches_ofExcept {x : Except ε α} {h : History σ ι} {l : ι} :
    Reaches (ofExcept x : Prog σ ι ε α) h l ↔ False := by
  cases x with
  | ok a => exact reaches_ret
  | error e => exact reaches_fail

/-- An instruction is reached at once, its continuation after it.  Kind: L -/
theorem reaches_step {l l' : ι} {next : σ → Prog σ ι ε α} {h : History σ ι} :
    Reaches (step l next) h l' ↔
      (h = [] ∧ l' = l) ∨ ∃ s h', h = (l, s) :: h' ∧ Reaches (next s) h' l' := by
  cases h with
  | nil =>
      simp only [Reaches, Follows, step.injEq, true_and, reduceCtorEq, false_and, exists_false,
        or_false]
      constructor
      · rintro ⟨_, rfl, _⟩
        rfl
      · rintro rfl
        exact ⟨next, rfl, rfl⟩
  | cons x h =>
      obtain ⟨l'', s⟩ := x
      simp only [Reaches, Follows, reduceCtorEq, false_and, false_or, List.cons.injEq,
        Prod.mk.injEq]
      constructor
      · rintro ⟨n, rfl, hn⟩
        exact ⟨s, h, ⟨⟨rfl, rfl⟩, rfl⟩, n, hn⟩
      · rintro ⟨s', h', ⟨⟨rfl, rfl⟩, rfl⟩, n, hn⟩
        exact ⟨n, rfl, hn⟩

/-- A single instruction is reached before anything else.  Kind: L -/
@[simp] theorem reaches_call {l l' : ι} {f : σ → Except ε α} {h : History σ ι} :
    Reaches (call l f) h l' ↔ h = [] ∧ l' = l := by
  simp [call, reaches_step]

/-- A sequence reaches `l` in its first part, or in its rest.  Kind: L -/
theorem reaches_bind {p : Prog σ ι ε α} {k : α → Prog σ ι ε β} {h : History σ ι} {l : ι} :
    Reaches (p >>= k) h l ↔ Reaches p h l ∨
      ∃ h₁ h₂ a, h = h₁ ++ h₂ ∧ Ends p h₁ (.ok a) ∧ Reaches (k a) h₂ l := by
  change Reaches (bind p k) h l ↔ _
  induction p generalizing h with
  | ret a => simp [bind]
  | fail e => simp [bind]
  | step l' next ih =>
      simp only [bind, reaches_step, ends_step, ih]
      constructor
      · rintro (h' | ⟨s, h', rfl, hp | ⟨h₁, h₂, a, rfl, hp, hk⟩⟩)
        · exact .inl (.inl h')
        · exact .inl (.inr ⟨s, h', rfl, hp⟩)
        · exact .inr ⟨(l', s) :: h₁, h₂, a, rfl, ⟨s, h₁, rfl, hp⟩, hk⟩
      · rintro ((h' | ⟨s, h', rfl, hp⟩) | ⟨_, h₂, a, rfl, ⟨s, h₁, rfl, hp⟩, hk⟩)
        · exact .inl h'
        · exact .inr ⟨s, h', rfl, .inl hp⟩
        · exact .inr ⟨s, h₁ ++ h₂, rfl, .inr ⟨h₁, h₂, a, rfl, hp, hk⟩⟩

/-- Catching adds no instruction.  Kind: L -/
@[simp] theorem reaches_attempt {p : Prog σ ι ε α} {h : History σ ι} {l : ι} :
    Reaches (attempt p) h l ↔ Reaches p h l := by
  induction p generalizing h with
  | ret a => simp [attempt]
  | fail e => simp [attempt]
  | step l' next ih => simp only [attempt, reaches_step, ih]

/-- The cleanup is reached after the thread has ended.  Kind: L -/
theorem reaches_ensuring {p : Prog σ ι ε α} {cleanup : Prog σ ι ε Unit} {h : History σ ι} {l : ι} :
    Reaches (ensuring p cleanup) h l ↔ Reaches p h l ∨
      ∃ h₁ h₂ r, h = h₁ ++ h₂ ∧ Ends p h₁ r ∧ Reaches cleanup h₂ l := by
  refine reaches_bind.trans ⟨?_, ?_⟩
  · rintro (hl | ⟨h₁, h₂, r, rfl, hp, hl⟩)
    · exact .inl (reaches_attempt.mp hl)
    · rcases reaches_bind.mp hl with hl | ⟨_, _, _, _, _, hl⟩
      · exact .inr ⟨h₁, h₂, r, rfl, ends_attempt_ok.mp hp, hl⟩
      · exact (reaches_ofExcept.mp hl).elim
  · rintro (hl | ⟨h₁, h₂, r, rfl, hp, hl⟩)
    · exact .inl (reaches_attempt.mpr hl)
    · exact .inr ⟨h₁, h₂, r, rfl, ends_attempt_ok.mpr hp, reaches_bind.mpr (.inl hl)⟩

/-- Everything a history holds was reached on the way.  Kind: L -/
theorem Follows.reaches {p q : Prog σ ι ε α} {h₁ h₂ : History σ ι} {l : ι} {s : σ}
    (h : Follows p (h₁ ++ (l, s) :: h₂) q) : Reaches p h₁ l := by
  induction h₁ generalizing p with
  | nil =>
      cases p with
      | ret a => exact h.elim
      | fail e => exact h.elim
      | step l' next =>
          obtain ⟨rfl, -⟩ := h
          exact ⟨next, by simp [Follows]⟩
  | cons x h₁ ih =>
      obtain ⟨l', s'⟩ := x
      cases p with
      | ret a => exact h.elim
      | fail e => exact h.elim
      | step l'' next =>
          obtain ⟨rfl, hn⟩ := h
          exact reaches_step.mpr (.inr ⟨s', h₁, rfl, ih hn⟩)

/-! ## Which instructions a program consists of -/

/-- Every instruction `p` can execute satisfies `P`. -/
def Only (P : ι → Prop) (p : Prog σ ι ε α) : Prop := ∀ h l, Reaches p h l → P l

section only

variable {P : ι → Prop}

/-- A returned value has no instruction.  Kind: L -/
theorem only_ret (a : α) : Only P (ret a : Prog σ ι ε α) := fun _ _ h => (reaches_ret.mp h).elim

/-- `pure` has no instruction.  Kind: L -/
theorem only_pure (a : α) : Only P (pure a : Prog σ ι ε α) := only_ret a

/-- A failure has no instruction.  Kind: L -/
theorem only_fail (e : ε) : Only P (fail e : Prog σ ι ε α) := fun _ _ h => (reaches_fail.mp h).elim

/-- `throw` has no instruction.  Kind: L -/
theorem only_throw (e : ε) : Only P (throw e : Prog σ ι ε α) := only_fail e

/-- A lifted result has no instruction.  Kind: L -/
theorem only_ofExcept (x : Except ε α) : Only P (ofExcept x : Prog σ ι ε α) :=
  fun _ _ h => (reaches_ofExcept.mp h).elim

/-- A single instruction has itself.  Kind: L -/
theorem only_call {l : ι} (hl : P l) (f : σ → Except ε α) : Only P (call l f) := by
  intro h l' hl'
  obtain ⟨-, rfl⟩ := reaches_call.mp hl'
  exact hl

/-- The instructions of a sequence are those of its halves.  Kind: L -/
theorem only_bind {p : Prog σ ι ε α} {k : α → Prog σ ι ε β} (hp : Only P p)
    (hk : ∀ a, Only P (k a)) : Only P (p >>= k) := by
  intro h l hl
  rcases reaches_bind.mp hl with hl | ⟨_, h₂, a, _, _, hl⟩
  · exact hp h l hl
  · exact hk a h₂ l hl

/-- Catching adds no instruction.  Kind: L -/
theorem only_attempt {p : Prog σ ι ε α} (hp : Only P p) : Only P (attempt p) :=
  fun h l hl => hp h l (reaches_attempt.mp hl)

/-- The instructions of a cleaned-up thread are its own and the cleanup's.  Kind: L -/
theorem only_ensuring {p : Prog σ ι ε α} {cleanup : Prog σ ι ε Unit} (hp : Only P p)
    (hc : Only P cleanup) : Only P (ensuring p cleanup) :=
  only_bind (only_attempt hp) fun _ => only_bind hc fun _ => only_ofExcept _

/-- The predicate may be weakened.  Kind: L -/
theorem Only.mono {P' : ι → Prop} {p : Prog σ ι ε α} (hp : Only P p) (hP : ∀ l, P l → P' l) :
    Only P' p := fun h l hl => hP l (hp h l hl)

/-- What `p` has executed on the way to anywhere is what it consists of.  Kind: L -/
theorem Only.mem_of_follows {p q : Prog σ ι ε α} {h : History σ ι} (hp : Only P p)
    (hq : Follows p h q) : ∀ x ∈ h, P x.1 := by
  intro x hx
  obtain ⟨h₁, h₂, rfl⟩ := List.append_of_mem hx
  exact hp h₁ x.1 (Follows.reaches hq)

/-- A history of `p` holds only what `p` consists of.  Kind: L -/
theorem Only.mem {p : Prog σ ι ε α} {h : History σ ι} {r : Except ε α} (hp : Only P p)
    (hr : Ends p h r) : ∀ x ∈ h, P x.1 := hp.mem_of_follows hr

end only

end Prog

/-! ## Pools of threads and their interleaved runs -/

/-- What the instructions and the environment moves do.
Source: none: infrastructure.  Kind: D -/
structure Machine (σ ι κ : Type) where
  /-- The effect of an instruction. -/
  upd : ι → σ → σ
  /-- Whether an instruction can be executed now; a blocked one waits. -/
  ready : ι → σ → Bool
  /-- The effect of an environment move. -/
  env : κ → σ → σ
  /-- Whether the environment can make a move now. -/
  allowed : κ → σ → Prop

/-- A shared state and the threads working on it; `threads i` is what is left of thread `i`. -/
structure Pool (σ ι ε α : Type) where
  /-- The shared state. -/
  state : σ
  /-- What is left of each thread. -/
  threads : ℕ → Prog σ ι ε α

/-- One atomic event of a run, with the shared state it happened in. -/
inductive Event (σ ι κ : Type) where
  /-- Thread `i` executed `l`. -/
  | own (i : ℕ) (l : ι) (pre : σ)
  /-- The environment made the move `e`. -/
  | env (e : κ) (pre : σ)

namespace Event

variable {σ ι κ : Type}

/-- The shared state right before the event. -/
def pre : Event σ ι κ → σ
  | own _ _ s => s
  | env _ s => s

/-- The shared state right after the event. -/
def post (M : Machine σ ι κ) : Event σ ι κ → σ
  | own _ l s => M.upd l s
  | env e s => M.env e s

end Event

section run

variable {σ ι κ ε α : Type}

/-- What thread `i` executed along a trace. -/
def history (i : ℕ) (tr : List (Event σ ι κ)) : Prog.History σ ι :=
  tr.filterMap fun e =>
    match e with
    | .own j l s => if j = i then some (l, s) else none
    | .env _ _ => none

@[simp] theorem history_nil (i : ℕ) : history i ([] : List (Event σ ι κ)) = [] := rfl

theorem history_append (i : ℕ) (tr₁ tr₂ : List (Event σ ι κ)) :
    history i (tr₁ ++ tr₂) = history i tr₁ ++ history i tr₂ := by
  simp [history, List.filterMap_append]

theorem history_cons (i : ℕ) (e : Event σ ι κ) (tr : List (Event σ ι κ)) :
    history i (e :: tr) = history i [e] ++ history i tr :=
  history_append i [e] tr

/-- A thread's own event is in its history.  Kind: L -/
@[simp] theorem history_own_self (i : ℕ) (l : ι) (s : σ) :
    history i [(Event.own i l s : Event σ ι κ)] = [(l, s)] := by
  simp [history]

/-- Another thread's event is not.  Kind: L -/
theorem history_own_of_ne {i j : ℕ} (h : j ≠ i) (l : ι) (s : σ) :
    history i [(Event.own j l s : Event σ ι κ)] = [] := by
  simp [history, h]

/-- An event of the environment is in no thread's history.  Kind: L -/
@[simp] theorem history_env (i : ℕ) (e : κ) (s : σ) :
    history i [(Event.env e s : Event σ ι κ)] = [] := rfl

/-- A thread's history holds exactly its own events.  Kind: L -/
theorem mem_history {i : ℕ} {tr : List (Event σ ι κ)} {l : ι} {s : σ} :
    (l, s) ∈ history i tr ↔ Event.own i l s ∈ tr := by
  induction tr with
  | nil => simp
  | cons e tr ih =>
      rw [history_cons, List.mem_append, ih, List.mem_cons]
      cases e with
      | own j l' s' =>
          by_cases hj : j = i
          · subst hj
            simp
          · simp [history_own_of_ne hj, Ne.symm hj]
      | env e s' => simp

/-- A place in a thread's history is a place in the trace.  Kind: L -/
theorem eq_append_of_history_eq {i : ℕ} {tr : List (Event σ ι κ)} {h₁ h₂ : Prog.History σ ι}
    {l : ι} {s : σ} (h : history i tr = h₁ ++ (l, s) :: h₂) :
    ∃ tr₁ tr₂, tr = tr₁ ++ Event.own i l s :: tr₂ ∧ history i tr₁ = h₁ ∧ history i tr₂ = h₂ := by
  induction tr generalizing h₁ with
  | nil => simp at h
  | cons e tr ih =>
      have hskip : history i [e] = [] →
          ∃ tr₁ tr₂, e :: tr = tr₁ ++ Event.own i l s :: tr₂ ∧ history i tr₁ = h₁ ∧
            history i tr₂ = h₂ := by
        intro he
        rw [history_cons, he, List.nil_append] at h
        obtain ⟨tr₁, tr₂, rfl, h₁', h₂'⟩ := ih h
        exact ⟨e :: tr₁, tr₂, rfl, by rw [history_cons, he, h₁', List.nil_append], h₂'⟩
      cases e with
      | env x s' => exact hskip (history_env i x s')
      | own j l' s' =>
          by_cases hj : j = i
          · subst hj
            rw [history_cons, history_own_self, List.singleton_append] at h
            cases h₁ with
            | nil =>
                simp only [List.nil_append, List.cons.injEq, Prod.mk.injEq] at h
                obtain ⟨⟨rfl, rfl⟩, htr⟩ := h
                exact ⟨[], tr, rfl, rfl, htr⟩
            | cons x h₁ =>
                simp only [List.cons_append, List.cons.injEq] at h
                obtain ⟨rfl, htr⟩ := h
                obtain ⟨tr₁, tr₂, rfl, h₁', h₂'⟩ := ih htr
                refine ⟨Event.own j l' s' :: tr₁, tr₂, rfl, ?_, h₂'⟩
                rw [history_cons, history_own_self, h₁', List.singleton_append]
          · exact hskip (history_own_of_ne hj l' s')

/-- Interleaved runs of a pool, with their traces.  Source: none: infrastructure.  Kind: D -/
inductive Run (M : Machine σ ι κ) (c₀ : Pool σ ι ε α) : List (Event σ ι κ) → Pool σ ι ε α → Prop
  /-- Nothing has happened yet. -/
  | start : Run M c₀ [] c₀
  /-- A thread executes its next instruction. -/
  | own {tr : List (Event σ ι κ)} {c : Pool σ ι ε α} (i : ℕ) {l : ι}
      {next : σ → Prog σ ι ε α} (hrun : Run M c₀ tr c) (hi : c.threads i = .step l next)
      (hready : M.ready l c.state = true) :
      Run M c₀ (tr ++ [.own i l c.state])
        ⟨M.upd l c.state, Function.update c.threads i (next c.state)⟩
  /-- The environment moves. -/
  | env {tr : List (Event σ ι κ)} {c : Pool σ ι ε α} (e : κ) (hrun : Run M c₀ tr c)
      (hallowed : M.allowed e c.state) :
      Run M c₀ (tr ++ [.env e c.state]) { c with state := M.env e c.state }

/-- What makes an event possible in a pool. -/
def Event.Enabled (M : Machine σ ι κ) (c : Pool σ ι ε α) : Event σ ι κ → Prop
  | .own i l s => (∃ next, c.threads i = .step l next) ∧ M.ready l s = true
  | .env x s => M.allowed x s

namespace Run

variable {M : Machine σ ι κ} {c₀ c : Pool σ ι ε α} {tr : List (Event σ ι κ)}

/-- **Thread-local reasoning.**  In every reachable pool, what is left of a thread is what its
program leaves after the thread's own history.  Source: none: infrastructure.  Kind: P -/
theorem follows (hrun : Run M c₀ tr c) (i : ℕ) :
    Prog.Follows (c₀.threads i) (history i tr) (c.threads i) := by
  induction hrun with
  | start => simp [Prog.Follows]
  | @own tr c j l next hrun hj hready ih =>
      rw [history_append]
      by_cases hij : j = i
      · subst hij
        rw [history_own_self, Prog.follows_snoc]
        rw [hj] at ih
        exact ⟨next, ih, by simp⟩
      · rw [history_own_of_ne hij, List.append_nil]
        simpa [Function.update_of_ne (Ne.symm hij)] using ih
  | env e hrun hallowed ih =>
      rw [history_append, history_env, List.append_nil]
      exact ih

/-- A thread that has ended did so along its history.  Kind: L -/
theorem ends {r : Except ε α} {i : ℕ} (hrun : Run M c₀ tr c) (hi : c.threads i = Prog.finished r) :
    Prog.Ends (c₀.threads i) (history i tr) r := by
  have h := hrun.follows i
  rw [hi] at h
  exact h

/-- Cut a run at an event of its trace: the run before it, and what enabled the event.  Kind: L -/
theorem split {tr₁ tr₂ : List (Event σ ι κ)} {e : Event σ ι κ}
    (hrun : Run M c₀ (tr₁ ++ e :: tr₂) c) :
    ∃ c₁, Run M c₀ tr₁ c₁ ∧ c₁.state = e.pre ∧ e.Enabled M c₁ := by
  generalize htr : tr₁ ++ e :: tr₂ = tr at hrun
  induction hrun generalizing tr₂ with
  | start => simp at htr
  | @own tr c i l next hrun hi hready ih =>
      rcases List.eq_nil_or_concat tr₂ with rfl | ⟨tr₂', e', rfl⟩
      · obtain ⟨rfl, he⟩ := List.append_inj' htr rfl
        cases he
        exact ⟨c, hrun, rfl, ⟨next, hi⟩, hready⟩
      · rw [List.concat_eq_append, ← List.cons_append, ← List.append_assoc] at htr
        exact ih (List.append_inj' htr rfl).1
  | @env tr c x hrun hallowed ih =>
      rcases List.eq_nil_or_concat tr₂ with rfl | ⟨tr₂', e', rfl⟩
      · obtain ⟨rfl, he⟩ := List.append_inj' htr rfl
        cases he
        exact ⟨c, hrun, rfl, hallowed⟩
      · rw [List.concat_eq_append, ← List.cons_append, ← List.append_assoc] at htr
        exact ih (List.append_inj' htr rfl).1

theorem eq_of_nil (hrun : Run M c₀ [] c) : c = c₀ := by
  generalize htr : ([] : List (Event σ ι κ)) = tr at hrun
  cases hrun with
  | start => rfl
  | own i hrun hi hready => simp at htr
  | env x hrun hallowed => simp at htr

/-- Cut a run in two.  Kind: L -/
theorem cut {tr₁ tr₂ : List (Event σ ι κ)} (hrun : Run M c₀ (tr₁ ++ tr₂) c) :
    ∃ c₁, Run M c₀ tr₁ c₁ ∧ Run M c₁ tr₂ c := by
  generalize htr : tr₁ ++ tr₂ = tr at hrun
  induction hrun generalizing tr₂ with
  | start =>
      obtain ⟨rfl, rfl⟩ := List.append_eq_nil_iff.mp htr
      exact ⟨c₀, .start, .start⟩
  | @own tr c i l next hrun hi hready ih =>
      rcases List.eq_nil_or_concat tr₂ with rfl | ⟨tr₂', e', rfl⟩
      · rw [List.append_nil] at htr
        subst htr
        exact ⟨_, .own i hrun hi hready, .start⟩
      · rw [List.concat_eq_append, ← List.append_assoc] at htr
        obtain ⟨htr', he⟩ := List.append_inj' htr rfl
        obtain ⟨c₁, hrun₁, hrun₂⟩ := ih htr'
        cases he
        rw [List.concat_eq_append]
        exact ⟨c₁, hrun₁, .own i hrun₂ hi hready⟩
  | @env tr c x hrun hallowed ih =>
      rcases List.eq_nil_or_concat tr₂ with rfl | ⟨tr₂', e', rfl⟩
      · rw [List.append_nil] at htr
        subst htr
        exact ⟨_, .env x hrun hallowed, .start⟩
      · rw [List.concat_eq_append, ← List.append_assoc] at htr
        obtain ⟨htr', he⟩ := List.append_inj' htr rfl
        obtain ⟨c₁, hrun₁, hrun₂⟩ := ih htr'
        cases he
        rw [List.concat_eq_append]
        exact ⟨c₁, hrun₁, .env x hrun₂ hallowed⟩

/-- A counter that every event moves by the event's weight.  Kind: L -/
theorem counter_eq {f : σ → ℕ} {w : Event σ ι κ → ℕ} (hrun : Run M c₀ tr c)
    (hstep : ∀ e : Event σ ι κ, f (e.post M) = f e.pre + w e) :
    f c.state = f c₀.state + (tr.map w).sum := by
  induction hrun with
  | start => simp
  | @own tr c i l next hrun hi hready ih =>
      have h := hstep (.own i l c.state)
      simp only [Event.post, Event.pre] at h
      simp only [h, ih, List.map_append, List.sum_append, List.map_cons, List.map_nil,
        List.sum_cons, List.sum_nil]
      omega
  | @env tr c x hrun hallowed ih =>
      have h := hstep (.env x c.state)
      simp only [Event.post, Event.pre] at h
      simp only [h, ih, List.map_append, List.sum_append, List.map_cons, List.map_nil,
        List.sum_cons, List.sum_nil]
      omega

/-- The part of a run between two of its events.  Kind: L -/
theorem between {tr₁ tr₂ tr₃ : List (Event σ ι κ)} {e e' : Event σ ι κ}
    (hrun : Run M c₀ (tr₁ ++ e :: tr₂ ++ e' :: tr₃) c) :
    ∃ c₁ c₂ : Pool σ ι ε α, Run M c₁ (e :: tr₂) c₂ ∧ c₁.state = e.pre ∧ c₂.state = e'.pre := by
  obtain ⟨c₂, hrun₂, hpre₂, -⟩ := hrun.split
  obtain ⟨c₁, hrun₁, hrest⟩ := hrun₂.cut
  refine ⟨c₁, c₂, hrest, ?_, hpre₂⟩
  rw [← List.nil_append (e :: tr₂)] at hrest
  obtain ⟨c₁', hrun₁', hpre, -⟩ := hrest.split
  rwa [hrun₁'.eq_of_nil] at hpre

/-- Between two events that see the same value of a counter, nothing moved it.  Kind: L -/
theorem weight_eq_zero {f : σ → ℕ} {w : Event σ ι κ → ℕ} {tr₁ tr₂ tr₃ : List (Event σ ι κ)}
    {e e' : Event σ ι κ} (hrun : Run M c₀ (tr₁ ++ e :: tr₂ ++ e' :: tr₃) c)
    (hstep : ∀ e : Event σ ι κ, f (e.post M) = f e.pre + w e) (heq : f e.pre = f e'.pre) :
    ∀ x ∈ e :: tr₂, w x = 0 := by
  obtain ⟨c₁, c₂, hrest, hpre₁, hpre₂⟩ := hrun.between
  have hcount := hrest.counter_eq hstep
  rw [hpre₁, hpre₂, heq] at hcount
  have hsum : ((e :: tr₂).map w).sum = 0 := by omega
  intro x hx
  exact List.sum_eq_zero_iff.mp hsum (w x) (List.mem_map_of_mem hx)

section monotone

variable {τ : Type} [Preorder τ] {f : σ → τ}

/-- A quantity that no event lowers is not lowered by a run.  Kind: L -/
theorem le_of_run (hrun : Run M c₀ tr c) (hown : ∀ l s, f s ≤ f (M.upd l s))
    (henv : ∀ e s, M.allowed e s → f s ≤ f (M.env e s)) : f c₀.state ≤ f c.state := by
  induction hrun with
  | start => exact le_rfl
  | own i hrun hi hready ih => exact ih.trans (hown _ _)
  | env e hrun hallowed ih => exact ih.trans (henv _ _ hallowed)

/-- What a thread saw earlier is at most what it saw later.  Kind: L -/
theorem le_of_history {i : ℕ} {l l' : ι} {s s' : σ} {h₁ h₂ : Prog.History σ ι}
    (hrun : Run M c₀ tr c) (hown : ∀ l s, f s ≤ f (M.upd l s))
    (henv : ∀ e s, M.allowed e s → f s ≤ f (M.env e s))
    (hh : history i tr = h₁ ++ (l', s') :: h₂) (hmem : (l, s) ∈ h₁) : f s ≤ f s' := by
  obtain ⟨h₃, h₄, rfl⟩ := List.append_of_mem hmem
  rw [List.append_assoc, List.cons_append] at hh
  obtain ⟨tr₁, rest, rfl, -, hrest⟩ := eq_append_of_history_eq hh
  obtain ⟨tr₂, tr₃, rfl, -, -⟩ := eq_append_of_history_eq hrest
  rw [← List.cons_append, ← List.append_assoc] at hrun
  obtain ⟨c₁, c₂, hbetween, hpre₁, hpre₂⟩ := hrun.between
  have hle := hbetween.le_of_run hown henv
  rwa [hpre₁, hpre₂] at hle

end monotone

/-- Everything a thread executed, it executed in a state the run went through.  Kind: L -/
theorem state_of_mem_history {i : ℕ} {l : ι} {s : σ} (hrun : Run M c₀ tr c)
    (hs : (l, s) ∈ history i tr) : ∃ tr₁ c₁, Run M c₀ tr₁ c₁ ∧ c₁.state = s := by
  obtain ⟨tr₁, tr₂, rfl⟩ := List.append_of_mem (mem_history.mp hs)
  obtain ⟨c₁, hrun₁, hstate, -⟩ := hrun.split
  exact ⟨tr₁, c₁, hrun₁, hstate⟩

/-- The state right before an event is the state right after the previous one.  Kind: L -/
theorem state_eq_post {e : Event σ ι κ} (hrun : Run M c₀ (tr ++ [e]) c) : c.state = e.post M := by
  generalize htr : tr ++ [e] = tr' at hrun
  cases hrun with
  | start => simp at htr
  | own i hrun hi hready =>
      obtain ⟨rfl, he⟩ := List.append_inj' htr rfl
      cases he
      rfl
  | env x hrun hallowed =>
      obtain ⟨rfl, he⟩ := List.append_inj' htr rfl
      cases he
      rfl

/-- An instruction of a trace is one its thread's program reaches.  Kind: L -/
theorem reaches {tr₁ tr₂ : List (Event σ ι κ)} {i : ℕ} {l : ι} {s : σ}
    (hrun : Run M c₀ (tr₁ ++ Event.own i l s :: tr₂) c) :
    Prog.Reaches (c₀.threads i) (history i tr₁) l := by
  obtain ⟨c₁, hrun₁, -, ⟨next, hnext⟩, -⟩ := hrun.split
  have h := hrun₁.follows i
  rw [hnext] at h
  exact ⟨next, h⟩

end Run

/-! ## An executable scheduler -/

/-- A scheduling decision: let a thread execute its next instruction, or let the environment
move. -/
inductive Choice (κ : Type) where
  /-- Schedule thread `i`. -/
  | thread (i : ℕ)
  /-- Let the environment make the move `e`. -/
  | env (e : κ)

/-- Execute one scheduling decision, when it is possible. -/
def Pool.move (M : Machine σ ι κ) (ok : κ → σ → Bool) (c : Pool σ ι ε α) :
    Choice κ → Option (Event σ ι κ × Pool σ ι ε α)
  | .thread i =>
      match c.threads i with
      | .step l next =>
          if M.ready l c.state then
            some (.own i l c.state,
              ⟨M.upd l c.state, Function.update c.threads i (next c.state)⟩)
          else none
      | _ => none
  | .env e =>
      if ok e c.state then some (.env e c.state, { c with state := M.env e c.state }) else none

/-- Execute a schedule and collect its trace. -/
def Pool.exec (M : Machine σ ι κ) (ok : κ → σ → Bool) :
    List (Choice κ) → Pool σ ι ε α → Option (List (Event σ ι κ) × Pool σ ι ε α)
  | [], c => some ([], c)
  | x :: xs, c => do
      let (e, c') ← c.move M ok x
      let (tr, c'') ← Pool.exec M ok xs c'
      some (e :: tr, c'')

/-- A move of the scheduler is a step of the run.  Kind: L -/
theorem Pool.move_sound {M : Machine σ ι κ} {ok : κ → σ → Bool}
    (hok : ∀ e s, ok e s = true → M.allowed e s) {c₀ c c' : Pool σ ι ε α}
    {tr : List (Event σ ι κ)} {e : Event σ ι κ} {x : Choice κ} (hrun : Run M c₀ tr c)
    (h : c.move M ok x = some (e, c')) : Run M c₀ (tr ++ [e]) c' := by
  cases x with
  | thread i =>
      simp only [Pool.move] at h
      split at h
      · rename_i l next hi
        split at h
        · rename_i hready
          cases h
          exact Run.own i hrun hi hready
        · cases h
      · cases h
  | env e =>
      simp only [Pool.move] at h
      split at h
      · rename_i he
        cases h
        exact Run.env e hrun (hok e c.state he)
      · cases h

/-- Every executed schedule is a run.  Source: none: infrastructure.  Kind: P -/
theorem Pool.exec_sound {M : Machine σ ι κ} {ok : κ → σ → Bool}
    (hok : ∀ e s, ok e s = true → M.allowed e s) {c₀ c c' : Pool σ ι ε α}
    {tr tr' : List (Event σ ι κ)} {xs : List (Choice κ)} (hrun : Run M c₀ tr c)
    (h : Pool.exec M ok xs c = some (tr', c')) : Run M c₀ (tr ++ tr') c' := by
  induction xs generalizing c tr tr' with
  | nil =>
      cases h
      simpa using hrun
  | cons x xs ih =>
      simp only [Pool.exec, Option.bind_eq_bind, Option.bind_eq_some_iff] at h
      obtain ⟨⟨e, c₁⟩, hmove, ⟨tr₁, c₂⟩, hexec, hout⟩ := h
      cases hout
      have hstep := ih (Pool.move_sound hok hrun hmove) hexec
      simpa using hstep

/-- A schedule whose execution passes a test gives a run that does.  Kind: L -/
theorem Run.of_exec {M : Machine σ ι κ} {ok : κ → σ → Bool}
    (hok : ∀ e s, ok e s = true → M.allowed e s) {c₀ : Pool σ ι ε α} {xs : List (Choice κ)}
    {test : List (Event σ ι κ) × Pool σ ι ε α → Bool}
    (h : (Pool.exec M ok xs c₀).any test = true) : ∃ tr c, Run M c₀ tr c ∧ test (tr, c) = true := by
  obtain ⟨⟨tr, c⟩, hexec, htest⟩ := Option.any_eq_true _ _ |>.mp h
  exact ⟨tr, c, by simpa using Pool.exec_sound hok Run.start hexec, htest⟩

end run

end ExpraConnect.Lib
