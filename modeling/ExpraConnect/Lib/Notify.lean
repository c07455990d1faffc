import Mathlib.Logic.Function.Basic
import Mathlib.Tactic

/-!
# A state, its notifications, and a consumer that lags behind

A component changes its state in atomic calls.  Each call says what it changed in messages, which
the calling thread delivers afterwards, one at a time, while other threads go on.

* `Note`, `replay`: a note sets one key of a view; `replay_apply`: of all notes about a key only the
  last one matters;
* `Notifier`: a component whose messages describe what its calls do to its view;
* `Notifier.run`: calls and deliveries in any order; `fold_produced`: the messages in the order of
  the calls lead to the view;
* `converges_iff`: the consumer ends with the view exactly if, about every key, the last delivered
  message says what the last produced one says;
* `produced_perm_delivered`: no message is lost or made twice, so that delivery in the order of the
  calls is enough (`last_of_inOrder`).
-/

namespace ExpraConnect.Lib

/-- What became of one key: its value, or that it is gone. -/
structure Note (κ ν : Type) where
  /-- The key. -/
  key : κ
  /-- Its value now. -/
  value : Option ν

namespace Note

variable {κ ν : Type} [DecidableEq κ]

/-- A view after a note. -/
def apply (view : κ → Option ν) (n : Note κ ν) : κ → Option ν :=
  Function.update view n.key n.value

/-- A view after a list of notes. -/
def replay (notes : List (Note κ ν)) (view : κ → Option ν) : κ → Option ν :=
  notes.foldl apply view

/-- What the last note about `k` says, if there is one. -/
def last (k : κ) (notes : List (Note κ ν)) : Option (Option ν) :=
  ((notes.filter fun n => n.key = k).getLast?).map value

@[simp] theorem replay_nil (view : κ → Option ν) : replay [] view = view := rfl

theorem replay_append (notes more : List (Note κ ν)) (view : κ → Option ν) :
    replay (notes ++ more) view = replay more (replay notes view) :=
  List.foldl_append

/-- One note sets one key.  Kind: L -/
@[simp] theorem replay_singleton (n : Note κ ν) (view : κ → Option ν) :
    replay [n] view = Function.update view n.key n.value := rfl

/-- The last note of a key after one more.  Kind: L -/
theorem last_snoc (k : κ) (notes : List (Note κ ν)) (n : Note κ ν) :
    last k (notes ++ [n]) = if n.key = k then some n.value else last k notes := by
  by_cases h : n.key = k
  · simp [last, h]
  · simp [last, h]

/-- Of all notes about a key only the last one matters.  Kind: L -/
theorem replay_apply (notes : List (Note κ ν)) (view : κ → Option ν) (k : κ) :
    replay notes view k = (last k notes).getD (view k) := by
  induction notes using List.reverseRecOn with
  | nil => rfl
  | append_singleton notes n ih =>
      rw [replay_append, replay_singleton, last_snoc]
      by_cases h : n.key = k
      · rw [if_pos h, ← h, Function.update_self]
        rfl
      · rw [if_neg h, Function.update_of_ne (Ne.symm h), ih]

end Note

/-- A component that reports on its calls, by messages that are about one key each.
Source: none: infrastructure.  Kind: D -/
structure Notifier (σ γ μ κ ν : Type) [DecidableEq κ] where
  /-- The atomic part of a call, and the messages it leaves to deliver. -/
  step : γ → σ → σ × List μ
  /-- What a message says. -/
  note : μ → Note κ ν
  /-- What a consumer may know of the state. -/
  view : σ → κ → Option ν
  /-- The states that occur. -/
  inv : σ → Prop
  /-- The calls keep to them. -/
  keeps : ∀ c s, inv s → inv (step c s).1
  /-- The messages of a call describe what it does to the view. -/
  reports : ∀ c s, inv s → view (step c s).1 = Note.replay ((step c s).2.map note) (view s)

namespace Notifier

variable {σ γ μ κ ν : Type} [DecidableEq κ] (N : Notifier σ γ μ κ ν)

/-- One atomic event of a run. -/
inductive Move (γ : Type) where
  /-- A thread executes the atomic part of a call. -/
  | perform (thread : ℕ) (call : γ)
  /-- A thread delivers its next message. -/
  | deliver (thread : ℕ)

/-- The component, the messages its threads still have to deliver, and what happened so far. -/
structure System (σ μ : Type) where
  /-- The state. -/
  state : σ
  /-- What each thread still has to deliver. -/
  queues : ℕ → List μ
  /-- The messages in the order in which the calls made them. -/
  produced : List μ
  /-- The messages in the order in which they were delivered. -/
  delivered : List μ

/-- Nothing has happened yet. -/
def init (s : σ) : System σ μ := ⟨s, fun _ => [], [], []⟩

/-- One event; a thread that still has messages to deliver cannot call. -/
def move (s : System σ μ) : Move γ → System σ μ
  | .perform i c =>
      if (s.queues i).isEmpty then
        ⟨(N.step c s.state).1, Function.update s.queues i (N.step c s.state).2,
          s.produced ++ (N.step c s.state).2, s.delivered⟩
      else s
  | .deliver i =>
      match s.queues i with
      | [] => s
      | m :: rest =>
          ⟨s.state, Function.update s.queues i rest, s.produced, s.delivered ++ [m]⟩

/-- A run of calls and deliveries. -/
def run (moves : List (Move γ)) (s : System σ μ) : System σ μ := moves.foldl N.move s

/-- All messages have been delivered. -/
def Delivered (s : System σ μ) : Prop := ∀ i, s.queues i = []

/-- What a consumer that folds the messages together knows. -/
def fold (messages : List μ) (view : κ → Option ν) : κ → Option ν :=
  Note.replay (messages.map N.note) view

/-- What the last message about `k` says, if there is one. -/
def last (k : κ) (messages : List μ) : Option (Option ν) := Note.last k (messages.map N.note)

/-- In every run, the messages in the order of the calls lead from the first view to the last.
Kind: L -/
theorem fold_produced {s₀ : σ} (h₀ : N.inv s₀) (moves : List (Move γ)) :
    N.inv (N.run moves (init s₀)).state ∧
      N.view (N.run moves (init s₀)).state =
        N.fold (N.run moves (init s₀)).produced (N.view s₀) := by
  induction moves using List.reverseRecOn with
  | nil => exact ⟨h₀, rfl⟩
  | append_singleton moves m ih =>
      obtain ⟨hinv, hview⟩ := ih
      simp only [run, List.foldl_append, List.foldl_cons, List.foldl_nil] at hinv hview ⊢
      cases m with
      | perform i c =>
          simp only [move]
          split
          · refine ⟨N.keeps c _ hinv, ?_⟩
            rw [N.reports c _ hinv, hview, fold, fold, List.map_append, Note.replay_append]
          · exact ⟨hinv, hview⟩
      | deliver i =>
          simp only [move]
          split
          · exact ⟨hinv, hview⟩
          · exact ⟨hinv, hview⟩

/-- **Convergence.**  What the consumer folds together is the view exactly if, about every key, the
last message delivered says what the last message produced says.  Kind: L -/
theorem converges_iff {s₀ : σ} (h₀ : N.inv s₀) (moves : List (Move γ)) :
    N.fold (N.run moves (init s₀)).delivered (N.view s₀) =
        N.view (N.run moves (init s₀)).state ↔
      ∀ k, (N.last k (N.run moves (init s₀)).delivered).getD (N.view s₀ k) =
        (N.last k (N.run moves (init s₀)).produced).getD (N.view s₀ k) := by
  rw [(N.fold_produced h₀ moves).2, funext_iff]
  exact forall_congr' fun k => by simp only [fold, last, Note.replay_apply]

/-! ### Nothing is lost -/

/-- The thread of an event. -/
def Move.thread : Move γ → ℕ
  | .perform i _ => i
  | .deliver i => i

/-- What a list of threads still has to deliver. -/
def pending (threads : List ℕ) (queues : ℕ → List μ) : List μ := threads.flatMap queues

theorem pending_update {threads : List ℕ} (hnodup : threads.Nodup) {i : ℕ} (hi : i ∈ threads)
    (queues : ℕ → List μ) (q : List μ) :
    (pending threads (Function.update queues i q)).Perm
      (q ++ pending (threads.erase i) queues) := by
  have hperm := (List.perm_cons_erase hi).flatMap_right (Function.update queues i q)
  rw [List.flatMap_cons, Function.update_self] at hperm
  have hothers : (threads.erase i).flatMap (Function.update queues i q) =
      (threads.erase i).flatMap queues := by
    refine List.flatMap_congr fun j hj => Function.update_of_ne ?_ _ _
    rintro rfl
    exact hnodup.not_mem_erase hj
  rwa [hothers] at hperm

theorem pending_perm {threads : List ℕ} (hnodup : threads.Nodup) {i : ℕ} (hi : i ∈ threads)
    (queues : ℕ → List μ) :
    (pending threads queues).Perm (queues i ++ pending (threads.erase i) queues) := by
  have h := pending_update hnodup hi queues (queues i)
  rwa [Function.update_eq_self] at h

/-- Every message that was made is delivered or waits with one of `threads`. -/
structure Accounted (threads : List ℕ) (s : System σ μ) : Prop where
  /-- No other thread has one. -/
  others : ∀ i, i ∉ threads → s.queues i = []
  /-- The account. -/
  perm : s.produced.Perm (s.delivered ++ pending threads s.queues)

theorem Accounted.move {threads : List ℕ} (hnodup : threads.Nodup) {s : System σ μ}
    (h : Accounted threads s) {m : Move γ} (hm : m.thread ∈ threads) :
    Accounted threads (N.move s m) := by
  have hothers : ∀ i ∈ threads, ∀ q j, j ∉ threads → Function.update s.queues i q j = [] := by
    intro i hi q j hj
    rw [Function.update_of_ne (by rintro rfl; exact hj hi)]
    exact h.others j hj
  cases m with
  | perform i c =>
      replace hm : i ∈ threads := hm
      simp only [Notifier.move]
      split
      · rename_i hidle
        have hold := pending_perm hnodup hm s.queues
        rw [List.isEmpty_iff.mp hidle, List.nil_append] at hold
        have hnew := pending_update hnodup hm s.queues (N.step c s.state).2
        refine ⟨hothers i hm _, ?_⟩
        have hproduced : (s.produced ++ (N.step c s.state).2).Perm
            (s.delivered ++ (pending (threads.erase i) s.queues ++ (N.step c s.state).2)) := by
          rw [← List.append_assoc]
          exact (h.perm.trans (hold.append_left _)).append_right _
        exact hproduced.trans ((List.perm_append_comm.trans hnew.symm).append_left _)
      · exact h
  | deliver i =>
      replace hm : i ∈ threads := hm
      simp only [Notifier.move]
      split
      · exact h
      · rename_i m rest hqueue
        have hold := pending_perm hnodup hm s.queues
        rw [hqueue] at hold
        have hnew := pending_update hnodup hm s.queues rest
        refine ⟨hothers i hm _, h.perm.trans ?_⟩
        show (s.delivered ++ pending threads s.queues).Perm (s.delivered ++ [m] ++ _)
        rw [List.append_assoc]
        exact (hold.trans (hnew.symm.append_left [m])).append_left _

/-- Once nothing waits, the messages delivered are those made, each as often.  Kind: L -/
theorem produced_perm_delivered (s₀ : σ) (moves : List (Move γ))
    (h : Delivered (N.run moves (init s₀))) :
    (N.run moves (init s₀)).produced.Perm (N.run moves (init s₀)).delivered := by
  obtain ⟨threads, hnodup, hthreads⟩ : ∃ threads : List ℕ, threads.Nodup ∧
      ∀ m ∈ moves, m.thread ∈ threads :=
    ⟨(moves.map Move.thread).dedup, List.nodup_dedup _, fun m hm =>
      List.mem_dedup.mpr (List.mem_map_of_mem hm)⟩
  have hrun : ∀ s : System σ μ, Accounted threads s → Accounted threads (N.run moves s) := by
    clear h
    induction moves with
    | nil => exact fun s hs => hs
    | cons m moves ih =>
        intro s hs
        exact ih (fun m' hm' => hthreads m' (List.mem_cons_of_mem _ hm')) _
          (hs.move N hnodup (hthreads m List.mem_cons_self))
  have hstart : Accounted threads (init s₀ : System σ μ) :=
    ⟨fun _ _ => rfl, by simp [init, pending]⟩
  have hperm := (hrun _ hstart).perm
  have hnone : pending threads (N.run moves (init s₀)).queues = [] :=
    List.flatMap_eq_nil_iff.mpr fun i _ => h i
  rwa [hnone, List.append_nil] at hperm

/-- The messages about `k`. -/
def about (k : κ) (messages : List μ) : List μ :=
  messages.filter fun m => (N.note m).key = k

/-- About each key, what was delivered so far is the beginning of what was made. -/
def InOrder (s : System σ μ) : Prop := ∀ k, N.about k s.delivered <+: N.about k s.produced

theorem last_eq_of_about {k : κ} {messages messages' : List μ}
    (h : N.about k messages = N.about k messages') : N.last k messages = N.last k messages' := by
  have hnotes : ∀ l : List μ, ((l.map N.note).filter fun n => n.key = k) =
      (N.about k l).map N.note := by
    intro l
    rw [List.filter_map]
    rfl
  rw [last, last, Note.last, Note.last, hnotes, hnotes, h]

/-- Delivery in the order of the calls leaves the last word about each key to the last call.
Kind: L -/
theorem last_of_inOrder (s₀ : σ) (moves : List (Move γ))
    (hdelivered : Delivered (N.run moves (init s₀))) (horder : N.InOrder (N.run moves (init s₀)))
    (k : κ) :
    N.last k (N.run moves (init s₀)).delivered = N.last k (N.run moves (init s₀)).produced := by
  have hperm := N.produced_perm_delivered s₀ moves hdelivered
  exact N.last_eq_of_about ((horder k).eq_of_length (hperm.filter _).length_eq.symm)

end Notifier

end ExpraConnect.Lib
