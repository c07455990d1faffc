import Mathlib.Data.List.Basic
import Mathlib.Tactic

/-!
# Where the entries of a table come from

A system is changed by operations and has a table of entries.  An operation sets an entry, drops
it, or leaves it alone, depending on the state it happens in.

* `Tabled`: such a system; `Tabled.run`: a sequence of operations;
* `Stands`: an operation set the entry and nothing touched it since;
* `look_run_eq_some_iff`: an entry stands, or was there from the start and never touched;
* `look_run_eq_none_of_dropped`: an entry that was dropped and not set since is gone;
* `look_run_of_never_dropped`: an entry that is never set again nor dropped stays.
-/

namespace ExpraConnect.Lib

/-- A system with a table of entries `ν` under keys `κ`.  Source: none: infrastructure.  Kind: D -/
structure Tabled (σ ι κ ν : Type) where
  /-- The state after an operation. -/
  step : σ → ι → σ
  /-- The entry of a key. -/
  look : σ → κ → Option ν
  /-- The operation sets the entry. -/
  Sets : σ → ι → κ → ν → Prop
  /-- The operation drops the entry. -/
  Drops : σ → ι → κ → Prop
  /-- What was set is there. -/
  look_of_sets : ∀ {s o k v}, Sets s o k v → look (step s o) k = some v
  /-- What was dropped is not. -/
  look_of_drops : ∀ {s o k}, Drops s o k → look (step s o) k = none
  /-- Everything else is as before. -/
  look_of_neither : ∀ {s o k}, (∀ v, ¬Sets s o k v) → ¬Drops s o k →
    look (step s o) k = look s k

namespace Tabled

variable {σ ι κ ν : Type} (T : Tabled σ ι κ ν)

/-- The state after a sequence of operations. -/
def run (s : σ) (ops : List ι) : σ := ops.foldl T.step s

/-- The operation sets or drops the entry. -/
def Touches (s : σ) (o : ι) (k : κ) : Prop := (∃ v, T.Sets s o k v) ∨ T.Drops s o k

/-- No operation of the sequence touches the entry. -/
def Leaves (s : σ) : List ι → κ → Prop
  | [], _ => True
  | o :: rest, k => ¬T.Touches s o k ∧ Leaves (T.step s o) rest k

/-- An operation of the sequence set the entry, and nothing touched it since. -/
def Stands (s : σ) (ops : List ι) (k : κ) (v : ν) : Prop :=
  ∃ pre o post, ops = pre ++ o :: post ∧ T.Sets (T.run s pre) o k v ∧
    T.Leaves (T.run s (pre ++ [o])) post k

variable {T} {s : σ} {o : ι} {ops pre post : List ι} {k : κ} {v : ν}

@[simp] theorem run_nil : T.run s [] = s := rfl

@[simp] theorem run_cons : T.run s (o :: ops) = T.run (T.step s o) ops := rfl

theorem run_append (pre post : List ι) : T.run s (pre ++ post) = T.run (T.run s pre) post := by
  unfold run
  rw [List.foldl_append]

/-- An operation leaves the keys alone that it does not touch.  Kind: L -/
theorem look_of_not_touches (h : ¬T.Touches s o k) : T.look (T.step s o) k = T.look s k := by
  apply T.look_of_neither
  · intro v hv
    exact h (.inl ⟨v, hv⟩)
  · intro hd
    exact h (.inr hd)

/-- One operation: what is there afterwards was set by it, or left alone.  Kind: L -/
theorem look_step_eq_some_iff : T.look (T.step s o) k = some v ↔
    T.Sets s o k v ∨ (¬T.Touches s o k ∧ T.look s k = some v) := by
  constructor
  · intro h
    by_cases htouch : T.Touches s o k
    · rcases htouch with ⟨u, hu⟩ | hd
      · have huv : u = v := Option.some.inj ((T.look_of_sets hu).symm.trans h)
        exact .inl (huv ▸ hu)
      · rw [T.look_of_drops hd] at h
        cases h
    · rw [look_of_not_touches htouch] at h
      exact .inr ⟨htouch, h⟩
  · rintro (hset | ⟨hnot, h⟩)
    · exact T.look_of_sets hset
    · rw [look_of_not_touches hnot]
      exact h

/-- A run leaves the keys alone that none of its operations touches.  Kind: L -/
theorem look_run_of_leaves (h : T.Leaves s ops k) : T.look (T.run s ops) k = T.look s k := by
  induction ops generalizing s with
  | nil => rfl
  | cons o rest ih =>
      rw [run_cons, ih h.2]
      exact look_of_not_touches h.1

/-- Where an entry comes from.  Kind: L -/
theorem look_run_eq_some_iff : T.look (T.run s ops) k = some v ↔
    (T.look s k = some v ∧ T.Leaves s ops k) ∨ T.Stands s ops k v := by
  constructor
  · intro h
    induction ops generalizing s with
    | nil => exact .inl ⟨h, trivial⟩
    | cons o rest ih =>
        rcases ih h with ⟨hlook, hleaves⟩ | ⟨pre, o', post, hrest, hset, hleaves⟩
        · rcases look_step_eq_some_iff.mp hlook with hset | ⟨hnot, hlook⟩
          · exact .inr ⟨[], o, rest, rfl, hset, hleaves⟩
          · exact .inl ⟨hlook, hnot, hleaves⟩
        · exact .inr ⟨o :: pre, o', post, by rw [hrest, List.cons_append], hset, hleaves⟩
  · rintro (⟨hlook, hleaves⟩ | ⟨pre, o, post, rfl, hset, hleaves⟩)
    · rw [look_run_of_leaves hleaves]
      exact hlook
    · have hsplit : T.run s (pre ++ o :: post) = T.run (T.run s (pre ++ [o])) post := by
        rw [← run_append, List.append_assoc, List.singleton_append]
      rw [hsplit, look_run_of_leaves hleaves, run_append]
      exact T.look_of_sets hset

/-- From a table without the entry.  Kind: L -/
theorem look_run_eq_some_iff_stands (h : T.look s k = none) :
    T.look (T.run s ops) k = some v ↔ T.Stands s ops k v := by
  rw [look_run_eq_some_iff, h]
  simp

/-- An entry that was dropped and not set since is gone.  Kind: L -/
theorem look_run_eq_none_of_dropped (hdrop : T.Drops (T.run s pre) o k)
    (hpost : ∀ s', ∀ o' ∈ post, ∀ u, ¬T.Sets s' o' k u) :
    T.look (T.run s (pre ++ o :: post)) k = none := by
  rw [run_append, run_cons]
  have hgone := T.look_of_drops hdrop
  generalize T.step (T.run s pre) o = s' at hgone
  induction post generalizing s' with
  | nil => exact hgone
  | cons o' rest ih =>
      apply ih (fun t o'' ho'' => hpost t o'' (List.mem_cons_of_mem _ ho''))
      by_cases hd : T.Drops s' o' k
      · exact T.look_of_drops hd
      · rw [T.look_of_neither (hpost s' o' List.mem_cons_self) hd]
        exact hgone

/-- An entry that cannot be set again nor dropped stays.  Kind: L -/
theorem look_run_of_never_dropped (hfixed : ∀ s o v, T.look s k = some v → ¬T.Touches s o k)
    (h : T.look s k = some v) (ops : List ι) : T.look (T.run s ops) k = some v := by
  induction ops generalizing s with
  | nil => exact h
  | cons o rest ih =>
      apply ih
      rw [look_of_not_touches (hfixed s o v h)]
      exact h

end Tabled

end ExpraConnect.Lib
