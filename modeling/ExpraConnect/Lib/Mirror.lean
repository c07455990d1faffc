import ExpraConnect.Lib.Dict

/-!
# Records that mirror a table

A table has the authority; a view has a record of some of its keys, and is brought up to date by
going through the entries of the table.

* `Mirroring`: what a record shows, and how it is updated from an entry; an entry that is not alive
  should show as nothing, but the update does not ask;
* `Agrees`: every record shows its key's entry;
* `agrees_refresh_iff`: when a view agrees after it was brought up to date;
* `Agrees.step_iff`: when a view agrees after one entry changed.
-/

namespace ExpraConnect.Lib

/-- How a table with entries `α` is shown in records `ρ`, in a context `γ`. -/
structure Mirroring (κ α ρ σ γ : Type) where
  /-- The entry counts. -/
  live : α → Bool
  /-- What is written for an entry. -/
  written : γ → α → σ
  /-- What a record shows, if anything. -/
  shows : ρ → Option σ
  /-- The record after an update, from the one before. -/
  update : γ → κ → α → Option ρ → ρ
  /-- It shows what is written, alive or not. -/
  shows_update : ∀ x k a r, shows (update x k a r) = some (written x a)

namespace Mirroring

variable {κ α ρ σ γ : Type} (M : Mirroring κ α ρ σ γ) (x : γ)

/-- What should be shown of an entry. -/
def standing (entry : Option α) : Option σ := (entry.filter M.live).map (M.written x)

section standing

variable {M x}

/-- What is not there stands for nothing.  Kind: L -/
theorem standing_none : M.standing x none = none := rfl

/-- What is there stands as written if and only if it is live.  Kind: L -/
theorem standing_eq_written_iff {a : α} :
    M.standing x (some a) = some (M.written x a) ↔ M.live a = true := by
  cases h : M.live a <;> simp [standing, Option.filter, h]

/-- What is live stands as written.  Kind: L -/
theorem standing_of_live {a : α} (h : M.live a = true) :
    M.standing x (some a) = some (M.written x a) := standing_eq_written_iff.mpr h

/-- Whether an entry stands does not depend on the context.  Kind: L -/
theorem standing_eq_none_iff {entry : Option α} :
    M.standing x entry = none ↔ ∀ a, entry = some a → M.live a = false := by
  cases entry with
  | none => simp [standing]
  | some a => cases h : M.live a <;> simp [standing, Option.filter, h]

/-- Entries that are written alike stand alike.  Kind: L -/
theorem standing_congr {a b : α} (hlive : M.live a = M.live b)
    (hwritten : M.written x a = M.written x b) :
    M.standing x (some a) = M.standing x (some b) := by
  cases h : M.live b with
  | false => simp [standing, Option.filter, hlive, h]
  | true => simp [standing, Option.filter, hlive, h, hwritten]

end standing

variable [DecidableEq κ]

/-- Every record shows the entry of its key. -/
def Agrees (table : κ → Option α) (view : Dict κ ρ) : Prop :=
  ∀ k r, view.get? k = some r → M.shows r = M.standing x (table k)

/-- The view after going through the entries. -/
def refresh : List (κ × α) → Dict κ ρ → Dict κ ρ
  | [], view => view
  | (k, a) :: rest, view => refresh rest (view.insert k (M.update x k a (view.get? k)))

variable {M x} {table : κ → Option α} {view : Dict κ ρ} {k : κ}

/-- A key that is not gone through keeps its record.  Kind: L -/
theorem get?_refresh_of_not_mem {entries : List (κ × α)} (h : k ∉ entries.map Prod.fst)
    (view : Dict κ ρ) : (M.refresh x entries view).get? k = view.get? k := by
  induction entries generalizing view with
  | nil => rfl
  | cons p rest ih =>
      rw [List.map_cons, List.mem_cons, not_or] at h
      rw [refresh, ih h.2, Dict.get?_insert_of_ne _ _ (Ne.symm h.1)]

/-- A key that is gone through has a record, which shows what was written.  Kind: L -/
theorem get?_refresh_of_mem {entries : List (κ × α)} (hkeys : (entries.map Prod.fst).Nodup)
    {a : α} (h : (k, a) ∈ entries) (view : Dict κ ρ) :
    ∃ r, (M.refresh x entries view).get? k = some r ∧ M.shows r = some (M.written x a) := by
  induction entries generalizing view with
  | nil => cases h
  | cons p rest ih =>
      rw [List.map_cons, List.nodup_cons] at hkeys
      rcases List.mem_cons.mp h with rfl | hrest
      · refine ⟨M.update x k a (view.get? k), ?_, M.shows_update x k a _⟩
        rw [refresh, get?_refresh_of_not_mem hkeys.1, Dict.get?_insert_self]
      · exact ih hkeys.2 hrest _

/-- A view agrees after it was brought up to date, exactly when no entry is dead and no record of a
key without an entry shows anything.  Kind: L -/
theorem agrees_refresh_iff (entries : Dict κ α) (view : Dict κ ρ) :
    M.Agrees x entries.get? (M.refresh x entries.entries view) ↔
      (∀ k a, entries.get? k = some a → M.live a = true) ∧
        ∀ k r, view.get? k = some r → entries.get? k = none → M.shows r = none := by
  have houtside : ∀ k, entries.get? k = none →
      (M.refresh x entries.entries view).get? k = view.get? k := by
    intro k hk
    refine get?_refresh_of_not_mem (fun hmem => ?_) view
    have hsome := entries.mem_keys_iff.mp hmem
    rw [hk] at hsome
    cases hsome
  constructor
  · intro h
    refine ⟨fun k a ha => ?_, fun k r hr hk => ?_⟩
    · obtain ⟨r, hr, hshows⟩ := get?_refresh_of_mem (M := M) (x := x) entries.nodup
        (entries.get?_eq_some_iff.mp ha) view
      rw [h k r hr, ha] at hshows
      exact standing_eq_written_iff.mp hshows
    · rw [h k r ((houtside k hk).trans hr), hk, standing_none]
  · rintro ⟨hlive, hrest⟩ k r hr
    cases hk : entries.get? k with
    | none =>
        rw [standing_none]
        exact hrest k r ((houtside k hk).symm.trans hr) hk
    | some a =>
        obtain ⟨r', hr', hshows⟩ := get?_refresh_of_mem (M := M) (x := x) entries.nodup
          (entries.get?_eq_some_iff.mp hk) view
        cases hr.symm.trans hr'
        rw [hshows, standing_of_live (hlive k a hk)]

/-- The same for a view that agreed with an older table, in an older context.  Kind: L -/
theorem Agrees.refresh_iff {y : γ} (h : M.Agrees y table view) (entries : Dict κ α) :
    M.Agrees x entries.get? (M.refresh x entries.entries view) ↔
      (∀ k a, entries.get? k = some a → M.live a = true) ∧
        ∀ k, view.contains k = true → entries.get? k = none →
          ∀ a, table k = some a → M.live a = false := by
  rw [agrees_refresh_iff]
  refine and_congr_right fun _ => ?_
  constructor
  · intro hrest k hk hnone
    obtain ⟨r, hr⟩ := Option.isSome_iff_exists.mp hk
    rw [← standing_eq_none_iff (x := y), ← h k r hr]
    exact hrest k r hr hnone
  · intro hrest k r hr hnone
    rw [h k r hr, standing_eq_none_iff]
    exact hrest k (Option.isSome_iff_exists.mpr ⟨r, hr⟩) hnone

/-- A view that is not touched while one entry changes agrees afterwards, exactly when it has no
record of that key or the entry stands as before.  Kind: L -/
theorem Agrees.step_iff (h : M.Agrees x table view) {table' : κ → Option α} {key : κ}
    (hsame : ∀ k, k ≠ key → M.standing x (table' k) = M.standing x (table k)) :
    M.Agrees x table' view ↔
      (view.contains key = true → M.standing x (table' key) = M.standing x (table key)) := by
  constructor
  · intro h' hkey
    obtain ⟨r, hr⟩ := Option.isSome_iff_exists.mp hkey
    rw [← h' key r hr, h key r hr]
  · intro hkey k r hr
    by_cases hk : k = key
    · subst hk
      rw [h k r hr, hkey (Option.isSome_iff_exists.mpr ⟨r, hr⟩)]
    · rw [h k r hr, hsame k hk]

end Mirroring

end ExpraConnect.Lib
