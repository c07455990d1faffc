import Mathlib.Data.List.Basic
import Mathlib.Logic.Function.Basic
import Mathlib.Tactic

/-!
# A directory on a disk with a write cache

What a process sees of a directory, and what a power cut leaves of it.

* `Disk`: files are numbered; `entries` names them, `data` is what a reader reads.  A change of the
  directory waits in a `journal` until the directory is synced, what is written to a file until the
  file is synced (`durable`).
* `Disk.Op`: create, append, sync a file, rename, unlink, sync the directory.
* `Recovers d d'`: what may be left after a crash.  The directory is what some prefix of the journal
  made of it, so changes are lost in the reverse of their order; a file that is not synced may hold
  anything.
* `exists_past_of_recovers`: the directory that is left is one there was, since the last sync;
  `Recovers.settled`: and nothing waits any more.
* `data_run`, `durable_run`, `entries_run_of_untouched`: what a sequence of operations leaves alone.
-/

namespace ExpraConnect.Lib

/-- A change of a directory.  Source: none: infrastructure.  Kind: D -/
inductive DirOp (ν : Type) where
  /-- A name gets a file. -/
  | link (name : ν) (file : ℕ)
  /-- A name goes. -/
  | unlink (name : ν)
  /-- The file of one name gets another, whose file goes. -/
  | rename (src dst : ν)
  deriving DecidableEq

/-- A directory and its files.  Source: none: infrastructure.  Kind: D -/
structure Disk (ν β : Type) where
  /-- The directory as it is on the disk. -/
  base : ν → Option ℕ
  /-- The changes that are not on the disk yet, oldest first. -/
  journal : List (DirOp ν)
  /-- What a reader of a file reads. -/
  data : ℕ → List β
  /-- What is known to be on the disk of a file. -/
  durable : ℕ → Option (List β)
  /-- The next file number. -/
  next : ℕ

section disk

variable {ν β : Type} [DecidableEq ν]

/-- The effect of a change on a directory. -/
def DirOp.apply (entries : ν → Option ℕ) : DirOp ν → ν → Option ℕ
  | link name file => Function.update entries name (some file)
  | unlink name => Function.update entries name none
  | rename src dst =>
      if src = dst then entries
      else Function.update (Function.update entries dst (entries src)) src none

/-- The change concerns a name. -/
def DirOp.Touches (name : ν) : DirOp ν → Prop
  | link n _ => n = name
  | unlink n => n = name
  | rename src dst => src = name ∨ dst = name

/-- A directory operation leaves the other names alone.  Kind: L -/
theorem DirOp.apply_of_not_touches {o : DirOp ν} {entries : ν → Option ℕ} {name : ν}
    (h : ¬o.Touches name) : o.apply entries name = entries name := by
  cases o with
  | link n file => exact Function.update_of_ne (Ne.symm h) _ _
  | unlink n => exact Function.update_of_ne (Ne.symm h) _ _
  | rename src dst =>
      obtain ⟨hsrc, hdst⟩ := not_or.mp h
      simp only [DirOp.apply]
      split
      · rfl
      · rw [Function.update_of_ne (Ne.symm hsrc), Function.update_of_ne (Ne.symm hdst)]

namespace Disk

/-- The directory that the processes see. -/
def entries (d : Disk ν β) : ν → Option ℕ := d.journal.foldl DirOp.apply d.base

/-- What a process reads under a name. -/
def content (d : Disk ν β) (name : ν) : Option (List β) := (d.entries name).map d.data

/-- One operation.  Source: none: infrastructure.  Kind: D -/
inductive Op (ν β : Type) where
  /-- Create an empty file. -/
  | create (name : ν)
  /-- Write at the end of a file. -/
  | append (file : ℕ) (bytes : List β)
  /-- `fsync` of a file. -/
  | syncFile (file : ℕ)
  /-- Move a file onto another name. -/
  | rename (src dst : ν)
  /-- Remove a name. -/
  | unlink (name : ν)
  /-- `fsync` of the directory. -/
  | syncDir

/-- The change of the directory that an operation makes. -/
def Op.dirOp (d : Disk ν β) : Op ν β → Option (DirOp ν)
  | create name => some (.link name d.next)
  | rename src dst => some (.rename src dst)
  | unlink name => some (.unlink name)
  | _ => none

/-- The effect of an operation.  Source: none: infrastructure.  Kind: D -/
def apply (d : Disk ν β) : Op ν β → Disk ν β
  | .create name =>
      { d with
        journal := d.journal ++ [.link name d.next]
        data := Function.update d.data d.next []
        durable := Function.update d.durable d.next none
        next := d.next + 1 }
  | .append file bytes =>
      { d with
        data := Function.update d.data file (d.data file ++ bytes)
        durable := Function.update d.durable file none }
  | .syncFile file => { d with durable := Function.update d.durable file (some (d.data file)) }
  | .rename src dst => { d with journal := d.journal ++ [.rename src dst] }
  | .unlink name => { d with journal := d.journal ++ [.unlink name] }
  | .syncDir => { d with base := d.entries, journal := [] }

/-- A sequence of operations. -/
def run (d : Disk ν β) (ops : List (Op ν β)) : Disk ν β := ops.foldl apply d

@[simp] theorem run_nil (d : Disk ν β) : d.run [] = d := rfl

theorem run_append (d : Disk ν β) (ops ops' : List (Op ν β)) :
    d.run (ops ++ ops') = (d.run ops).run ops' := List.foldl_append

/-- A run and one operation more.  Kind: L -/
theorem run_concat (d : Disk ν β) (ops : List (Op ν β)) (o : Op ν β) :
    d.run (ops ++ [o]) = (d.run ops).apply o := by
  rw [run_append]
  rfl

/-! ## What operations leave alone -/

/-- The operation concerns a name. -/
def Op.Touches (name : ν) : Op ν β → Prop
  | create n => n = name
  | unlink n => n = name
  | rename src dst => src = name ∨ dst = name
  | _ => False

/-- What an operation does to the directory.  Kind: L -/
theorem entries_apply (d : Disk ν β) (o : Op ν β) :
    (d.apply o).entries = ((o.dirOp d).elim d.entries fun c => c.apply d.entries) := by
  cases o with
  | create name => simp [apply, entries, Op.dirOp]
  | append file bytes => rfl
  | syncFile file => rfl
  | rename src dst => simp [apply, entries, Op.dirOp]
  | unlink name => simp [apply, entries, Op.dirOp]
  | syncDir => rfl

/-- An operation leaves the names alone that it does not touch.  Kind: L -/
theorem entries_apply_of_not_touches {d : Disk ν β} {o : Op ν β} {name : ν}
    (h : ¬o.Touches name) : (d.apply o).entries name = d.entries name := by
  rw [entries_apply]
  cases o with
  | create n => exact DirOp.apply_of_not_touches (o := .link n d.next) h
  | rename src dst => exact DirOp.apply_of_not_touches (o := .rename src dst) h
  | unlink n => exact DirOp.apply_of_not_touches (o := .unlink n) h
  | append file bytes => rfl
  | syncFile file => rfl
  | syncDir => rfl

/-- A run leaves the names alone that none of its operations touches.  Kind: L -/
theorem entries_run_of_not_touches {d : Disk ν β} {ops : List (Op ν β)} {name : ν}
    (h : ∀ o ∈ ops, ¬o.Touches name) : (d.run ops).entries name = d.entries name := by
  induction ops using List.reverseRecOn with
  | nil => rfl
  | append_singleton ops o ih =>
      rw [run_concat, entries_apply_of_not_touches (h o (by simp))]
      exact ih fun o' ho' => h o' (by simp [ho'])

/-- A new name is the new file's.  Kind: L -/
theorem entries_create (d : Disk ν β) (name : ν) :
    (d.apply (.create name)).entries name = some d.next := by
  rw [entries_apply]
  exact Function.update_self _ _ _

/-- A rename gives the target name the file.  Kind: L -/
theorem entries_rename {d : Disk ν β} {src dst : ν} (h : src ≠ dst) :
    (d.apply (.rename src dst)).entries dst = d.entries src := by
  rw [entries_apply]
  show DirOp.apply d.entries (.rename src dst) dst = _
  rw [DirOp.apply, if_neg h, Function.update_of_ne (Ne.symm h), Function.update_self]

/-- Every name has a file there is. -/
def Bounded (d : Disk ν β) : Prop := ∀ name file, d.entries name = some file → file < d.next

/-- File numbers are handed out upwards.  Kind: L -/
theorem next_le_apply (d : Disk ν β) (o : Op ν β) : d.next ≤ (d.apply o).next := by
  cases o with
  | create name => exact Nat.le_succ _
  | _ => exact le_rfl

/-- An operation keeps every entry below the next file number.  Kind: L -/
theorem bounded_apply {d : Disk ν β} (h : d.Bounded) (o : Op ν β) : (d.apply o).Bounded := by
  intro name file hfile
  rw [entries_apply] at hfile
  cases o with
  | create n =>
      have hnext : (d.apply (.create n)).next = d.next + 1 := rfl
      change Function.update d.entries n (some d.next) name = some file at hfile
      by_cases hn : name = n
      · rw [hn, Function.update_self] at hfile
        cases hfile
        omega
      · rw [Function.update_of_ne hn] at hfile
        have hlt := h name file hfile
        omega
  | rename src dst =>
      change DirOp.apply d.entries (.rename src dst) name = some file at hfile
      simp only [DirOp.apply] at hfile
      split at hfile
      · exact h name file hfile
      · by_cases hsrc : name = src
        · rw [hsrc, Function.update_self] at hfile
          cases hfile
        · rw [Function.update_of_ne hsrc] at hfile
          by_cases hdst : name = dst
          · rw [hdst, Function.update_self] at hfile
            exact h src file hfile
          · rw [Function.update_of_ne hdst] at hfile
            exact h name file hfile
  | unlink n =>
      change Function.update d.entries n none name = some file at hfile
      by_cases hn : name = n
      · rw [hn, Function.update_self] at hfile
        cases hfile
      · rw [Function.update_of_ne hn] at hfile
        exact h name file hfile
  | append f bytes => exact h name file hfile
  | syncFile f => exact h name file hfile
  | syncDir => exact h name file hfile

/-- A run keeps every entry below the next file number.  Kind: L -/
theorem bounded_run {d : Disk ν β} (h : d.Bounded) (ops : List (Op ν β)) : (d.run ops).Bounded := by
  induction ops using List.reverseRecOn with
  | nil => exact h
  | append_singleton ops o ih =>
      rw [run_concat]
      exact bounded_apply ih o

/-- The operation writes to a file. -/
def Op.Writes (file : ℕ) : Op ν β → Prop
  | append f _ => f = file
  | _ => False

/-- What an operation writes to a file. -/
def Op.written (file : ℕ) : Op ν β → List β
  | append f bytes => if f = file then bytes else []
  | _ => []

omit [DecidableEq ν] in

/-- An operation on another file writes nothing to this one.  Kind: L -/
theorem Op.written_of_not_writes {o : Op ν β} {file : ℕ} (h : ¬o.Writes file) :
    o.written file = [] := by
  cases o with
  | append f bytes => exact if_neg h
  | _ => rfl

/-- An operation appends what it writes to the file.  Kind: L -/
theorem data_apply {d : Disk ν β} {o : Op ν β} {file : ℕ} (h : file < d.next) :
    (d.apply o).data file = d.data file ++ o.written file := by
  cases o with
  | create name =>
      simpa [apply, Op.written] using Function.update_of_ne (Nat.ne_of_lt h) [] d.data
  | append f bytes =>
      by_cases hf : f = file
      · subst hf
        simp [apply, Op.written]
      · simpa [apply, Op.written, hf] using
          Function.update_of_ne (Ne.symm hf) (d.data f ++ bytes) d.data
  | _ => simp [apply, Op.written]

/-- File numbers are handed out upwards along a run.  Kind: L -/
theorem next_le_run (d : Disk ν β) (ops : List (Op ν β)) : d.next ≤ (d.run ops).next := by
  induction ops using List.reverseRecOn with
  | nil => exact le_rfl
  | append_singleton ops o ih =>
      rw [run_concat]
      exact ih.trans (next_le_apply _ _)

/-- A file holds what was written to it, in order.  Kind: L -/
theorem data_run {d : Disk ν β} {ops : List (Op ν β)} {file : ℕ} (h : file < d.next) :
    (d.run ops).data file = d.data file ++ ops.flatMap (Op.written file) := by
  induction ops using List.reverseRecOn with
  | nil => simp
  | append_singleton ops o ih =>
      rw [run_concat, data_apply (h.trans_le (next_le_run d ops)), ih]
      simp [List.flatMap_append]

/-- What is durable of a file stays so while nothing writes to it.  Kind: L -/
theorem durable_apply_of_not_writes {d : Disk ν β} {o : Op ν β} {file : ℕ} {bytes : List β}
    (hfile : file < d.next) (hw : ¬o.Writes file) (hdata : d.data file = bytes)
    (hdurable : d.durable file = some bytes) : (d.apply o).durable file = some bytes := by
  cases o with
  | create name => exact (Function.update_of_ne (Nat.ne_of_lt hfile) _ _).trans hdurable
  | append f b => exact (Function.update_of_ne (Ne.symm hw) _ _).trans hdurable
  | syncFile f =>
      by_cases hf : f = file
      · subst hf
        show Function.update d.durable f (some (d.data f)) f = _
        rw [Function.update_self, hdata]
      · exact (Function.update_of_ne (Ne.symm hf) _ _).trans hdurable
  | rename src dst => exact hdurable
  | unlink name => exact hdurable
  | syncDir => exact hdurable

/-- What is on the disk of a file stays there, and stays what is read, while nothing is written.
Kind: L -/
theorem durable_run {d : Disk ν β} {ops : List (Op ν β)} {file : ℕ} {bytes : List β}
    (hfile : file < d.next) (hw : ∀ o ∈ ops, ¬o.Writes file) (hdata : d.data file = bytes)
    (hdurable : d.durable file = some bytes) :
    (d.run ops).data file = bytes ∧ (d.run ops).durable file = some bytes := by
  induction ops using List.reverseRecOn with
  | nil => exact ⟨hdata, hdurable⟩
  | append_singleton ops o ih =>
      obtain ⟨ihdata, ihdurable⟩ := ih fun o' ho' => hw o' (by simp [ho'])
      have hlt : file < (d.run ops).next := hfile.trans_le (next_le_run d ops)
      have ho : ¬o.Writes file := hw o (by simp)
      rw [run_concat]
      refine ⟨?_, durable_apply_of_not_writes hlt ho ihdata ihdurable⟩
      rw [data_apply hlt, ihdata, Op.written_of_not_writes ho, List.append_nil]

/-! ## Crashes -/

/-- What a crash may leave of a disk.  Source: none: infrastructure.  Kind: D -/
structure Recovers (d d' : Disk ν β) : Prop where
  /-- Some of the waiting changes of the directory were made, in order. -/
  base : ∃ k, d'.base = (d.journal.take k).foldl DirOp.apply d.base
  /-- Nothing waits any more. -/
  journal : d'.journal = []
  /-- What was known to be on the disk is there. -/
  data : ∀ file bytes, d.durable file = some bytes → d'.data file = bytes
  /-- What is read from now on is on the disk. -/
  durable : ∀ file, d'.durable file = some (d'.data file)
  /-- Files keep their numbers. -/
  next : d.next ≤ d'.next

/-- A crash that loses nothing but what is in no file for sure. -/
def settle (d : Disk ν β) : Disk ν β where
  base := d.entries
  journal := []
  data file := (d.durable file).getD (d.data file)
  durable file := some ((d.durable file).getD (d.data file))
  next := d.next

/-- The whole disk is one of those a crash can leave.  Kind: L -/
theorem recovers_settle (d : Disk ν β) : Recovers d d.settle := by
  refine ⟨⟨d.journal.length, ?_⟩, rfl, fun file bytes h => ?_, fun _ => rfl, le_rfl⟩
  · rw [List.take_length]
    rfl
  · show (d.durable file).getD (d.data file) = bytes
    rw [h]
    rfl

/-- A disk on which nothing waits, and every file that has a name is there. -/
structure Settled (d : Disk ν β) : Prop where
  /-- No change of the directory waits. -/
  journal : d.journal = []
  /-- Every name has a file. -/
  bounded : d.Bounded
  /-- Every file is on the disk. -/
  durable : ∀ name file, d.entries name = some file → d.durable file = some (d.data file)

/-- The directory never lags behind by more than the operations since its last sync.  Kind: L -/
theorem exists_past_of_journal {d : Disk ν β} (hd : d.journal = []) (ops : List (Op ν β)) (k : ℕ) :
    ∃ ops₁ ops₂, ops = ops₁ ++ ops₂ ∧ Op.syncDir ∉ ops₂ ∧
      ((d.run ops).journal.take k).foldl DirOp.apply (d.run ops).base = (d.run ops₁).entries := by
  induction ops using List.reverseRecOn generalizing k with
  | nil => exact ⟨[], [], rfl, List.not_mem_nil, by simp [hd, entries]⟩
  | append_singleton ops o ih =>
      obtain ⟨ops₁, ops₂, hops, hsync, hpast⟩ := ih k
      have hkept : o ≠ .syncDir → ∃ ops₁' ops₂', ops ++ [o] = ops₁' ++ ops₂' ∧
          Op.syncDir ∉ ops₂' ∧
          ((d.run ops).journal.take k).foldl DirOp.apply (d.run ops).base =
            (d.run ops₁').entries := by
        intro ho
        refine ⟨ops₁, ops₂ ++ [o], by rw [hops, List.append_assoc], ?_, hpast⟩
        simpa [hsync] using Ne.symm ho
      -- a change that is made with all before it: the directory is the present one
      have hmade : ∀ c, ((d.run ops).apply o).journal = (d.run ops).journal ++ [c] →
          ((d.run ops).apply o).base = (d.run ops).base → o ≠ .syncDir →
          ∃ ops₁' ops₂', ops ++ [o] = ops₁' ++ ops₂' ∧ Op.syncDir ∉ ops₂' ∧
            ((((d.run ops).apply o).journal).take k).foldl DirOp.apply
              ((d.run ops).apply o).base = (d.run ops₁').entries := by
        intro c hjournal hbase ho
        by_cases hk : k ≤ (d.run ops).journal.length
        · rw [hjournal, hbase, List.take_append_of_le_length hk]
          exact hkept ho
        · refine ⟨ops ++ [o], [], by simp, List.not_mem_nil, ?_⟩
          rw [run_concat, entries, List.take_of_length_le]
          rw [hjournal, List.length_append, List.length_singleton]
          omega
      rw [run_concat]
      cases o with
      | create name => exact hmade _ rfl rfl (by simp)
      | rename src dst => exact hmade _ rfl rfl (by simp)
      | unlink name => exact hmade _ rfl rfl (by simp)
      | append file bytes => exact hkept (by simp)
      | syncFile file => exact hkept (by simp)
      | syncDir => exact ⟨ops ++ [.syncDir], [], by simp, List.not_mem_nil, by
          rw [run_concat]
          simp [apply, entries]⟩

/-- **A crash goes back in time.**  The directory that is left is the one there was after some of
the operations, among them the last sync of the directory.  Source: none: infrastructure.  Kind: P -/
theorem exists_past_of_recovers {d d' : Disk ν β} (hd : d.journal = []) {ops : List (Op ν β)}
    (h : Recovers (d.run ops) d') :
    ∃ ops₁ ops₂, ops = ops₁ ++ ops₂ ∧ Op.syncDir ∉ ops₂ ∧ d'.entries = (d.run ops₁).entries := by
  obtain ⟨k, hk⟩ := h.base
  obtain ⟨ops₁, ops₂, hops, hsync, hpast⟩ := exists_past_of_journal hd ops k
  refine ⟨ops₁, ops₂, hops, hsync, ?_⟩
  rw [← hpast, ← hk, entries, h.journal]
  rfl

/-- A disk recovered from a settled one is settled.  Kind: L -/
theorem Recovers.settled {d d' : Disk ν β} (hd : d.Settled) {ops : List (Op ν β)}
    (h : Recovers (d.run ops) d') : d'.Settled := by
  refine ⟨h.journal, fun name file hfile => ?_, fun name file _ => h.durable file⟩
  obtain ⟨ops₁, ops₂, rfl, -, hpast⟩ := exists_past_of_recovers hd.journal h
  rw [hpast] at hfile
  have hlt := bounded_run hd.bounded ops₁ name file hfile
  have hle := next_le_run (d.run ops₁) ops₂
  have hnext := h.next
  rw [run_append] at hnext
  omega

end Disk

end disk

end ExpraConnect.Lib
