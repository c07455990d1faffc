import ExpraConnect.Base
import ExpraConnect.Lib.Disk
import ExpraConnect.Lib.Prog

/-!
# Atomic replacement of a state file

`persistence.py`, `_atomic_write_stream`, as a thread (`Lib.Prog`) over a directory with a write
cache (`Lib.Disk`).  Every system call can fail, a write part of the way.

* `FileInstr`, `atomicWriteStream`: the system calls, in the order of the source;
* `reaches_replace`, `reaches_write`, `reaches_fsyncDir`: what a call has done when it replaces the
  file, to which file it writes, and when it syncs the directory;
* `names_of_touches`: which names it changes.

Encodings, file modes and the location of the directory play no part; the temporary names that
`tempfile` draws are a list.
-/

namespace ExpraConnect

open ExpraConnect.Lib

/-! ## System calls -/

/-- The system calls of a write.  Source: `persistence.py`, `_atomic_write_stream`.  Kind: D -/
inductive FileInstr (ν β : Type) where
  /-- `path.parent.mkdir(parents=True, exist_ok=True)` -/
  | mkdir
  /-- One attempt of `tempfile.mkstemp`: create the file unless the name is taken. -/
  | create (name : ν)
  /-- `os.fdopen(fd, ...)` -/
  | fdopen (fd : ℕ)
  /-- What the writer hands to the file. -/
  | write (fd : ℕ) (bytes : List β)
  /-- `file.flush()` -/
  | flush (fd : ℕ)
  /-- `os.fsync(file.fileno())` -/
  | fsync (fd : ℕ)
  /-- Close the file. -/
  | close (fd : ℕ)
  /-- `os.chmod(temporary, mode)` -/
  | chmod (name : ν)
  /-- `os.replace(temporary, path)` -/
  | replace (src dst : ν)
  /-- `os.open(path.parent, os.O_RDONLY | os.O_DIRECTORY)` -/
  | openDir
  /-- `os.fsync(directory_fd)` -/
  | fsyncDir
  /-- `os.close(directory_fd)` -/
  | closeDir
  /-- `os.path.exists(temporary)` -/
  | exists (name : ν)
  /-- `os.unlink(temporary)` -/
  | unlink (name : ν)

/-- The directory, and what the next system call would raise; a write that raises may have written
part of its bytes. -/
structure FileState (ν β : Type) where
  /-- The directory. -/
  disk : Disk ν β
  /-- The error of the next call, and how far a write gets. -/
  fault : Option (PyError × ℕ)

/-- A thread that works on files. -/
abbrev FileProg (ν β α : Type) := Prog (FileState ν β) (FileInstr ν β) PyError α

section calls

variable {ν β α : Type} [DecidableEq ν]

/-- What a system call does to the directory. -/
def FileInstr.op (s : FileState ν β) (l : FileInstr ν β) : Option (Disk.Op ν β) :=
  match s.fault, l with
  | some fault, .write fd bytes => some (.append fd (bytes.take fault.2))
  | some _, _ => none
  | none, .create name => if (s.disk.entries name).isNone then some (.create name) else none
  | none, .write fd bytes => some (.append fd bytes)
  | none, .fsync fd => some (.syncFile fd)
  | none, .replace src dst =>
      if (s.disk.entries src).isSome then some (.rename src dst) else none
  | none, .unlink name => if (s.disk.entries name).isSome then some (.unlink name) else none
  | none, .fsyncDir => some .syncDir
  | none, _ => none

/-- The machine of the file system: calls can fail at any time. -/
def fileMachine (ν β : Type) [DecidableEq ν] :
    Machine (FileState ν β) (FileInstr ν β) (Option (PyError × ℕ)) where
  upd l s := { s with disk := (l.op s).elim s.disk s.disk.apply }
  ready _ _ := true
  env fault s := { s with fault := fault }
  allowed _ _ := True

/-- A system call with a result. -/
def osCall (l : FileInstr ν β) (f : FileState ν β → Except PyError α) : FileProg ν β α :=
  Prog.call l fun s =>
    match s.fault with
    | some fault => .error fault.1
    | none => f s

/-- A system call. -/
def act (l : FileInstr ν β) : FileProg ν β Unit := osCall l fun _ => .ok ()

/-- `FileNotFoundError` -/
def fileNotFound : PyError := ⟨.os, "No such file or directory"⟩

/-- A system call on a name that has to be there. -/
def actOn (name : ν) (l : FileInstr ν β) : FileProg ν β Unit :=
  osCall l fun s => if (s.disk.entries name).isSome then .ok () else .error fileNotFound

/-- `except OSError: pass` -/
def ignoringOsError (p : FileProg ν β Unit) : FileProg ν β Bool := do
  match ← p.attempt with
  | .ok () => return true
  | .error e => if e.kind = .os then return false else throw e

/-! ## The write -/

/-- One call of `_atomic_write_stream`.
Source: `persistence.py`, `_atomic_write_stream`.  Kind: D -/
structure AtomicWrite (ν β : Type) where
  /-- `path` -/
  path : ν
  /-- What `writer` hands to the file, piece by piece. -/
  chunks : List (List β)
  /-- What `writer` raises after that. -/
  raises : Option PyError
  /-- `sync_directory` -/
  syncDirectory : Bool
  /-- `hasattr(os, "O_DIRECTORY")` -/
  hasODirectory : Bool
  /-- The names that `tempfile` draws. -/
  names : List ν

/-- The document of a call: all that its writer writes. -/
def AtomicWrite.document (w : AtomicWrite ν β) : List β := w.chunks.flatten

/-- The first name that is not taken.  Source: `persistence.py`, `_atomic_write_stream`.  Kind: D -/
def mkstemp : List ν → FileProg ν β (ν × ℕ)
  | [] => throw ⟨.os, "No usable temporary file name found"⟩
  | name :: names => do
      let created ← osCall (.create name) fun s =>
        .ok (if (s.disk.entries name).isNone then some s.disk.next else none)
      match created with
      | some fd => return (name, fd)
      | none => mkstemp names

/-- `os.fdopen(...)`, closing the descriptor on an `OSError`.
Source: `persistence.py`, `_atomic_write_stream`.  Kind: D -/
def openStream (fd : ℕ) : FileProg ν β Unit := do
  match ← (act (.fdopen fd)).attempt with
  | .ok () => return
  | .error e =>
      if e.kind = .os then do
        act (.close fd)
        throw e
      else throw e

/-- `writer(file)`.  Source: `persistence.py`, `_atomic_write_stream`.  Kind: D -/
def writeStream (fd : ℕ) (raises : Option PyError) : List (List β) → FileProg ν β Unit
  | [] => Prog.ofExcept (raises.elim (.ok ()) .error)
  | chunk :: chunks => do
      act (.write fd chunk)
      writeStream fd raises chunks

/-- The body of `with file:`, and the end of it.
Source: `persistence.py`, `_atomic_write_stream`.  Kind: D -/
def writeFile (w : AtomicWrite ν β) (fd : ℕ) : FileProg ν β Unit :=
  Prog.ensuring (do
    writeStream fd w.raises w.chunks
    act (.flush fd)
    act (.fsync fd)) (act (.close fd))

/-- The sync of the directory, as far as there is one.
Source: `persistence.py`, `_atomic_write_stream`.  Kind: D -/
def syncParent (w : AtomicWrite ν β) : FileProg ν β Unit :=
  if w.syncDirectory && w.hasODirectory then do
    if ← ignoringOsError (act .openDir) then
      Prog.ensuring (do
        let _ ← ignoringOsError (act .fsyncDir)
        return) (act .closeDir)
    else return
  else return

/-- `if os.path.exists(temporary): os.unlink(temporary)`; an error counts as not there.
Source: `persistence.py`, `_atomic_write_stream`.  Kind: D -/
def removeTemporary (temporary : ν) : FileProg ν β Unit := do
  let there ← Prog.call (.exists temporary) fun s =>
    .ok (s.fault.isNone && (s.disk.entries temporary).isSome)
  if there then actOn temporary (.unlink temporary) else return

/-- The body of the outer `try`, on the temporary file and its descriptor.
Source: `persistence.py`, `_atomic_write_stream`.  Kind: D -/
def replaceFile (w : AtomicWrite ν β) (temporary : ν) (fd : ℕ) : FileProg ν β Unit := do
  openStream fd
  writeFile w fd
  actOn temporary (.chmod temporary)
  actOn temporary (.replace temporary w.path)
  syncParent w

/-- Source: `persistence.py`, `_atomic_write_stream`.  Kind: D -/
def atomicWriteStream (w : AtomicWrite ν β) : FileProg ν β Unit := do
  act .mkdir
  let temporary ← mkstemp w.names
  Prog.ensuring (replaceFile w temporary.1 temporary.2) (removeTemporary temporary.1)

end calls

/-! ## What one call does -/

set_option linter.unusedSectionVars false

section thread

variable {ν β : Type} [DecidableEq ν] {w : AtomicWrite ν β} {fd : ℕ} {l : FileInstr ν β}
  {h : Prog.History (FileState ν β) (FileInstr ν β)} {name : ν}

/-- What a thread has done to the directory. -/
def ownOps (h : Prog.History (FileState ν β) (FileInstr ν β)) : List (Disk.Op ν β) :=
  h.filterMap fun x => x.1.op x.2

@[simp] theorem ownOps_nil : ownOps ([] : Prog.History (FileState ν β) (FileInstr ν β)) = [] := rfl

theorem ownOps_append (h₁ h₂ : Prog.History (FileState ν β) (FileInstr ν β)) :
    ownOps (h₁ ++ h₂) = ownOps h₁ ++ ownOps h₂ := List.filterMap_append

/-- The call that creates a file, in the state it was made in. -/
def Creates (name : ν) (s : FileState ν β) : Prop :=
  s.fault = none ∧ s.disk.entries name = none

/-- A creation that succeeds is a disk operation.  Kind: L -/
theorem Creates.op {s : FileState ν β} (hs : Creates name s) :
    (FileInstr.create name).op s = some (.create name) := by
  simp [FileInstr.op, hs.1, hs.2]

/-- What a call that changes the disk is.  Kind: L -/
theorem op_eq_some {s : FileState ν β} {o : Disk.Op ν β} (ho : l.op s = some o) :
    (∃ fd bytes bytes', l = .write fd bytes ∧ o = .append fd bytes') ∨
      s.fault = none ∧
        ((∃ n, l = .create n ∧ s.disk.entries n = none ∧ o = .create n) ∨
          (∃ fd, l = .fsync fd ∧ o = .syncFile fd) ∨
          (∃ src dst, l = .replace src dst ∧ (s.disk.entries src).isSome ∧ o = .rename src dst) ∨
          (∃ n, l = .unlink n ∧ o = .unlink n) ∨ (l = .fsyncDir ∧ o = .syncDir)) := by
  cases hfault : s.fault with
  | some fault =>
      simp only [FileInstr.op, hfault] at ho
      cases l with
      | write fd bytes => exact .inl ⟨fd, bytes, _, rfl, (Option.some.inj ho).symm⟩
      | _ => cases ho
  | none =>
      simp only [FileInstr.op, hfault] at ho
      cases l with
      | write fd bytes => exact .inl ⟨fd, bytes, _, rfl, (Option.some.inj ho).symm⟩
      | _ => simp_all

/-- What writes to a file is a write.  Kind: L -/
theorem write_of_writes {s : FileState ν β} {o : Disk.Op ν β} (ho : l.op s = some o)
    (hwrites : o.Writes fd) : ∃ bytes, l = .write fd bytes := by
  rcases op_eq_some ho with ⟨fd', bytes, bytes', rfl, rfl⟩ | ⟨-, ⟨n, -, -, rfl⟩ | ⟨fd', -, rfl⟩ |
    ⟨_, _, -, -, rfl⟩ | ⟨n, -, rfl⟩ | ⟨-, rfl⟩⟩
  · have hfd : fd' = fd := hwrites
    exact ⟨bytes, by rw [hfd]⟩
  all_goals exact hwrites.elim

/-- A system call that returns met no fault.  Kind: L -/
theorem osCall_ends_ok {α : Type} {f : FileState ν β → Except PyError α} {a : α}
    (hends : Prog.Ends (osCall l f) h (.ok a)) :
    ∃ s, h = [(l, s)] ∧ s.fault = none ∧ f s = .ok a := by
  obtain ⟨s, rfl, hs⟩ := Prog.ends_call.mp hends
  cases hfault : s.fault with
  | none => exact ⟨s, rfl, hfault, by simpa [hfault] using hs.symm⟩
  | some fault => simp [hfault] at hs

/-- The instructions `osCall` consists of.  Kind: L -/
theorem osCall_only {α : Type} {f : FileState ν β → Except PyError α} {P : FileInstr ν β → Prop}
    (hl : P l) : Prog.Only P (osCall l f) := Prog.only_call hl _

/-- `mkstemp` has created the name it returns, and nothing else.  Kind: L -/
theorem mkstemp_ends {names : List ν} {t : ν × ℕ}
    (hends : Prog.Ends (mkstemp names) h (.ok t)) :
    ∃ h₁ s, h = h₁ ++ [(.create t.1, s)] ∧ t.1 ∈ names ∧ Creates t.1 s ∧ s.disk.next = t.2 ∧
      ∀ x ∈ h₁, ∃ n, x.1 = .create n := by
  induction names generalizing h with
  | nil =>
      obtain ⟨-, hr⟩ := Prog.ends_throw.mp hends
      cases hr
  | cons n names ih =>
      obtain ⟨h₁, h₂, created, rfl, hcall, hrest⟩ := Prog.ends_bind_ok.mp hends
      obtain ⟨s, rfl, hfault, hcreated⟩ := osCall_ends_ok hcall
      cases hcreated
      cases hfree : s.disk.entries n with
      | none =>
        simp only [hfree, Option.isNone_none, if_true] at hrest
        obtain ⟨rfl, ht⟩ := Prog.ends_pure.mp hrest
        cases ht
        exact ⟨[], s, rfl, List.mem_cons_self, ⟨hfault, hfree⟩, rfl, by simp⟩
      | some file =>
        simp only [hfree, Option.isNone_some, Bool.false_eq_true, if_false] at hrest
        obtain ⟨h₃, s', rfl, hmem, hcreates, hnext, hall⟩ := ih hrest
        refine ⟨(.create n, s) :: h₃, s', rfl, List.mem_cons_of_mem _ hmem, hcreates, hnext, ?_⟩
        intro x hx
        rcases List.mem_cons.mp hx with rfl | hx
        · exact ⟨n, rfl⟩
        · exact hall x hx

/-- The instructions `mkstemp` consists of.  Kind: L -/
theorem mkstemp_only (names : List ν) :
    Prog.Only (fun l => ∃ n ∈ names, l = .create n) (mkstemp names : FileProg ν β (ν × ℕ)) := by
  induction names with
  | nil => exact Prog.only_throw _
  | cons n names ih =>
      refine Prog.only_bind (osCall_only ⟨n, List.mem_cons_self, rfl⟩) fun created => ?_
      cases created with
      | some fd => exact Prog.only_pure _
      | none => exact ih.mono fun l ⟨n', hn', hl⟩ => ⟨n', List.mem_cons_of_mem _ hn', hl⟩

/-- A stream that was written has appended its chunks.  Kind: L -/
theorem writeStream_ends {raises : Option PyError} {chunks : List (List β)}
    (hends : Prog.Ends (writeStream fd raises chunks : FileProg ν β Unit) h (.ok ())) :
    raises = none ∧ ownOps h = chunks.map (.append fd) := by
  induction chunks generalizing h with
  | nil =>
      obtain ⟨rfl, hr⟩ := Prog.ends_ofExcept.mp hends
      cases raises with
      | none => exact ⟨rfl, rfl⟩
      | some e => cases hr
  | cons chunk chunks ih =>
      obtain ⟨h₁, h₂, _, rfl, hwrite, hrest⟩ := Prog.ends_bind_ok.mp hends
      obtain ⟨s, rfl, hfault, -⟩ := osCall_ends_ok hwrite
      obtain ⟨hraises, hops⟩ := ih hrest
      refine ⟨hraises, ?_⟩
      rw [ownOps_append, hops]
      simp [ownOps, FileInstr.op, hfault]

/-- The instructions `writeStream` consists of.  Kind: L -/
theorem writeStream_only {raises : Option PyError} (chunks : List (List β)) :
    Prog.Only (fun l => ∃ bytes, l = .write fd bytes)
      (writeStream fd raises chunks : FileProg ν β Unit) := by
  induction chunks with
  | nil => exact Prog.only_ofExcept _
  | cons chunk chunks ih => exact Prog.only_bind (osCall_only ⟨chunk, rfl⟩) fun _ => ih

/-- A file that was written has all of the document, and is synced behind it.  Kind: L -/
theorem writeFile_ends (hends : Prog.Ends (writeFile w fd) h (.ok ())) :
    w.raises = none ∧ ∃ h₁ s h₂, h = h₁ ++ (.fsync fd, s) :: h₂ ∧ s.fault = none ∧
      ownOps h₁ = w.chunks.map (.append fd) ∧ ownOps h₂ = [] := by
  obtain ⟨h₁, h₂, rfl, hbody, hclose⟩ := Prog.ends_ensuring_ok.mp hends
  obtain ⟨h₃, h₄, _, rfl, hwrite, hbody⟩ := Prog.ends_bind_ok.mp hbody
  obtain ⟨h₅, h₆, _, rfl, hflush, hsync⟩ := Prog.ends_bind_ok.mp hbody
  obtain ⟨hraises, hops⟩ := writeStream_ends hwrite
  obtain ⟨s₁, rfl, hfault₁, -⟩ := osCall_ends_ok hflush
  obtain ⟨s₂, rfl, hfault₂, -⟩ := osCall_ends_ok hsync
  obtain ⟨s₃, rfl, hfault₃, -⟩ := osCall_ends_ok hclose
  refine ⟨hraises, h₃ ++ [(.flush fd, s₁)], s₂, [(.close fd, s₃)], by simp, hfault₂, ?_, ?_⟩
  · rw [ownOps_append, hops]
    simp [ownOps, FileInstr.op, hfault₁]
  · simp [ownOps, FileInstr.op, hfault₃]

/-- What is done to the temporary file, and before the replacement. -/
def Prepares (fd : ℕ) : FileInstr ν β → Prop
  | .fdopen _ => True
  | .write fd' _ => fd' = fd
  | .flush _ => True
  | .fsync fd' => fd' = fd
  | .close _ => True
  | .chmod _ => True
  | _ => False

/-- What is done after the replacement. -/
def Syncs : FileInstr ν β → Prop
  | .openDir => True
  | .fsyncDir => True
  | .closeDir => True
  | _ => False

/-- What is done at the end. -/
def Removes (temporary : ν) : FileInstr ν β → Prop
  | .exists _ => True
  | .unlink name => name = temporary
  | _ => False

/-- What is done before there is a temporary file. -/
def Begins (w : AtomicWrite ν β) : FileInstr ν β → Prop
  | .mkdir => True
  | .create name => name ∈ w.names
  | _ => False

/-- The instructions `openStream` consists of.  Kind: L -/
theorem openStream_only : Prog.Only (Prepares fd) (openStream fd : FileProg ν β Unit) := by
  refine Prog.only_bind (Prog.only_attempt (osCall_only trivial)) fun r => ?_
  cases r with
  | ok u => exact Prog.only_pure _
  | error e =>
      dsimp only
      split
      · exact Prog.only_bind (osCall_only trivial) fun _ => Prog.only_throw _
      · exact Prog.only_throw _

/-- Opening a stream does nothing to the disk.  Kind: L -/
theorem openStream_ends (hends : Prog.Ends (openStream fd : FileProg ν β Unit) h (.ok ())) :
    ownOps h = [] := by
  obtain ⟨h₁, h₂, r, rfl, hopen, hrest⟩ := Prog.ends_bind_ok.mp hends
  cases r with
  | ok u =>
      obtain ⟨s, rfl, hfault, -⟩ := osCall_ends_ok (Prog.ends_attempt_ok.mp hopen)
      obtain ⟨rfl, -⟩ := Prog.ends_pure.mp hrest
      simp [ownOps, FileInstr.op, hfault]
  | error e =>
      exfalso
      dsimp only at hrest
      split at hrest
      · obtain ⟨_, _, _, rfl, -, hthrow⟩ := Prog.ends_bind_ok.mp hrest
        cases (Prog.ends_throw.mp hthrow).2
      · cases (Prog.ends_throw.mp hrest).2

/-- The instructions `writeFile` consists of.  Kind: L -/
theorem writeFile_only : Prog.Only (Prepares fd) (writeFile w fd) := by
  have hwrite : Prog.Only (Prepares fd)
      (writeStream fd w.raises w.chunks : FileProg ν β Unit) := by
    refine (writeStream_only w.chunks).mono fun l hl => ?_
    obtain ⟨bytes, rfl⟩ := hl
    exact rfl
  refine Prog.only_ensuring (Prog.only_bind hwrite fun _ => ?_) (osCall_only trivial)
  refine Prog.only_bind (osCall_only trivial) fun _ => ?_
  exact osCall_only rfl

/-- The instructions `ignoringOsError` consists of.  Kind: L -/
theorem ignoringOsError_only {P : FileInstr ν β → Prop} {p : FileProg ν β Unit}
    (hp : Prog.Only P p) : Prog.Only P (ignoringOsError p) := by
  refine Prog.only_bind (Prog.only_attempt hp) fun r => ?_
  cases r with
  | ok u => exact Prog.only_pure _
  | error e =>
      dsimp only
      split
      · exact Prog.only_pure _
      · exact Prog.only_throw _

/-- The instructions `syncParent` consists of.  Kind: L -/
theorem syncParent_only : Prog.Only Syncs (syncParent w) := by
  have hsync : Prog.Only Syncs (do
      let _ ← ignoringOsError (act .fsyncDir)
      return : FileProg ν β Unit) :=
    Prog.only_bind (ignoringOsError_only (osCall_only trivial)) fun _ => Prog.only_pure _
  unfold syncParent
  split
  · refine Prog.only_bind (ignoringOsError_only (osCall_only trivial)) fun opened => ?_
    split
    · exact Prog.only_ensuring hsync (osCall_only trivial)
    · exact Prog.only_pure _
  · exact Prog.only_pure _

/-- The instructions `removeTemporary` consists of.  Kind: L -/
theorem removeTemporary_only :
    Prog.Only (Removes name) (removeTemporary name : FileProg ν β Unit) := by
  refine Prog.only_bind (Prog.only_call trivial _) fun there => ?_
  split
  · exact osCall_only rfl
  · exact Prog.only_pure _

/-- Where the body can be: still preparing, at the replacement with the document written and synced,
or behind it.  Kind: L -/
theorem replaceFile_reaches (hl : Prog.Reaches (replaceFile w name fd) h l) :
    (Prepares fd l ∧ ∀ x ∈ h, Prepares fd x.1) ∨
      (l = .replace name w.path ∧ w.raises = none ∧ ∃ h₁ s h₂, h = h₁ ++ (.fsync fd, s) :: h₂ ∧
        s.fault = none ∧ ownOps h₁ = w.chunks.map (.append fd) ∧ ownOps h₂ = []) ∨
      Syncs l ∧ ∃ s, (.replace name w.path, s) ∈ h ∧ s.fault = none := by
  rcases Prog.reaches_bind.mp hl with hl | ⟨h₁, h₂, _, rfl, hopen, hl⟩
  · obtain ⟨next, hfollows⟩ := hl
    exact .inl ⟨openStream_only _ _ ⟨next, hfollows⟩, openStream_only.mem_of_follows hfollows⟩
  · have hopened : ∀ x ∈ h₁, Prepares fd x.1 := openStream_only.mem hopen
    rcases Prog.reaches_bind.mp hl with hl | ⟨h₃, h₄, _, rfl, hwrite, hl⟩
    · obtain ⟨next, hfollows⟩ := hl
      refine .inl ⟨writeFile_only _ _ ⟨next, hfollows⟩, fun x hx => ?_⟩
      rcases List.mem_append.mp hx with hx | hx
      · exact hopened x hx
      · exact writeFile_only.mem_of_follows hfollows x hx
    · have hwritten : ∀ x ∈ h₃, Prepares fd x.1 := writeFile_only.mem hwrite
      rcases Prog.reaches_bind.mp hl with hl | ⟨h₅, h₆, _, rfl, hchmod, hl⟩
      · obtain ⟨rfl, rfl⟩ := Prog.reaches_call.mp hl
        refine .inl ⟨trivial, fun x hx => ?_⟩
        rcases List.mem_append.mp (by simpa using hx) with hx | hx
        · exact hopened x hx
        · exact hwritten x hx
      · rcases Prog.reaches_bind.mp hl with hl | ⟨h₇, h₈, _, rfl, hreplace, hrest⟩
        · obtain ⟨rfl, rfl⟩ := Prog.reaches_call.mp hl
          obtain ⟨hraises, h₉, s, h₁₀, rfl, hfault, hops, hidle⟩ := writeFile_ends hwrite
          obtain ⟨s', rfl, hfault', -⟩ := osCall_ends_ok hchmod
          refine .inr (.inl ⟨rfl, hraises, h₁ ++ h₉, s, h₁₀ ++ [(.chmod name, s')], by simp, hfault,
            ?_, ?_⟩)
          · rw [ownOps_append, openStream_ends hopen, hops, List.nil_append]
          · rw [ownOps_append, hidle]
            simp [ownOps, FileInstr.op, hfault']
        · obtain ⟨s, rfl, hfault, -⟩ := osCall_ends_ok hreplace
          exact .inr (.inr ⟨syncParent_only _ _ hrest, s, by simp, hfault⟩)

/-- Where a call can be: before it has a temporary file, or, once it has created one, in the body of
the `try` or at its end.  Kind: L -/
theorem atomicWriteStream_reaches (hl : Prog.Reaches (atomicWriteStream w) h l) :
    Begins w l ∨ ∃ h₁ name s h₂, h = h₁ ++ (.create name, s) :: h₂ ∧ name ∈ w.names ∧
      Creates name s ∧ (∀ x ∈ h₁, Begins w x.1) ∧
        (Prog.Reaches (replaceFile w name s.disk.next) h₂ l ∨ Removes name l) := by
  rcases Prog.reaches_bind.mp hl with hl | ⟨h₁, h₂, _, rfl, hmkdir, hl⟩
  · obtain ⟨-, rfl⟩ := Prog.reaches_call.mp hl
    exact .inl trivial
  · rcases Prog.reaches_bind.mp hl with hl | ⟨h₃, h₄, t, rfl, hcreate, hrest⟩
    · obtain ⟨n, hn, rfl⟩ := mkstemp_only w.names _ _ hl
      exact .inl hn
    · obtain ⟨h₅, s, rfl, hname, hcreates, hnext, -⟩ := mkstemp_ends hcreate
      have hbegins : ∀ x ∈ h₁ ++ h₅, Begins w x.1 := by
        intro x hx
        rcases List.mem_append.mp hx with hx | hx
        · have hmk : Prog.Only (Begins w) (act .mkdir : FileProg ν β Unit) := osCall_only trivial
          exact hmk.mem hmkdir x hx
        · obtain ⟨n, hn, hxn⟩ := (mkstemp_only w.names).mem hcreate x (by simp [hx])
          rw [hxn]
          exact hn
      refine .inr ⟨h₁ ++ h₅, t.1, s, h₄, by simp, hname, hcreates, hbegins, ?_⟩
      rw [hnext]
      rcases Prog.reaches_ensuring.mp hrest with hbody | ⟨_, _, _, _, _, hcleanup⟩
      · exact .inl hbody
      · exact .inr (removeTemporary_only _ _ hcleanup)

/-- **The file is replaced last.**  When a call replaces the file, it has created the temporary file
under a free name, written all of the document to it, and synced it, and has done nothing else to the
directory since.  Kind: L -/
theorem reaches_replace {src dst : ν}
    (hl : Prog.Reaches (atomicWriteStream w) h (.replace src dst)) :
    dst = w.path ∧ src ∈ w.names ∧ w.raises = none ∧
      ∃ h₁ s h₂ s' h₃, h = h₁ ++ (.create src, s) :: (h₂ ++ (.fsync s.disk.next, s') :: h₃) ∧
        Creates src s ∧ s'.fault = none ∧ ownOps h₂ = w.chunks.map (.append s.disk.next) ∧
          ownOps h₃ = [] := by
  rcases atomicWriteStream_reaches hl with
    hbegins | ⟨h₁, n, s, h₂, rfl, hn, hcreates, -, hbody | hremoves⟩
  · exact hbegins.elim
  · rcases replaceFile_reaches hbody with
      ⟨hprepares, -⟩ | ⟨heq, hraises, h₃, s', h₄, rfl, hfault, hops, hidle⟩ | ⟨hsyncs, -⟩
    · exact hprepares.elim
    · injection heq with hsrc hdst
      subst hsrc
      exact ⟨hdst, hn, hraises, h₁, s, h₃, s', h₄, rfl, hcreates, hfault, hops, hidle⟩
    · exact hsyncs.elim
  · exact hremoves.elim

/-- A call writes to the temporary file it has created, and only before it replaces the file.
Kind: L -/
theorem reaches_write {bytes : List β}
    (hl : Prog.Reaches (atomicWriteStream w) h (.write fd bytes)) :
    (∃ name s, (.create name, s) ∈ h ∧ Creates name s ∧ s.disk.next = fd) ∧
      ∀ x ∈ h, ∀ src dst, x.1 ≠ .replace src dst := by
  rcases atomicWriteStream_reaches hl with
    hbegins | ⟨h₁, n, s, h₂, rfl, -, hcreates, hbegun, hbody | hremoves⟩
  · exact hbegins.elim
  · rcases replaceFile_reaches hbody with ⟨hwrites, hprepares⟩ | ⟨heq, -⟩ | ⟨hsyncs, -⟩
    · refine ⟨⟨n, s, by simp, hcreates, Eq.symm hwrites⟩, fun x hx src dst hx' => ?_⟩
      rcases List.mem_append.mp hx with hx | hx
      · have hb := hbegun x hx
        rw [hx'] at hb
        exact hb
      · rcases List.mem_cons.mp hx with rfl | hx
        · cases hx'
        · have hp := hprepares x hx
          rw [hx'] at hp
          exact hp
    · cases heq
    · exact hsyncs.elim
  · exact hremoves.elim

/-- A call syncs the directory only when it has replaced the file.  Kind: L -/
theorem reaches_fsyncDir (hl : Prog.Reaches (atomicWriteStream w) h .fsyncDir) :
    ∃ src s, (.replace src w.path, s) ∈ h ∧ s.fault = none := by
  rcases atomicWriteStream_reaches hl with
    hbegins | ⟨h₁, n, s, h₂, rfl, -, -, -, hbody | hremoves⟩
  · exact hbegins.elim
  · rcases replaceFile_reaches hbody with ⟨hprepares, -⟩ | ⟨heq, -⟩ | ⟨-, s', hs', hfault⟩
    · exact hprepares.elim
    · cases heq
    · exact ⟨n, s', by simp [hs'], hfault⟩
  · exact hremoves.elim

/-- The names that a system call can change.  Kind: L -/
theorem names_of_touches {s : FileState ν β} {o : Disk.Op ν β}
    (hl : Prog.Reaches (atomicWriteStream w) h l) (ho : l.op s = some o) (htouches : o.Touches name) :
    name ∈ w.names ∨ name = w.path ∧ ∃ src ∈ w.names, l = .replace src w.path := by
  rcases op_eq_some ho with ⟨fd, _, _, -, rfl⟩ | ⟨-, ⟨n, rfl, -, rfl⟩ | ⟨fd, -, rfl⟩ |
    ⟨src, dst, rfl, -, rfl⟩ | ⟨n, rfl, rfl⟩ | ⟨-, rfl⟩⟩
  · exact htouches.elim
  · left
    rcases atomicWriteStream_reaches hl with hn | ⟨_, _, _, _, _, _, _, _, hbody | hremoves⟩
    · exact htouches ▸ hn
    · rcases replaceFile_reaches hbody with ⟨hp, -⟩ | ⟨heq, -⟩ | ⟨hsyncs, -⟩
      · exact hp.elim
      · cases heq
      · exact hsyncs.elim
    · exact hremoves.elim
  · exact htouches.elim
  · obtain ⟨rfl, hsrc, -⟩ := reaches_replace hl
    rcases htouches with rfl | rfl
    · exact .inl hsrc
    · exact .inr ⟨rfl, src, hsrc, rfl⟩
  · left
    rcases atomicWriteStream_reaches hl with hn | ⟨_, t, _, _, _, ht, _, _, hbody | hremoves⟩
    · exact hn.elim
    · rcases replaceFile_reaches hbody with ⟨hp, -⟩ | ⟨heq, -⟩ | ⟨hsyncs, -⟩
      · exact hp.elim
      · cases heq
      · exact hsyncs.elim
    · exact htouches ▸ (show n = t from hremoves) ▸ ht
  · exact htouches.elim

end thread

end ExpraConnect
