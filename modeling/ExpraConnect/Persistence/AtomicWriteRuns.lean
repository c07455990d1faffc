import ExpraConnect.Persistence.AtomicWrite

/-!
# Atomic replacement under concurrency and crashes

Any number of calls of `_atomic_write_stream` run at once on any files of one directory, system
calls fail at will, and the machine can stop at any moment.

* `creates_unique`, `writer_eq`, `replacement_of_run`: a temporary file has one writer, so it holds
  the document, on the disk, when it is put in place;
* `entries_of_run`, `keeps_of_run`: a state file is the one of its last replacement;
* `crash_leaves_whole_documents`: what a reader finds at any moment, and what a crash leaves of all
  files together;
* `saved_survives`: a call whose directory sync went through is not lost;
* `documents_of_lives`: the state files over any number of crashes.
-/

set_option linter.unusedSectionVars false

namespace ExpraConnect

open ExpraConnect.Lib

/-! ## Any number of calls at once -/

section runs

variable {ν β : Type} [DecidableEq ν]

/-- An event of a run of calls. -/
abbrev FileEvent (ν β : Type) := Event (FileState ν β) (FileInstr ν β) (Option (PyError × ℕ))

/-- The calls on a directory, before any of them has begun. -/
def writePool (calls : ℕ → AtomicWrite ν β) (disk : Disk ν β) :
    Pool (FileState ν β) (FileInstr ν β) PyError Unit :=
  ⟨⟨disk, none⟩, fun i => atomicWriteStream (calls i)⟩

/-- No two calls draw one temporary name, and none draws the name of a state file. -/
structure Separate (calls : ℕ → AtomicWrite ν β) : Prop where
  /-- Temporary names. -/
  names : ∀ i j name, name ∈ (calls i).names → name ∈ (calls j).names → i = j
  /-- State files. -/
  path : ∀ i j, (calls j).path ∉ (calls i).names

/-- What an event does to the directory. -/
def eventOp : FileEvent ν β → Option (Disk.Op ν β)
  | .own _ l s => l.op s
  | .env _ _ => none

/-- What a trace does to the directory. -/
def traceOps (tr : List (FileEvent ν β)) : List (Disk.Op ν β) := tr.filterMap eventOp

theorem traceOps_append (tr₁ tr₂ : List (FileEvent ν β)) :
    traceOps (tr₁ ++ tr₂) = traceOps tr₁ ++ traceOps tr₂ := List.filterMap_append

/-- A disk operation of a run is some thread's.  Kind: L -/
theorem mem_traceOps {tr : List (FileEvent ν β)} {o : Disk.Op ν β} :
    o ∈ traceOps tr ↔ ∃ i l s, Event.own i l s ∈ tr ∧ l.op s = some o := by
  rw [traceOps, List.mem_filterMap]
  constructor
  · rintro ⟨e, he, ho⟩
    cases e with
    | own i l s => exact ⟨i, l, s, he, ho⟩
    | env x s => cases ho
  · rintro ⟨i, l, s, he, ho⟩
    exact ⟨_, he, ho⟩

/-- What a thread did is what its events did.  Kind: L -/
theorem mem_ownOps {i : ℕ} {tr : List (FileEvent ν β)} {l : FileInstr ν β} {s : FileState ν β}
    {o : Disk.Op ν β} (he : Event.own i l s ∈ tr) (ho : l.op s = some o) :
    o ∈ ownOps (history i tr) :=
  List.mem_filterMap.mpr ⟨(l, s), mem_history.mpr he, ho⟩

/-- What only thread `i` does is among what it did.  Kind: L -/
theorem mem_ownOps_of_owner {i : ℕ} {tr : List (FileEvent ν β)} {Q : Disk.Op ν β → Prop}
    (howner : ∀ j l s o, Event.own j l s ∈ tr → l.op s = some o → Q o → j = i)
    {o : Disk.Op ν β} (ho : o ∈ traceOps tr) (hq : Q o) : o ∈ ownOps (history i tr) := by
  obtain ⟨j, l, s, he, hop⟩ := mem_traceOps.mp ho
  obtain rfl := howner j l s o he hop hq
  exact mem_ownOps he hop

variable {c₀ c : Pool (FileState ν β) (FileInstr ν β) PyError Unit}
  {tr tr₁ tr₂ tr₃ : List (FileEvent ν β)} {e e' : FileEvent ν β}

/-- An event does to the disk what its operation does.  Kind: L -/
theorem disk_post (e : FileEvent ν β) : (e.post (fileMachine ν β)).disk =
    (eventOp e).elim e.pre.disk e.pre.disk.apply := by
  cases e with
  | own i l s => rfl
  | env x s => rfl

/-- The directory is what the trace made of it.  Kind: L -/
theorem disk_of_run (hrun : Run (fileMachine ν β) c₀ tr c) :
    c.state.disk = c₀.state.disk.run (traceOps tr) := by
  induction hrun with
  | start => rfl
  | @own tr c i l next hrun hi hready ih =>
      rw [traceOps_append, Disk.run_append, ← ih]
      show (l.op c.state).elim c.state.disk c.state.disk.apply = _
      cases ho : l.op c.state with
      | none => simp [traceOps, eventOp, ho]
      | some o => simp [traceOps, eventOp, ho, Disk.run]
  | env x hrun hallowed ih =>
      rw [traceOps_append, Disk.run_append, ← ih]
      rfl

/-- The directory between two events.  Kind: L -/
theorem disk_between (hrun : Run (fileMachine ν β) c₀ (tr₁ ++ e :: tr₂ ++ e' :: tr₃) c) :
    e'.pre.disk = (e.post (fileMachine ν β)).disk.run (traceOps tr₂) := by
  obtain ⟨c₁, c₂, hbetween, hpre₁, hpre₂⟩ := hrun.between
  have hdisk := disk_of_run hbetween
  rw [hpre₁, hpre₂] at hdisk
  rw [hdisk, disk_post, ← List.singleton_append, traceOps_append, Disk.run_append]
  cases ho : eventOp e with
  | none => simp [traceOps, ho]
  | some o => simp [traceOps, ho, Disk.run]

/-- The directory after an event of a run.  Kind: L -/
theorem disk_after (hrun : Run (fileMachine ν β) c₀ (tr₁ ++ e :: tr₂) c) :
    c.state.disk = (e.post (fileMachine ν β)).disk.run (traceOps tr₂) := by
  obtain ⟨c₁, hrun₁, hpre, -⟩ := hrun.split
  have hdisk := disk_of_run hrun
  rw [traceOps_append, Disk.run_append, ← disk_of_run hrun₁, hpre] at hdisk
  rw [hdisk, disk_post, ← List.singleton_append, traceOps_append, Disk.run_append]
  cases ho : eventOp e with
  | none => simp [traceOps, ho]
  | some o => simp [traceOps, ho, Disk.run]

/-- The directory before an event of a run.  Kind: L -/
theorem disk_before (hrun : Run (fileMachine ν β) c₀ (tr₁ ++ e :: tr₂) c) :
    e.pre.disk = c₀.state.disk.run (traceOps tr₁) := by
  obtain ⟨c₁, hrun₁, hpre, -⟩ := hrun.split
  rw [← hpre]
  exact disk_of_run hrun₁

/-! ### Files have one writer -/

/-- What a creation does to the disk.  Kind: L -/
theorem post_of_creates {i : ℕ} {name : ν} {s : FileState ν β} (hs : Creates name s) :
    (Event.post (fileMachine ν β) (.own i (.create name) s)).disk = s.disk.apply (.create name) := by
  rw [disk_post]
  simp only [eventOp, hs.op]
  rfl

/-- A file number is given once.  Kind: L -/
theorem next_lt_of_creates {i : ℕ} {name : ν} {s : FileState ν β} (hs : Creates name s)
    (hrun : Run (fileMachine ν β) c₀ (tr₁ ++ .own i (.create name) s :: tr₂ ++ e' :: tr₃) c) :
    s.disk.next < e'.pre.disk.next := by
  have hle := Disk.next_le_run (s.disk.apply (.create name)) (traceOps tr₂)
  rw [disk_between hrun, post_of_creates hs]
  have hnext : (s.disk.apply (.create name)).next = s.disk.next + 1 := rfl
  omega

/-- Two creations make different files.  Kind: L -/
theorem creates_unique (hrun : Run (fileMachine ν β) c₀ tr c) {i j : ℕ} {name name' : ν}
    {s s' : FileState ν β} (he : Event.own i (.create name) s ∈ tr) (hs : Creates name s)
    (he' : Event.own j (.create name') s' ∈ tr) (hs' : Creates name' s')
    (hnext : s.disk.next = s'.disk.next) : i = j := by
  obtain ⟨tr₁, tr₂, rfl⟩ := List.append_of_mem he
  rcases List.mem_append.mp he' with he' | he'
  · obtain ⟨tr₃, tr₄, rfl⟩ := List.append_of_mem he'
    have hlt := next_lt_of_creates hs' hrun
    simp only [Event.pre] at hlt
    omega
  · rcases List.mem_cons.mp he' with heq | he'
    · injection heq with hij
      exact hij.symm
    · obtain ⟨tr₃, tr₄, rfl⟩ := List.append_of_mem he'
      rw [← List.cons_append, ← List.append_assoc] at hrun
      have hlt := next_lt_of_creates hs hrun
      simp only [Event.pre] at hlt
      omega

variable {calls : ℕ → AtomicWrite ν β} {d₀ : Disk ν β}

/-- Only the call that created a file writes to it, and only before it replaces its own.  Kind: L -/
theorem writer_eq (hrun : Run (fileMachine ν β) (writePool calls d₀) tr c) {i j : ℕ} {name : ν}
    {s s' : FileState ν β} {bytes : List β} (he : Event.own i (.create name) s ∈ tr)
    (hs : Creates name s) (htr : tr = tr₁ ++ .own j (.write s.disk.next bytes) s' :: tr₂) :
    j = i ∧ ∀ src dst t, Event.own i (.replace src dst) t ∉ tr₁ := by
  subst htr
  have hreach : Prog.Reaches (atomicWriteStream (calls j)) (history j tr₁)
      (.write s.disk.next bytes) := hrun.reaches
  obtain ⟨⟨n, s₁, hmem, hcreates, hnext⟩, hnone⟩ := reaches_write hreach
  have hij : j = i := creates_unique hrun (List.mem_append_left _ (mem_history.mp hmem)) hcreates he
    hs hnext
  subst hij
  exact ⟨rfl, fun src dst t ht => hnone _ (mem_history.mpr ht) src dst rfl⟩

/-- A file is written by the call that created it.  Kind: L -/
theorem owner_of_writes (hrun : Run (fileMachine ν β) (writePool calls d₀) tr c) {i : ℕ} {name : ν}
    {t : FileState ν β} (hcreate : Event.own i (.create name) t ∈ tr) (hcreates : Creates name t) :
    ∀ j l s o, Event.own j l s ∈ tr → l.op s = some o → o.Writes t.disk.next → j = i := by
  intro j l s o he ho hwrites
  obtain ⟨bytes, rfl⟩ := write_of_writes ho hwrites
  obtain ⟨ta, tb, htr⟩ := List.append_of_mem he
  exact (writer_eq hrun hcreate hcreates htr).1

/-- Files that were there before are not written to.  Kind: L -/
theorem not_writes_old (hrun : Run (fileMachine ν β) (writePool calls d₀) tr c) {file : ℕ}
    (hfile : file < d₀.next) : ∀ o ∈ traceOps tr, ¬o.Writes file := by
  intro o ho hwrites
  obtain ⟨j, l, s, he, hop⟩ := mem_traceOps.mp ho
  obtain ⟨bytes, rfl⟩ := write_of_writes hop hwrites
  obtain ⟨tr₁, tr₂, rfl⟩ := List.append_of_mem he
  have hreach : Prog.Reaches (atomicWriteStream (calls j)) (history j tr₁) (.write file bytes) :=
    hrun.reaches
  obtain ⟨⟨n, s₁, hmem, -, hnext⟩, -⟩ := reaches_write hreach
  obtain ⟨tr₃, tr₄, rfl⟩ := List.append_of_mem (mem_history.mp hmem)
  rw [List.append_assoc, List.cons_append] at hrun
  have hle := Disk.next_le_run d₀ (traceOps tr₃)
  have hbefore : s₁.disk = d₀.run (traceOps tr₃) := disk_before hrun
  rw [← hbefore] at hle
  omega

/-- Which calls change a temporary name.  Kind: L -/
theorem toucher_eq (hsep : Separate calls)
    (hrun : Run (fileMachine ν β) (writePool calls d₀) tr c) {i j : ℕ} {name : ν}
    (hname : name ∈ (calls i).names) {l : FileInstr ν β} {s : FileState ν β} {o : Disk.Op ν β}
    (he : Event.own j l s ∈ tr) (ho : l.op s = some o) (htouches : o.Touches name) : j = i := by
  obtain ⟨tr₁, tr₂, rfl⟩ := List.append_of_mem he
  have hreach : Prog.Reaches (atomicWriteStream (calls j)) (history j tr₁) l := hrun.reaches
  rcases names_of_touches hreach ho htouches with hj | ⟨rfl, -⟩
  · exact hsep.names j i name hj hname
  · exact absurd hname (hsep.path i j)

/-- What one thread writes to a file that nobody else writes to.  Kind: L -/
theorem written_by {i : ℕ} {file : ℕ}
    (hother : ∀ j l s, Event.own j l s ∈ tr → j ≠ i → ∀ o, l.op s = some o → ¬o.Writes file) :
    (traceOps tr).flatMap (Disk.Op.written file) =
      (ownOps (history i tr)).flatMap (Disk.Op.written file) := by
  induction tr with
  | nil => rfl
  | cons e tr ih =>
      have hih := ih fun j l s he => hother j l s (List.mem_cons_of_mem _ he)
      rw [← List.singleton_append, traceOps_append, history_append, ownOps_append,
        List.flatMap_append, List.flatMap_append, hih]
      congr 1
      cases e with
      | env x s => rfl
      | own j l s =>
          by_cases hj : j = i
          · subst hj
            rw [history_own_self]
            cases ho : l.op s with
            | none => simp [traceOps, eventOp, ownOps, ho]
            | some o => simp [traceOps, eventOp, ownOps, ho]
          · rw [history_own_of_ne hj]
            cases ho : l.op s with
            | none => simp [traceOps, eventOp, ownOps, ho]
            | some o =>
                have hnot := hother j l s List.mem_cons_self hj o ho
                simp [traceOps, eventOp, ownOps, ho, Disk.Op.written_of_not_writes hnot]

/-- A new file to which one call writes holds what the call wrote.  Kind: L -/
theorem data_of_owner {i : ℕ} {name : ν} {t : FileState ν β} {chunks : List (List β)}
    (howner : ∀ j l s o, Event.own j l s ∈ tr → l.op s = some o → o.Writes t.disk.next → j = i)
    (hops : ownOps (history i tr) = chunks.map (.append t.disk.next)) :
    ((t.disk.apply (.create name)).run (traceOps tr)).data t.disk.next = chunks.flatten := by
  have hlt : t.disk.next < (t.disk.apply (.create name)).next := Nat.lt_succ_self _
  have hnew : (t.disk.apply (.create name)).data t.disk.next = [] := Function.update_self _ _ _
  rw [Disk.data_run hlt, hnew, List.nil_append, written_by, hops, List.flatMap_map]
  · simp [Disk.Op.written, List.flatMap_id']
  · intro j l s he hj o ho hwrites
    exact hj (howner j l s o he ho hwrites)

/-! ### The replacement -/

/-- What a call has made when it replaces its file. -/
structure Replacement (calls : ℕ → AtomicWrite ν β) (i : ℕ) (src dst : ν) (s : FileState ν β)
    (tr : List (FileEvent ν β)) (fd : ℕ) : Prop where
  /-- The target is the state file of the call. -/
  path : dst = (calls i).path
  /-- The source is a temporary name of the call. -/
  name : src ∈ (calls i).names
  /-- The call has created the file. -/
  created : ∃ n t, Event.own i (.create n) t ∈ tr ∧ Creates n t ∧ t.disk.next = fd
  /-- The source is this file. -/
  entry : s.disk.entries src = some fd
  /-- It is a file. -/
  lt_next : fd < s.disk.next
  /-- It holds the document. -/
  data : s.disk.data fd = (calls i).document
  /-- It is on the disk. -/
  durable : s.disk.durable fd = some (calls i).document

/-- Between its creation and the replacement, nothing but the document happens to a file.
Kind: L -/
theorem replacement_of_run (hsep : Separate calls) {i : ℕ} {src dst : ν} {s : FileState ν β}
    (hrun : Run (fileMachine ν β) (writePool calls d₀) (tr₁ ++ .own i (.replace src dst) s :: tr₂) c) :
    ∃ fd, Replacement calls i src dst s tr₁ fd := by
  have hreach : Prog.Reaches (atomicWriteStream (calls i)) (history i tr₁) (.replace src dst) :=
    hrun.reaches
  obtain ⟨hpath, hname, -, h₁, t, h₂, t', h₃, hh, hcreates, hfault, hops₂, hops₃⟩ :=
    reaches_replace hreach
  obtain ⟨ta, tb, rfl, -, htb⟩ := eq_append_of_history_eq hh
  obtain ⟨tb₁, tb₂, rfl, htb₁, htb₂⟩ := eq_append_of_history_eq htb
  have hcreate : Event.own i (.create src) t ∈
      ta ++ Event.own i (.create src) t :: (tb₁ ++ Event.own i (.fsync t.disk.next) t' :: tb₂) := by
    simp
  obtain ⟨c₁, hrun₁, -⟩ := hrun.split
  have hbefore : t'.disk = (t.disk.apply (.create src)).run (traceOps tb₁) := by
    have hrun₂ : Run (fileMachine ν β) (writePool calls d₀) (ta ++ .own i (.create src) t :: tb₁ ++
        .own i (.fsync t.disk.next) t' :: tb₂) c₁ := by simpa using hrun₁
    rw [← post_of_creates hcreates]
    exact disk_between hrun₂
  have hafter : s.disk = (t'.disk.apply (.syncFile t.disk.next)).run (traceOps tb₂) := by
    have hrun₂ : Run (fileMachine ν β) (writePool calls d₀) (ta ++ .own i (.create src) t :: tb₁ ++
        .own i (.fsync t.disk.next) t' :: tb₂ ++ .own i (.replace src dst) s :: tr₂) c := by
      simpa using hrun
    have hbetween := disk_between hrun₂
    rw [disk_post] at hbetween
    simp only [eventOp, FileInstr.op, hfault] at hbetween
    exact hbetween
  -- nobody else writes to the file, and nobody else changes its name
  have hwriter := owner_of_writes hrun₁ hcreate hcreates
  have htoucher : ∀ j l s o, Event.own j l s ∈
      ta ++ Event.own i (.create src) t :: (tb₁ ++ Event.own i (.fsync t.disk.next) t' :: tb₂) →
        l.op s = some o → o.Touches src → j = i :=
    fun j l s o he ho htouches => toucher_eq hsep hrun₁ hname he ho htouches
  have hdata : t'.disk.data t.disk.next = (calls i).document := by
    rw [hbefore]
    refine data_of_owner (fun j l s o he => hwriter j l s o (by simp [he])) ?_
    rw [htb₁, hops₂]
  have hunwritten : ∀ o ∈ traceOps tb₂, ¬o.Writes t.disk.next := by
    intro o ho hwrites
    have hmem := mem_ownOps_of_owner (fun j l s o he => hwriter j l s o (by simp [he])) ho hwrites
    rw [htb₂, hops₃] at hmem
    exact List.not_mem_nil hmem
  have huntouched : ∀ o ∈ traceOps tb₁ ++ .syncFile t.disk.next :: traceOps tb₂,
      ¬o.Touches src := by
    intro o ho htouches
    rcases List.mem_append.mp ho with ho | ho
    · have hmem := mem_ownOps_of_owner (fun j l s o he => htoucher j l s o (by simp [he])) ho htouches
      rw [htb₁, hops₂, List.mem_map] at hmem
      obtain ⟨bytes, -, rfl⟩ := hmem
      exact htouches
    · rcases List.mem_cons.mp ho with rfl | ho
      · exact htouches
      · have hmem :=
          mem_ownOps_of_owner (fun j l s o he => htoucher j l s o (by simp [he])) ho htouches
        rw [htb₂, hops₃] at hmem
        exact List.not_mem_nil hmem
  have hlt : t.disk.next < (t'.disk.apply (.syncFile t.disk.next)).next := by
    show t.disk.next < t'.disk.next
    have hnext : (t.disk.apply (.create src)).next = t.disk.next + 1 := rfl
    have hle := Disk.next_le_run (t.disk.apply (.create src)) (traceOps tb₁)
    rw [hbefore]
    omega
  have hsynced : (t'.disk.apply (.syncFile t.disk.next)).durable t.disk.next =
      some (calls i).document := by
    show Function.update t'.disk.durable t.disk.next (some (t'.disk.data t.disk.next)) _ = _
    rw [Function.update_self, hdata]
  have hkept := Disk.durable_run hlt hunwritten hdata hsynced
  rw [← hafter] at hkept
  refine ⟨t.disk.next, hpath, hname, ⟨src, t, hcreate, hcreates, rfl⟩, ?_, ?_, hkept.1, hkept.2⟩
  · have hall : s.disk = (t.disk.apply (.create src)).run
        (traceOps tb₁ ++ .syncFile t.disk.next :: traceOps tb₂) := by
      rw [Disk.run_append, ← hbefore, hafter]
      rfl
    rw [hall, Disk.entries_run_of_not_touches huntouched, Disk.entries_create]
  · rw [hafter]
    exact hlt.trans_le (Disk.next_le_run _ _)

/-- The file that was put in place is not written to any more.  Kind: L -/
theorem not_writes_replaced {i : ℕ} {src dst : ν} {s : FileState ν β} {fd : ℕ}
    (hrun : Run (fileMachine ν β) (writePool calls d₀) (tr₁ ++ .own i (.replace src dst) s :: tr₂) c)
    (hr : Replacement calls i src dst s tr₁ fd) : ∀ o ∈ traceOps tr₂, ¬o.Writes fd := by
  intro o ho hwrites
  obtain ⟨j, l, t, he, hop⟩ := mem_traceOps.mp ho
  obtain ⟨n, t₀, hcreate, hcreates, rfl⟩ := hr.created
  obtain ⟨bytes, rfl⟩ := write_of_writes hop hwrites
  obtain ⟨ta, tb, rfl⟩ := List.append_of_mem he
  have htr : tr₁ ++ Event.own i (.replace src dst) s ::
      (ta ++ Event.own j (.write t₀.disk.next bytes) t :: tb) =
        (tr₁ ++ Event.own i (.replace src dst) s :: ta) ++
          Event.own j (.write t₀.disk.next bytes) t :: tb := by simp
  obtain ⟨hji, hnone⟩ := writer_eq (i := i) hrun (List.mem_append_left _ hcreate) hcreates htr
  exact hnone src dst s (hji ▸ by simp)

/-- The event puts a new file in the place of `path`. -/
def ReplacesFile (i : ℕ) (path : ν) (e : FileEvent ν β) : Prop :=
  ∃ src s, e = .own i (.replace src path) s ∧ s.fault = none

/-- A name that no call draws for a temporary file. -/
def NotTemporary (calls : ℕ → AtomicWrite ν β) (path : ν) : Prop := ∀ i, path ∉ (calls i).names

/-- The file of a state file after a trace: that of its last replacement, or what it was before. -/
def LastEntry (d₀ : Disk ν β) (path : ν) (tr : List (FileEvent ν β)) (entry : Option ℕ) : Prop :=
  (entry = d₀.entries path ∧ ∀ e ∈ tr, ∀ i, ¬ReplacesFile i path e) ∨
    ∃ tr₁ i src s tr₂, tr = tr₁ ++ .own i (.replace src path) s :: tr₂ ∧ s.fault = none ∧
      (∀ e ∈ tr₂, ∀ j, ¬ReplacesFile j path e) ∧ entry = s.disk.entries src

/-- The last entry stands while no file replaces it.  Kind: L -/
theorem LastEntry.snoc {path : ν} {entry : Option ℕ} (h : LastEntry d₀ path tr entry)
    (he : ∀ i, ¬ReplacesFile i path e) : LastEntry d₀ path (tr ++ [e]) entry := by
  have hsnoc : ∀ t, (∀ x ∈ t, ∀ i, ¬ReplacesFile i path x) →
      ∀ x ∈ t ++ [e], ∀ i, ¬ReplacesFile i path x := by
    intro t ht x hx
    rcases List.mem_append.mp hx with hx | hx
    · exact ht x hx
    · rw [List.mem_singleton.mp hx]
      exact he
  rcases h with ⟨hentry, hnone⟩ | ⟨tr₁, i, src, s, tr₂, rfl, hfault, hnone, hentry⟩
  · exact .inl ⟨hentry, hsnoc tr hnone⟩
  · exact .inr ⟨tr₁, i, src, s, tr₂ ++ [e], by simp, hfault, hsnoc tr₂ hnone, hentry⟩

/-- A state file is the one of its last replacement.  Kind: L -/
theorem entries_of_run (hsep : Separate calls)
    (hrun : Run (fileMachine ν β) (writePool calls d₀) tr c) {path : ν}
    (hpath : NotTemporary calls path) : LastEntry d₀ path tr (c.state.disk.entries path) := by
  induction hrun with
  | start => exact .inl ⟨rfl, by simp⟩
  | env x hrun hallowed ih =>
      refine ih.snoc ?_
      rintro i ⟨src, t, heq, -⟩
      cases heq
  | @own tr c j l next hrun hj hready ih =>
      have hnext : Run (fileMachine ν β) (writePool calls d₀) (tr ++ [.own j l c.state]) _ :=
        .own j hrun hj hready
      have hreach : Prog.Reaches (atomicWriteStream (calls j)) (history j tr) l := hnext.reaches
      by_cases hreplaces : ReplacesFile j path (.own j l c.state : FileEvent ν β)
      · -- a new last replacement
        obtain ⟨src, s, heq, hfault⟩ := hreplaces
        cases heq
        obtain ⟨fd, hr⟩ := replacement_of_run hsep hnext
        refine .inr ⟨tr, j, src, c.state, [], rfl, hfault, by simp, ?_⟩
        have hne : src ≠ path := fun h => hpath j (h ▸ hr.name)
        have hop : (FileInstr.replace src path).op c.state = some (.rename src path) := by
          simp [FileInstr.op, hfault, hr.entry]
        show (((FileInstr.replace src path).op c.state).elim c.state.disk
          c.state.disk.apply).entries path = _
        rw [hop]
        exact Disk.entries_rename hne
      · have hentries : ((l.op c.state).elim c.state.disk c.state.disk.apply).entries path =
            c.state.disk.entries path := by
          cases ho : l.op c.state with
          | none => rfl
          | some o =>
              refine Disk.entries_apply_of_not_touches fun htouches => ?_
              rcases names_of_touches hreach ho htouches with hname | ⟨rfl, src, hsrc, rfl⟩
              · exact hpath j hname
              · refine hreplaces ⟨src, c.state, rfl, ?_⟩
                rcases op_eq_some ho with ⟨_, _, _, heq, -⟩ | ⟨hfault, -⟩
                · cases heq
                · exact hfault
        show LastEntry d₀ path _ (((l.op c.state).elim c.state.disk c.state.disk.apply).entries path)
        rw [hentries]
        refine ih.snoc ?_
        rintro i ⟨src, t, heq, hfault⟩
        cases heq
        exact hreplaces ⟨src, _, rfl, hfault⟩

/-- What a state file holds after a trace: the document of its last replacement, or what it held
before.  Source: `persistence.py`, `_atomic_write_stream`.  Kind: D -/
def LastWritten (calls : ℕ → AtomicWrite ν β) (d₀ : Disk ν β) (path : ν)
    (tr : List (FileEvent ν β)) (content : Option (List β)) : Prop :=
  (content = d₀.content path ∧ ∀ e ∈ tr, ∀ i, ¬ReplacesFile i path e) ∨
    ∃ tr₁ i e tr₂, tr = tr₁ ++ e :: tr₂ ∧ ReplacesFile i path e ∧
      (∀ e' ∈ tr₂, ∀ j, ¬ReplacesFile j path e') ∧ (calls i).path = path ∧
        content = some (calls i).document

/-- The files of the state files of a moment are on the disk, and stay as they are, for the rest of
the run. -/
structure KeepsFile (calls : ℕ → AtomicWrite ν β) (d₀ : Disk ν β) (tr₁ : List (FileEvent ν β))
    (path : ν) (d₁ d : Disk ν β) : Prop where
  /-- A whole document. -/
  written : LastWritten calls d₀ path tr₁ (d₁.content path)
  /-- The content stays. -/
  data : ∀ file, d₁.entries path = some file → d.data file = d₁.data file
  /-- It is on the disk. -/
  durable : ∀ file, d₁.entries path = some file → d.durable file = some (d₁.data file)

/-- What was written stays through the rest of a run.  Kind: L -/
theorem keeps_of_run (hsep : Separate calls) (hd : d₀.Settled)
    {c₁ : Pool (FileState ν β) (FileInstr ν β) PyError Unit}
    (hrun₁ : Run (fileMachine ν β) (writePool calls d₀) tr₁ c₁)
    (hrun : Run (fileMachine ν β) (writePool calls d₀) (tr₁ ++ tr₂) c) {path : ν}
    (hpath : NotTemporary calls path) :
    KeepsFile calls d₀ tr₁ path c₁.state.disk c.state.disk := by
  rcases entries_of_run hsep hrun₁ hpath with
    ⟨hentries, hnone⟩ | ⟨ta, i, src, s, tb, rfl, hfault, hnone, hentries⟩
  · -- the file that was there before
    have hkept : ∀ file, d₀.entries path = some file →
        ∀ {tr c}, Run (fileMachine ν β) (writePool calls d₀) tr c →
          c.state.disk.data file = d₀.data file ∧
            c.state.disk.durable file = some (d₀.data file) := by
      intro file hfile tr c hrun
      have hlt := hd.bounded path file hfile
      rw [disk_of_run hrun]
      exact Disk.durable_run hlt (not_writes_old hrun hlt) rfl (hd.durable path file hfile)
    refine ⟨.inl ⟨?_, hnone⟩, fun file hfile => ?_, fun file hfile => ?_⟩
    · rw [Disk.content, hentries, Disk.content]
      refine Option.map_congr fun file hfile => ?_
      exact (hkept file hfile hrun₁).1
    · rw [hentries] at hfile
      rw [(hkept file hfile hrun).1, (hkept file hfile hrun₁).1]
    · rw [hentries] at hfile
      rw [(hkept file hfile hrun).2, (hkept file hfile hrun₁).1]
  · -- the file that was put in its place
    obtain ⟨fd, hr⟩ := replacement_of_run hsep hrun₁
    have hpost : (Event.post (fileMachine ν β) (.own i (.replace src path) s)).disk =
        s.disk.apply (.rename src path) := by
      rw [disk_post]
      simp only [eventOp, FileInstr.op, hfault, hr.entry, Option.isSome_some, if_true]
      rfl
    have hkept : ∀ {tr c}, Run (fileMachine ν β) (writePool calls d₀)
        (ta ++ .own i (.replace src path) s :: tr) c →
          c.state.disk.data fd = (calls i).document ∧
            c.state.disk.durable fd = some (calls i).document := by
      intro tr c hrun
      rw [disk_after hrun, hpost]
      exact Disk.durable_run (d := s.disk.apply (.rename src path)) hr.lt_next
        (not_writes_replaced hrun hr) hr.data hr.durable
    rw [List.append_assoc, List.cons_append] at hrun
    rw [hr.entry] at hentries
    refine ⟨.inr ⟨ta, i, _, tb, rfl, ⟨src, s, rfl, hfault⟩, hnone, hr.path.symm, ?_⟩,
      fun file hfile => ?_, fun file hfile => ?_⟩
    · rw [Disk.content, hentries, Option.map_some, (hkept hrun₁).1]
    · cases hentries.symm.trans hfile
      rw [(hkept hrun).1, (hkept hrun₁).1]
    · cases hentries.symm.trans hfile
      rw [(hkept hrun).2, (hkept hrun₁).1]

/-- The event is a sync of the directory. -/
def SyncsDir (e : FileEvent ν β) : Prop := ∃ i s, e = .own i .fsyncDir s ∧ s.fault = none

/-- What a crash leaves is what was there at one moment, after the last sync of the directory.
Kind: L -/
theorem past_of_crash (hsep : Separate calls) (hd : d₀.Settled)
    (hrun : Run (fileMachine ν β) (writePool calls d₀) tr c) {d' : Disk ν β}
    (hcrash : Disk.Recovers c.state.disk d') :
    ∃ tr₁ tr₂ c₁, tr = tr₁ ++ tr₂ ∧ Run (fileMachine ν β) (writePool calls d₀) tr₁ c₁ ∧
      (∀ e ∈ tr₂, ¬SyncsDir e) ∧ ∀ path, NotTemporary calls path →
        d'.content path = c₁.state.disk.content path ∧
          LastWritten calls d₀ path tr₁ (d'.content path) := by
  have hpast := hcrash
  rw [disk_of_run hrun] at hpast
  obtain ⟨ops₁, ops₂, hops, hsync, hpast⟩ := Disk.exists_past_of_recovers hd.journal hpast
  obtain ⟨tr₁, tr₂, rfl, rfl, rfl⟩ := List.filterMap_eq_append_iff.mp hops
  obtain ⟨c₁, hrun₁, -⟩ := hrun.cut
  refine ⟨tr₁, tr₂, c₁, rfl, hrun₁, ?_, fun path hpath => ?_⟩
  · rintro e he ⟨i, s, rfl, hfault⟩
    exact hsync (mem_traceOps.mpr ⟨i, .fsyncDir, s, he, by simp [FileInstr.op, hfault]⟩)
  · have hkeeps := keeps_of_run hsep hd hrun₁ hrun hpath
    have hentries : d'.entries path = c₁.state.disk.entries path := by
      rw [hpast, disk_of_run hrun₁]
      rfl
    have hcontent : d'.content path = c₁.state.disk.content path := by
      rw [Disk.content, hentries, Disk.content]
      refine Option.map_congr fun file hfile => ?_
      exact hcrash.data file _ (hkeeps.durable file hfile)
    exact ⟨hcontent, hcontent ▸ hkeeps.written⟩

/-- **No torn documents.**  Whatever calls run at once, on whatever files, and whatever they raise:
at any moment a state file holds all of the document of the call that replaced it last, or what it
held before.  A crash leaves all state files together as they were at one moment, and no sync of the
directory that was made by then is undone.
Source: `persistence.py`, `_atomic_write_stream`.  Kind: P -/
theorem crash_leaves_whole_documents (hsep : Separate calls) (hd : d₀.Settled)
    (hrun : Run (fileMachine ν β) (writePool calls d₀) tr c) :
    (∀ path, NotTemporary calls path → LastWritten calls d₀ path tr (c.state.disk.content path)) ∧
      ∀ d', Disk.Recovers c.state.disk d' → ∃ tr₁ tr₂ c₁, tr = tr₁ ++ tr₂ ∧
        Run (fileMachine ν β) (writePool calls d₀) tr₁ c₁ ∧ (∀ e ∈ tr₂, ¬SyncsDir e) ∧
          ∀ path, NotTemporary calls path → d'.content path = c₁.state.disk.content path ∧
            LastWritten calls d₀ path tr₁ (d'.content path) := by
  constructor
  · intro path hpath
    have hrun' : Run (fileMachine ν β) (writePool calls d₀) (tr ++ []) c := by simpa using hrun
    exact (keeps_of_run hsep hd hrun hrun' hpath).written
  · intro d' hcrash
    exact past_of_crash hsep hd hrun hcrash

/-- **A synced save is not lost.**  Once a call has synced the directory, a crash leaves its document
in its file, or the document of a call that replaced the file after it.
Source: `persistence.py`, `_atomic_write_stream`.  Kind: P -/
theorem saved_survives (hsep : Separate calls) (hd : d₀.Settled)
    (hrun : Run (fileMachine ν β) (writePool calls d₀) tr c) {i : ℕ} {s : FileState ν β}
    (hsync : Event.own i .fsyncDir s ∈ tr) (hfault : s.fault = none) {d' : Disk ν β}
    (hcrash : Disk.Recovers c.state.disk d') :
    ∃ tr₁ j e tr₂, tr = tr₁ ++ e :: tr₂ ∧ ReplacesFile j (calls i).path e ∧
      d'.content (calls i).path = some (calls j).document ∧
        (j = i ∨ ∃ e' ∈ tr₁, ReplacesFile i (calls i).path e') := by
  obtain ⟨tr₁, tr₂, c₁, rfl, hrun₁, hnosync, hpast⟩ := past_of_crash hsep hd hrun hcrash
  obtain ⟨-, hwritten⟩ := hpast (calls i).path fun j => hsep.path j i
  -- the sync is among the events that the crash left
  rcases List.mem_append.mp hsync with hsync | hsync
  · obtain ⟨ta, tb, rfl⟩ := List.append_of_mem hsync
    have hreach : Prog.Reaches (atomicWriteStream (calls i)) (history i ta) .fsyncDir :=
      hrun₁.reaches
    obtain ⟨src, t, hmem, ht⟩ := reaches_fsyncDir hreach
    have hreplaces : ReplacesFile i (calls i).path
        (.own i (.replace src (calls i).path) t : FileEvent ν β) := ⟨src, t, rfl, ht⟩
    have hin : Event.own i (.replace src (calls i).path) t ∈
        ta ++ Event.own i .fsyncDir s :: tb := List.mem_append_left _ (mem_history.mp hmem)
    rcases hwritten with ⟨-, hnone⟩ | ⟨tc, j, e, td, htr, hj, hlast, -, hcontent⟩
    · exact absurd hreplaces (hnone _ hin i)
    · refine ⟨tc, j, e, td ++ tr₂, by rw [htr]; simp, hj, hcontent, ?_⟩
      rw [htr] at hin
      rcases List.mem_append.mp hin with hin | hin
      · exact .inr ⟨_, hin, hreplaces⟩
      · rcases List.mem_cons.mp hin with heq | hin
        · left
          obtain ⟨src', t', he, -⟩ := hj
          rw [← heq] at he
          injection he with hij
          exact hij.symm
        · exact absurd hreplaces (hlast _ hin i)
  · exact absurd ⟨i, s, rfl, hfault⟩ (hnosync _ hsync)

/-! ## One process after another -/

/-- One life of the process: its calls, and what happened until it crashed or ended. -/
structure Life (ν β : Type) where
  /-- The calls. -/
  calls : ℕ → AtomicWrite ν β
  /-- The events. -/
  trace : List (FileEvent ν β)

/-- A directory through any number of lives, each of which ends anywhere. -/
inductive Lives (temporary : ν → Prop) (d₀ : Disk ν β) : List (Life ν β) → Disk ν β → Prop
  /-- Before the first one. -/
  | start : Lives temporary d₀ [] d₀
  /-- One more life. -/
  | crash {lives : List (Life ν β)} {d d' : Disk ν β} {calls : ℕ → AtomicWrite ν β}
      {tr : List (FileEvent ν β)} {c : Pool (FileState ν β) (FileInstr ν β) PyError Unit}
      (hlives : Lives temporary d₀ lives d) (hsep : Separate calls)
      (htemporary : ∀ i name, name ∈ (calls i).names → temporary name)
      (hrun : Run (fileMachine ν β) (writePool calls d) tr c)
      (hcrash : Disk.Recovers c.state.disk d') :
      Lives temporary d₀ (lives ++ [⟨calls, tr⟩]) d'

/-- The life has put the content in the place of the state file. -/
def Life.Wrote (life : Life ν β) (path : ν) (content : Option (List β)) : Prop :=
  ∃ i, (∃ e ∈ life.trace, ReplacesFile i path e) ∧ content = some (life.calls i).document

/-- A call of the life has replaced the state file and synced the directory. -/
def Life.Saved (life : Life ν β) (path : ν) : Prop :=
  ∃ i s, (life.calls i).path = path ∧ Event.own i .fsyncDir s ∈ life.trace ∧ s.fault = none

/-- A disk is settled after any number of lives.  Kind: L -/
theorem settled_of_lives {temporary : ν → Prop} {lives : List (Life ν β)} {d : Disk ν β}
    (hd : d₀.Settled) (h : Lives temporary d₀ lives d) : d.Settled := by
  induction h with
  | start => exact hd
  | crash hlives hsep htemporary hrun hcrash ih =>
      rw [disk_of_run hrun] at hcrash
      exact hcrash.settled ih

/-- What one life makes of a state file.  Kind: L -/
theorem content_of_life (hsep : Separate calls) (hd : d₀.Settled)
    (hrun : Run (fileMachine ν β) (writePool calls d₀) tr c) {d' : Disk ν β}
    (hcrash : Disk.Recovers c.state.disk d') {path : ν} (hpath : NotTemporary calls path) :
    Life.Wrote ⟨calls, tr⟩ path (d'.content path) ∨
      d'.content path = d₀.content path ∧ ¬Life.Saved ⟨calls, tr⟩ path := by
  obtain ⟨tr₁, tr₂, c₁, rfl, -, -, hpast⟩ := past_of_crash hsep hd hrun hcrash
  obtain ⟨-, hwritten⟩ := hpast path hpath
  by_cases hsaved : Life.Saved ⟨calls, tr₁ ++ tr₂⟩ path
  · obtain ⟨i, s, rfl, hsync, hfault⟩ := hsaved
    obtain ⟨ta, j, e, tb, htr, hreplaces, hcontent, -⟩ :=
      saved_survives hsep hd hrun hsync hfault hcrash
    exact .inl ⟨j, ⟨e, by rw [htr]; simp, hreplaces⟩, hcontent⟩
  · rcases hwritten with ⟨hsame, -⟩ | ⟨ta, i, e, tb, rfl, hreplaces, -, -, hcontent⟩
    · exact .inr ⟨hsame, hsaved⟩
    · exact .inl ⟨i, ⟨e, by simp, hreplaces⟩, hcontent⟩

/-- **State files over the lives of a process.**  However often the process crashes, a state file
holds all of a document that some call of some life put in its place, or what it held at first; and
once a life has saved it, never again what was there before that life.
Source: `persistence.py`, `_atomic_write_stream`.  Kind: P -/
theorem documents_of_lives {temporary : ν → Prop} {lives : List (Life ν β)} {d : Disk ν β}
    (hd : d₀.Settled) (h : Lives temporary d₀ lives d) {path : ν} (hpath : ¬temporary path) :
    (d.content path = d₀.content path ∨ ∃ life ∈ lives, life.Wrote path (d.content path)) ∧
      ∀ lives₁ life lives₂, lives = lives₁ ++ life :: lives₂ → life.Saved path →
        ∃ life' ∈ life :: lives₂, life'.Wrote path (d.content path) := by
  induction h with
  | start => exact ⟨.inl rfl, fun lives₁ life lives₂ h => absurd h (by simp)⟩
  | @crash lives d d' calls tr c hlives hsep htemporary hrun hcrash ih =>
      obtain ⟨ihcontent, ihsaved⟩ := ih
      have hnot : NotTemporary calls path := fun i hname => hpath (htemporary i path hname)
      rcases content_of_life hsep (settled_of_lives hd hlives) hrun hcrash hnot with
        hwrote | ⟨hsame, hnosave⟩
      · refine ⟨.inr ⟨⟨calls, tr⟩, by simp, hwrote⟩, fun lives₁ life lives₂ heq _ => ?_⟩
        refine ⟨⟨calls, tr⟩, ?_, hwrote⟩
        have hlast := congrArg List.getLast? heq
        rw [List.getLast?_concat, List.getLast?_append_cons] at hlast
        exact List.mem_of_getLast? hlast.symm
      · rw [hsame]
        refine ⟨?_, fun lives₁ life lives₂ heq hsaved => ?_⟩
        · rcases ihcontent with hfirst | ⟨life, hlife, hwrote⟩
          · exact .inl hfirst
          · exact .inr ⟨life, by simp [hlife], hwrote⟩
        · -- a life that saved is not this one
          rcases List.eq_nil_or_concat lives₂ with rfl | ⟨lives₃, last, rfl⟩
          · obtain ⟨-, hlife⟩ := List.append_inj' heq rfl
            cases hlife
            exact absurd hsaved hnosave
          · rw [List.concat_eq_append, ← List.cons_append, ← List.append_assoc] at heq
            obtain ⟨hlives', -⟩ := List.append_inj' heq rfl
            obtain ⟨life', hmem, hwrote⟩ := ihsaved lives₁ life lives₃ hlives' hsaved
            refine ⟨life', ?_, hwrote⟩
            rcases List.mem_cons.mp hmem with rfl | hmem
            · exact List.mem_cons_self
            · exact List.mem_cons_of_mem _ (by simp [hmem])

end runs

/-! ## A small directory -/

/-- An empty directory. -/
def emptyDisk : Disk ℕ ℕ := ⟨fun _ => none, [], fun _ => [], fun _ => none, 0⟩

/-- The empty disk is settled.  Kind: L -/
theorem emptyDisk_settled : emptyDisk.Settled := by
  refine ⟨rfl, fun name file h => ?_, fun name file h => ?_⟩
  · cases h
  · cases h

/-- Calls that all write the state file `0`, each its own number. -/
def sampleWrites (i : ℕ) : AtomicWrite ℕ ℕ := ⟨0, [[i]], none, true, true, [i + 1]⟩

/-- The writes of the sample are separate.  Kind: L -/
theorem sampleWrites_separate : Separate sampleWrites := by
  refine ⟨fun i j name hi hj => ?_, fun i j h => ?_⟩
  · have hi' : name = i + 1 := List.mem_singleton.mp hi
    have hj' : name = j + 1 := List.mem_singleton.mp hj
    omega
  · have h' : 0 = i + 1 := List.mem_singleton.mp h
    omega

/-- Whether an event is a sync of the directory by call `0`. -/
def isSync (e : FileEvent ℕ ℕ) : Bool :=
  match e with
  | .own 0 .fsyncDir s => s.fault.isNone
  | _ => false

/-- The executable check of a sync is sound.  Kind: L -/
theorem eq_own_of_isSync {e : FileEvent ℕ ℕ} (h : isSync e = true) :
    ∃ s, e = .own 0 .fsyncDir s ∧ s.fault = none := by
  unfold isSync at h
  split at h
  · exact ⟨_, rfl, Option.isNone_iff_eq_none.mp h⟩
  · cases h

/-- Two calls at once, the first of which goes all the way.  Kind: L -/
theorem exists_synced_run : ∃ tr c, Run (fileMachine ℕ ℕ) (writePool sampleWrites emptyDisk) tr c ∧
    ∃ s, Event.own 0 .fsyncDir s ∈ tr ∧ s.fault = none := by
  have hexec : (Pool.exec (fileMachine ℕ ℕ) (fun _ _ => true)
      (List.replicate 6 (.thread 0) ++ List.replicate 4 (.thread 1) ++ List.replicate 7 (.thread 0))
      (writePool sampleWrites emptyDisk)).any (fun out => out.1.any isSync) = true := by
    decide +kernel
  obtain ⟨tr, c, hrun, htest⟩ := Run.of_exec (fun _ _ _ => trivial) hexec
  obtain ⟨e, he, hsync⟩ := List.any_eq_true.mp htest
  obtain ⟨s, rfl, hfault⟩ := eq_own_of_isSync hsync
  exact ⟨tr, c, hrun, s, he, hfault⟩

/-- A crash after that run. -/
theorem crash_leaves_whole_documents_sample : ∃ tr c tr₁ tr₂,
    Run (fileMachine ℕ ℕ) (writePool sampleWrites emptyDisk) tr c ∧ tr = tr₁ ++ tr₂ ∧
      (∀ e ∈ tr₂, ¬SyncsDir e) ∧
        LastWritten sampleWrites emptyDisk 0 tr₁ (c.state.disk.settle.content 0) ∧
          LastWritten sampleWrites emptyDisk 0 tr (c.state.disk.content 0) := by
  obtain ⟨tr, c, hrun, -⟩ := exists_synced_run
  have hzero : NotTemporary sampleWrites 0 := fun i => sampleWrites_separate.path i i
  obtain ⟨hnow, hcrash⟩ :=
    crash_leaves_whole_documents sampleWrites_separate emptyDisk_settled hrun
  obtain ⟨tr₁, tr₂, c₁, htr, -, hnosync, hpast⟩ := hcrash _ (Disk.recovers_settle _)
  exact ⟨tr, c, tr₁, tr₂, hrun, htr, hnosync, (hpast 0 hzero).2, hnow 0 hzero⟩

/-- A life that saved the file and crashed. -/
theorem documents_of_lives_sample : ∃ life d, Lives (0 < ·) emptyDisk [life] d ∧ life.Saved 0 ∧
    ∃ life' ∈ [life], life'.Wrote 0 (d.content 0) := by
  obtain ⟨tr, c, hrun, s, hsync, hfault⟩ := exists_synced_run
  have hlives : Lives (0 < ·) emptyDisk [⟨sampleWrites, tr⟩] c.state.disk.settle := by
    refine Lives.crash .start sampleWrites_separate (fun i name hname => ?_) hrun
      (Disk.recovers_settle _)
    have hname' : name = i + 1 := List.mem_singleton.mp hname
    omega
  have hsaved : Life.Saved ⟨sampleWrites, tr⟩ 0 := ⟨0, s, rfl, hsync, hfault⟩
  exact ⟨_, _, hlives, hsaved,
    (documents_of_lives emptyDisk_settled hlives (Nat.lt_irrefl 0)).2 [] _ [] rfl hsaved⟩

end ExpraConnect
