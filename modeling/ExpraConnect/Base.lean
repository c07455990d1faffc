import Mathlib.Data.Finset.Basic
import Mathlib.Data.Finset.Insert
import Mathlib.Data.Fintype.Basic
import Mathlib.Data.Rat.Defs
import Mathlib.Data.String.Basic
import Mathlib.Tactic

/-!
# Vocabulary shared by every component

* `PyError`: a raised exception, as its class (`ErrorKind`, with the class hierarchy the
  `except` clauses rely on) and its text.
* `NodeId`: `identity/__init__.py`, a node id that passed `NodeId.__post_init__`; an invalid id
  cannot be built.  `NodeId.new` is the constructor that can raise.
* `NodeCapability`, `NodePermission`: `data/permissions.py`.
* `Value`: the values that travel in envelopes and results, i.e. what `json.loads` returns, plus
  `foreign` leaves for host objects that are not JSON at all.
* `compareDigest`: `hmac.compare_digest` on text, which raises on text that is not ASCII.

Clock readings, lease ends and expiries are exact rationals: Python's finite floats without
rounding.
-/

namespace ExpraConnect

/-! ## Texts in order -/

instance textIsTrans : IsTrans String (· ≤ ·) := inferInstance

instance textAntisymm : Std.Antisymm (α := String) (· ≤ ·) := inferInstance

/-! ## Exceptions -/

/-- The exception classes the modelled code raises or catches.
Source: `remote/wire_protocol.py`, `cluster/roles.py`, `cluster/invites.py`, built-ins.  Kind: D -/
inductive ErrorKind where
  | remoteProtocol | remoteAuth | remoteAuthorization | idempotencyCollision
  | remoteExecution | remoteUnavailable | remoteTransport
  | permission | roleAuthorization | fencing | clusterData | transportState
  | value | type | key | overflow | runtime | os | other
  deriving DecidableEq

/-- A raised exception.  Source: none: infrastructure.  Kind: D -/
structure PyError where
  /-- Its class. -/
  kind : ErrorKind
  /-- Its text. -/
  message : String
  deriving DecidableEq

namespace ErrorKind

/-- `isinstance(error, RemoteProtocolError)`. -/
def isRemoteProtocol : ErrorKind → Bool
  | remoteProtocol | remoteAuth | remoteAuthorization | idempotencyCollision => true
  | _ => false

/-- `isinstance(error, RemoteAuthError)`. -/
def isRemoteAuth : ErrorKind → Bool
  | remoteAuth | idempotencyCollision => true
  | _ => false

/-- `isinstance(error, ValueError)`. -/
def isValueError : ErrorKind → Bool
  | value | remoteProtocol | remoteAuth | remoteAuthorization | idempotencyCollision
  | roleAuthorization | fencing | clusterData | transportState => true
  | _ => false

end ErrorKind

/-! ## Node identities and permissions -/

/-- `NodeId.__post_init__`: the id texts that are accepted.
Source: `identity/__init__.py`, `NodeId`.  Kind: D -/
def NodeId.Valid (value : String) : Prop := value ≠ "" ∧ value ≠ "local" ∧ value.length ≤ 128

instance (value : String) : Decidable (NodeId.Valid value) :=
  inferInstanceAs (Decidable (_ ∧ _ ∧ _))

/-- A stable installation identifier.  Source: `identity/__init__.py`, `NodeId`.  Kind: D -/
structure NodeId where
  /-- The identifier text. -/
  value : String
  /-- It passed the constructor's checks. -/
  valid : NodeId.Valid value
  deriving DecidableEq

/-- `NodeId(value)`.  Source: `identity/__init__.py`, `NodeId.__post_init__`.  Kind: D -/
def NodeId.new (value : String) : Except PyError NodeId :=
  if h : NodeId.Valid value then .ok ⟨value, h⟩ else .error ⟨.value, "invalid node id"⟩

/-- A node id passes its own check.  Kind: L -/
@[simp] theorem NodeId.new_value (n : NodeId) : NodeId.new n.value = .ok n := by
  simp [NodeId.new, n.valid]

/-- The constructor keeps its argument as the value.  Kind: L -/
theorem NodeId.value_of_new {value : String} {n : NodeId} (h : NodeId.new value = .ok n) :
    value = n.value := by
  unfold NodeId.new at h
  split at h
  · cases h
    rfl
  · cases h

/-- The id of the samples passes the check.  Kind: L -/
theorem NodeId.valid_node : NodeId.Valid "node" := by decide

/-- A node of an example, by its text; a text that is no node id names the node `node`. -/
def NodeId.named (value : String) : NodeId :=
  (NodeId.new value).toOption.getD ⟨"node", NodeId.valid_node⟩

/-- A node id is determined by its value.  Kind: L -/
theorem NodeId.ext_value {m n : NodeId} (h : m.value = n.value) : m = n := by
  cases m; cases n; cases h; rfl

/-- Source: `data/permissions.py`, `NodeCapability`.  Kind: D -/
inductive NodeCapability where
  | readState | remoteManagement
  deriving DecidableEq

/-- Source: `data/permissions.py`, `NodePermission`.  Kind: D -/
inductive NodePermission where
  | readState | remoteManagement | processTermination | processForceTermination | cleanup
  deriving DecidableEq

/-- `permission.value`. -/
def NodePermission.value : NodePermission → String
  | readState => "read_state"
  | remoteManagement => "remote_management"
  | processTermination => "process_termination"
  | processForceTermination => "process_force_termination"
  | cleanup => "cleanup"

/-- `NodePermission(text)`. -/
def NodePermission.new (text : String) : Except PyError NodePermission :=
  if text = "read_state" then .ok .readState
  else if text = "remote_management" then .ok .remoteManagement
  else if text = "process_termination" then .ok .processTermination
  else if text = "process_force_termination" then .ok .processForceTermination
  else if text = "cleanup" then .ok .cleanup
  else .error ⟨.value, "not a valid NodePermission"⟩

/-- A permission's value names the permission.  Kind: L -/
theorem NodePermission.new_value (p : NodePermission) : NodePermission.new p.value = .ok p := by
  cases p <;> rfl

/-- `NodePermission(capability.value)`, as `OP_REQUIRED_PERMISSION` is built. -/
def NodeCapability.permission : NodeCapability → NodePermission
  | readState => .readState
  | remoteManagement => .remoteManagement

/-! ## Values -/

/-- A Python float. -/
inductive PyFloat where
  | finite (q : ℚ) | posInf | negInf | nan
  deriving DecidableEq

/-- What an envelope or a result is made of: JSON values and `foreign` host objects.
Source: none: infrastructure (`json.loads`).  Kind: D -/
inductive Value where
  | null
  | bool (b : Bool)
  | int (n : ℤ)
  | float (x : PyFloat)
  | str (s : String)
  | list (items : List Value)
  | dict (fields : List (String × Value))
  | foreign (tag : ℕ)

/-- The contents of a `dict` value. -/
abbrev Fields := List (String × Value)

/-- `fields.get(key)`: the first entry, since decoded objects have no duplicate keys. -/
def getField (key : String) : Fields → Option Value
  | [] => none
  | (k, v) :: rest => if k = key then some v else getField key rest

/-- The first entry of a key is the one that is read.  Kind: L -/
theorem getField_cons_self (key : String) (v : Value) (rest : Fields) :
    getField key ((key, v) :: rest) = some v := by
  rw [getField, if_pos rfl]

/-- An entry of another key is skipped.  Kind: L -/
theorem getField_cons_of_ne {key k : String} (h : k ≠ key) (v : Value) (rest : Fields) :
    getField key ((k, v) :: rest) = getField key rest := by
  rw [getField, if_neg h]

theorem getField_append (key : String) (front back : Fields) :
    getField key (front ++ back) = (getField key front).or (getField key back) := by
  induction front with
  | nil => rfl
  | cons field front ih =>
      obtain ⟨k, v⟩ := field
      by_cases h : k = key
      · subst h
        simp only [List.cons_append, getField_cons_self, Option.some_or]
      · simp only [List.cons_append, getField_cons_of_ne h, ih]

/-- A key that no entry has is missing.  Kind: L -/
theorem getField_eq_none_of_not_mem {key : String} {fields : Fields}
    (h : ∀ p ∈ fields, p.1 ≠ key) : getField key fields = none := by
  induction fields with
  | nil => rfl
  | cons p rest ih =>
      obtain ⟨k, v⟩ := p
      rw [getField_cons_of_ne (h (k, v) List.mem_cons_self)]
      exact ih fun q hq => h q (List.mem_cons_of_mem _ hq)

/-- A field that is found is one of the fields.  Kind: L -/
theorem mem_of_getField {key : String} {v : Value} {fields : Fields}
    (h : getField key fields = some v) : (key, v) ∈ fields := by
  induction fields with
  | nil => cases h
  | cons p rest ih =>
      obtain ⟨k, w⟩ := p
      rw [getField] at h
      split_ifs at h with hk
      · cases h
        rw [hk]
        exact List.mem_cons_self
      · exact List.mem_cons_of_mem _ (ih h)

/-- Dropping other fields does not hide a field.  Kind: L -/
theorem getField_filter {q : String → Bool} {key : String} (hkey : q key = true) (fields : Fields) :
    getField key (fields.filter fun p => q p.1) = getField key fields := by
  induction fields with
  | nil => rfl
  | cons p rest ih =>
      obtain ⟨k, v⟩ := p
      rw [List.filter_cons]
      split_ifs with hk
      · rw [getField, getField, ih]
      · have hne : k ≠ key := fun heq => hk (heq ▸ hkey)
        rw [getField_cons_of_ne hne, ih]

/-- `value[key]`. -/
def requiredField (key : String) (fields : Fields) : Except PyError Value :=
  match getField key fields with
  | some v => .ok v
  | none => .error ⟨.key, key⟩

/-- `key in fields`. -/
def hasField (key : String) (fields : Fields) : Bool := (getField key fields).isSome

/-- `set(fields) == set(keys)`. -/
def hasExactly (keys : List String) (fields : Fields) : Bool :=
  fields.all (fun p => p.1 ∈ keys) && keys.all fun k => hasField k fields

/-- `isinstance(value, str)`, as the text. -/
def Value.asStr? : Value → Option String
  | .str s => some s
  | _ => none

/-- The items of a list of texts. -/
def Value.asTexts? : Value → Option (List String)
  | .list items => items.mapM Value.asStr?
  | _ => none

/-- A list of texts reads back as those texts.  Kind: L -/
theorem Value.asTexts?_list (l : List String) :
    (Value.list (l.map Value.str)).asTexts? = some l := by
  show (l.map Value.str).mapM Value.asStr? = some l
  induction l with
  | nil => rfl
  | cons s l ih => simp [Value.asStr?, ih]

/-- `bool(value)`. -/
def Value.truthy : Value → Bool
  | .null => false
  | .bool b => b
  | .int n => decide (n ≠ 0)
  | .float x => decide (x ≠ .finite 0)
  | .str s => decide (s ≠ "")
  | .list items => !items.isEmpty
  | .dict fields => !fields.isEmpty
  | .foreign _ => true

/-- `isinstance(value, (int, float)) and not isinstance(value, bool) and isfinite(value)`, as the
number.  An integer beyond the float range makes `math.isfinite` raise `OverflowError`.
Source: the number checks of `remote/wire_protocol.py`.  Kind: D -/
def Value.finite? : Value → Except PyError (Option ℚ)
  | .int n =>
      if 2 ^ 1024 - 2 ^ 970 ≤ n.natAbs then
        .error ⟨.overflow, "int too large to convert to float"⟩
      else .ok (some n)
  | .float (.finite q) => .ok (some q)
  | _ => .ok none

/-- An integer that no float can hold. -/
def Value.Oversized (v : Value) : Prop := ∃ n, v = .int n ∧ 2 ^ 1024 - 2 ^ 970 ≤ n.natAbs

/-- Only an integer beyond the range of a float makes the finiteness check raise.  Kind: L -/
theorem Value.finite?_eq_error_iff {v : Value} {e : PyError} :
    v.finite? = .error e ↔ v.Oversized ∧ e = ⟨.overflow, "int too large to convert to float"⟩ := by
  unfold Value.finite?
  split
  · rename_i n
    by_cases hbig : 2 ^ 1024 - 2 ^ 970 ≤ n.natAbs
    · rw [if_pos hbig, Except.error.injEq]
      constructor
      · rintro rfl
        exact ⟨⟨n, rfl, hbig⟩, rfl⟩
      · rintro ⟨-, rfl⟩
        rfl
    · rw [if_neg hbig]
      simp only [reduceCtorEq, false_iff, not_and]
      rintro ⟨m, hm, hlarge⟩
      cases hm
      exact absurd hlarge hbig
  · simp only [reduceCtorEq, false_iff, not_and]
    rintro ⟨n, hn, -⟩
    cases hn
  · rename_i hint hfloat
    simp only [reduceCtorEq, false_iff, not_and]
    rintro ⟨n, rfl, -⟩
    exact absurd rfl (hint n)

/-- `isinstance(value, int) and not isinstance(value, bool)`, as the integer. -/
def Value.asInt? : Value → Option ℤ
  | .int n => some n
  | _ => none

/-- `value == n` for a JSON value, where `True == 1` and `1.0 == 1`. -/
def Value.equalsInt (n : ℤ) : Value → Bool
  | .int m => decide (m = n)
  | .bool b => decide ((if b then 1 else 0) = n)
  | .float (.finite q) => decide (q = n)
  | _ => false

/-- No value equals two integers.  Kind: L -/
theorem Value.equalsInt_unique {v : Value} {m n : ℤ} (hm : v.equalsInt m = true)
    (hn : v.equalsInt n = true) : m = n := by
  unfold Value.equalsInt at hm hn
  split at hm
  all_goals simp_all

mutual

/-- `json.dumps(value, allow_nan=False)` does not raise: no host object, no infinite float. -/
def Value.encodable : Value → Bool
  | .float (.finite _) => true
  | .float _ => false
  | .foreign _ => false
  | .list items => Value.encodableList items
  | .dict fields => Value.encodableFields fields
  | _ => true

/-- `Value.encodable` of every item. -/
def Value.encodableList : List Value → Bool
  | [] => true
  | v :: rest => v.encodable && Value.encodableList rest

/-- `Value.encodable` of every field. -/
def Value.encodableFields : List (String × Value) → Bool
  | [] => true
  | (_, v) :: rest => v.encodable && Value.encodableFields rest

end

/-- `text.isascii()`. -/
def isAscii (text : String) : Bool := text.toList.all (·.val < 128)

/-- `hmac.compare_digest(a, b)` on text: `TypeError` unless both are ASCII.
Source: `hmac.compare_digest` (standard library).  Kind: D -/
def compareDigest (a b : String) : Except PyError Bool :=
  if isAscii a && isAscii b then .ok (decide (a = b))
  else .error ⟨.type, "comparing strings with non-ASCII characters is not supported"⟩

/-- `hmac.compare_digest` raises exactly on a text that is not ASCII.  Kind: L -/
theorem compareDigest_eq_error_iff {a b : String} {e : PyError} :
    compareDigest a b = .error e ↔ (isAscii a && isAscii b) = false ∧
      e = ⟨.type, "comparing strings with non-ASCII characters is not supported"⟩ := by
  unfold compareDigest
  cases isAscii a && isAscii b
  · simp [eq_comm]
  · simp

/-- Two texts that compare equal are equal.  Kind: L -/
theorem compareDigest_eq_true {a b : String} (h : compareDigest a b = .ok true) : a = b := by
  unfold compareDigest at h
  split at h
  · simpa using h
  · cases h

/-- `if p: raise e`.  Source: none: infrastructure.  Kind: D -/
def raiseIf {m : Type → Type} [Monad m] [MonadExceptOf PyError m] (p : Prop) [Decidable p]
    (e : PyError) : m Unit :=
  if p then throw e else pure ()

/-- Stateful Python code: the state survives a raised exception. -/
abbrev PyM (σ : Type) := EStateM PyError σ

section pym

variable {σ α β : Type}

/-- A pure check inside stateful code. -/
def PyM.ofExcept (r : Except PyError α) : PyM σ α :=
  match r with
  | .ok a => pure a
  | .error e => throw e

/-- A sequence returns if and only if both halves do.  Kind: L -/
theorem PyM.bind_eq_ok {x : PyM σ α} {f : α → PyM σ β} {s s'' : σ} {b : β} :
    (x >>= f) s = .ok b s'' ↔ ∃ a s', x s = .ok a s' ∧ f a s' = .ok b s'' := by
  change EStateM.bind x f s = _ ↔ _
  unfold EStateM.bind
  cases x s with
  | ok a s' => simp
  | error e s' => simp

/-- `pure` returns its value and keeps the state.  Kind: L -/
@[simp] theorem PyM.pure_eq_ok {s s' : σ} {a b : α} :
    (pure a : PyM σ α) s = .ok b s' ↔ a = b ∧ s = s' := by
  change EStateM.Result.ok a s = _ ↔ _
  simp

/-- `throw` does not return.  Kind: L -/
@[simp] theorem PyM.throw_eq_ok {s s' : σ} {e : PyError} {b : α} :
    (throw e : PyM σ α) s = .ok b s' ↔ False := by
  change EStateM.Result.error e s = _ ↔ _
  simp

/-- `get` returns the state.  Kind: L -/
@[simp] theorem PyM.get_eq_ok {s s' t : σ} : (get : PyM σ σ) s = .ok t s' ↔ t = s ∧ s' = s := by
  change EStateM.Result.ok s s = _ ↔ _
  simp [eq_comm]

/-- `set` returns in the given state.  Kind: L -/
@[simp] theorem PyM.set_eq_ok {s s' t : σ} {u : PUnit} :
    (set t : PyM σ PUnit) s = .ok u s' ↔ s' = t := by
  change EStateM.Result.ok PUnit.unit t = _ ↔ _
  simp [eq_comm]

/-- `modify` returns in the changed state.  Kind: L -/
@[simp] theorem PyM.modify_eq_ok {s s' : σ} {f : σ → σ} {u : PUnit} :
    (modify f : PyM σ PUnit) s = .ok u s' ↔ s' = f s := by
  change EStateM.Result.ok PUnit.unit (f s) = _ ↔ _
  simp [eq_comm]

/-- A pure result is lifted without touching the state.  Kind: L -/
@[simp] theorem PyM.ofExcept_eq_ok {s s' : σ} {r : Except PyError α} {a : α} :
    PyM.ofExcept r s = .ok a s' ↔ r = .ok a ∧ s' = s := by
  cases r with
  | ok b =>
      change EStateM.Result.ok b s = _ ↔ _
      simp [eq_comm]
  | error e =>
      change EStateM.Result.error e s = _ ↔ _
      simp

/-- A guard returns if and only if its condition is false.  Kind: L -/
@[simp] theorem PyM.raiseIf_eq_ok {s s' : σ} {p : Prop} [Decidable p] {e : PyError} {u : Unit} :
    (raiseIf p e : PyM σ Unit) s = .ok u s' ↔ ¬p ∧ s' = s := by
  unfold raiseIf
  split
  · simp_all
  · simp_all [eq_comm]

/-- A read before a step: the step runs on the state.  Kind: L -/
@[simp] theorem PyM.get_bind_eq_ok {f : σ → PyM σ β} {s s' : σ} {b : β} :
    ((get : PyM σ σ) >>= f) s = .ok b s' ↔ f s s = .ok b s' := Iff.rfl

/-- A write before a step: the step starts from the written state.  Kind: L -/
@[simp] theorem PyM.set_bind_eq_ok {t : σ} {f : PUnit → PyM σ β} {s s' : σ} {b : β} :
    ((set t : PyM σ PUnit) >>= f) s = .ok b s' ↔ f () t = .ok b s' := Iff.rfl

/-- A change before a step: the step starts from the changed state.  Kind: L -/
@[simp] theorem PyM.modify_bind_eq_ok {g : σ → σ} {f : PUnit → PyM σ β} {s s' : σ} {b : β} :
    ((modify g : PyM σ PUnit) >>= f) s = .ok b s' ↔ f () (g s) = .ok b s' := Iff.rfl

/-- A lifted result before a step.  Kind: L -/
@[simp] theorem PyM.ofExcept_bind_eq_ok {r : Except PyError α} {f : α → PyM σ β} {s s' : σ}
    {b : β} :
    (PyM.ofExcept r >>= f) s = .ok b s' ↔ ∃ a, r = .ok a ∧ f a s = .ok b s' := by
  rw [PyM.bind_eq_ok]
  simp

/-- A guard before a step: the condition is false and the step returns.  Kind: L -/
@[simp] theorem PyM.raiseIf_bind_eq_ok {p : Prop} [Decidable p] {e : PyError}
    {f : Unit → PyM σ β} {s s' : σ} {b : β} :
    ((raiseIf p e : PyM σ Unit) >>= f) s = .ok b s' ↔ ¬p ∧ f () s = .ok b s' := by
  simp only [PyM.bind_eq_ok, PyM.raiseIf_eq_ok]
  constructor
  · rintro ⟨_, _, ⟨hp, rfl⟩, hf⟩
    exact ⟨hp, hf⟩
  · rintro ⟨hp, hf⟩
    exact ⟨(), s, ⟨hp, rfl⟩, hf⟩

/-- A sequence raises in its first half or, after it, in its second.  Kind: L -/
theorem PyM.bind_eq_error {x : PyM σ α} {f : α → PyM σ β} {s s'' : σ} {e : PyError} :
    (x >>= f) s = .error e s'' ↔
      x s = .error e s'' ∨ ∃ a s', x s = .ok a s' ∧ f a s' = .error e s'' := by
  change EStateM.bind x f s = _ ↔ _
  unfold EStateM.bind
  cases x s with
  | ok a s' => simp
  | error e' s' => simp

/-- `pure` does not raise.  Kind: L -/
@[simp] theorem PyM.pure_eq_error {s s' : σ} {a : α} {e : PyError} :
    (pure a : PyM σ α) s = .error e s' ↔ False := by
  change EStateM.Result.ok a s = _ ↔ _
  simp

/-- `throw` raises its error and keeps the state.  Kind: L -/
@[simp] theorem PyM.throw_eq_error {s s' : σ} {e e' : PyError} :
    (throw e : PyM σ α) s = .error e' s' ↔ e = e' ∧ s = s' := by
  change EStateM.Result.error e s = _ ↔ _
  simp

/-- A read raises nothing of its own.  Kind: L -/
@[simp] theorem PyM.get_bind_eq_error {f : σ → PyM σ β} {s s' : σ} {e : PyError} :
    ((get : PyM σ σ) >>= f) s = .error e s' ↔ f s s = .error e s' := Iff.rfl

/-- `set` does not raise.  Kind: L -/
@[simp] theorem PyM.set_eq_error {s s' t : σ} {e : PyError} :
    (set t : PyM σ PUnit) s = .error e s' ↔ False := by
  change EStateM.Result.ok PUnit.unit t = _ ↔ _
  simp

/-- A write raises nothing of its own.  Kind: L -/
@[simp] theorem PyM.set_bind_eq_error {t : σ} {f : PUnit → PyM σ β} {s s' : σ} {e : PyError} :
    ((set t : PyM σ PUnit) >>= f) s = .error e s' ↔ f () t = .error e s' := Iff.rfl

/-- A change raises nothing of its own.  Kind: L -/
@[simp] theorem PyM.modify_bind_eq_error {g : σ → σ} {f : PUnit → PyM σ β} {s s' : σ}
    {e : PyError} :
    ((modify g : PyM σ PUnit) >>= f) s = .error e s' ↔ f () (g s) = .error e s' := Iff.rfl

/-- A lifted error is raised without touching the state.  Kind: L -/
@[simp] theorem PyM.ofExcept_eq_error {s s' : σ} {r : Except PyError α} {e : PyError} :
    PyM.ofExcept r s = .error e s' ↔ r = .error e ∧ s' = s := by
  cases r with
  | ok b =>
      change EStateM.Result.ok b s = _ ↔ _
      simp
  | error e =>
      change EStateM.Result.error e s = _ ↔ _
      simp [eq_comm]

/-- A lifted result before a step raises its own error or the step's.  Kind: L -/
@[simp] theorem PyM.ofExcept_bind_eq_error {r : Except PyError α} {f : α → PyM σ β} {s s' : σ}
    {e : PyError} :
    (PyM.ofExcept r >>= f) s = .error e s' ↔
      (r = .error e ∧ s' = s) ∨ ∃ a, r = .ok a ∧ f a s = .error e s' := by
  rw [PyM.bind_eq_error]
  simp

/-- A guard before a step raises its own error or the step's.  Kind: L -/
@[simp] theorem PyM.raiseIf_bind_eq_error {p : Prop} [Decidable p] {e e' : PyError}
    {f : Unit → PyM σ β} {s s' : σ} :
    ((raiseIf p e : PyM σ Unit) >>= f) s = .error e' s' ↔
      (p ∧ e = e' ∧ s = s') ∨ (¬p ∧ f () s = .error e' s') := by
  rw [PyM.bind_eq_error]
  by_cases hp : p
  · simp [raiseIf, hp]
  · simp only [raiseIf, hp, if_false, PyM.pure_eq_error, PyM.pure_eq_ok, false_or, false_and,
      not_false_eq_true, true_and]
    constructor
    · rintro ⟨_, _, rfl, h⟩
      exact h
    · intro h
      exact ⟨(), s, rfl, h⟩

/-- The state a call leaves behind, whether it returned or raised. -/
def PyM.after (x : PyM σ α) (s : σ) : σ :=
  match x s with
  | .ok _ s' => s'
  | .error _ s' => s'

/-- The run returns, and what it returned and the state it left pass the check. -/
def PyM.returns (x : PyM σ α) (s : σ) (check : α → σ → Bool) : Bool :=
  match x s with
  | .ok a s' => check a s'
  | .error _ _ => false

/-- The executable check of a run that returns.  Kind: L -/
theorem PyM.returns_of_ok {x : PyM σ α} {s s' : σ} {a : α} (h : x s = .ok a s')
    (check : α → σ → Bool) : x.returns s check = check a s' := by
  unfold PyM.returns
  rw [h]

/-- The executable check of a run that raises is false.  Kind: L -/
theorem PyM.returns_of_error {x : PyM σ α} {s s' : σ} {e : PyError} (h : x s = .error e s')
    (check : α → σ → Bool) : x.returns s check = false := by
  unfold PyM.returns
  rw [h]

/-- The state left by a run that returns.  Kind: L -/
theorem PyM.after_of_ok {x : PyM σ α} {s s' : σ} {a : α} (h : x s = .ok a s') :
    x.after s = s' := by
  unfold PyM.after
  rw [h]

/-- The state left by a run that raises.  Kind: L -/
theorem PyM.after_of_error {x : PyM σ α} {s s' : σ} {e : PyError} (h : x s = .error e s') :
    x.after s = s' := by
  unfold PyM.after
  rw [h]

/-- A property of the state after `x >>= f`: `x` establishes it when it raises, and `f` from
wherever `x` returned.  Kind: L -/
theorem PyM.after_bind {x : PyM σ α} {f : α → PyM σ β} {s : σ} {P : σ → Prop}
    (herr : ∀ e s', x s = .error e s' → P s')
    (hok : ∀ a s', x s = .ok a s' → P ((f a).after s')) : P ((x >>= f).after s) := by
  change P (PyM.after (EStateM.bind x f) s)
  unfold PyM.after EStateM.bind
  cases hx : x s with
  | ok a s' => exact hok a s' hx
  | error e s' => exact herr e s' hx

/-- The state left by a read and a step.  Kind: L -/
@[simp] theorem PyM.after_get_bind {f : σ → PyM σ β} {s : σ} :
    ((get : PyM σ σ) >>= f).after s = (f s).after s := rfl

/-- The state left by a change and a step.  Kind: L -/
@[simp] theorem PyM.after_modify_bind {g : σ → σ} {f : PUnit → PyM σ β} {s : σ} :
    ((modify g : PyM σ PUnit) >>= f).after s = (f ()).after (g s) := rfl

/-- The state left by a write and a step.  Kind: L -/
@[simp] theorem PyM.after_set_bind {t : σ} {f : PUnit → PyM σ β} {s : σ} :
    ((set t : PyM σ PUnit) >>= f).after s = (f ()).after t := rfl

/-- The state left by a write.  Kind: L -/
@[simp] theorem PyM.after_set {t : σ} {s : σ} : (set t : PyM σ PUnit).after s = t := rfl

/-- `pure` leaves the state.  Kind: L -/
@[simp] theorem PyM.after_pure {a : α} {s : σ} : (pure a : PyM σ α).after s = s := rfl

/-- `throw` leaves the state.  Kind: L -/
@[simp] theorem PyM.after_throw {e : PyError} {s : σ} : (throw e : PyM σ α).after s = s := rfl

/-- A pure check leaves the state alone when it raises.  Kind: L -/
theorem PyM.after_ofExcept_bind {r : Except PyError α} {f : α → PyM σ β} {s : σ} {P : σ → Prop}
    (hs : P s) (hok : ∀ a, r = .ok a → P ((f a).after s)) :
    P ((PyM.ofExcept r >>= f).after s) := by
  cases r with
  | ok a => exact hok a rfl
  | error e => exact hs

/-- The state left by a guard and a step, by the guard's condition.  Kind: L -/
theorem PyM.after_raiseIf_bind_eq {p : Prop} [Decidable p] {e : PyError} {f : Unit → PyM σ β}
    {s : σ} :
    ((raiseIf p e : PyM σ Unit) >>= f).after s = if p then s else (f ()).after s := by
  split_ifs with hp
  · simp only [raiseIf, if_pos hp]
    rfl
  · simp only [raiseIf, if_neg hp]
    rfl

/-- What holds of the state and of every result of the step holds after the guarded step.
Kind: L -/
theorem PyM.after_raiseIf_bind {p : Prop} [Decidable p] {e : PyError} {f : Unit → PyM σ β} {s : σ}
    {P : σ → Prop} (hs : P s) (hok : ¬p → P ((f ()).after s)) :
    P (((raiseIf p e : PyM σ Unit) >>= f).after s) := by
  rw [PyM.after_raiseIf_bind_eq]
  split_ifs with hp
  · exact hs
  · exact hok hp

/-- `try: ... except Exception`: what came of a call. -/
def PyM.attempt (x : PyM σ α) : PyM σ (Except PyError α) := fun s =>
  match x s with
  | .ok a s' => .ok (.ok a) s'
  | .error e s' => .ok (.error e) s'

/-- The state left by a caught call is the one the call left.  Kind: L -/
theorem PyM.after_of_attempt {x : PyM σ α} {s s' : σ} {r : Except PyError α}
    (h : x.attempt s = .ok r s') : x.after s = s' := by
  unfold PyM.attempt at h
  unfold PyM.after
  split at h <;> cases h <;> rfl

/-! The equations that run stateful code one step at a time. -/

/-- Equation lemma of a sequence.  Kind: L -/
theorem PyM.bind_apply (x : PyM σ α) (f : α → PyM σ β) (s : σ) :
    (x >>= f) s =
      match x s with
      | .ok a s' => f a s'
      | .error e s' => .error e s' := by
  change EStateM.bind x f s = _
  unfold EStateM.bind
  cases x s <;> rfl

/-- Equation lemma of `get`.  Kind: L -/
theorem PyM.get_apply (s : σ) : (get : PyM σ σ) s = .ok s s := rfl

/-- Equation lemma of `set`.  Kind: L -/
theorem PyM.set_apply (t s : σ) : (set t : PyM σ PUnit) s = .ok PUnit.unit t := rfl

/-- Equation lemma of `modify`.  Kind: L -/
theorem PyM.modify_apply (g : σ → σ) (s : σ) : (modify g : PyM σ PUnit) s = .ok PUnit.unit (g s) :=
  rfl

/-- Equation lemma of `pure`.  Kind: L -/
theorem PyM.pure_apply (a : α) (s : σ) : (pure a : PyM σ α) s = .ok a s := rfl

/-- Equation lemma of a lifted result.  Kind: L -/
theorem PyM.ofExcept_apply (r : Except PyError α) (s : σ) :
    PyM.ofExcept r s =
      match r with
      | .ok a => .ok a s
      | .error e => .error e s := by
  cases r <;> rfl

/-- Equation lemma of a guard.  Kind: L -/
theorem PyM.raiseIf_apply {p : Prop} [Decidable p] {e : PyError} (s : σ) :
    (raiseIf p e : PyM σ Unit) s = if p then .error e s else .ok () s := by
  unfold raiseIf
  split <;> rfl

/-- From `s`, the call returns with `Q` or raises with `R`. -/
def PyM.Post (x : PyM σ α) (s : σ) (Q : α → σ → Prop) (R : PyError → σ → Prop) : Prop :=
  match x s with
  | .ok a s' => Q a s'
  | .error e s' => R e s'

section post

variable {s : σ} {R : PyError → σ → Prop}

/-- Consequence rule: both postconditions may be weakened.  Kind: L -/
theorem PyM.Post.mono {x : PyM σ α} {Q Q' : α → σ → Prop} {R' : PyError → σ → Prop}
    (h : x.Post s Q R) (hQ : ∀ a s', Q a s' → Q' a s') (hR : ∀ e s', R e s' → R' e s') :
    x.Post s Q' R' := by
  unfold PyM.Post at h ⊢
  cases hx : x s with
  | ok a s' => exact hQ a s' (by simpa only [hx] using h)
  | error e s' => exact hR e s' (by simpa only [hx] using h)

/-- A postcondition of a run that returns.  Kind: L -/
theorem PyM.post_of_run {x : PyM σ α} {Q : α → σ → Prop} {a : α} {s' : σ} (hx : x s = .ok a s')
    (h : Q a s') : x.Post s Q R := by
  simpa only [PyM.Post, hx] using h

/-- What a postcondition says of a run that returns.  Kind: L -/
theorem PyM.post_of_ok {x : PyM σ α} {Q : α → σ → Prop} {a : α} {s' : σ} (h : x.Post s Q R)
    (hx : x s = .ok a s') : Q a s' := by
  simpa only [PyM.Post, hx] using h

/-- What a postcondition says of a run that raises.  Kind: L -/
theorem PyM.post_of_error {x : PyM σ α} {Q : α → σ → Prop} {e : PyError} {s' : σ}
    (h : x.Post s Q R) (hx : x s = .error e s') : R e s' := by
  simpa only [PyM.Post, hx] using h

/-- What holds of either end holds of the state that is left.  Kind: L -/
theorem PyM.after_of_post {x : PyM σ α} {P : σ → Prop}
    (h : x.Post s (fun _ => P) (fun _ => P)) : P (x.after s) := by
  unfold PyM.Post at h
  unfold PyM.after
  split at h <;> exact h

/-- Sequence rule.  Kind: L -/
theorem PyM.post_bind {x : PyM σ α} {f : α → PyM σ β} {Q : β → σ → Prop} :
    (x >>= f).Post s Q R ↔ x.Post s (fun a s' => (f a).Post s' Q R) R := by
  unfold PyM.Post
  rw [PyM.bind_apply]
  cases x s <;> rfl

/-- The second call starts from what the first one guarantees.  Kind: L -/
theorem PyM.Post.bind {x : PyM σ α} {f : α → PyM σ β} {P : α → σ → Prop} {Q : β → σ → Prop}
    (hx : x.Post s P R) (hf : ∀ a s', P a s' → (f a).Post s' Q R) : (x >>= f).Post s Q R :=
  PyM.post_bind.mpr (hx.mono hf fun _ _ h => h)

/-- Rule of `pure`.  Kind: L -/
@[simp] theorem PyM.post_pure {a : α} {Q : α → σ → Prop} :
    (pure a : PyM σ α).Post s Q R ↔ Q a s := Iff.rfl

/-- Rule of `throw`.  Kind: L -/
@[simp] theorem PyM.post_throw {e : PyError} {Q : α → σ → Prop} :
    (throw e : PyM σ α).Post s Q R ↔ R e s := Iff.rfl

/-- Rule of `get`.  Kind: L -/
@[simp] theorem PyM.post_get {Q : σ → σ → Prop} : (get : PyM σ σ).Post s Q R ↔ Q s s := Iff.rfl

/-- Rule of `modify`.  Kind: L -/
@[simp] theorem PyM.post_modify {g : σ → σ} {Q : PUnit → σ → Prop} :
    (modify g : PyM σ PUnit).Post s Q R ↔ Q PUnit.unit (g s) := Iff.rfl

/-- Rule of a lifted result.  Kind: L -/
theorem PyM.post_ofExcept {r : Except PyError α} {Q : α → σ → Prop}
    (hok : ∀ a, r = .ok a → Q a s) (herr : ∀ e, r = .error e → R e s) :
    (PyM.ofExcept r).Post s Q R := by
  cases r with
  | ok a => exact hok a rfl
  | error e => exact herr e rfl

/-- A call whose exception is caught.  Kind: L -/
theorem PyM.Post.attempt {x : PyM σ α} {Q : α → σ → Prop} {R' : PyError → σ → Prop}
    (h : x.Post s Q R) :
    x.attempt.Post s (fun r s' =>
      match r with
      | .ok a => Q a s'
      | .error e => R e s') R' := by
  unfold PyM.Post at h ⊢
  unfold PyM.attempt
  cases hx : x s with
  | ok a s' => simpa only [hx] using h
  | error e s' => simpa only [hx] using h

end post

end pym

/-- Peel a successful `Except` computation.  Kind: L -/
theorem Except.bind_eq_ok {α β : Type} {x : Except PyError α} {f : α → Except PyError β} {b : β} :
    (x >>= f) = .ok b ↔ ∃ a, x = .ok a ∧ f a = .ok b := by
  cases x with
  | ok a => simp [Bind.bind, Except.bind]
  | error e => simp [Bind.bind, Except.bind]

/-- A sequence of pure calls raises in its first half or in its second.  Kind: L -/
theorem Except.bind_eq_error {α β : Type} {x : Except PyError α} {f : α → Except PyError β}
    {e : PyError} :
    (x >>= f) = .error e ↔ x = .error e ∨ ∃ a, x = .ok a ∧ f a = .error e := by
  cases x with
  | ok a => simp [Bind.bind, Except.bind]
  | error e' => simp [Bind.bind, Except.bind]

/-- Every item of a successful `mapM` comes from an item of the list.  Kind: L -/
theorem Except.mem_of_mapM_eq_ok {α β : Type} {f : α → Except PyError β} {l : List α} {r : List β}
    (h : l.mapM f = .ok r) : ∀ b ∈ r, ∃ a ∈ l, f a = .ok b := by
  induction l generalizing r with
  | nil =>
      cases h
      simp
  | cons a l ih =>
      rw [List.mapM_cons, Except.bind_eq_ok] at h
      obtain ⟨b, hb, h⟩ := h
      rw [Except.bind_eq_ok] at h
      obtain ⟨r', hr', h⟩ := h
      cases h
      intro x hx
      rcases List.mem_cons.mp hx with rfl | hx'
      · exact ⟨a, List.mem_cons_self, hb⟩
      · obtain ⟨y, hy, hfy⟩ := ih hr' x hx'
        exact ⟨y, List.mem_cons_of_mem _ hy, hfy⟩

/-- Every item of the list goes to an item of a successful `mapM`.  Kind: L -/
theorem Except.exists_of_mapM_eq_ok {α β : Type} {f : α → Except PyError β} {l : List α}
    {r : List β} (h : l.mapM f = .ok r) : ∀ a ∈ l, ∃ b ∈ r, f a = .ok b := by
  induction l generalizing r with
  | nil => simp
  | cons a l ih =>
      rw [List.mapM_cons, Except.bind_eq_ok] at h
      obtain ⟨b, hb, h⟩ := h
      rw [Except.bind_eq_ok] at h
      obtain ⟨r', hr', h⟩ := h
      cases h
      intro x hx
      rcases List.mem_cons.mp hx with rfl | hx'
      · exact ⟨b, List.mem_cons_self, hb⟩
      · obtain ⟨y, hy, hfy⟩ := ih hr' x hx'
        exact ⟨y, List.mem_cons_of_mem _ hy, hfy⟩

/-- A pure guard returns if and only if its condition is false.  Kind: L -/
@[simp] theorem Except.raiseIf_eq_ok {p : Prop} [Decidable p] {e : PyError} {u : Unit} :
    (raiseIf p e : Except PyError Unit) = .ok u ↔ ¬p := by
  unfold raiseIf
  split
  · simp_all [throw, throwThe, MonadExceptOf.throw]
  · simp_all [pure, Except.pure]

/-- What a test found of a result.  Kind: L -/
theorem Except.exists_of_any {ε α : Type} {x : Except ε α} {p : α → Bool}
    (h : x.toOption.any p = true) : ∃ a, x = .ok a ∧ p a = true := by
  cases x with
  | error e => cases h
  | ok a => exact ⟨a, rfl, h⟩

/-- A result that is kept as an option was returned.  Kind: L -/
theorem Except.eq_ok_of_toOption {ε α : Type} {x : Except ε α} {a : α}
    (h : x.toOption = some a) : x = .ok a := by
  cases x with
  | ok b => exact congrArg Except.ok (Option.some.inj h)
  | error e => cases h

/-- `pure` returns its value.  Kind: L -/
@[simp] theorem Except.pure_eq_ok {α : Type} {a b : α} :
    (pure a : Except PyError α) = .ok b ↔ a = b := by
  simp [pure, Except.pure]

/-- `throw` does not return.  Kind: L -/
@[simp] theorem Except.throw_eq_ok {α : Type} {e : PyError} {b : α} :
    (throw e : Except PyError α) = .ok b ↔ False := by
  simp [throw, throwThe, MonadExceptOf.throw]

end ExpraConnect
