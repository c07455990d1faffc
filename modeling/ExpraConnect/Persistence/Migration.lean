import ExpraConnect.Lib.Ownership
import ExpraConnect.Objects

/-!
# Migration of state documents

`persistence.py`, `migrate_state`: a copy of a document, with the version and the defaults of the
current schema.

* `cloneJsonTree`, `cloneState`: the copy. The state is the heap with the memo of the containers that
  have been copied;
* `migrateItem`, `migrateSingleRoutes`, `migrateState`: the changes of the copy, in place.

`cloneJsonTree` has a number of nested calls that the interpreter allows, and raises `RecursionError`
beyond them. What `copy.deepcopy` does is a parameter: it is called for documents with other objects
in them than JSON has.
-/

namespace ExpraConnect

open ExpraConnect.Lib ExpraConnect.Lib.Graph

/-- Source: `persistence.py`, `CURRENT_SCHEMA_VERSION`.  Kind: D -/
def currentSchemaVersion : ℤ := 2

/-- A `StateDataError`.  Source: `persistence.py`, `StateDataError`.  Kind: D -/
def stateDataError (message : String) : PyError := ⟨.value, message⟩

/-- Source: `persistence.py`, `_NonJsonTreeError`.  Kind: D -/
def nonJsonTreeError : PyError := ⟨.other, "_NonJsonTreeError"⟩

/-- `RecursionError`. -/
def recursionError : PyError := ⟨.runtime, "maximum recursion depth exceeded"⟩

/-! ## Copies -/

/-- The heap, and the copies by the identities of the containers. -/
structure CloneState where
  /-- The heap. -/
  heap : PyHeap
  /-- `memo` -/
  memo : Dict ℕ PyObject

/-- `list.append`. -/
def appendItem (item : PyObject) : Cell Key PyObject → Cell Key PyObject
  | .list items => .list (items ++ [item])
  | .dict entries => .dict entries

/-- `dict[key] = item`. -/
def setItem (key : Key) (item : PyObject) : Cell Key PyObject → Cell Key PyObject
  | .list items => .list items
  | .dict entries => .dict (entries.insert key item)

/-- An empty copy of a container, which is in the memo from the start.
Source: `persistence.py`, `_clone_json_tree`.  Kind: D -/
def startClone (identity : ℕ) (empty : Cell Key PyObject) : PyM CloneState ℕ := do
  let s ← get
  set (⟨s.heap.alloc empty, s.memo.insert identity (.ref s.heap.next)⟩ : CloneState)
  return s.heap.next

/-- Copy what a container contains into its copy, one item after the other.
Source: `persistence.py`, `_clone_json_tree`.  Kind: D -/
def fillClone {κ : Type} (clone : κ → PyObject → PyM CloneState PyObject)
    (put : κ → PyObject → Cell Key PyObject → Cell Key PyObject) (cloned : ℕ) :
    List (κ × PyObject) → PyM CloneState Unit
  | [] => pure ()
  | (key, item) :: rest => do
      let copy ← clone key item
      modify fun s => { s with heap := s.heap.write cloned (put key copy (s.heap.cells cloned)) }
      fillClone clone put cloned rest

/-- Leaves that JSON has. -/
def Scalar.isJson : Scalar → Bool
  | .foreign _ => false
  | _ => true

/-- Source: `persistence.py`, `_clone_json_tree`.  Kind: D -/
def cloneJsonTree : ℕ → PyObject → PyM CloneState PyObject
  | 0, _ => throw recursionError
  | _ + 1, .leaf x => do
      raiseIf (x.isJson = false) nonJsonTreeError
      return .leaf x
  | calls + 1, .ref identity => do
      let s ← get
      match s.memo.get? identity with
      | some copy => return copy
      | none =>
          match s.heap.cells identity with
          | .list items => do
              let cloned ← startClone identity (.list [])
              fillClone (fun _ item => cloneJsonTree calls item) (fun _ item => appendItem item) cloned
                (items.map (Prod.mk ()))
              return .ref cloned
          | .dict entries => do
              let cloned ← startClone identity (.dict Dict.empty)
              fillClone
                (fun key item => do
                  raiseIf (key.isText = false) nonJsonTreeError
                  cloneJsonTree calls item)
                setItem cloned entries.entries
              return .ref cloned

/-- `deepcopy` is `copy.deepcopy`, and `calls` the nested calls that are allowed.
Source: `persistence.py`, `_clone_state`.  Kind: D -/
def cloneState (deepcopy : PyObject → PyM PyHeap PyObject) (calls : ℕ) (value : PyObject) :
    PyM PyHeap PyObject := fun h =>
  match cloneJsonTree calls value ⟨h, Dict.empty⟩ with
  | .ok copy s => .ok copy s.heap
  | .error e s => if e = nonJsonTreeError then deepcopy value s.heap else .error e s.heap

/-! ## Documents -/

/-- The entries of a dictionary; another object has no `get`. -/
def entriesOf (o : PyObject) : PyM PyHeap (ℕ × Dict Key PyObject) := do
  match o with
  | .leaf _ => throw ⟨.other, "object has no attribute 'get'"⟩
  | .ref i =>
      let h ← get
      match h.cells i with
      | .list _ => throw ⟨.other, "'list' object has no attribute 'get'"⟩
      | .dict entries => return (i, entries)

/-- The items of a list. -/
def itemsOf? (h : PyHeap) : PyObject → Option (List PyObject)
  | .leaf _ => none
  | .ref i =>
      match h.cells i with
      | .list items => some items
      | .dict _ => none

/-- `[]` or `{...}`, as a new container. -/
def newContainer (c : Cell Key PyObject) : PyM PyHeap PyObject := do
  let h ← get
  set (h.alloc c)
  return .ref h.next

/-- `dict[key] = item` of a dictionary on the heap. -/
def writeItem (i : ℕ) (key : String) (item : PyObject) : PyM PyHeap Unit :=
  modify fun h => h.write i (setItem (.text key) item (h.cells i))

/-- `dict.pop(key, None)` of a dictionary on the heap. -/
def popItem (i : ℕ) (key : String) : PyM PyHeap Unit :=
  modify fun h => h.write i <|
    match h.cells i with
    | .list items => .list items
    | .dict entries => .dict (entries.erase (.text key))

/-- `{"host": host, "port": port, "source": "legacy"}` -/
def legacyRoute (host : String) (port : ℤ) : Dict Key PyObject :=
  ((Dict.empty.insert (.text "host") (.leaf (.text host))).insert (.text "port")
    (.leaf (.int port))).insert (.text "source") (.leaf (.text "legacy"))

/-- The host and the port of an item without routes, if they are of the right types and there is a
host.  Source: `persistence.py`, `_migrate_single_routes`.  Kind: D -/
def legacyAddress? (entries : Dict Key PyObject) : Option (String × ℤ) :=
  if (entries.get? (.text "routes")).isSome then none
  else
    match entries.get? (.text "host"), entries.get? (.text "port") with
    | some (.leaf (.text host)), some (.leaf (.int port)) =>
        if host = "" then none else some (host, port)
    | _, _ => none

/-- `[{"host": host, "port": port, "source": "legacy"}]` -/
def newRoutes (host : String) (port : ℤ) : PyM PyHeap PyObject := do
  let route ← newContainer (.dict (legacyRoute host port))
  newContainer (.list [route])

/-- A round of the loop in `_migrate_single_routes`.
Source: `persistence.py`, `_migrate_single_routes`.  Kind: D -/
def migrateItem (item : PyObject) : PyM PyHeap Unit := do
  match item with
  | .leaf _ => return
  | .ref i =>
      let h ← get
      match h.cells i with
      | .list _ => return
      | .dict entries =>
          match legacyAddress? entries with
          | none => return
          | some (host, port) =>
              let routes ← newRoutes host port
              writeItem i "routes" routes

/-- Source: `persistence.py`, `_migrate_single_routes`.  Kind: D -/
def migrateSingleRoutes (items : PyObject) : PyM PyHeap Unit := do
  let h ← get
  match itemsOf? h items with
  | none => throw (stateDataError "route state is invalid")
  | some items => items.forM migrateItem

/-- `if name not in migrated: migrated[name] = []`
Source: `persistence.py`, `migrate_state`.  Kind: D -/
def addMissingList (migrated : PyObject) (name : String) : PyM PyHeap Unit := do
  let (i, entries) ← entriesOf migrated
  if (entries.get? (.text name)).isNone then
    let empty ← newContainer (.list [])
    writeItem i name empty

/-- `if not isinstance(migrated[name], list): raise error`
Source: `persistence.py`, `migrate_state`.  Kind: D -/
def checkList (migrated : PyObject) (name : String) (error : PyError) : PyM PyHeap Unit := do
  let (_, entries) ← entriesOf migrated
  match entries.get? (.text name) with
  | none => throw ⟨.key, name⟩
  | some items =>
      let h ← get
      raiseIf ((itemsOf? h items).isNone) error

/-- A list that is empty if it is missing.  Source: `persistence.py`, `migrate_state`.  Kind: D -/
def defaultList (migrated : PyObject) (name : String) (error : PyError) : PyM PyHeap Unit := do
  addMissingList migrated name
  checkList migrated name error

/-- `_migrate_single_routes(migrated[name])`.
Source: `persistence.py`, `migrate_state`.  Kind: D -/
def migrateNamedRoutes (migrated : PyObject) (name : String) : PyM PyHeap Unit := do
  let (_, entries) ← entriesOf migrated
  match entries.get? (.text name) with
  | none => throw ⟨.key, name⟩
  | some items => migrateSingleRoutes items

/-- `isinstance(value, str)`, of an object that may be missing. -/
def isTextObject : Option PyObject → Bool
  | some (.leaf (.text _)) => true
  | _ => false

/-- The part of `migrate_state` after the version, by kind.
Source: `persistence.py`, `migrate_state`.  Kind: D -/
def migrateKind (kind : String) (migrated : PyObject) : PyM PyHeap Unit := do
  if kind = "identity" then
    let (_, entries) ← entriesOf migrated
    raiseIf (isTextObject (entries.get? (.text "node_id")) = false ∨
      isTextObject (entries.get? (.text "secret")) = false)
      (stateDataError "identity state is invalid")
  else if kind = "trust" then
    defaultList migrated "grants" (stateDataError "trust grants state is invalid")
    defaultList migrated "trusted" (stateDataError "trust trusted state is invalid")
    defaultList migrated "pending" (stateDataError "trust pending state is invalid")
    migrateNamedRoutes migrated "grants"
    migrateNamedRoutes migrated "trusted"
    migrateNamedRoutes migrated "pending"
  else if kind = "cluster" then
    defaultList migrated "used_invites" (stateDataError "cluster invite state is invalid")
  else if kind = "routes" then
    let (_, entries) ← entriesOf migrated
    match entries.get? (.text "routes") with
    | some routes => migrateSingleRoutes routes
    | none =>
        let routes ← newContainer (.list [])
        migrateSingleRoutes routes
  else throw (stateDataError ("unknown state kind: " ++ kind))

/-- What `migrate_state` does with its copy.
Source: `persistence.py`, `migrate_state`.  Kind: D -/
def migrateCopy (kind : String) (migrated : PyObject) : PyM PyHeap PyObject := do
  let (i, entries) ← entriesOf migrated
  match (entries.get? (.text "schema_version")).getD
      ((entries.get? (.text "version")).getD (.leaf (.int 1))) with
  | .leaf (.int version) =>
      raiseIf (currentSchemaVersion < version ∨ version < 1)
        (stateDataError "unsupported state schema version")
      popItem i "version"
      writeItem i "schema_version" (.leaf (.int currentSchemaVersion))
      migrateKind kind migrated
      return migrated
  | _ => throw (stateDataError "state schema version is invalid")

/-- Source: `persistence.py`, `migrate_state`.  Kind: D -/
def migrateState (deepcopy : PyObject → PyM PyHeap PyObject) (calls : ℕ) (kind : String)
    (value : PyObject) : PyM PyHeap PyObject := do
  let migrated ← cloneState deepcopy calls value
  migrateCopy kind migrated

end ExpraConnect
