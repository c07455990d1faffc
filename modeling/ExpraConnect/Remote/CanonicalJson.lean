import ExpraConnect.Lib.Json
import ExpraConnect.Remote.WireProtocol

/-!
# Values as JSON texts

`json.dumps` and `json.loads` over the values of envelopes, for a given way to write floats.

* `Value.toJson`, `Value.ofJson`: a value without host objects is a JSON value;
* `dumps`, `loadText`, `jsonCodec`: the codec whose texts are JSON, with the interpreter's limit on
  the digits of an integer;
* `loads_dumps`: a JSON tree is read as it was written, with or without blanks;
* `Value.unordered`, `unordered_of_canonical`: `_canonical` is injective up to the order of keys;
* `getField_of_unordered`: objects that agree up to the order of keys agree on every field.
-/

namespace ExpraConnect

open ExpraConnect.Lib

/-! ## JSON values -/

namespace Value

mutual

/-- A JSON value as a value. -/
def ofJson : Json String PyFloat → Value
  | .null => .null
  | .bool b => .bool b
  | .int n => .int n
  | .float x => .float x
  | .str s => .str s
  | .list items => .list (ofJsonItems items)
  | .dict fields => .dict (ofJsonFields fields)

/-- `ofJson` of every item. -/
def ofJsonItems : List (Json String PyFloat) → List Value
  | [] => []
  | j :: rest => ofJson j :: ofJsonItems rest

/-- `ofJson` of the value of every field. -/
def ofJsonFields : List (String × Json String PyFloat) → Fields
  | [] => []
  | (k, j) :: rest => (k, ofJson j) :: ofJsonFields rest

end

mutual

/-- A value as a JSON value, if it holds no host object. -/
def toJson : Value → Option (Json String PyFloat)
  | .null => some .null
  | .bool b => some (.bool b)
  | .int n => some (.int n)
  | .float x => some (.float x)
  | .str s => some (.str s)
  | .list items => (toJsonItems items).map .list
  | .dict fields => (toJsonFields fields).map .dict
  | .foreign _ => none

/-- `toJson` of every item. -/
def toJsonItems : List Value → Option (List (Json String PyFloat))
  | [] => some []
  | v :: rest =>
      match v.toJson, toJsonItems rest with
      | some j, some js => some (j :: js)
      | _, _ => none

/-- `toJson` of the value of every field. -/
def toJsonFields : Fields → Option (List (String × Json String PyFloat))
  | [] => some []
  | (k, v) :: rest =>
      match v.toJson, toJsonFields rest with
      | some j, some js => some ((k, j) :: js)
      | _, _ => none

end

/-- A list is JSON if and only if its head and its tail are.  Kind: L -/
theorem toJsonItems_cons_eq_some {v : Value} {rest : List Value}
    {items : List (Json String PyFloat)} :
    toJsonItems (v :: rest) = some items ↔
      ∃ j js, v.toJson = some j ∧ toJsonItems rest = some js ∧ items = j :: js := by
  rw [toJsonItems]
  cases v.toJson <;> cases toJsonItems rest <;> simp [eq_comm]

/-- Fields are JSON if and only if the first and the rest are.  Kind: L -/
theorem toJsonFields_cons_eq_some {k : String} {v : Value} {rest : Fields}
    {fields : List (String × Json String PyFloat)} :
    toJsonFields ((k, v) :: rest) = some fields ↔
      ∃ j js, v.toJson = some j ∧ toJsonFields rest = some js ∧ fields = (k, j) :: js := by
  rw [toJsonFields]
  cases v.toJson <;> cases toJsonFields rest <;> simp [eq_comm]

mutual

/-- Nothing is lost on the way to JSON.  Kind: L -/
theorem ofJson_of_toJson :
    (v : Value) → ∀ {j : Json String PyFloat}, v.toJson = some j → ofJson j = v
  | .null, j, h => by
      rw [toJson, Option.some.injEq] at h
      rw [← h, ofJson]
  | .bool b, j, h => by
      rw [toJson, Option.some.injEq] at h
      rw [← h, ofJson]
  | .int n, j, h => by
      rw [toJson, Option.some.injEq] at h
      rw [← h, ofJson]
  | .float x, j, h => by
      rw [toJson, Option.some.injEq] at h
      rw [← h, ofJson]
  | .str s, j, h => by
      rw [toJson, Option.some.injEq] at h
      rw [← h, ofJson]
  | .list items, j, h => by
      rw [toJson, Option.map_eq_some_iff] at h
      obtain ⟨js, hitems, rfl⟩ := h
      rw [ofJson, ofJsonItems_of_toJsonItems items hitems]
  | .dict fields, j, h => by
      rw [toJson, Option.map_eq_some_iff] at h
      obtain ⟨js, hfields, rfl⟩ := h
      rw [ofJson, ofJsonFields_of_toJsonFields fields hfields]
  | .foreign _, j, h => by
      rw [toJson] at h
      cases h

/-- A list of values reads back from its JSON.  Kind: L -/
theorem ofJsonItems_of_toJsonItems : (items : List Value) → ∀ {js : List (Json String PyFloat)},
    toJsonItems items = some js → ofJsonItems js = items
  | [], js, h => by
      rw [toJsonItems, Option.some.injEq] at h
      rw [← h, ofJsonItems]
  | v :: rest, js, h => by
      obtain ⟨j, js, hv, hrest, rfl⟩ := toJsonItems_cons_eq_some.mp h
      rw [ofJsonItems, ofJson_of_toJson v hv, ofJsonItems_of_toJsonItems rest hrest]

/-- Fields read back from their JSON.  Kind: L -/
theorem ofJsonFields_of_toJsonFields : (fields : Fields) →
    ∀ {js : List (String × Json String PyFloat)}, toJsonFields fields = some js →
      ofJsonFields js = fields
  | [], js, h => by
      rw [toJsonFields, Option.some.injEq] at h
      rw [← h, ofJsonFields]
  | (k, v) :: rest, js, h => by
      obtain ⟨j, js, hv, hrest, rfl⟩ := toJsonFields_cons_eq_some.mp h
      rw [ofJsonFields, ofJson_of_toJson v hv, ofJsonFields_of_toJsonFields rest hrest]

end

mutual

/-- What `json.dumps` accepts is JSON.  Kind: L -/
theorem exists_toJson_of_encodable : (v : Value) → v.encodable = true → ∃ j, v.toJson = some j
  | .null, _ => ⟨_, toJson.eq_1⟩
  | .bool b, _ => ⟨_, toJson.eq_2 b⟩
  | .int n, _ => ⟨_, toJson.eq_3 n⟩
  | .float x, _ => ⟨_, toJson.eq_4 x⟩
  | .str s, _ => ⟨_, toJson.eq_5 s⟩
  | .list items, h => by
      rw [encodable] at h
      obtain ⟨js, hitems⟩ := exists_toJsonItems_of_encodable items h
      exact ⟨.list js, by rw [toJson, hitems, Option.map_some]⟩
  | .dict fields, h => by
      rw [encodable] at h
      obtain ⟨js, hfields⟩ := exists_toJsonFields_of_encodable fields h
      exact ⟨.dict js, by rw [toJson, hfields, Option.map_some]⟩
  | .foreign _, h => by
      rw [encodable] at h
      cases h

/-- Encodable items have a JSON list.  Kind: L -/
theorem exists_toJsonItems_of_encodable : (items : List Value) → encodableList items = true →
    ∃ js, toJsonItems items = some js
  | [], _ => ⟨[], toJsonItems.eq_1⟩
  | v :: rest, h => by
      rw [encodableList, Bool.and_eq_true] at h
      obtain ⟨j, hv⟩ := exists_toJson_of_encodable v h.1
      obtain ⟨js, hrest⟩ := exists_toJsonItems_of_encodable rest h.2
      exact ⟨j :: js, toJsonItems_cons_eq_some.mpr ⟨j, js, hv, hrest, rfl⟩⟩

/-- Encodable fields have a JSON object.  Kind: L -/
theorem exists_toJsonFields_of_encodable : (fields : Fields) → encodableFields fields = true →
    ∃ js, toJsonFields fields = some js
  | [], _ => ⟨[], toJsonFields.eq_1⟩
  | (k, v) :: rest, h => by
      rw [encodableFields, Bool.and_eq_true] at h
      obtain ⟨j, hv⟩ := exists_toJson_of_encodable v h.1
      obtain ⟨js, hrest⟩ := exists_toJsonFields_of_encodable rest h.2
      exact ⟨(k, j) :: js, toJsonFields_cons_eq_some.mpr ⟨j, js, hv, hrest, rfl⟩⟩

end

/-- The keys stay.  Kind: L -/
theorem keys_of_toJsonFields {fields : Fields} {js : List (String × Json String PyFloat)}
    (h : toJsonFields fields = some js) : js.map Prod.fst = fields.map Prod.fst := by
  induction fields generalizing js with
  | nil =>
      rw [toJsonFields, Option.some.injEq] at h
      rw [← h]
      rfl
  | cons p rest ih =>
      obtain ⟨j, js, -, hrest, rfl⟩ := toJsonFields_cons_eq_some.mp h
      rw [List.map_cons, List.map_cons, ih hrest]

/-- The fields stay.  Kind: L -/
theorem lookup_of_toJsonFields {fields : Fields} {js : List (String × Json String PyFloat)}
    (h : toJsonFields fields = some js) (key : String) :
    (Json.lookup key js).map some = (getField key fields).map toJson := by
  induction fields generalizing js with
  | nil =>
      rw [toJsonFields, Option.some.injEq] at h
      rw [← h]
      rfl
  | cons p rest ih =>
      obtain ⟨j, js, hv, hrest, rfl⟩ := toJsonFields_cons_eq_some.mp h
      rw [Json.lookup, getField]
      split_ifs
      · rw [Option.map_some, Option.map_some, hv]
      · exact ih hrest

/-! ## Up to the order of keys -/

/-- The value, if it is JSON, with the order of its keys forgotten. -/
def unordered (v : Value) : Option (Json String PyFloat) := v.toJson.map Json.sorted

/-- Objects that are equal up to the order of keys have equal fields, again up to that order.
Kind: L -/
theorem getField_of_unordered {fields fields' : Fields}
    {js js' : List (String × Json String PyFloat)} (h : toJsonFields fields = some js)
    (h' : toJsonFields fields' = some js') (heq : (Json.dict js).sorted = (Json.dict js').sorted)
    (key : String) :
    (getField key fields).map unordered = (getField key fields').map unordered := by
  have hmap : ∀ o : Option Value, o.map unordered = (o.map toJson).map (Option.map Json.sorted) :=
    fun o => by rw [Option.map_map]; rfl
  have hsome : ∀ o : Option (Json String PyFloat),
      (o.map some).map (Option.map Json.sorted) = (o.map Json.sorted).map some := fun o => by
    rw [Option.map_map, Option.map_map]
    rfl
  rw [hmap, hmap, ← lookup_of_toJsonFields h, ← lookup_of_toJsonFields h', hsome, hsome,
    Json.lookup_of_sorted heq]

/-- What `sign_request` and `sign_response` can sign: a tree of dictionaries, lists, texts, finite
numbers, Booleans and `None`; a dictionary has one value for each key, and no integer has more
digits than the interpreter converts.  Kind: D -/
structure JsonTree (v : Value) (limit : Option ℕ) : Prop where
  /-- No host object and no infinite float. -/
  encodable : v.encodable = true
  /-- No key twice, and no overlong integer. -/
  distinct : ∃ j, v.toJson = some j ∧ j.Distinct ∧ j.intsWithin limit = true

variable {limit : Option ℕ}

/-- `None` is a JSON tree.  Kind: L -/
theorem jsonTree_null : Value.null.JsonTree limit := ⟨rfl, .null, rfl, trivial, rfl⟩

/-- A boolean is a JSON tree.  Kind: L -/
theorem jsonTree_bool (b : Bool) : (Value.bool b).JsonTree limit :=
  ⟨rfl, .bool b, rfl, trivial, rfl⟩

/-- A text is a JSON tree.  Kind: L -/
theorem jsonTree_str (s : String) : (Value.str s).JsonTree limit :=
  ⟨rfl, .str s, rfl, trivial, rfl⟩

/-- A finite number is a JSON tree.  Kind: L -/
theorem jsonTree_finite (q : ℚ) : (Value.float (.finite q)).JsonTree limit :=
  ⟨rfl, .float (.finite q), rfl, trivial, rfl⟩

/-- A dictionary of trees under distinct keys is a tree.  Kind: L -/
theorem jsonTree_dict {fields : Fields} (hkeys : (fields.map Prod.fst).Nodup)
    (h : ∀ p ∈ fields, p.2.JsonTree limit) : (Value.dict fields).JsonTree limit := by
  have hfields : encodableFields fields = true ∧ ∃ js, toJsonFields fields = some js ∧
      Json.DistinctFields js ∧ Json.intsWithinFields limit js = true := by
    clear hkeys
    induction fields with
    | nil => exact ⟨rfl, [], rfl, trivial, rfl⟩
    | cons p rest ih =>
        obtain ⟨henc, j, hj, hd, hj'⟩ := h p List.mem_cons_self
        obtain ⟨hencs, js, hjs, hds, hjs'⟩ := ih fun q hq => h q (List.mem_cons_of_mem _ hq)
        refine ⟨?_, (p.1, j) :: js, toJsonFields_cons_eq_some.mpr ⟨j, js, hj, hjs, rfl⟩, ?_, ?_⟩
        · rw [encodableFields, henc, hencs, Bool.and_true]
        · rw [Json.DistinctFields]
          exact ⟨hd, hds⟩
        · rw [Json.intsWithinFields, hj', hjs', Bool.and_true]
  obtain ⟨henc, js, hjs, hd, hjs'⟩ := hfields
  refine ⟨by rw [encodable, henc], .dict js, by rw [toJson, hjs, Option.map_some], ?_, ?_⟩
  · rw [Json.Distinct, keys_of_toJsonFields hjs]
    exact ⟨hkeys, hd⟩
  · rw [Json.intsWithin, hjs']

end Value

/-! ## Texts -/

section texts

variable (N : FloatFormat PyFloat) (limit : Option ℕ)

/-- `json.dumps(value)`, or with `separators=(",", ":")` if not `spaced`.  An integer with more
digits than `limit` cannot be written. -/
def dumps (spaced : Bool) (v : Value) : Except PyError String :=
  match v.toJson with
  | some j =>
      if j.intsWithin limit then .ok (String.ofList (j.write N spaced))
      else .error ⟨.value, "Exceeds the limit for integer string conversion"⟩
  | none => .error ⟨.type, "Object is not JSON serializable"⟩

/-- `json.loads(text)`; what it refuses is a `ValueError`. -/
def loadText (text : String) : Except PyError Value :=
  match (Json.loads N limit (points text) : Option (Json String PyFloat)) with
  | some j => .ok (Value.ofJson j)
  | none => .error ⟨.value, "Expecting value"⟩

/-- The standard library over JSON texts; `limit` is `sys.get_int_max_str_digits()`.  `_canonical`
asks `canonical` of encodable values only, whose integers are within the limit when they were read
from a text.
Source: `remote/wire_protocol.py`, `_canonical`.  Kind: D -/
def jsonCodec (hmac : String → String → String) (isAlnum isSpace : Char → Bool) : Codec where
  loads := loadText N limit
  canonical v := v.toJson.elim "" fun j => String.ofList (j.canonical N)
  compactLength v := v.toJson.elim 0 fun j => (j.write N false).length
  hmac := hmac
  isAlnum := isAlnum
  isSpace := isSpace

variable {N limit} {hmac : String → String → String} {isAlnum isSpace : Char → Bool}

/-- A tree is read as it was written.  Kind: L -/
theorem loads_dumps {v : Value} (h : v.JsonTree limit) (spaced : Bool) :
    ∃ text, dumps N limit spaced v = .ok text ∧
      (jsonCodec N limit hmac isAlnum isSpace).loads text = .ok v := by
  obtain ⟨-, j, hj, hd, hwithin⟩ := h
  refine ⟨String.ofList (j.write N spaced), ?_, ?_⟩
  · unfold dumps
    rw [hj]
    dsimp only
    rw [if_pos hwithin]
  · have hread : Json.loads N limit (points (String.ofList (j.write N spaced))) = some j := by
      rw [points_ofList, Json.loads_write spaced hd (j.joined_eq fun _ => rfl) hwithin]
    show loadText N limit _ = _
    unfold loadText
    rw [hread]
    exact congrArg Except.ok (Value.ofJson_of_toJson v hj)

/-- `_canonical` determines a dictionary up to the order of its keys.  Kind: L -/
theorem sorted_of_canonical {fields fields' : Fields}
    (henc : Value.encodableFields fields = true) (henc' : Value.encodableFields fields' = true)
    (h : (jsonCodec N limit hmac isAlnum isSpace).canonical (.dict fields) =
      (jsonCodec N limit hmac isAlnum isSpace).canonical (.dict fields')) :
    ∃ js js', Value.toJsonFields fields = some js ∧ Value.toJsonFields fields' = some js' ∧
      (Json.dict js).sorted = (Json.dict js').sorted := by
  obtain ⟨js, hjs⟩ := Value.exists_toJsonFields_of_encodable fields henc
  obtain ⟨js', hjs'⟩ := Value.exists_toJsonFields_of_encodable fields' henc'
  refine ⟨js, js', hjs, hjs', Json.canonical_injective (N := N) (fun _ => rfl) ?_⟩
  dsimp only [jsonCodec] at h
  rw [Value.toJson, Value.toJson, hjs, hjs'] at h
  exact String.ofList_injective h

end texts

end ExpraConnect
