import ExpraConnect.Persistence.CloneFacts

/-!
# What a migration does

`migrate_state` works in place on a copy of the document. Here is what it means on trees.

* `migratedItem`, `migratedRoutes`, `migratedKind`, `migratedFields`: the migration of the entries of
  a document, as a function;
* `Fills`, `Migrated`: what it does to every field;
* `migratedFields_idem`, `migrated_of_migratedFields`: it is idempotent, and does just that;
* `KeptBySteps`, `jsonTree_migrated`, `fits_migrated`: the result is a JSON tree, which is not much
  deeper.
-/

namespace ExpraConnect

open ExpraConnect.Lib ExpraConnect.Lib.Graph

/-! ## Migration of trees -/

/-- The entries of a document. -/
abbrev DocumentFields := List (Key × PyTree)

/-- `fields.get(name)` -/
def fieldOf (name : String) (fields : DocumentFields) : Option PyTree :=
  Dict.lookupRaw (.text name) fields

/-- `fields[name] = value` -/
def setField (name : String) (value : PyTree) (fields : DocumentFields) : DocumentFields :=
  Dict.insertRaw (.text name) value fields

/-- The route of an item that had none. -/
def legacyRouteTree (host : String) (port : ℤ) : PyTree :=
  .dict [(.text "host", .leaf (.text host)), (.text "port", .leaf (.int port)),
    (.text "source", .leaf (.text "legacy"))]

/-- An item without routes, but with a host and a port, gets a route. -/
def migratedItem : PyTree → PyTree
  | .dict fields =>
      if (fieldOf "routes" fields).isSome then .dict fields
      else
        match fieldOf "host" fields, fieldOf "port" fields with
        | some (.leaf (.text host)), some (.leaf (.int port)) =>
            if host = "" then .dict fields
            else .dict (setField "routes" (.list [legacyRouteTree host port]) fields)
        | _, _ => .dict fields
  | t => t

/-- `_migrate_single_routes` of a field. -/
def migratedRoutes (name : String) (fields : DocumentFields) : Except PyError DocumentFields :=
  match fieldOf name fields with
  | none => .error ⟨.key, name⟩
  | some (.list items) => .ok (setField name (.list (items.map migratedItem)) fields)
  | some _ => .error (stateDataError "route state is invalid")

/-- A list that is empty if it is missing. -/
def withDefaultList (name : String) (error : PyError) (fields : DocumentFields) :
    Except PyError DocumentFields :=
  match fieldOf name fields with
  | none => .ok (setField name (.list []) fields)
  | some (.list _) => .ok fields
  | some _ => .error error

/-- A field is a text. -/
def isTextField (name : String) (fields : DocumentFields) : Bool :=
  match fieldOf name fields with
  | some (.leaf (.text _)) => true
  | _ => false

/-- The part after the version, by kind. -/
def migratedKind (kind : String) (fields : DocumentFields) : Except PyError DocumentFields :=
  if kind = "identity" then do
    raiseIf (isTextField "node_id" fields = false ∨ isTextField "secret" fields = false)
      (stateDataError "identity state is invalid")
    return fields
  else if kind = "trust" then do
    let fields ← withDefaultList "grants" (stateDataError "trust grants state is invalid") fields
    let fields ← withDefaultList "trusted" (stateDataError "trust trusted state is invalid") fields
    let fields ← withDefaultList "pending" (stateDataError "trust pending state is invalid") fields
    let fields ← migratedRoutes "grants" fields
    let fields ← migratedRoutes "trusted" fields
    migratedRoutes "pending" fields
  else if kind = "cluster" then
    withDefaultList "used_invites" (stateDataError "cluster invite state is invalid") fields
  else if kind = "routes" then
    if (fieldOf "routes" fields).isSome then migratedRoutes "routes" fields else .ok fields
  else .error (stateDataError ("unknown state kind: " ++ kind))

/-- The version of a document. -/
def versionOf (fields : DocumentFields) : PyTree :=
  (fieldOf "schema_version" fields).getD ((fieldOf "version" fields).getD (.leaf (.int 1)))

/-- The entries with the current version. -/
def stamped (fields : DocumentFields) : DocumentFields :=
  setField "schema_version" (.leaf (.int currentSchemaVersion))
    (Dict.eraseRaw (.text "version") fields)

/-- The migration of the entries of a document. -/
def migratedFields (kind : String) (fields : DocumentFields) : Except PyError DocumentFields :=
  match versionOf fields with
  | .leaf (.int version) => do
      raiseIf (currentSchemaVersion < version ∨ version < 1)
        (stateDataError "unsupported state schema version")
      migratedKind kind (stamped fields)
  | _ => .error (stateDataError "state schema version is invalid")

/-! ## It is idempotent -/

variable {name key kind : String} {fields fields' : DocumentFields} {t : PyTree}

/-- What is read after a field is set.  Kind: L -/
theorem fieldOf_setField (name key : String) (t : PyTree) (fields : DocumentFields) :
    fieldOf key (setField name t fields) = if name = key then some t else fieldOf key fields := by
  unfold fieldOf setField
  rw [Dict.lookupRaw_insertRaw]
  simp only [Key.text.injEq]

/-- Migrating an item twice is migrating it once.  Kind: L -/
theorem migratedItem_idem (t : PyTree) : migratedItem (migratedItem t) = migratedItem t := by
  rcases t with x | items | fields
  · rfl
  · rfl
  rw [migratedItem]
  split_ifs with hroutes
  · rw [migratedItem, if_pos hroutes]
  · split
    · next host port hhost hport =>
        split_ifs with hempty
        · rw [migratedItem, if_neg hroutes]
          simp only [hhost, hport, if_pos hempty]
        · rw [migratedItem, if_pos (by rw [fieldOf_setField, if_pos rfl]; rfl)]
    · next hother =>
        rw [migratedItem, if_neg hroutes]
        split
        · next host port hhost hport => exact absurd hport (hother host port hhost)
        · rfl

/-- Setting a field leaves the others alone.  Kind: L -/
theorem fieldOf_setField_of_ne (h : key ≠ name) (t : PyTree) (fields : DocumentFields) :
    fieldOf key (setField name t fields) = fieldOf key fields := by
  rw [fieldOf_setField, if_neg (Ne.symm h)]

/-! ## What it does to every field -/

/-- What a part of a migration does to the fields: the items of the lists named `routed` are
migrated, the lists named `defaulted` are empty if they were missing, and every other field is the
same.  Kind: D -/
structure Fills (routed defaulted : List String) (fields fields' : DocumentFields) : Prop where
  gains : ∀ key ∈ routed, ∀ t, fieldOf key fields = some t →
    ∃ items, t = .list items ∧ fieldOf key fields' = some (.list (items.map migratedItem))
  kept : ∀ key ∉ routed, ∀ t, fieldOf key fields = some t → fieldOf key fields' = some t
  added : ∀ key, fieldOf key fields = none →
    fieldOf key fields' = if key ∈ defaulted then some (.list []) else none

/-- Nothing to do.  Kind: L -/
theorem Fills.refl (fields : DocumentFields) : Fills [] [] fields fields where
  gains _ hkey := absurd hkey List.not_mem_nil
  kept _ _ _ ht := ht
  added _ hnone := by rw [if_neg List.not_mem_nil, hnone]

/-- A field that a part does not name is the same.  Kind: L -/
theorem Fills.other {routed defaulted : List String} (h : Fills routed defaulted fields fields')
    (hrouted : key ∉ routed) (hdefaulted : key ∉ defaulted) :
    fieldOf key fields' = fieldOf key fields := by
  rcases hfield : fieldOf key fields with _ | t
  · rw [h.added key hfield, if_neg hdefaulted]
  · exact h.kept key hrouted t hfield

/-- One part after another. An item that both migrate gains one route, not two.  Kind: L -/
theorem Fills.trans {routed₁ routed₂ defaulted₁ defaulted₂ : List String}
    {fields₁ fields₂ : DocumentFields} (h₁ : Fills routed₁ defaulted₁ fields fields₁)
    (h₂ : Fills routed₂ defaulted₂ fields₁ fields₂) :
    Fills (routed₁ ++ routed₂) (defaulted₁ ++ defaulted₂) fields fields₂ where
  gains key hkey t ht := by
    by_cases hfirst : key ∈ routed₁
    · obtain ⟨items, rfl, hmid⟩ := h₁.gains key hfirst t ht
      refine ⟨items, rfl, ?_⟩
      by_cases hsecond : key ∈ routed₂
      · obtain ⟨items', heq, hlast⟩ := h₂.gains key hsecond _ hmid
        cases heq
        rw [hlast, List.map_map]
        simp only [Function.comp_def, migratedItem_idem]
      · exact h₂.kept key hsecond _ hmid
    · have hsecond : key ∈ routed₂ := (List.mem_append.mp hkey).resolve_left hfirst
      exact h₂.gains key hsecond t (h₁.kept key hfirst t ht)
  kept key hkey t ht := by
    rw [List.mem_append, not_or] at hkey
    exact h₂.kept key hkey.2 t (h₁.kept key hkey.1 t ht)
  added key hnone := by
    have hmid := h₁.added key hnone
    by_cases hfirst : key ∈ defaulted₁
    · rw [if_pos hfirst] at hmid
      rw [if_pos (List.mem_append_left _ hfirst)]
      by_cases hsecond : key ∈ routed₂
      · obtain ⟨items, heq, hlast⟩ := h₂.gains key hsecond _ hmid
        cases heq
        exact hlast
      · exact h₂.kept key hsecond _ hmid
    · rw [if_neg hfirst] at hmid
      rw [h₂.added key hmid]
      simp only [List.mem_append, hfirst, false_or]

/-- A missing list is added, and nothing else changes.  Kind: L -/
theorem withDefaultList_fills {e : PyError} (h : withDefaultList name e fields = .ok fields') :
    Fills [] [name] fields fields' ∧ ∃ items, fieldOf name fields' = some (.list items) := by
  unfold withDefaultList at h
  split at h
  · next hmissing =>
      cases h
      refine ⟨⟨fun _ hkey => absurd hkey List.not_mem_nil, ?_, ?_⟩, [], ?_⟩
      · intro key _ t ht
        have hkey : key ≠ name := by
          rintro rfl
          rw [hmissing] at ht
          cases ht
        rw [fieldOf_setField_of_ne hkey, ht]
      · intro key hnone
        rw [fieldOf_setField, hnone]
        simp only [List.mem_singleton, eq_comm]
      · rw [fieldOf_setField, if_pos rfl]
  · next items hitems =>
      cases h
      refine ⟨⟨fun _ hkey => absurd hkey List.not_mem_nil, fun _ _ _ ht => ht, ?_⟩, items, hitems⟩
      intro key hnone
      have hkey : key ≠ name := by
        rintro rfl
        rw [hitems] at hnone
        cases hnone
      rw [if_neg fun hmem => hkey (List.mem_singleton.mp hmem), hnone]
  · cases h

/-- Migrated routes were a list, and every item is migrated.  Kind: L -/
theorem migratedRoutes_cases (h : migratedRoutes name fields = .ok fields') :
    ∃ items, fieldOf name fields = some (.list items) ∧
      fields' = setField name (.list (items.map migratedItem)) fields := by
  unfold migratedRoutes at h
  split at h
  · cases h
  · next items hitems =>
      cases h
      exact ⟨items, hitems, rfl⟩
  · cases h

/-- The field is a list of items that have been migrated. -/
def Settled (name : String) (fields : DocumentFields) : Prop :=
  ∃ items, fieldOf name fields = some (.list items) ∧ items.map migratedItem = items

/-- The items of one list are migrated, and nothing else changes.  Kind: L -/
theorem migratedRoutes_fills (h : migratedRoutes name fields = .ok fields') :
    Fills [name] [] fields fields' ∧ Settled name fields' := by
  obtain ⟨items, hitems, rfl⟩ := migratedRoutes_cases h
  refine ⟨⟨?_, ?_, ?_⟩, items.map migratedItem, ?_, ?_⟩
  · intro key hkey t ht
    cases List.mem_singleton.mp hkey
    rw [hitems] at ht
    cases ht
    exact ⟨items, rfl, by rw [fieldOf_setField, if_pos rfl]⟩
  · intro key hkey t ht
    rw [fieldOf_setField_of_ne fun heq => hkey (List.mem_singleton.mpr heq), ht]
  · intro key hnone
    have hkey : key ≠ name := by
      rintro rfl
      rw [hitems] at hnone
      cases hnone
    rw [fieldOf_setField_of_ne hkey, if_neg List.not_mem_nil, hnone]
  · rw [fieldOf_setField, if_pos rfl]
  · rw [List.map_map]
    simp only [Function.comp_def, migratedItem_idem]

/-- A list that the next part does not name stays settled.  Kind: L -/
theorem Settled.of_fills {routed defaulted : List String} (h : Settled name fields)
    (hfills : Fills routed defaulted fields fields') (hrouted : name ∉ routed) :
    Settled name fields' := by
  obtain ⟨items, hitems, hsame⟩ := h
  exact ⟨items, hfills.kept name hrouted _ hitems, hsame⟩

/-- On a settled field `withDefaultList` changes nothing.  Kind: L -/
theorem Settled.withDefaultList (h : Settled name fields) (e : PyError) :
    withDefaultList name e fields = .ok fields := by
  obtain ⟨items, hitems, -⟩ := h
  rw [ExpraConnect.withDefaultList, hitems]

/-- On a settled field `migratedRoutes` changes nothing.  Kind: L -/
theorem Settled.migratedRoutes (h : Settled name fields) :
    migratedRoutes name fields = .ok fields := by
  obtain ⟨items, hitems, hsame⟩ := h
  rw [ExpraConnect.migratedRoutes, hitems]
  dsimp only
  rw [hsame]
  exact congrArg Except.ok (Dict.insertRaw_of_lookupRaw hitems)

/-- The lists whose items gain routes, by kind.  Kind: D -/
def routedNames (kind : String) : List String :=
  if kind = "trust" then ["grants", "trusted", "pending"]
  else if kind = "routes" then ["routes"]
  else []

/-- The lists that are added if they are missing, by kind.  Kind: D -/
def defaultedNames (kind : String) : List String :=
  if kind = "trust" then ["grants", "trusted", "pending"]
  else if kind = "cluster" then ["used_invites"]
  else []

/-- The other fields are not routed.  Kind: L -/
theorem not_mem_routedNames (hkey : key ∉ ["grants", "trusted", "pending", "routes"]) :
    key ∉ routedNames kind := by
  simp only [List.mem_cons, List.not_mem_nil, or_false, not_or] at hkey
  unfold routedNames
  split_ifs <;> simp [hkey]

/-- The other fields have no default.  Kind: L -/
theorem not_mem_defaultedNames (hkey : key ∉ ["grants", "trusted", "pending", "used_invites"]) :
    key ∉ defaultedNames kind := by
  simp only [List.mem_cons, List.not_mem_nil, or_false, not_or] at hkey
  unfold defaultedNames
  split_ifs <;> simp [hkey]

/-- What a migration does to the fields besides the version, and what it leaves can be migrated
again, without a change.  Kind: L -/
theorem migratedKind_spec (h : migratedKind kind fields = .ok fields') :
    Fills (routedNames kind) (defaultedNames kind) fields fields' ∧
      migratedKind kind fields' = .ok fields' := by
  unfold migratedKind at h
  split_ifs at h with hidentity htrust hcluster hroutes hsome
  · obtain ⟨_, hcheck, hret⟩ := Except.bind_eq_ok.mp h
    cases hret
    subst hidentity
    refine ⟨.refl _, ?_⟩
    rw [migratedKind, if_pos rfl, hcheck]
    rfl
  · obtain ⟨f₁, h₁, h⟩ := Except.bind_eq_ok.mp h
    obtain ⟨f₂, h₂, h⟩ := Except.bind_eq_ok.mp h
    obtain ⟨f₃, h₃, h⟩ := Except.bind_eq_ok.mp h
    obtain ⟨f₄, h₄, h⟩ := Except.bind_eq_ok.mp h
    obtain ⟨f₅, h₅, h₆⟩ := Except.bind_eq_ok.mp h
    obtain ⟨m₁, -⟩ := withDefaultList_fills h₁
    obtain ⟨m₂, -⟩ := withDefaultList_fills h₂
    obtain ⟨m₃, -⟩ := withDefaultList_fills h₃
    obtain ⟨m₄, s₄⟩ := migratedRoutes_fills h₄
    obtain ⟨m₅, s₅⟩ := migratedRoutes_fills h₅
    obtain ⟨m₆, hpending⟩ := migratedRoutes_fills h₆
    have htrusted : Settled "trusted" fields' := s₅.of_fills m₆ (by decide)
    have hgrants : Settled "grants" fields' :=
      (s₄.of_fills m₅ (by decide)).of_fills m₆ (by decide)
    subst htrust
    refine ⟨((((m₁.trans m₂).trans m₃).trans m₄).trans m₅).trans m₆, ?_⟩
    rw [migratedKind, if_neg hidentity, if_pos rfl, hgrants.withDefaultList]
    dsimp only [bind, Except.bind]
    rw [htrusted.withDefaultList]
    dsimp only
    rw [hpending.withDefaultList]
    dsimp only
    rw [hgrants.migratedRoutes]
    dsimp only
    rw [htrusted.migratedRoutes]
    exact hpending.migratedRoutes
  · obtain ⟨m, items, hitems⟩ := withDefaultList_fills h
    subst hcluster
    refine ⟨m, ?_⟩
    rw [migratedKind, if_neg hidentity, if_neg htrust, if_pos rfl, withDefaultList, hitems]
  · obtain ⟨m, hsettled⟩ := migratedRoutes_fills h
    subst hroutes
    refine ⟨m, ?_⟩
    have hthere : (fieldOf "routes" fields').isSome = true := by
      obtain ⟨items, hitems, -⟩ := hsettled
      rw [hitems]
      rfl
    rw [migratedKind, if_neg hidentity, if_neg htrust, if_neg hcluster, if_pos rfl, if_pos hthere]
    exact hsettled.migratedRoutes
  · cases h
    subst hroutes
    have hnone : fieldOf "routes" fields = none := by simpa using hsome
    refine ⟨⟨?_, fun _ _ _ ht => ht, fun _ hmissing => hmissing⟩, ?_⟩
    · intro key hkey t ht
      cases List.mem_singleton.mp hkey
      rw [hnone] at ht
      cases ht
    · rw [migratedKind, if_neg hidentity, if_neg htrust, if_neg hcluster, if_pos rfl, if_neg hsome]

/-- The current version stays as it is.  Kind: L -/
theorem stamped_of_current (hversion : fieldOf "version" fields = none)
    (hschema : fieldOf "schema_version" fields = some (.leaf (.int currentSchemaVersion))) :
    stamped fields = fields := by
  have herase : Dict.eraseRaw (.text "version") fields = fields := by
    refine List.filter_eq_self.mpr ?_
    intro p hp
    refine decide_eq_true ?_
    rintro heq
    exact Dict.lookupRaw_eq_none_iff.mp hversion (heq ▸ List.mem_map_of_mem hp)
  rw [stamped, herase]
  exact Dict.insertRaw_of_lookupRaw hschema

/-- What is read of a stamped document.  Kind: L -/
theorem fieldOf_stamped (key : String) (fields : DocumentFields) :
    fieldOf key (stamped fields) =
      if key = "schema_version" then some (.leaf (.int currentSchemaVersion))
      else if key = "version" then none else fieldOf key fields := by
  rw [stamped, fieldOf_setField]
  by_cases hschema : key = "schema_version"
  · rw [if_pos hschema, if_pos hschema.symm]
  rw [if_neg hschema, if_neg (Ne.symm hschema), fieldOf, Dict.lookupRaw_eraseRaw]
  by_cases hversion : key = "version"
  · rw [if_pos hversion, if_pos (congrArg Key.text hversion.symm)]
  · rw [if_neg hversion, if_neg fun heq => hversion (Key.text.inj heq).symm]
    rfl

/-- No part touches the version.  Kind: L -/
theorem Fills.version (h : Fills (routedNames kind) (defaultedNames kind) (stamped fields) fields') :
    fieldOf "version" fields' = none := by
  rw [h.other (not_mem_routedNames (by decide)) (not_mem_defaultedNames (by decide)),
    fieldOf_stamped, if_neg (by decide), if_pos rfl]

/-- A filled document has the current version.  Kind: L -/
theorem Fills.schema (h : Fills (routedNames kind) (defaultedNames kind) (stamped fields) fields') :
    fieldOf "schema_version" fields' = some (.leaf (.int currentSchemaVersion)) := by
  rw [h.other (not_mem_routedNames (by decide)) (not_mem_defaultedNames (by decide)),
    fieldOf_stamped, if_pos rfl]

/-- Migrating what was migrated changes nothing.  Kind: L -/
theorem migratedFields_idem (h : migratedFields kind fields = .ok fields') :
    migratedFields kind fields' = .ok fields' := by
  unfold migratedFields at h
  split at h
  · next version hversion =>
      obtain ⟨_, -, hkind⟩ := Except.bind_eq_ok.mp h
      obtain ⟨hfills, hagain⟩ := migratedKind_spec hkind
      have hnone := hfills.version
      have hschema := hfills.schema
      have hcurrent : versionOf fields' = .leaf (.int currentSchemaVersion) := by
        rw [versionOf, hschema]
        rfl
      rw [migratedFields, hcurrent, stamped_of_current hnone hschema]
      exact hagain
  · cases h

/-- What `migrate_state` does to a document of a kind: the version is the current one, under its
new name; the items of the lists of the kind gain a legacy route, if they have a host and a port and
no routes; missing lists of the kind are added; every other field is the same.
Source: `persistence.py`, `migrate_state`.  Kind: D -/
structure Migrated (kind : String) (fields fields' : DocumentFields) : Prop where
  version : fieldOf "version" fields' = none
  schema : fieldOf "schema_version" fields' = some (.leaf (.int currentSchemaVersion))
  gains : ∀ key ∈ routedNames kind, ∀ t, fieldOf key fields = some t →
    ∃ items, t = .list items ∧ fieldOf key fields' = some (.list (items.map migratedItem))
  kept : ∀ key ∉ routedNames kind, key ≠ "version" → key ≠ "schema_version" →
    ∀ t, fieldOf key fields = some t → fieldOf key fields' = some t
  added : ∀ key, key ≠ "version" → key ≠ "schema_version" → fieldOf key fields = none →
    fieldOf key fields' = if key ∈ defaultedNames kind then some (.list []) else none

/-- What the migration of the fields returns is a migration of them, as `Migrated` says.
Kind: L -/
theorem migrated_of_migratedFields (h : migratedFields kind fields = .ok fields') :
    Migrated kind fields fields' := by
  unfold migratedFields at h
  split at h
  · obtain ⟨_, -, hkind⟩ := Except.bind_eq_ok.mp h
    obtain ⟨hfills, -⟩ := migratedKind_spec hkind
    have hstamped {key : String} (hversion : key ≠ "version") (hschema : key ≠ "schema_version") :
        fieldOf key (stamped fields) = fieldOf key fields := by
      rw [fieldOf_stamped, if_neg hschema, if_neg hversion]
    refine ⟨hfills.version, hfills.schema, ?_, ?_, ?_⟩
    · intro key hkey t ht
      have hversion : key ≠ "version" := by
        rintro rfl
        exact not_mem_routedNames (by decide) hkey
      have hschema : key ≠ "schema_version" := by
        rintro rfl
        exact not_mem_routedNames (by decide) hkey
      exact hfills.gains key hkey t (by rw [hstamped hversion hschema, ht])
    · intro key hkey hversion hschema t ht
      exact hfills.kept key hkey t (by rw [hstamped hversion hschema, ht])
    · intro key hversion hschema hnone
      exact hfills.added key (by rw [hstamped hversion hschema, hnone])
  · cases h

/-! ## What holds of every entry -/

/-- A property of entries that the steps keep is kept. -/
structure KeptBySteps (Q : Key × PyTree → Prop) : Prop where
  version : Q (.text "schema_version", .leaf (.int currentSchemaVersion))
  default : ∀ name, Q (.text name, .list [])
  routes : ∀ name items, Q (.text name, .list items) →
    Q (.text name, .list (items.map migratedItem))

variable {Q : Key × PyTree → Prop}

/-- What holds of the entries and of a new one holds after it is set.  Kind: L -/
theorem forall_setField (h : ∀ p ∈ fields, Q p) (hnew : Q (.text name, t)) :
    ∀ p ∈ setField name t fields, Q p := by
  intro p hp
  rcases Dict.mem_of_mem_insertRaw hp with rfl | hp
  · exact hnew
  · exact h p hp

/-- A field that is read is an entry.  Kind: L -/
theorem mem_of_fieldOf (h : fieldOf name fields = some t) : (.text name, t) ∈ fields := by
  unfold fieldOf at h
  induction fields with
  | nil => cases h
  | cons p fields ih =>
      obtain ⟨k, v⟩ := p
      by_cases hk : k = .text name
      · rw [Dict.lookupRaw, if_pos hk] at h
        cases h
        rw [hk]
        exact List.mem_cons_self
      · rw [Dict.lookupRaw, if_neg hk] at h
        exact List.mem_cons_of_mem _ (ih h)

/-- `withDefaultList` keeps what every step keeps.  Kind: L -/
theorem KeptBySteps.withDefaultList {e : PyError} (hQ : KeptBySteps Q)
    (h : withDefaultList name e fields = .ok fields') (hall : ∀ p ∈ fields, Q p) :
    ∀ p ∈ fields', Q p := by
  unfold ExpraConnect.withDefaultList at h
  split at h
  · cases h
    exact forall_setField hall (hQ.default name)
  · cases h
    exact hall
  · cases h

/-- `migratedRoutes` keeps what every step keeps.  Kind: L -/
theorem KeptBySteps.migratedRoutes (hQ : KeptBySteps Q)
    (h : migratedRoutes name fields = .ok fields') (hall : ∀ p ∈ fields, Q p) :
    ∀ p ∈ fields', Q p := by
  obtain ⟨items, hitems, rfl⟩ := migratedRoutes_cases h
  exact forall_setField hall (hQ.routes name items (hall _ (mem_of_fieldOf hitems)))

/-- `migratedFields` keeps what every step keeps.  Kind: L -/
theorem KeptBySteps.migratedFields (hQ : KeptBySteps Q)
    (h : migratedFields kind fields = .ok fields') (hall : ∀ p ∈ fields, Q p) :
    ∀ p ∈ fields', Q p := by
  unfold ExpraConnect.migratedFields at h
  split at h
  · obtain ⟨_, -, hkind⟩ := Except.bind_eq_ok.mp h
    have hstamped : ∀ p ∈ stamped fields, Q p :=
      forall_setField (fun p hp => hall p (List.mem_of_mem_filter hp)) hQ.version
    unfold migratedKind at hkind
    split_ifs at hkind
    · obtain ⟨_, -, hret⟩ := Except.bind_eq_ok.mp hkind
      cases hret
      exact hstamped
    · obtain ⟨f₁, h₁, hkind⟩ := Except.bind_eq_ok.mp hkind
      obtain ⟨f₂, h₂, hkind⟩ := Except.bind_eq_ok.mp hkind
      obtain ⟨f₃, h₃, hkind⟩ := Except.bind_eq_ok.mp hkind
      obtain ⟨f₄, h₄, hkind⟩ := Except.bind_eq_ok.mp hkind
      obtain ⟨f₅, h₅, h₆⟩ := Except.bind_eq_ok.mp hkind
      have hdefaults : ∀ p ∈ f₃, Q p :=
        hQ.withDefaultList h₃ (hQ.withDefaultList h₂ (hQ.withDefaultList h₁ hstamped))
      exact hQ.migratedRoutes h₆ (hQ.migratedRoutes h₅ (hQ.migratedRoutes h₄ hdefaults))
    · exact hQ.withDefaultList hkind hstamped
    · exact hQ.migratedRoutes hkind hstamped
    · cases hkind
      exact hstamped
  · cases h

/-- An item is a dictionary that is kept, or gets a route, or something else that is kept.
Kind: L -/
theorem migratedItem_cases (t : PyTree) :
    migratedItem t = t ∨ ∃ fields host port, t = .dict fields ∧
      migratedItem t = .dict (setField "routes" (.list [legacyRouteTree host port]) fields) := by
  rcases t with x | items | fields
  · exact .inl rfl
  · exact .inl rfl
  rw [migratedItem]
  split_ifs
  · exact .inl rfl
  · split
    · split_ifs
      · exact .inl rfl
      · exact .inr ⟨fields, _, _, rfl, rfl⟩
    · exact .inl rfl

/-- When a leaf is JSON.  Kind: L -/
theorem jsonTree_leaf_iff {x : Scalar} : JsonTree (.leaf x) ↔ x.isJson = true := by
  rw [jsonTree_iff]
  exact ⟨And.left, fun h => ⟨h, fun _ hs => absurd hs List.not_mem_nil⟩⟩

/-- When a list is JSON.  Kind: L -/
theorem jsonTree_list_iff {items : List PyTree} :
    JsonTree (.list items) ↔ ∀ t ∈ items, JsonTree t := by
  rw [jsonTree_iff]
  exact ⟨And.right, fun h => ⟨trivial, h⟩⟩

/-- When an object is JSON.  Kind: L -/
theorem jsonTree_dict_iff :
    JsonTree (.dict fields) ↔ ∀ p ∈ fields, p.1.isText = true ∧ JsonTree p.2 := by
  rw [jsonTree_iff]
  constructor
  · rintro ⟨hkeys, hchildren⟩ p hp
    exact ⟨hkeys p hp, hchildren p.2 (List.mem_map_of_mem hp)⟩
  · intro h
    refine ⟨fun p hp => (h p hp).1, ?_⟩
    exact List.forall_mem_map.mpr fun p hp => (h p hp).2

/-- The legacy route is JSON.  Kind: L -/
theorem jsonTree_legacyRouteTree (host : String) (port : ℤ) :
    JsonTree (legacyRouteTree host port) := by
  refine jsonTree_dict_iff.mpr ?_
  intro p hp
  simp only [List.mem_cons, List.not_mem_nil, or_false] at hp
  rcases hp with rfl | rfl | rfl
  · exact ⟨rfl, jsonTree_leaf_iff.mpr rfl⟩
  · exact ⟨rfl, jsonTree_leaf_iff.mpr rfl⟩
  · exact ⟨rfl, jsonTree_leaf_iff.mpr rfl⟩

/-- A migrated item is JSON.  Kind: L -/
theorem jsonTree_migratedItem (h : JsonTree t) : JsonTree (migratedItem t) := by
  rcases migratedItem_cases t with heq | ⟨fields, host, port, rfl, heq⟩
  · rw [heq]
    exact h
  · rw [heq]
    refine jsonTree_dict_iff.mpr (forall_setField (jsonTree_dict_iff.mp h) ⟨rfl, ?_⟩)
    exact jsonTree_list_iff.mpr fun t ht => by
      rw [List.mem_singleton.mp ht]
      exact jsonTree_legacyRouteTree host port

/-- The migration of a JSON tree is one.  Kind: L -/
theorem jsonTree_migrated (h : migratedFields kind fields = .ok fields')
    (hjson : JsonTree (.dict fields)) : JsonTree (.dict fields') := by
  have hsteps : KeptBySteps fun p : Key × PyTree => p.1.isText = true ∧ JsonTree p.2 := by
    refine ⟨⟨rfl, jsonTree_leaf_iff.mpr rfl⟩, fun name => ⟨rfl, ?_⟩, fun name items hitems => ⟨rfl, ?_⟩⟩
    · exact jsonTree_list_iff.mpr fun t ht => absurd ht List.not_mem_nil
    · refine jsonTree_list_iff.mpr (List.forall_mem_map.mpr fun t ht => ?_)
      exact jsonTree_migratedItem (jsonTree_list_iff.mp hitems.2 t ht)
  exact jsonTree_dict_iff.mpr (hsteps.migratedFields h (jsonTree_dict_iff.mp hjson))

/-- A leaf fits in one level.  Kind: L -/
theorem fits_leaf (n : ℕ) (x : Scalar) : (Tree.leaf x : PyTree).Fits (n + 1) :=
  Tree.fits_succ_iff.mpr fun _ hs => absurd hs List.not_mem_nil

/-- A list fits if its items fit in one level less.  Kind: L -/
theorem fits_list_iff {n : ℕ} {items : List PyTree} :
    (Tree.list items).Fits (n + 1) ↔ ∀ t ∈ items, t.Fits n := Tree.fits_succ_iff

/-- An object fits if its values fit in one level less.  Kind: L -/
theorem fits_dict_iff {n : ℕ} :
    (Tree.dict fields).Fits (n + 1) ↔ ∀ p ∈ fields, p.2.Fits n := by
  rw [Tree.fits_succ_iff]
  exact List.forall_mem_map

/-- A migrated item fits where the item did.  Kind: L -/
theorem fits_migratedItem {n : ℕ} (h : t.Fits (n + 4)) : (migratedItem t).Fits (n + 4) := by
  rcases migratedItem_cases t with heq | ⟨fields, host, port, rfl, heq⟩
  · rw [heq]
    exact h
  · rw [heq]
    refine fits_dict_iff.mpr
      (forall_setField (Q := fun p => p.2.Fits (n + 3)) (fits_dict_iff.mp h) ?_)
    refine fits_list_iff.mpr fun t ht => ?_
    rw [List.mem_singleton.mp ht]
    refine fits_dict_iff.mpr ?_
    intro p hp
    simp only [List.mem_cons, List.not_mem_nil, or_false] at hp
    rcases hp with rfl | rfl | rfl <;> exact fits_leaf n _

/-- The migration of a document has no more levels than the document, or than a route has.
Kind: L -/
theorem fits_migrated {n : ℕ} (h : migratedFields kind fields = .ok fields')
    (hfits : (Tree.dict fields).Fits (n + 6)) : (Tree.dict fields').Fits (n + 6) := by
  have hsteps : KeptBySteps fun p : Key × PyTree => p.2.Fits (n + 5) := by
    refine ⟨fits_leaf _ _, fun name => ?_, fun name items hitems => ?_⟩
    · exact fits_list_iff.mpr fun t ht => absurd ht List.not_mem_nil
    · refine fits_list_iff.mpr (List.forall_mem_map.mpr fun t ht => ?_)
      exact fits_migratedItem (fits_list_iff.mp hitems t ht)
  exact fits_dict_iff.mpr (hsteps.migratedFields h (fits_dict_iff.mp hfits))

end ExpraConnect
