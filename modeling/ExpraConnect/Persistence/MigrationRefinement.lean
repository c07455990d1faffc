import ExpraConnect.Persistence.MigrationFacts

/-!
# Migration in place and migration of trees

* `migrateItem_spec`, `migrateSingleRoutes_spec`: the loop over the items computes `migratedItem`;
* `Draft`, `Refines`: a document in containers of its own, and steps on it that compute a function of
  its entries;
* `refines_stamp`, `refines_defaultList`, `refines_migrateNamedRoutes`, `refines_migrateKind`: the
  steps of `migrate_state`;
* `migrateState_spec`: `migrate_state` computes `migratedFields`;
* `migrate_state_conservative`: it is idempotent, does what `Migrated` says, and leaves the original
  alone.
-/

namespace ExpraConnect

open ExpraConnect.Lib ExpraConnect.Lib.Graph

variable {h h₀ : PyHeap} {fields fields' : DocumentFields} {entries : Dict Key PyObject}
  {t : PyTree} {o : PyObject} {F G : List ℕ} {r : ℕ} {name : String} {e : PyError}

/-! ## The items -/

/-- The list of a new route.  Kind: L -/
theorem newRoutes_spec (h : PyHeap) (host : String) (port : ℤ) :
    ∃ h' N o, newRoutes host port h = .ok o h' ∧ Changes h [] h' N ∧
      Owns h' (.list [legacyRouteTree host port]) o N := by
  set h₁ : PyHeap := h.alloc (.dict (legacyRoute host port)) with hh₁
  set h₂ : PyHeap := h₁.alloc (.list [.ref h.next]) with hh₂
  have hfirst : Changes h [] h₁ [h.next] := changes_alloc _ _
  have hsecond : Changes h₁ [h.next] h₂ [h₁.next, h.next] := by
    have hkept : Changes h₂ [h.next] h₂ [h.next] :=
      .refl (fun i hi => (hfirst.lt i hi).trans_le (Nat.le_succ _)) (List.nodup_singleton _)
    exact (changes_alloc h₁ _).append hkept hfirst.lt (List.disjoint_nil_left _)
  refine ⟨h₂, [h₁.next, h.next], .ref h₁.next, rfl, hfirst.trans hsecond, ?_⟩
  have hroute : h₂.cells h.next = .dict (legacyRoute host port) := by
    rw [hh₂, Heap.cells_alloc_of_ne _ _ (by rw [hh₁, Heap.next_alloc]; omega), hh₁,
      Heap.cells_alloc_self]
  have hlist : h₂.cells h₁.next = .list [.ref h.next] := Heap.cells_alloc_self _ _
  refine owns_list_iff.mpr ⟨h₁.next, [.ref h.next], [h.next], rfl, rfl, hlist, ?_⟩
  have hone : Owns h₂ (legacyRouteTree host port) (.ref h.next) [h.next] := by
    refine owns_dict_iff.mpr ⟨h.next, _, [], rfl, rfl, hroute, ?_⟩
    exact .cons (F := []) ⟨rfl, rfl⟩ (.cons (F := []) ⟨rfl, rfl⟩ (.cons (F := []) ⟨rfl, rfl⟩ .nil))
  exact .cons hone .nil

/-- The address of an item decides what it becomes.  Kind: L -/
theorem legacyAddress?_spec (howns : OwnsAll h fields entries.entries G) :
    (legacyAddress? entries = none ∧ migratedItem (.dict fields) = .dict fields) ∨
    ∃ host port, legacyAddress? entries = some (host, port) ∧ fieldOf "routes" fields = none ∧
      migratedItem (.dict fields) =
        .dict (setField "routes" (.list [legacyRouteTree host port]) fields) := by
  have hroutes : (entries.get? (.text "routes")).isSome = (fieldOf "routes" fields).isSome :=
    howns.isSome_lookup _
  have hleaf {name : String} {x : Scalar} :
      entries.get? (.text name) = some (.leaf x) ↔ fieldOf name fields = some (.leaf x) :=
    howns.lookup_leaf_iff
  rw [legacyAddress?, migratedItem, hroutes]
  by_cases hsome : (fieldOf "routes" fields).isSome
  · exact .inl ⟨if_pos hsome, if_pos hsome⟩
  rw [if_neg hsome, if_neg hsome]
  split
  · next host port hhost hport =>
      rw [hleaf.mp hhost, hleaf.mp hport]
      by_cases hempty : host = ""
      · exact .inl ⟨if_pos hempty, if_pos hempty⟩
      · exact .inr ⟨host, port, if_neg hempty, Option.not_isSome_iff_eq_none.mp hsome, if_neg hempty⟩
  · next hother =>
      refine .inl ⟨rfl, ?_⟩
      split
      · next host port hhost hport =>
          exact (hother host port (hleaf.mpr hhost) (hleaf.mpr hport)).elim
      · rfl

/-- A round of the loop computes `migratedItem`.  Kind: L -/
theorem migrateItem_spec (howns : Owns h t o F) (hlt : ∀ i ∈ F, i < h.next) (hnodup : F.Nodup) :
    ∃ h' F', migrateItem o h = .ok () h' ∧ Changes h F h' F' ∧ Owns h' (migratedItem t) o F' := by
  rcases t with x | trees | fields
  · obtain ⟨rfl, rfl⟩ := owns_leaf_iff.mp howns
    exact ⟨h, [], rfl, .refl hlt hnodup, howns⟩
  · obtain ⟨i, items, G, rfl, rfl, hi, -⟩ := owns_list_iff.mp howns
    refine ⟨h, i :: G, ?_, .refl hlt hnodup, howns⟩
    rw [migrateItem, PyM.bind_apply, PyM.get_apply]
    dsimp only
    rw [hi]
    rfl
  obtain ⟨i, entries, G, rfl, rfl, hi, hentries⟩ := owns_dict_iff.mp howns
  rw [migrateItem, PyM.bind_apply, PyM.get_apply]
  dsimp only
  rw [hi]
  dsimp only
  rcases legacyAddress?_spec hentries with ⟨hnone, hsame⟩ | ⟨host, port, hsome, hfresh, hnew⟩
  · rw [hnone, hsame]
    exact ⟨h, i :: G, rfl, .refl hlt hnodup, howns⟩
  · rw [hsome, hnew]
    dsimp only
    obtain ⟨h', N, o, hok, hchanges, hroutes⟩ := newRoutes_spec h host port
    have hnone : Dict.lookupRaw (.text "routes") entries.entries = none :=
      hentries.lookup_none_iff.mpr hfresh
    obtain ⟨hall, hregion⟩ := owns_insert_new hentries hlt hnodup hchanges hroutes hnone
    refine ⟨_, _, ?_, hregion, owns_dict_iff.mpr ⟨i, _, _, rfl, rfl, Heap.cells_write_self .., hall⟩⟩
    have hcell : h'.cells i = .dict entries := by
      rw [hchanges.frame i (hlt i List.mem_cons_self) List.not_mem_nil, hi]
    rw [PyM.bind_apply, hok]
    dsimp only
    rw [writeItem, PyM.modify_apply, hcell]
    rfl

/-- The loop computes `migratedItem` of every item.  Kind: L -/
theorem migrateItems_spec {trees : List PyTree} {items : List PyObject}
    (howns : OwnsAll h (trees.map (Prod.mk ())) (items.map (Prod.mk ())) F)
    (hlt : ∀ i ∈ F, i < h.next) (hnodup : F.Nodup) :
    ∃ h' F', items.forM migrateItem h = .ok () h' ∧ Changes h F h' F' ∧
      OwnsAll h' ((trees.map migratedItem).map (Prod.mk ())) (items.map (Prod.mk ())) F' := by
  induction trees generalizing items F h with
  | nil =>
      rcases items with _ | ⟨o, items⟩
      · cases howns
        exact ⟨h, [], rfl, .refl hlt hnodup, .nil⟩
      · cases howns
  | cons t trees ih =>
      rcases items with _ | ⟨o, items⟩
      · cases howns
      rcases howns with _ | @⟨_, _, _, F₁, F₂, _, _, hfirst, hrest⟩
      obtain ⟨hnodup₁, hnodup₂, hapart⟩ := List.nodup_append'.mp hnodup
      have hlt₂ : ∀ i ∈ F₂, i < h.next := fun i hi => hlt i (List.mem_append_right _ hi)
      obtain ⟨h₁, F₁', hone, hchanges, hitem⟩ :=
        migrateItem_spec hfirst (fun i hi => hlt i (List.mem_append_left _ hi)) hnodup₁
      obtain ⟨h', F₂', hmore, hchanges', hitems⟩ :=
        ih (hrest.frame (hchanges.same hlt₂ hapart))
          (fun i hi => (hlt₂ i hi).trans_le hchanges.next_le) hnodup₂
      have hboth : Changes h (F₁ ++ F₂) h' (F₁' ++ F₂') := hchanges.append hchanges' hlt₂ hapart
      have hkept : Owns h' (migratedItem t) o F₁' :=
        Owns.frame _ hitem (hchanges'.same hchanges.lt (hchanges.disjoint hlt₂ hapart).symm)
      refine ⟨h', F₁' ++ F₂', ?_, hboth, .cons hkept hitems⟩
      show (migrateItem o >>= fun _ => items.forM migrateItem) h = _
      rw [PyM.bind_apply, hone]
      exact hmore

/-- The items of an object that stands for a tree.  Kind: L -/
theorem itemsOf?_spec (howns : Owns h t o F) :
    (∃ i items trees G, t = .list trees ∧ o = .ref i ∧ F = i :: G ∧ itemsOf? h o = some items ∧
      h.cells i = .list items ∧ OwnsAll h (trees.map (Prod.mk ())) (items.map (Prod.mk ())) G) ∨
    ((∀ trees, t ≠ .list trees) ∧ itemsOf? h o = none) := by
  rcases t with x | trees | fields
  · obtain ⟨rfl, -⟩ := owns_leaf_iff.mp howns
    exact .inr ⟨nofun, rfl⟩
  · obtain ⟨i, items, G, rfl, rfl, hi, hitems⟩ := owns_list_iff.mp howns
    refine .inl ⟨i, items, trees, G, rfl, rfl, rfl, ?_, hi, hitems⟩
    rw [itemsOf?, hi]
  · obtain ⟨i, entries, G, rfl, rfl, hi, -⟩ := owns_dict_iff.mp howns
    refine .inr ⟨nofun, ?_⟩
    rw [itemsOf?, hi]

/-- `_migrate_single_routes` of a list computes `migratedItem` of its items.  Kind: L -/
theorem migrateSingleRoutes_spec (howns : Owns h t o F) (hlt : ∀ i ∈ F, i < h.next)
    (hnodup : F.Nodup) :
    (∃ trees h' F', t = .list trees ∧ migrateSingleRoutes o h = .ok () h' ∧ Changes h F h' F' ∧
      Owns h' (.list (trees.map migratedItem)) o F') ∨
    ((∀ trees, t ≠ .list trees) ∧
      migrateSingleRoutes o h = .error (stateDataError "route state is invalid") h) := by
  rcases itemsOf?_spec howns with ⟨i, items, trees, G, rfl, rfl, rfl, hitems?, hi, hitems⟩ |
    ⟨hnot, hitems?⟩
  · simp only [migrateSingleRoutes, PyM.bind_apply, PyM.get_apply, hitems?]
    obtain ⟨hout, hnodupG⟩ := List.nodup_cons.mp hnodup
    obtain ⟨h', G', hok, hchanges, hmigrated⟩ :=
      migrateItems_spec hitems (fun j hj => hlt j (List.mem_cons_of_mem _ hj)) hnodupG
    have hinside : Changes h (i :: G) h' (i :: G') := by
      have happend := (hchanges.inside (A := [i]) (B := []) (by simpa using hlt) (by simpa using hnodup))
      simpa using happend
    refine .inl ⟨trees, h', i :: G', rfl, hok, hinside, owns_list_iff.mpr ⟨i, items, G', rfl, rfl, ?_,
      hmigrated⟩⟩
    rw [hchanges.frame i (hlt i List.mem_cons_self) hout, hi]
  · simp only [migrateSingleRoutes, PyM.bind_apply, PyM.get_apply, hitems?]
    exact .inr ⟨hnot, rfl⟩

/-! ## Steps on a document -/

/-- The dictionary at `r` stands for the fields, in containers newer than the heap `h₀`, which has
not changed. -/
def Draft (h₀ : PyHeap) (r : ℕ) (fields : DocumentFields) (h : PyHeap) : Prop :=
  ∃ entries G, h.cells r = .dict entries ∧ OwnsAll h fields entries.entries G ∧
    Changes h₀ [] h (r :: G)

/-- The call computes the function of the fields; where that is an error, the call raises it, and the
old heap has not changed. -/
def Refines (h₀ : PyHeap) (r : ℕ) (op : PyM PyHeap Unit)
    (f : DocumentFields → Except PyError DocumentFields) : Prop :=
  ∀ fields h, Draft h₀ r fields h →
    (∃ fields' h', f fields = .ok fields' ∧ op h = .ok () h' ∧ Draft h₀ r fields' h') ∨
    (∃ e h', f fields = .error e ∧ op h = .error e h' ∧ Changes h₀ [] h' [])

/-- One step after the other.  Kind: L -/
theorem Refines.bind {op op' : PyM PyHeap Unit} {f f' : DocumentFields → Except PyError DocumentFields}
    (hfirst : Refines h₀ r op f) (hsecond : Refines h₀ r op' f') :
    Refines h₀ r (do op; op') (fun fields => f fields >>= f') := by
  intro fields h hdraft
  rcases hfirst fields h hdraft with ⟨fields₁, h₁, hf, hop, hdraft₁⟩ | ⟨e, h', hf, hop, hchanges⟩
  · rw [PyM.bind_apply, hop]
    dsimp only
    rw [hf]
    exact hsecond fields₁ h₁ hdraft₁
  · refine .inr ⟨e, h', ?_, ?_, hchanges⟩
    · dsimp only
      rw [hf]
      rfl
    · rw [PyM.bind_apply, hop]

/-- A document is in no container of the old heap.  Kind: L -/
theorem Draft.changes_nil (hdraft : Draft h₀ r fields h) : Changes h₀ [] h [] := by
  obtain ⟨_, _, -, -, hchanges⟩ := hdraft
  exact hchanges.mono (List.nil_sublist _)

/-- An error leaves the document as it is.  Kind: L -/
theorem refines_error (hdraft : Draft h₀ r fields h) {op : PyM PyHeap Unit}
    {f : DocumentFields → Except PyError DocumentFields} (hf : f fields = .error e)
    (hop : op h = .error e h) :
    (∃ fields' h', f fields = .ok fields' ∧ op h = .ok () h' ∧ Draft h₀ r fields' h') ∨
    (∃ e h', f fields = .error e ∧ op h = .error e h' ∧ Changes h₀ [] h' []) :=
  .inr ⟨e, h, hf, hop, hdraft.changes_nil⟩

/-- New entries of the dictionary.  Kind: L -/
theorem draft_write (entries : Dict Key PyObject) (howns : OwnsAll h fields entries.entries G)
    (hchanges : Changes h₀ [] h (r :: G)) : Draft h₀ r fields (h.write r (.dict entries)) := by
  refine ⟨entries, G, Heap.cells_write_self .., ?_, ?_⟩
  · refine howns.frame fun i hi => Heap.cells_write_of_ne _ _ ?_
    rintro rfl
    exact (List.nodup_cons.mp hchanges.nodup).1 hi
  · exact hchanges.trans (changes_write hchanges.lt hchanges.nodup List.mem_cons_self _)

/-- Equation lemma of `entriesOf`.  Kind: L -/
theorem entriesOf_apply (hcell : h.cells r = .dict entries) :
    entriesOf (.ref r) h = .ok (r, entries) h := by
  rw [entriesOf, PyM.bind_apply, PyM.get_apply]
  dsimp only
  rw [hcell]
  rfl

/-- The version.  Kind: L -/
theorem refines_stamp :
    Refines h₀ r (do
      popItem r "version"
      writeItem r "schema_version" (.leaf (.int currentSchemaVersion)))
      (fun fields => .ok (stamped fields)) := by
  rintro fields h ⟨entries, G, hcell, howns, hchanges⟩
  have hpop : popItem r "version" h = .ok () (h.write r (.dict (entries.erase (.text "version")))) := by
    rw [popItem, PyM.modify_apply, hcell]
  obtain ⟨G₁, hsub₁, herased⟩ := howns.erase (.text "version")
  have hdraft₁ : Draft h₀ r (Dict.eraseRaw (.text "version") fields)
      (h.write r (.dict (entries.erase (.text "version")))) :=
    draft_write _ herased (hchanges.mono (hsub₁.cons_cons r))
  obtain ⟨entries₁, G₂, hcell₁, howns₁, hchanges₁⟩ := hdraft₁
  obtain ⟨G₃, hsub₂, hstamped⟩ :=
    howns₁.insert_leaf (.text "schema_version") (.int currentSchemaVersion)
  refine .inl ⟨_, _, rfl, ?_, draft_write (entries₁.insert (.text "schema_version") _)
    hstamped (hchanges₁.mono (hsub₂.cons_cons r))⟩
  rw [PyM.bind_apply, hpop]
  dsimp only
  rw [writeItem, PyM.modify_apply, hcell₁]
  rfl

/-- A name that is missing gets an empty list.  Kind: L -/
theorem addMissingList_spec (hdraft : Draft h₀ r fields h) (name : String) :
    ∃ h', addMissingList (.ref r) name h = .ok () h' ∧
      Draft h₀ r (if (fieldOf name fields).isSome then fields else setField name (.list []) fields) h' := by
  obtain ⟨entries, G, hcell, howns, hchanges⟩ := id hdraft
  rw [addMissingList, PyM.bind_apply, entriesOf_apply hcell]
  dsimp only
  have hsome : (entries.get? (.text name)).isSome = (fieldOf name fields).isSome :=
    howns.isSome_lookup _
  rw [← Option.not_isSome, hsome]
  by_cases hfield : (fieldOf name fields).isSome
  · rw [hfield]
    exact ⟨h, rfl, hdraft⟩
  rw [if_neg hfield, Bool.not_eq_true _ |>.mp hfield]
  have hnone : entries.get? (.text name) = none := by
    rw [← Option.not_isSome_iff_eq_none, hsome]
    exact hfield
  have hempty : Owns (h.alloc (.list [])) (.list []) (.ref h.next) [h.next] :=
    owns_list_iff.mpr ⟨h.next, [], [], rfl, rfl, Heap.cells_alloc_self .., .nil⟩
  have hnew : Changes h [] (h.alloc (.list [])) [h.next] := changes_alloc h _
  obtain ⟨hall, hregion⟩ := owns_insert_new howns hchanges.lt hchanges.nodup hnew hempty hnone
  refine ⟨_, ?_, _, _, Heap.cells_write_self .., hall, hchanges.trans hregion⟩
  have hkept : (h.alloc (.list [])).cells r = .dict entries := by
    rw [hnew.frame r (hchanges.lt r List.mem_cons_self) List.not_mem_nil, hcell]
  show writeItem r name (.ref h.next) (h.alloc (.list [])) = _
  rw [writeItem, PyM.modify_apply, hkept]
  rfl

/-- Equation lemma of `checkList`.  Kind: L -/
theorem checkList_apply (hdraft : Draft h₀ r fields h) (hfield : fieldOf name fields = some t)
    (e : PyError) :
    ((∃ items, t = .list items) ∧ checkList (.ref r) name e h = .ok () h) ∨
    ((∀ items, t ≠ .list items) ∧ checkList (.ref r) name e h = .error e h) := by
  obtain ⟨entries, G, hcell, howns, -⟩ := hdraft
  obtain ⟨o, F, hget, hone⟩ := howns.lookup_some hfield
  have hentry : entries.get? (.text name) = some o := hget
  rw [checkList, PyM.bind_apply, entriesOf_apply hcell]
  dsimp only
  rw [hentry]
  dsimp only
  rw [PyM.bind_apply, PyM.get_apply]
  dsimp only
  rw [PyM.raiseIf_apply]
  rcases itemsOf?_spec hone with ⟨_, _, trees, _, rfl, _, _, hitems, _, _⟩ | ⟨hnot, hitems⟩
  · rw [hitems]
    exact .inl ⟨⟨trees, rfl⟩, rfl⟩
  · rw [hitems]
    exact .inr ⟨hnot, rfl⟩

/-- A new list under a name that was missing.  Kind: L -/
theorem refines_defaultList (name : String) (e : PyError) :
    Refines h₀ r (defaultList (.ref r) name e) (withDefaultList name e) := by
  intro fields h hdraft
  obtain ⟨h', hadd, hdraft'⟩ := addMissingList_spec hdraft name
  have hcall : defaultList (.ref r) name e h = checkList (.ref r) name e h' := by
    rw [defaultList, PyM.bind_apply, hadd]
  rw [hcall]
  rcases hfield : fieldOf name fields with _ | t
  · rw [hfield] at hdraft'
    have hthere : fieldOf name (setField name (.list []) fields) = some (.list []) := by
      rw [fieldOf_setField, if_pos rfl]
    rcases checkList_apply hdraft' hthere e with ⟨-, hok⟩ | ⟨hnot, -⟩
    · refine .inl ⟨_, h', ?_, hok, hdraft'⟩
      rw [withDefaultList, hfield]
      rfl
    · exact (hnot [] rfl).elim
  · rw [hfield] at hdraft'
    rcases checkList_apply hdraft' hfield e with ⟨⟨items, rfl⟩, hok⟩ | ⟨hnot, herror⟩
    · refine .inl ⟨fields, h', ?_, hok, hdraft'⟩
      rw [withDefaultList, hfield]
    · refine .inr ⟨e, h', ?_, herror, hdraft'.changes_nil⟩
      rw [withDefaultList, hfield]
      rcases t with x | items | more
      · rfl
      · exact (hnot items rfl).elim
      · rfl

/-- `migratedItem` of the items of a field.  Kind: L -/
theorem migrateField_spec (hdraft : Draft h₀ r fields h) (hfield : fieldOf name fields = some t) :
    ∃ entries o, h.cells r = .dict entries ∧ entries.get? (.text name) = some o ∧
      ((∃ items h', t = .list items ∧ migrateSingleRoutes o h = .ok () h' ∧
          Draft h₀ r (setField name (.list (items.map migratedItem)) fields) h') ∨
        ((∀ items, t ≠ .list items) ∧
          migrateSingleRoutes o h = .error (stateDataError "route state is invalid") h)) := by
  obtain ⟨entries, G, hcell, howns, hchanges⟩ := hdraft
  obtain ⟨o, -, hget, -⟩ := howns.lookup_some hfield
  refine ⟨entries, o, hcell, hget, ?_⟩
  obtain ⟨f₁, t', f₂, e₁, e₂, G₁, F, G₂, rfl, hsplit, rfl, hnot, hbefore, hown, hafter⟩ :=
    howns.split hget
  have ht : t' = t := by
    have hlook : fieldOf name (f₁ ++ (.text name, t') :: f₂) = some t' :=
      Dict.lookupRaw_append_cons hnot
    rw [hlook] at hfield
    exact Option.some_inj.mp hfield
  subst ht
  have hlt : ∀ i ∈ (r :: G₁) ++ (F ++ G₂), i < h.next := hchanges.lt
  have hnodup : ((r :: G₁) ++ (F ++ G₂)).Nodup := hchanges.nodup
  obtain ⟨hnodup₁, hnodupFG, hapart₁⟩ := List.nodup_append'.mp hnodup
  obtain ⟨hnodupF, hnodup₂, hapart₂⟩ := List.nodup_append'.mp hnodupFG
  have hltF : ∀ i ∈ F, i < h.next := fun i hi => hlt i (List.mem_append_right _ (List.mem_append_left _ hi))
  rcases migrateSingleRoutes_spec hown hltF hnodupF with
    ⟨trees, h', F', rfl, hok, hinner, hmigrated⟩ | ⟨hnotlist, herror⟩
  · refine .inl ⟨trees, h', rfl, hok, entries, G₁ ++ (F' ++ G₂), ?_, ?_,
      hchanges.trans (hinner.inside (A := r :: G₁) hlt hnodup)⟩
    · rw [hinner.frame r (hlt r List.mem_cons_self) (fun hr => hapart₁ List.mem_cons_self
        (List.mem_append_left _ hr)), hcell]
    · have hset : setField name (.list (trees.map migratedItem)) (f₁ ++ (.text name, .list trees) :: f₂) =
          f₁ ++ (.text name, .list (trees.map migratedItem)) :: f₂ := Dict.insertRaw_append_cons hnot
      rw [hset, hsplit]
      have hsame₁ : ∀ i ∈ G₁, h'.cells i = h.cells i :=
        hinner.same (fun i hi => hlt i (List.mem_append_left _ (List.mem_cons_of_mem _ hi)))
          fun i hF hi => hapart₁ (List.mem_cons_of_mem _ hi) (List.mem_append_left _ hF)
      have hsame₂ : ∀ i ∈ G₂, h'.cells i = h.cells i :=
        hinner.same (fun i hi => hlt i (List.mem_append_right _ (List.mem_append_right _ hi))) hapart₂
      exact (hbefore.frame hsame₁).append (.cons hmigrated (hafter.frame hsame₂))
  · exact .inr ⟨hnotlist, herror⟩

/-- `_migrate_single_routes(migrated[name])`  Kind: L -/
theorem refines_migrateNamedRoutes (name : String) :
    Refines h₀ r (migrateNamedRoutes (.ref r) name) (migratedRoutes name) := by
  intro fields h hdraft
  rcases hfield : fieldOf name fields with _ | t
  · obtain ⟨entries, G, hcell, howns, -⟩ := id hdraft
    have hnone : entries.get? (.text name) = none := howns.lookup_none_iff.mpr hfield
    refine refines_error hdraft (e := ⟨.key, name⟩) ?_ ?_
    · rw [migratedRoutes, hfield]
    · rw [migrateNamedRoutes, PyM.bind_apply, entriesOf_apply hcell]
      dsimp only
      rw [hnone]
      rfl
  obtain ⟨entries, o, hcell, hget, hcases⟩ := migrateField_spec hdraft hfield
  have hcall : migrateNamedRoutes (.ref r) name h = migrateSingleRoutes o h := by
    rw [migrateNamedRoutes, PyM.bind_apply, entriesOf_apply hcell]
    dsimp only
    rw [hget]
  rw [hcall]
  rcases hcases with ⟨items, h', rfl, hok, hdraft'⟩ | ⟨hnot, herror⟩
  · refine .inl ⟨_, h', ?_, hok, hdraft'⟩
    rw [migratedRoutes, hfield]
  · refine .inr ⟨_, h, ?_, herror, hdraft.changes_nil⟩
    rw [migratedRoutes, hfield]
    rcases t with x | items | more
    · rfl
    · exact (hnot items rfl).elim
    · rfl

/-- An owned field is a text if and only if its tree is.  Kind: L -/
theorem isTextObject_lookup (howns : OwnsAll h fields entries.entries G) (name : String) :
    isTextObject (entries.get? (.text name)) = isTextField name fields := by
  rw [isTextField]
  rcases hfield : fieldOf name fields with _ | t
  · have hnone : entries.get? (.text name) = none := howns.lookup_none_iff.mpr hfield
    rw [hnone]
    rfl
  · obtain ⟨o, F, hget, hone⟩ := howns.lookup_some hfield
    have hentry : entries.get? (.text name) = some o := hget
    rw [hentry]
    rcases t with x | items | more
    · obtain ⟨rfl, -⟩ := owns_leaf_iff.mp hone
      rcases x <;> rfl
    · obtain ⟨i, _, _, rfl, -⟩ := owns_list_iff.mp hone
      rfl
    · obtain ⟨i, _, _, rfl, -⟩ := owns_dict_iff.mp hone
      rfl

/-- The check of an identity.  Kind: L -/
theorem refines_identity : Refines h₀ r (migrateKind "identity" (.ref r)) (migratedKind "identity") := by
  intro fields h hdraft
  obtain ⟨entries, G, hcell, howns, -⟩ := id hdraft
  rw [migrateKind, if_pos rfl, migratedKind, if_pos rfl, PyM.bind_apply, entriesOf_apply hcell]
  dsimp only
  rw [isTextObject_lookup howns, isTextObject_lookup howns, PyM.raiseIf_apply, raiseIf]
  by_cases hinvalid : isTextField "node_id" fields = false ∨ isTextField "secret" fields = false
  · rw [if_pos hinvalid, if_pos hinvalid]
    exact .inr ⟨_, h, rfl, rfl, hdraft.changes_nil⟩
  · rw [if_neg hinvalid, if_neg hinvalid]
    exact .inl ⟨fields, h, rfl, rfl, hdraft⟩

/-- A new container beside the document.  Kind: L -/
theorem Draft.alloc (hdraft : Draft h₀ r fields h) (c : Cell Key PyObject) :
    Draft h₀ r fields (h.alloc c) := by
  obtain ⟨entries, G, hcell, howns, hchanges⟩ := hdraft
  have hnew : Changes h [] (h.alloc c) [h.next] := changes_alloc h c
  have hlt : ∀ i ∈ G, i < h.next := fun i hi => hchanges.lt i (List.mem_cons_of_mem _ hi)
  have hkept : Changes (h.alloc c) (r :: G) (h.alloc c) (r :: G) :=
    .refl (fun i hi => (hchanges.lt i hi).trans_le hnew.next_le) hchanges.nodup
  have hbeside : Changes h (r :: G) (h.alloc c) (r :: G) :=
    (hnew.mono (List.nil_sublist _)).append hkept hchanges.lt (List.disjoint_nil_left _)
  refine ⟨entries, G, ?_, howns.frame (hnew.same hlt (List.disjoint_nil_left _)),
    hchanges.trans hbeside⟩
  rw [hnew.frame r (hchanges.lt r List.mem_cons_self) List.not_mem_nil, hcell]

/-- The routes of a route document, if there are any.  Kind: L -/
theorem refines_routes : Refines h₀ r (migrateKind "routes" (.ref r)) (migratedKind "routes") := by
  intro fields h hdraft
  rw [migrateKind, if_neg (by decide), if_neg (by decide), if_neg (by decide), if_pos rfl,
    migratedKind, if_neg (by decide), if_neg (by decide), if_neg (by decide), if_pos rfl]
  rcases hfield : fieldOf "routes" fields with _ | t
  · obtain ⟨entries, G, hcell, howns, -⟩ := id hdraft
    have hnone : entries.get? (.text "routes") = none := howns.lookup_none_iff.mpr hfield
    refine .inl ⟨fields, _, rfl, ?_, hdraft.alloc (.list [])⟩
    rw [PyM.bind_apply, entriesOf_apply hcell]
    dsimp only
    rw [hnone]
    show migrateSingleRoutes (.ref h.next) (h.alloc (.list [])) = _
    rw [migrateSingleRoutes, PyM.bind_apply, PyM.get_apply]
    dsimp only
    rw [itemsOf?, Heap.cells_alloc_self]
    rfl
  · obtain ⟨entries, o, hcell, hget, hcases⟩ := migrateField_spec hdraft hfield
    rw [PyM.bind_apply, entriesOf_apply hcell]
    dsimp only
    rw [hget, Option.isSome_some, if_pos rfl, migratedRoutes, hfield]
    rcases hcases with ⟨items, h', rfl, hok, hdraft'⟩ | ⟨hnot, herror⟩
    · exact .inl ⟨_, h', rfl, hok, hdraft'⟩
    · refine .inr ⟨_, h, ?_, herror, hdraft.changes_nil⟩
      rcases t with x | items | more
      · rfl
      · exact (hnot items rfl).elim
      · rfl

/-- The part after the version.  Kind: L -/
theorem refines_migrateKind (kind : String) :
    Refines h₀ r (migrateKind kind (.ref r)) (migratedKind kind) := by
  by_cases hidentity : kind = "identity"
  · rw [hidentity]
    exact refines_identity
  by_cases hroutes : kind = "routes"
  · rw [hroutes]
    exact refines_routes
  intro fields h hdraft
  rw [migrateKind, if_neg hidentity, migratedKind, if_neg hidentity]
  by_cases htrust : kind = "trust"
  · rw [if_pos htrust, if_pos htrust]
    exact ((refines_defaultList _ _).bind ((refines_defaultList _ _).bind
      ((refines_defaultList _ _).bind ((refines_migrateNamedRoutes _).bind
        ((refines_migrateNamedRoutes _).bind (refines_migrateNamedRoutes _)))))) fields h hdraft
  rw [if_neg htrust, if_neg htrust]
  by_cases hcluster : kind = "cluster"
  · rw [if_pos hcluster, if_pos hcluster]
    exact refines_defaultList _ _ fields h hdraft
  rw [if_neg hcluster, if_neg hcluster, if_neg hroutes, if_neg hroutes]
  exact .inr ⟨_, h, rfl, rfl, hdraft.changes_nil⟩

/-! ## The migration -/

/-- The object with the version stands for `versionOf`.  Kind: L -/
theorem owns_version (howns : OwnsAll h fields entries.entries G) :
    ∃ F, Owns h (versionOf fields) ((entries.get? (.text "schema_version")).getD
      ((entries.get? (.text "version")).getD (.leaf (.int 1)))) F := by
  rw [versionOf]
  rcases hschema : fieldOf "schema_version" fields with _ | t
  · have hnone : entries.get? (.text "schema_version") = none := howns.lookup_none_iff.mpr hschema
    rw [hnone]
    rcases hversion : fieldOf "version" fields with _ | t
    · have hnone' : entries.get? (.text "version") = none := howns.lookup_none_iff.mpr hversion
      rw [hnone']
      exact ⟨[], rfl, rfl⟩
    · obtain ⟨o, F, hget, hone⟩ := howns.lookup_some hversion
      have hentry : entries.get? (.text "version") = some o := hget
      rw [hentry]
      exact ⟨F, hone⟩
  · obtain ⟨o, F, hget, hone⟩ := howns.lookup_some hschema
    have hentry : entries.get? (.text "schema_version") = some o := hget
    rw [hentry]
    exact ⟨F, hone⟩

/-- The changes of a copy compute `migratedFields`.  Kind: L -/
theorem migrateCopy_spec (kind : String) (hdraft : Draft h₀ r fields h) :
    (∃ fields' h', migratedFields kind fields = .ok fields' ∧
      migrateCopy kind (.ref r) h = .ok (.ref r) h' ∧ Draft h₀ r fields' h') ∨
    (∃ e h', migratedFields kind fields = .error e ∧ migrateCopy kind (.ref r) h = .error e h' ∧
      Changes h₀ [] h' []) := by
  obtain ⟨entries, G, hcell, howns, -⟩ := id hdraft
  obtain ⟨F, hversion⟩ := owns_version howns
  rw [migrateCopy, PyM.bind_apply, entriesOf_apply hcell, migratedFields]
  dsimp only
  by_cases hint : ∃ version, versionOf fields = .leaf (.int version)
  · obtain ⟨version, htree⟩ := hint
    rw [hversion.eq_leaf_iff.mpr htree, htree]
    dsimp only
    rw [PyM.bind_apply, PyM.raiseIf_apply, raiseIf]
    by_cases hunsupported : currentSchemaVersion < version ∨ version < 1
    · rw [if_pos hunsupported, if_pos hunsupported]
      exact .inr ⟨_, h, rfl, rfl, hdraft.changes_nil⟩
    rw [if_neg hunsupported, if_neg hunsupported]
    dsimp only
    have hsteps : (do
        popItem r "version"
        writeItem r "schema_version" (.leaf (.int currentSchemaVersion))
        migrateKind kind (.ref r)
        return .ref r : PyM PyHeap PyObject) = (do
        (do
          (do
            popItem r "version"
            writeItem r "schema_version" (.leaf (.int currentSchemaVersion)))
          migrateKind kind (.ref r))
        return .ref r) := by
      simp only [bind_assoc]
    rw [hsteps, PyM.bind_apply]
    rcases (refines_stamp.bind (refines_migrateKind kind)) fields h hdraft with
      ⟨fields', h', hf, hop, hdraft'⟩ | ⟨e, h', hf, hop, hchanges⟩
    · rw [hop]
      exact .inl ⟨fields', h', hf, rfl, hdraft'⟩
    · rw [hop]
      exact .inr ⟨e, h', hf, rfl, hchanges⟩
  · refine .inr ⟨stateDataError "state schema version is invalid", h, ?_, ?_, hdraft.changes_nil⟩
    · split
      · next version htree => exact (hint ⟨version, htree⟩).elim
      · rfl
    · generalize (entries.get? (.text "schema_version")).getD
        ((entries.get? (.text "version")).getD (.leaf (.int 1))) = stored at hversion ⊢
      rcases stored with x | i
      · rcases x with _ | _ | _ | version | _ | _
        case int => exact (hint ⟨version, hversion.eq_leaf_iff.mp rfl⟩).elim
        all_goals rfl
      · rfl

/-- `migrate_state` of a JSON tree computes `migratedFields`, in new containers, if there is room
for the copy; otherwise it raises.  Kind: L -/
theorem migrateState_spec (deepcopy : PyObject → PyM PyHeap PyObject) (calls : ℕ) (kind : String)
    (howns : Owns h (.dict fields) o F) (hjson : JsonTree (.dict fields))
    (hlt : ∀ i ∈ F, i < h.next) (hnodup : F.Nodup) :
    (∃ fields' r h', migratedFields kind fields = .ok fields' ∧ (Tree.dict fields).Fits calls ∧
      migrateState deepcopy calls kind o h = .ok (.ref r) h' ∧ Draft h r fields' h') ∨
    (∃ e h', migrateState deepcopy calls kind o h = .error e h' ∧ Changes h [] h' [] ∧
      ((Tree.dict fields).Fits calls → migratedFields kind fields = .error e)) := by
  rcases cloneState_spec deepcopy calls howns hjson hlt hnodup with
    ⟨hfits, copy, h₁, F₁, hclone, hchanges, hcopy⟩ | ⟨hnot, h₁, hclone, hchanges⟩
  · have hcall : migrateState deepcopy calls kind o h = migrateCopy kind copy h₁ := by
      rw [migrateState, PyM.bind_apply, hclone]
    obtain ⟨r, entries, G, rfl, rfl, hcell, hentries⟩ := owns_dict_iff.mp hcopy
    rw [hcall]
    rcases migrateCopy_spec kind ⟨entries, G, hcell, hentries, hchanges⟩ with
      ⟨fields', h', hf, hok, hdraft⟩ | ⟨e, h', hf, herror, hchanges'⟩
    · exact .inl ⟨fields', r, h', hf, hfits, hok, hdraft⟩
    · exact .inr ⟨e, h', herror, hchanges', fun _ => hf⟩
  · refine .inr ⟨recursionError, h₁, ?_, hchanges, fun hfits => (hnot hfits).elim⟩
    rw [migrateState, PyM.bind_apply, hclone]

/-- Migrating the result of a migration gives the same document, whose containers are new. Its
fields are those that `Migrated` says: the lists of the kind with exactly the routes that were
missing, and every other field as it was. The containers of the original are unchanged, also when
the migration raises.

`calls` and `calls'` are the nested calls that the interpreter allows; a document with a new route
takes six.  Kind: P -/
theorem migrate_state_conservative (deepcopy : PyObject → PyM PyHeap PyObject) (calls : ℕ)
    (kind : String) (h : PyHeap) (d : PyObject) (fields : DocumentFields) (F : List ℕ)
    (hdoc : Owns h (.dict fields) d F) (hjson : JsonTree (.dict fields))
    (hlt : ∀ i ∈ F, i < h.next) (hnodup : F.Nodup) :
    (∀ i < h.next, ((migrateState deepcopy calls kind d).after h).cells i = h.cells i) ∧
    ∀ r h', migrateState deepcopy calls kind d h = .ok r h' →
      ∃ fields' F', Owns h' (.dict fields') r F' ∧ (∀ i ∈ F', h.next ≤ i) ∧
        Migrated kind fields fields' ∧
        ∀ calls', max calls 6 ≤ calls' →
          ∃ r' h'' F'', migrateState deepcopy calls' kind r h' = .ok r' h'' ∧
            Owns h'' (.dict fields') r' F'' ∧ ∀ i ∈ F'', h'.next ≤ i := by
  have hnew {h₀ h : PyHeap} {F : List ℕ} (hchanges : Changes h₀ [] h F) : ∀ i ∈ F, h₀.next ≤ i :=
    fun i hi => (hchanges.new i hi).resolve_left List.not_mem_nil
  rcases migrateState_spec deepcopy calls kind hdoc hjson hlt hnodup with
    ⟨fields', r, h', hf, hfits, hok, entries, G, hcell, howns, hchanges⟩ |
    ⟨e, h', herror, hchanges, -⟩
  · rw [PyM.after_of_ok hok]
    refine ⟨fun i hi => hchanges.frame i hi List.not_mem_nil, fun r₁ h₁ hok₁ => ?_⟩
    rw [hok] at hok₁
    cases hok₁
    have hresult : Owns h' (.dict fields') (.ref r) (r :: G) :=
      owns_dict_iff.mpr ⟨r, entries, G, rfl, rfl, hcell, howns⟩
    refine ⟨fields', r :: G, hresult, hnew hchanges, migrated_of_migratedFields hf, ?_⟩
    intro calls' hcalls
    obtain ⟨n, rfl⟩ : ∃ n, calls' = n + 6 := ⟨calls' - 6, by omega⟩
    have hroom : (Tree.dict fields' : PyTree).Fits (n + 6) :=
      fits_migrated hf (hfits.mono (by omega))
    rcases migrateState_spec deepcopy (n + 6) kind hresult (jsonTree_migrated hf hjson)
      hchanges.lt hchanges.nodup with
      ⟨fields'', r', h'', hf', -, hok', entries', G', hcell', howns', hchanges'⟩ |
      ⟨e, h'', -, -, hf'⟩
    · rw [migratedFields_idem hf] at hf'
      cases hf'
      exact ⟨.ref r', h'', r' :: G', hok', owns_dict_iff.mpr ⟨r', entries', G', rfl, rfl, hcell', howns'⟩,
        hnew hchanges'⟩
    · have hidem := migratedFields_idem hf
      rw [hf' hroom] at hidem
      cases hidem
  · rw [PyM.after_of_error herror]
    refine ⟨fun i hi => hchanges.frame i hi List.not_mem_nil, fun r₁ h₁ hok => ?_⟩
    rw [herror] at hok
    cases hok

/-- A route document with one item, which has a host and a port. -/
def routeHeap : PyHeap where
  next := 3
  cells
    | 0 => .dict (Dict.empty.insert (.text "routes") (.ref 1))
    | 1 => .list [.ref 2]
    | _ => .dict ((Dict.empty.insert (.text "host") (.leaf (.text "10.0.0.2"))).insert (.text "port")
        (.leaf (.int 7000)))

/-- The fields of the route document. -/
def routeFields : DocumentFields :=
  [(.text "routes", .list [.dict [(.text "host", .leaf (.text "10.0.0.2")),
    (.text "port", .leaf (.int 7000))]])]

/-- The item of the route document, with its legacy route. -/
def routedItem : PyTree :=
  .dict [(.text "host", .leaf (.text "10.0.0.2")), (.text "port", .leaf (.int 7000)),
    (.text "routes", .list [legacyRouteTree "10.0.0.2" 7000])]

/-- A migration of a document with one route.  Kind: P -/
theorem migrate_state_conservative_route :
    ∃ r h' fields' F', migrateState (cloneState (fun _ => throw recursionError) 1000) 1000 "routes"
        (.ref 0) routeHeap = .ok r h' ∧
      Owns h' (.dict fields') r F' ∧ (∀ i ∈ F', 3 ≤ i) ∧
      (∀ i < 3, h'.cells i = routeHeap.cells i) ∧
      fieldOf "routes" fields' = some (.list [routedItem]) ∧
      ∃ r' h'' F'', migrateState (cloneState (fun _ => throw recursionError) 1000) 1000 "routes"
          r h' = .ok r' h'' ∧ Owns h'' (.dict fields') r' F'' ∧ ∀ i ∈ F'', h'.next ≤ i := by
  have hitem : Owns routeHeap (.dict [(.text "host", .leaf (.text "10.0.0.2")),
      (.text "port", .leaf (.int 7000))]) (.ref 2) [2] :=
    owns_dict_iff.mpr ⟨2, _, [], rfl, rfl, rfl,
      .cons (F := []) ⟨rfl, rfl⟩ (.cons (F := []) ⟨rfl, rfl⟩ .nil)⟩
  have hroutes : Owns routeHeap (.list [.dict [(.text "host", .leaf (.text "10.0.0.2")),
      (.text "port", .leaf (.int 7000))]]) (.ref 1) [1, 2] :=
    owns_list_iff.mpr ⟨1, [.ref 2], [2], rfl, rfl, rfl, .cons hitem .nil⟩
  have hdoc : Owns routeHeap (.dict routeFields) (.ref 0) [0, 1, 2] :=
    owns_dict_iff.mpr ⟨0, _, [1, 2], rfl, rfl, rfl, .cons hroutes .nil⟩
  have hjson : JsonTree (.dict routeFields) := by
    simp [routeFields, jsonTree_dict_iff, jsonTree_list_iff, jsonTree_leaf_iff, Key.isText,
      Scalar.isJson]
  have hrun : ∃ r h', migrateState (cloneState (fun _ => throw recursionError) 1000) 1000 "routes"
      (.ref 0) routeHeap = .ok r h' := ⟨_, _, rfl⟩
  obtain ⟨r, h', hok⟩ := hrun
  obtain ⟨hsame, hresult⟩ := migrate_state_conservative
    (cloneState (fun _ => throw recursionError) 1000) 1000 "routes" routeHeap (.ref 0) routeFields
    [0, 1, 2] hdoc hjson (by decide) (by decide)
  obtain ⟨fields', F', howns, hnew, hmigrated, hagain⟩ := hresult r h' hok
  rw [PyM.after_of_ok hok] at hsame
  obtain ⟨items, hitems, hget⟩ := hmigrated.gains "routes" (by decide) _ rfl
  cases hitems
  exact ⟨r, h', fields', F', hok, howns, hnew, hsame, hget, hagain 1000 (by decide)⟩

end ExpraConnect
