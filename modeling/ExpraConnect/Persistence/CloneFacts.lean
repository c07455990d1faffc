import ExpraConnect.Persistence.Migration

/-!
# What the copy of a document is

* `JsonTree`: trees with the leaves and keys of JSON;
* `Clones`: a call returns a copy with containers of its own, or raises because there is no room for
  the nested calls, and in either case nothing that existed has changed;
* `cloneJsonTree_spec`, `cloneState_spec`: so does the copy of a JSON tree.
-/

namespace ExpraConnect

open ExpraConnect.Lib ExpraConnect.Lib.Graph

/-- A leaf that JSON has, or a container whose keys are texts. -/
def JsonNode : PyTree → Prop
  | .leaf x => x.isJson = true
  | .list _ => True
  | .dict fields => ∀ p ∈ fields, p.1.isText = true

/-- Every node is one of JSON. -/
def JsonTree (t : PyTree) : Prop := ∀ d u, t.NodeAt d u → JsonNode u

/-- A tree is JSON if and only if its node and its subtrees are.  Kind: L -/
theorem jsonTree_iff {t : PyTree} : JsonTree t ↔ JsonNode t ∧ ∀ s ∈ t.children, JsonTree s :=
  Tree.forall_nodeAt_iff

/-- The call returns a copy in new containers if there is room for it, and raises otherwise. Only
the containers of the original come into the memo. -/
def Clones (call : PyM CloneState PyObject) (s : CloneState) (room : Prop) (t : PyTree)
    (F : List ℕ) : Prop :=
  (room ∧ ∃ copy s' F', call s = .ok copy s' ∧ Changes s.heap [] s'.heap F' ∧
    Owns s'.heap t copy F' ∧ ∀ j ∉ F, s.memo.get? j = none → s'.memo.get? j = none) ∨
  (¬room ∧ ∃ s', call s = .error recursionError s' ∧ Changes s.heap [] s'.heap [])

variable {κ : Type} {s : CloneState} {F G : List ℕ}

/-- The loop over what a container contains. `toCell` is the copy with the items so far.  Kind: L -/
theorem fillClone_spec {clone : κ → PyObject → PyM CloneState PyObject}
    {put : κ → PyObject → Cell Key PyObject → Cell Key PyObject} {cloned calls : ℕ}
    {toCell : List (κ × PyObject) → Cell Key PyObject}
    (hput : ∀ done key item, put key item (toCell done) = toCell (done ++ [(key, item)]))
    {fields : List (κ × PyTree)} {entries : List (κ × PyObject)}
    (hclone : ∀ p ∈ fields, ∀ o F s, Owns s.heap p.2 o F → (∀ i ∈ F, i < s.heap.next) →
      F.Nodup → (∀ i ∈ F, s.memo.get? i = none) →
      Clones (clone p.1 o) s (p.2.Fits calls) p.2 F)
    (howns : OwnsAll s.heap fields entries F) (hlt : ∀ i ∈ F, i < s.heap.next) (hnodup : F.Nodup)
    (hmemo : ∀ i ∈ F, s.memo.get? i = none) {doneFields : List (κ × PyTree)}
    {done : List (κ × PyObject)} (hdone : OwnsAll s.heap doneFields done G)
    (hcell : s.heap.cells cloned = toCell done) (hltG : ∀ i ∈ cloned :: G, i < s.heap.next)
    (hnodupG : (cloned :: G).Nodup) (hdisjoint : (cloned :: G).Disjoint F) :
    ((∀ p ∈ fields, p.2.Fits calls) ∧ ∃ s' objs G', fillClone clone put cloned entries s = .ok () s' ∧
      Changes s.heap (cloned :: G) s'.heap (cloned :: G') ∧
      OwnsAll s'.heap (doneFields ++ fields) objs G' ∧ s'.heap.cells cloned = toCell objs ∧
      ∀ j ∉ F, s.memo.get? j = none → s'.memo.get? j = none) ∨
    (¬(∀ p ∈ fields, p.2.Fits calls) ∧ ∃ s', fillClone clone put cloned entries s =
      .error recursionError s' ∧ Changes s.heap (cloned :: G) s'.heap []) := by
  induction fields generalizing entries F G s doneFields done with
  | nil =>
      cases howns
      refine .inl ⟨fun p hp => absurd hp List.not_mem_nil, s, done, G, rfl,
        Changes.refl hltG hnodupG, ?_, hcell, fun j _ hj => hj⟩
      rw [List.append_nil]
      exact hdone
  | cons field fields ih =>
      rcases howns with _ | @⟨k, t, o, F₁, F₂, _, rest, hfirst, hrest⟩
      obtain ⟨hnodup₁, hnodup₂, hapart⟩ := List.nodup_append'.mp hnodup
      have hlt₁ : ∀ i ∈ F₁, i < s.heap.next := fun i hi => hlt i (List.mem_append_left _ hi)
      have hlt₂ : ∀ i ∈ F₂, i < s.heap.next := fun i hi => hlt i (List.mem_append_right _ hi)
      have hmemo₁ : ∀ i ∈ F₁, s.memo.get? i = none :=
        fun i hi => hmemo i (List.mem_append_left _ hi)
      have hone := hclone (k, t) List.mem_cons_self o F₁ s hfirst hlt₁ hnodup₁ hmemo₁
      rcases hone with ⟨hfits, copy, s₁, F', hcall, hchanges, hcopy, hkept⟩ |
        ⟨hnot, s₁, hcall, hchanges⟩
      · have hclonedLt : cloned < s.heap.next := hltG cloned List.mem_cons_self
        have hcloned₁ : s₁.heap.cells cloned = toCell done := by
          rw [hchanges.frame cloned hclonedLt List.not_mem_nil, hcell]
        set s₂ : CloneState := { s₁ with
          heap := s₁.heap.write cloned (put k copy (s₁.heap.cells cloned)) } with hs₂
        have hnew : ∀ i ∈ F', s.heap.next ≤ i :=
          fun i hi => (hchanges.new i hi).resolve_left List.not_mem_nil
        -- the loop goes on from the state with this copy in its place
        have hcell₂ : s₂.heap.cells cloned = toCell (done ++ [(k, copy)]) := by
          rw [hs₂, Heap.cells_write_self, hcloned₁, hput]
        have hsame {i : ℕ} (hlt : i < s.heap.next) (hne : i ≠ cloned) :
            s₂.heap.cells i = s.heap.cells i := by
          rw [hs₂, Heap.cells_write_of_ne _ _ hne, hchanges.frame i hlt List.not_mem_nil]
        have hdone₂ : OwnsAll s₂.heap (doneFields ++ [(k, t)]) (done ++ [(k, copy)]) (G ++ F') := by
          have hold : OwnsAll s₂.heap doneFields done G := by
            refine hdone.frame fun i hi => hsame (hltG i (List.mem_cons_of_mem _ hi)) ?_
            rintro rfl
            exact (List.nodup_cons.mp hnodupG).1 hi
          have hone : OwnsAll s₂.heap [(k, t)] [(k, copy)] (F' ++ []) := by
            refine .cons (Owns.frame t hcopy fun i hi => ?_) .nil
            rw [hs₂, Heap.cells_write_of_ne]
            have hle := hnew i hi
            omega
          rw [List.append_nil] at hone
          exact hold.append hone
        have hregion : Changes s.heap (cloned :: G) s₂.heap (cloned :: (G ++ F')) := by
          have hside := (Changes.refl hltG hnodupG).append hchanges
            (fun i hi => absurd hi List.not_mem_nil) (List.disjoint_nil_right _)
          rw [List.append_nil] at hside
          exact hside.trans (changes_write hside.lt hside.nodup List.mem_cons_self _)
        have hrest₂ : OwnsAll s₂.heap fields rest F₂ := by
          refine hrest.frame fun i hi => hsame (hlt₂ i hi) ?_
          rintro rfl
          exact hdisjoint List.mem_cons_self (List.mem_append_right _ hi)
        have hmemo₂ : ∀ i ∈ F₂, s₂.memo.get? i = none := by
          intro i hi
          exact hkept i (fun hi₁ => hapart hi₁ hi) (hmemo i (List.mem_append_right _ hi))
        have hlt₂' : ∀ i ∈ F₂, i < s₂.heap.next := fun i hi => (hlt₂ i hi).trans_le hregion.next_le
        have hdisjoint₂ : (cloned :: (G ++ F')).Disjoint F₂ :=
          hregion.disjoint hlt₂ fun i hi hi₂ => hdisjoint hi (List.mem_append_right _ hi₂)
        have hstep : fillClone clone put cloned ((k, o) :: rest) s =
            fillClone clone put cloned rest s₂ := by
          rw [fillClone, PyM.bind_apply, hcall]
          dsimp only
          rw [PyM.bind_apply, PyM.modify_apply]
        rw [hstep]
        rcases ih (fun p hp => hclone p (List.mem_cons_of_mem _ hp)) hrest₂ hlt₂' hnodup₂ hmemo₂
          hdone₂ hcell₂ hregion.lt hregion.nodup hdisjoint₂ with
          ⟨hall, s', objs, G', hok, hmore, hobjs, hcell', hkept'⟩ | ⟨hnot, s', herror, hmore⟩
        · refine .inl ⟨List.forall_mem_cons.mpr ⟨hfits, hall⟩, s', objs, G', hok,
            hregion.trans hmore, ?_, hcell', ?_⟩
          · rw [List.append_cons]
            exact hobjs
          · intro j hj hnone
            rw [List.mem_append, not_or] at hj
            exact hkept' j hj.2 (hkept j hj.1 hnone)
        · refine .inr ⟨fun hall => hnot fun p hp => hall p (List.mem_cons_of_mem _ hp), s', herror,
            hregion.trans hmore⟩
      · refine .inr ⟨fun hall => hnot (hall (k, t) List.mem_cons_self), s₁, ?_, ?_⟩
        · rw [fillClone, PyM.bind_apply, hcall]
        · exact hchanges.widen _

/-- The copy of a container: an empty one, which is then filled.  Kind: L -/
theorem containerClone_spec {clone : κ → PyObject → PyM CloneState PyObject}
    {put : κ → PyObject → Cell Key PyObject → Cell Key PyObject} {calls identity : ℕ}
    (toCell : List (κ × PyObject) → Cell Key PyObject)
    (hput : ∀ done key item, put key item (toCell done) = toCell (done ++ [(key, item)]))
    {fields : List (κ × PyTree)} {entries : List (κ × PyObject)} {t : PyTree}
    (hclone : ∀ p ∈ fields, ∀ o F s, Owns s.heap p.2 o F → (∀ i ∈ F, i < s.heap.next) →
      F.Nodup → (∀ i ∈ F, s.memo.get? i = none) →
      Clones (clone p.1 o) s (p.2.Fits calls) p.2 F)
    (hfits : t.Fits (calls + 1) ↔ ∀ p ∈ fields, p.2.Fits calls)
    (hcopy : ∀ h i objs G, h.cells i = toCell objs → OwnsAll h fields objs G →
      Owns h t (.ref i) (i :: G))
    (howns : OwnsAll s.heap fields entries G) (hlt : ∀ i ∈ identity :: G, i < s.heap.next)
    (hnodup : (identity :: G).Nodup) (hmemo : ∀ i ∈ identity :: G, s.memo.get? i = none) :
    Clones (do
      let cloned ← startClone identity (toCell [])
      fillClone clone put cloned entries
      return .ref cloned) s (t.Fits (calls + 1)) t (identity :: G) := by
  set s₁ : CloneState := ⟨s.heap.alloc (toCell []), s.memo.insert identity (.ref s.heap.next)⟩ with hs₁
  have hstart : Changes s.heap [] s₁.heap [s.heap.next] := changes_alloc _ _
  have hltG : ∀ i ∈ G, i < s.heap.next := fun i hi => hlt i (List.mem_cons_of_mem _ hi)
  have hsrc : OwnsAll s₁.heap fields entries G :=
    howns.frame (hstart.same hltG (List.disjoint_nil_left _))
  have hmemo₁ : ∀ i ∈ G, s₁.memo.get? i = none := by
    intro i hi
    have hne : identity ≠ i := by
      rintro rfl
      exact (List.nodup_cons.mp hnodup).1 hi
    rw [hs₁, Dict.get?_insert, if_neg hne]
    exact hmemo i (List.mem_cons_of_mem _ hi)
  have hapart : [s.heap.next].Disjoint G := by
    intro i hi hiG
    have hlt' := hltG i hiG
    rw [List.mem_singleton.mp hi] at hlt'
    exact absurd hlt' (Nat.lt_irrefl _)
  have hcell : s₁.heap.cells s.heap.next = toCell [] := Heap.cells_alloc_self _ _
  have hcall : (do
      let cloned ← startClone identity (toCell [])
      fillClone clone put cloned entries
      return .ref cloned : PyM CloneState PyObject) s =
      match fillClone clone put s.heap.next entries s₁ with
      | .ok _ s' => .ok (.ref s.heap.next) s'
      | .error e s' => .error e s' := by
    have hbegin : startClone identity (toCell []) s = .ok s.heap.next s₁ := rfl
    rw [PyM.bind_apply, hbegin]
    dsimp only
    rw [PyM.bind_apply]
    rcases fillClone clone put s.heap.next entries s₁ with ⟨_, s'⟩ | ⟨e, s'⟩ <;> rfl
  rw [Clones, hcall, hfits]
  rcases fillClone_spec hput hclone hsrc
    (fun i hi => (hltG i hi).trans_le hstart.next_le) (List.nodup_cons.mp hnodup).2 hmemo₁ .nil
    hcell hstart.lt hstart.nodup hapart with
    ⟨hall, s', objs, G', hok, hmore, hobjs, hcell', hkept⟩ | ⟨hnot, s', herror, hmore⟩
  · rw [hok]
    refine .inl ⟨hall, .ref s.heap.next, s', s.heap.next :: G', rfl, hstart.trans hmore,
      hcopy _ _ objs G' hcell' hobjs, ?_⟩
    intro j hj hnone
    rw [List.mem_cons, not_or] at hj
    refine hkept j hj.2 ?_
    rw [hs₁, Dict.get?_insert, if_neg (Ne.symm hj.1)]
    exact hnone
  · rw [herror]
    exact .inr ⟨hnot, s', rfl, hstart.trans hmore⟩

/-- The copy of a JSON tree without shared containers.  Kind: L -/
theorem cloneJsonTree_spec (calls : ℕ) (t : PyTree) (o : PyObject) (howns : Owns s.heap t o F)
    (hjson : JsonTree t) (hlt : ∀ i ∈ F, i < s.heap.next) (hnodup : F.Nodup)
    (hmemo : ∀ i ∈ F, s.memo.get? i = none) :
    Clones (cloneJsonTree calls o) s (t.Fits calls) t F := by
  induction calls generalizing t o s F with
  | zero => exact .inr ⟨Tree.not_fits_zero t, s, rfl, Changes.refl (fun i hi => by cases hi) .nil⟩
  | succ calls ih =>
      obtain ⟨hnode, hchildren⟩ := jsonTree_iff.mp hjson
      rcases t with x | trees | fields
      · obtain ⟨rfl, rfl⟩ := owns_leaf_iff.mp howns
        have hfits : (Tree.leaf x : PyTree).Fits (calls + 1) :=
          Tree.fits_succ_iff.mpr fun s hs => absurd hs List.not_mem_nil
        have hx : x.isJson = true := hnode
        refine .inl ⟨hfits, .leaf x, s, [], ?_, Changes.refl (fun i hi => by cases hi) .nil, ⟨rfl, rfl⟩,
          fun j _ hj => hj⟩
        rw [cloneJsonTree, PyM.bind_apply, PyM.raiseIf_apply, if_neg (by rw [hx]; exact Bool.noConfusion)]
        rfl
      · obtain ⟨i, items, G, rfl, rfl, hi, hitems⟩ := owns_list_iff.mp howns
        have hcall : cloneJsonTree (calls + 1) (.ref i) s = (do
            let cloned ← startClone i (.list [])
            fillClone (fun _ item => cloneJsonTree calls item) (fun _ item => appendItem item) cloned
              (items.map (Prod.mk ()))
            return .ref cloned : PyM CloneState PyObject) s := by
          rw [cloneJsonTree, PyM.bind_apply, PyM.get_apply]
          dsimp only
          rw [hmemo i List.mem_cons_self, hi]
        unfold Clones
        rw [hcall]
        refine containerClone_spec (fun done => .list (done.map Prod.snd)) ?_ ?_ ?_ ?_
          hitems hlt hnodup hmemo
        · intro done key item
          simp [appendItem]
        · intro p hp o F s howns hlt hnodup hmemo
          obtain ⟨t, ht, rfl⟩ := List.mem_map.mp hp
          exact ih t o howns (hchildren t ht) hlt hnodup hmemo
        · rw [Tree.fits_succ_iff, List.forall_mem_map]
          rfl
        · intro h j objs G hj hobjs
          refine owns_list_iff.mpr ⟨j, objs.map Prod.snd, G, rfl, rfl, hj, ?_⟩
          have hunit : (objs.map Prod.snd).map (Prod.mk ()) = objs := by
            rw [List.map_map]
            exact (List.map_congr_left fun _ _ => rfl).trans (List.map_id objs)
          rw [hunit]
          exact hobjs
      · obtain ⟨i, entries, G, rfl, rfl, hi, hentries⟩ := owns_dict_iff.mp howns
        have hcall : cloneJsonTree (calls + 1) (.ref i) s = (do
            let cloned ← startClone i (.dict Dict.empty)
            fillClone
              (fun key item => do
                raiseIf (key.isText = false) nonJsonTreeError
                cloneJsonTree calls item)
              setItem cloned entries.entries
            return .ref cloned : PyM CloneState PyObject) s := by
          rw [cloneJsonTree, PyM.bind_apply, PyM.get_apply]
          dsimp only
          rw [hmemo i List.mem_cons_self, hi]
        unfold Clones
        rw [hcall]
        refine containerClone_spec (fun done => .dict (Dict.ofList done)) ?_ ?_ ?_ ?_
          hentries hlt hnodup hmemo
        · intro done key item
          simp [setItem, Dict.ofList]
        · intro p hp o F s howns hlt hnodup hmemo
          have hkey : p.1.isText = true := hnode p hp
          have hitem := ih p.2 o howns (hchildren p.2 (List.mem_map_of_mem hp)) hlt hnodup hmemo
          unfold Clones at hitem ⊢
          rw [PyM.bind_apply, PyM.raiseIf_apply, if_neg (by rw [hkey]; exact Bool.noConfusion)]
          exact hitem
        · rw [Tree.fits_succ_iff]
          exact List.forall_mem_map
        · intro h j objs G hj hobjs
          refine owns_dict_iff.mpr ⟨j, _, G, rfl, rfl, hj, ?_⟩
          have hkeys : (objs.map Prod.fst).Nodup := by
            rw [hobjs.labels, ← hentries.labels]
            exact entries.nodup
          rw [Dict.entries_ofList hkeys]
          exact hobjs

/-- The copy of a document. `copy.deepcopy` is not called.  Kind: L -/
theorem cloneState_spec (deepcopy : PyObject → PyM PyHeap PyObject) (calls : ℕ) {h : PyHeap}
    {t : PyTree} {o : PyObject} (howns : Owns h t o F) (hjson : JsonTree t)
    (hlt : ∀ i ∈ F, i < h.next) (hnodup : F.Nodup) :
    (t.Fits calls ∧ ∃ copy h' F', cloneState deepcopy calls o h = .ok copy h' ∧
      Changes h [] h' F' ∧ Owns h' t copy F') ∨
    (¬t.Fits calls ∧ ∃ h', cloneState deepcopy calls o h = .error recursionError h' ∧
      Changes h [] h' []) := by
  unfold cloneState
  rcases cloneJsonTree_spec (s := ⟨h, Dict.empty⟩) calls t o howns hjson hlt hnodup
    (fun _ _ => rfl) with
    ⟨hfits, copy, s', F', hok, hchanges, hcopy, -⟩ | ⟨hnot, s', herror, hchanges⟩
  · rw [hok]
    exact .inl ⟨hfits, copy, s'.heap, F', rfl, hchanges, hcopy⟩
  · rw [herror]
    exact .inr ⟨hnot, s'.heap, rfl, hchanges⟩

end ExpraConnect
