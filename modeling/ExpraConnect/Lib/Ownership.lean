import ExpraConnect.Lib.ObjectGraph

/-!
# Trees with identities

Objects whose containers are not shared, with the list of their identities, and changes of a heap
inside such a list.

* `Heap.alloc`, `Heap.write`: a new container, and new contents;
* `Owns`, `OwnsAll`: an object stands for a tree, and its containers, each met once on the way, are
  the given ones;
* `Owns.frame`: it depends on these containers only;
* `Changes`: a heap has changed inside the containers of one list, which has become another one;
* `Changes.trans`, `Changes.append`: changes one after the other, and side by side.
-/

namespace ExpraConnect.Lib.Graph

variable {K L : Type}

/-! ## Heaps -/

namespace Heap

/-- A new container, with the identity `h.next`. -/
def alloc (h : Heap K L) (c : Cell K (Obj L)) : Heap K L :=
  ⟨h.next + 1, Function.update h.cells h.next c⟩

/-- New contents of a container. -/
def write (h : Heap K L) (i : ℕ) (c : Cell K (Obj L)) : Heap K L :=
  { h with cells := Function.update h.cells i c }

variable (h : Heap K L) (c : Cell K (Obj L)) {i j : ℕ}

/-- An allocation takes the next address.  Kind: L -/
@[simp] theorem next_alloc : (h.alloc c).next = h.next + 1 := rfl

/-- A write takes no address.  Kind: L -/
@[simp] theorem next_write : (h.write i c).next = h.next := rfl

/-- The new cell holds what was allocated.  Kind: L -/
@[simp] theorem cells_alloc_self : (h.alloc c).cells h.next = c := Function.update_self ..

/-- An allocation leaves the other cells alone.  Kind: L -/
theorem cells_alloc_of_ne (hne : i ≠ h.next) : (h.alloc c).cells i = h.cells i :=
  Function.update_of_ne hne ..

/-- A written cell holds what was written.  Kind: L -/
@[simp] theorem cells_write_self : (h.write i c).cells i = c := Function.update_self ..

/-- A write leaves the other cells alone.  Kind: L -/
theorem cells_write_of_ne (hne : j ≠ i) : (h.write i c).cells j = h.cells j :=
  Function.update_of_ne hne ..

end Heap

/-! ## Ownership -/

mutual

/-- The object stands for the tree, and its containers are the given ones, in order. -/
def Owns (h : Heap K L) : Tree K L → Obj L → List ℕ → Prop
  | .leaf x, o, F => o = .leaf x ∧ F = []
  | .list trees, o, F =>
      ∃ i items G, o = .ref i ∧ F = i :: G ∧ h.cells i = .list items ∧ OwnsItems h trees items G
  | .dict fields, o, F =>
      ∃ i entries G, o = .ref i ∧ F = i :: G ∧ h.cells i = .dict entries ∧
        OwnsFields h fields entries.entries G

/-- `Owns` of every item. -/
def OwnsItems (h : Heap K L) : List (Tree K L) → List (Obj L) → List ℕ → Prop
  | [], items, F => items = [] ∧ F = []
  | t :: trees, items, F =>
      ∃ o rest F₁ F₂, items = o :: rest ∧ F = F₁ ++ F₂ ∧ Owns h t o F₁ ∧ OwnsItems h trees rest F₂

/-- `Owns` of every entry. -/
def OwnsFields (h : Heap K L) : List (K × Tree K L) → List (K × Obj L) → List ℕ → Prop
  | [], entries, F => entries = [] ∧ F = []
  | (k, t) :: fields, entries, F =>
      ∃ o rest F₁ F₂, entries = (k, o) :: rest ∧ F = F₁ ++ F₂ ∧ Owns h t o F₁ ∧
        OwnsFields h fields rest F₂

end

/-- `Owns` of objects under labels: of the entries of a dictionary under their keys, and of the
items of a list under the label `()`. -/
inductive OwnsAll {κ : Type} (h : Heap K L) :
    List (κ × Tree K L) → List (κ × Obj L) → List ℕ → Prop
  | nil : OwnsAll h [] [] []
  | cons {k : κ} {t : Tree K L} {o : Obj L} {F G : List ℕ} {fields : List (κ × Tree K L)}
      {entries : List (κ × Obj L)} (hfirst : Owns h t o F) (hrest : OwnsAll h fields entries G) :
      OwnsAll h ((k, t) :: fields) ((k, o) :: entries) (F ++ G)

variable {h h' : Heap K L} {F F' G G' : List ℕ} {t : Tree K L} {o : Obj L}

/-- Owning items, as owning a list of trees without keys.  Kind: L -/
theorem ownsItems_iff {trees : List (Tree K L)} {items : List (Obj L)} :
    OwnsItems h trees items F ↔
      OwnsAll h (trees.map (Prod.mk ())) (items.map (Prod.mk ())) F := by
  induction trees generalizing items F with
  | nil =>
      constructor
      · rintro ⟨rfl, rfl⟩
        exact .nil
      · intro hall
        rcases items with _ | ⟨o, rest⟩
        · cases hall
          exact ⟨rfl, rfl⟩
        · cases hall
  | cons t trees ih =>
      constructor
      · rintro ⟨o, rest, F₁, F₂, rfl, rfl, hfirst, hrest⟩
        exact .cons hfirst (ih.mp hrest)
      · intro hall
        rcases items with _ | ⟨o, rest⟩
        · cases hall
        · rcases hall with _ | ⟨hfirst, hrest⟩
          exact ⟨o, rest, _, _, rfl, rfl, hfirst, ih.mpr hrest⟩

/-- Owning fields, as owning a list of trees with keys.  Kind: L -/
theorem ownsFields_iff {fields : List (K × Tree K L)} {entries : List (K × Obj L)} :
    OwnsFields h fields entries F ↔ OwnsAll h fields entries F := by
  induction fields generalizing entries F with
  | nil =>
      constructor
      · rintro ⟨rfl, rfl⟩
        exact .nil
      · intro hall
        cases hall
        exact ⟨rfl, rfl⟩
  | cons field fields ih =>
      obtain ⟨k, t⟩ := field
      constructor
      · rintro ⟨o, rest, F₁, F₂, rfl, rfl, hfirst, hrest⟩
        exact .cons hfirst (ih.mp hrest)
      · intro hall
        rcases hall with _ | ⟨hfirst, hrest⟩
        exact ⟨_, _, _, _, rfl, rfl, hfirst, ih.mpr hrest⟩

/-- A leaf owns no cell.  Kind: L -/
theorem owns_leaf_iff {x : L} : Owns h (.leaf x) o F ↔ o = .leaf x ∧ F = [] := by
  rw [Owns]

/-- A list owns its own cell and those of its items.  Kind: L -/
theorem owns_list_iff {trees : List (Tree K L)} :
    Owns h (.list trees) o F ↔ ∃ i items G, o = .ref i ∧ F = i :: G ∧ h.cells i = .list items ∧
      OwnsAll h (trees.map (Prod.mk ())) (items.map (Prod.mk ())) G := by
  simp only [Owns, ownsItems_iff]

/-- A dictionary owns its own cell and those of its values.  Kind: L -/
theorem owns_dict_iff {fields : List (K × Tree K L)} :
    Owns h (.dict fields) o F ↔ ∃ i entries G, o = .ref i ∧ F = i :: G ∧
      h.cells i = .dict entries ∧ OwnsAll h fields entries.entries G := by
  simp only [Owns, ownsFields_iff]

/-- The tree is a leaf if and only if the object is.  Kind: L -/
theorem Owns.eq_leaf_iff {x : L} (howns : Owns h t o F) : o = .leaf x ↔ t = .leaf x := by
  rcases t with y | trees | fields
  · obtain ⟨rfl, -⟩ := owns_leaf_iff.mp howns
    rw [Obj.leaf.injEq, Tree.leaf.injEq]
  · obtain ⟨i, _, _, rfl, -⟩ := owns_list_iff.mp howns
    exact iff_of_false nofun nofun
  · obtain ⟨i, _, _, rfl, -⟩ := owns_dict_iff.mp howns
    exact iff_of_false nofun nofun

mutual

/-- What an object stands for depends on its containers only.  Kind: L -/
theorem Owns.frame : (t : Tree K L) → {o : Obj L} → {F : List ℕ} → Owns h t o F →
    (∀ i ∈ F, h'.cells i = h.cells i) → Owns h' t o F
  | .leaf _, _, _, howns, _ => howns
  | .list trees, _, _, howns, hsame => by
      obtain ⟨i, items, G, rfl, rfl, hi, hitems⟩ := howns
      refine ⟨i, items, G, rfl, rfl, ?_, OwnsItems.frame trees hitems ?_⟩
      · rw [hsame i List.mem_cons_self, hi]
      · exact fun j hj => hsame j (List.mem_cons_of_mem _ hj)
  | .dict fields, _, _, howns, hsame => by
      obtain ⟨i, entries, G, rfl, rfl, hi, hentries⟩ := howns
      refine ⟨i, entries, G, rfl, rfl, ?_, OwnsFields.frame fields hentries ?_⟩
      · rw [hsame i List.mem_cons_self, hi]
      · exact fun j hj => hsame j (List.mem_cons_of_mem _ hj)

/-- Cells outside the footprint do not matter, for items.  Kind: L -/
theorem OwnsItems.frame : (trees : List (Tree K L)) → {items : List (Obj L)} → {F : List ℕ} →
    OwnsItems h trees items F → (∀ i ∈ F, h'.cells i = h.cells i) → OwnsItems h' trees items F
  | [], _, _, howns, _ => howns
  | t :: trees, _, _, howns, hsame => by
      obtain ⟨o, rest, F₁, F₂, rfl, rfl, hfirst, hrest⟩ := howns
      refine ⟨o, rest, F₁, F₂, rfl, rfl, Owns.frame t hfirst ?_, OwnsItems.frame trees hrest ?_⟩
      · exact fun i hi => hsame i (List.mem_append_left _ hi)
      · exact fun i hi => hsame i (List.mem_append_right _ hi)

/-- Cells outside the footprint do not matter, for fields.  Kind: L -/
theorem OwnsFields.frame : (fields : List (K × Tree K L)) → {entries : List (K × Obj L)} →
    {F : List ℕ} → OwnsFields h fields entries F → (∀ i ∈ F, h'.cells i = h.cells i) →
    OwnsFields h' fields entries F
  | [], _, _, howns, _ => howns
  | (_, t) :: fields, _, _, howns, hsame => by
      obtain ⟨o, rest, F₁, F₂, rfl, rfl, hfirst, hrest⟩ := howns
      refine ⟨o, rest, F₁, F₂, rfl, rfl, Owns.frame t hfirst ?_, OwnsFields.frame fields hrest ?_⟩
      · exact fun i hi => hsame i (List.mem_append_left _ hi)
      · exact fun i hi => hsame i (List.mem_append_right _ hi)

end

/-- Cells outside the footprint do not matter, for lists of trees.  Kind: L -/
theorem OwnsAll.frame {κ : Type} {fields : List (κ × Tree K L)} {entries : List (κ × Obj L)}
    (howns : OwnsAll h fields entries F) (hsame : ∀ i ∈ F, h'.cells i = h.cells i) :
    OwnsAll h' fields entries F := by
  induction howns with
  | nil => exact .nil
  | cons hfirst _ ih =>
      refine .cons (Owns.frame _ hfirst fun i hi => hsame i (List.mem_append_left _ hi)) (ih ?_)
      exact fun i hi => hsame i (List.mem_append_right _ hi)

/-- Footprints of two lists of trees are put together.  Kind: L -/
theorem OwnsAll.append {κ : Type} {fields more : List (κ × Tree K L)}
    {entries others : List (κ × Obj L)} (hfirst : OwnsAll h fields entries F)
    (hsecond : OwnsAll h more others G) : OwnsAll h (fields ++ more) (entries ++ others) (F ++ G) := by
  induction hfirst with
  | nil => exact hsecond
  | cons hone _ ih =>
      rw [List.append_assoc]
      exact .cons hone ih

/-- The labels are the same.  Kind: L -/
theorem OwnsAll.labels {κ : Type} {fields : List (κ × Tree K L)} {entries : List (κ × Obj L)}
    (howns : OwnsAll h fields entries F) : entries.map Prod.fst = fields.map Prod.fst := by
  induction howns with
  | nil => rfl
  | cons _ _ ih => rw [List.map_cons, List.map_cons, ih]

/-- An object under a label stands for the tree under it.  Kind: L -/
theorem OwnsAll.lookup {κ : Type} [DecidableEq κ] {fields : List (κ × Tree K L)}
    {entries : List (κ × Obj L)} (howns : OwnsAll h fields entries G) (k : κ) :
    Option.Rel (fun t o => ∃ F, Owns h t o F) (Dict.lookupRaw k fields)
      (Dict.lookupRaw k entries) := by
  induction howns with
  | nil => exact .none
  | @cons k' t o F _ fields entries hfirst _ ih =>
      by_cases hk : k' = k
      · rw [Dict.lookupRaw, Dict.lookupRaw, if_pos hk, if_pos hk]
        exact .some ⟨F, hfirst⟩
      · rw [Dict.lookupRaw, Dict.lookupRaw, if_neg hk, if_neg hk]
        exact ih

/-- The trees and the objects have the same keys.  Kind: L -/
theorem OwnsAll.isSome_lookup {κ : Type} [DecidableEq κ] {fields : List (κ × Tree K L)}
    {entries : List (κ × Obj L)} (howns : OwnsAll h fields entries G) (k : κ) :
    (Dict.lookupRaw k entries).isSome = (Dict.lookupRaw k fields).isSome := by
  have hrel := howns.lookup k
  generalize Dict.lookupRaw k fields = found, Dict.lookupRaw k entries = stored at hrel ⊢
  rcases hrel with _ | _ <;> rfl

/-- A key is missing from the trees if and only if it is from the objects.  Kind: L -/
theorem OwnsAll.lookup_none_iff {κ : Type} [DecidableEq κ] {fields : List (κ × Tree K L)}
    {entries : List (κ × Obj L)} (howns : OwnsAll h fields entries G) {k : κ} :
    Dict.lookupRaw k entries = none ↔ Dict.lookupRaw k fields = none := by
  rw [← Option.not_isSome_iff_eq_none, howns.isSome_lookup, Option.not_isSome_iff_eq_none]

/-- The object under a key owns the tree under it.  Kind: L -/
theorem OwnsAll.lookup_some {κ : Type} [DecidableEq κ] {fields : List (κ × Tree K L)}
    {entries : List (κ × Obj L)} (howns : OwnsAll h fields entries G) {k : κ}
    (hfield : Dict.lookupRaw k fields = some t) :
    ∃ o F, Dict.lookupRaw k entries = some o ∧ Owns h t o F := by
  have hrel := howns.lookup k
  rw [hfield] at hrel
  generalize Dict.lookupRaw k entries = stored at hrel ⊢
  rcases hrel with ⟨F, hone⟩
  exact ⟨_, F, rfl, hone⟩

/-- The leaf under a label.  Kind: L -/
theorem OwnsAll.lookup_leaf_iff {κ : Type} [DecidableEq κ] {fields : List (κ × Tree K L)}
    {entries : List (κ × Obj L)} (howns : OwnsAll h fields entries G) {k : κ} {x : L} :
    Dict.lookupRaw k entries = some (.leaf x) ↔ Dict.lookupRaw k fields = some (.leaf x) := by
  have hrel := howns.lookup k
  generalize Dict.lookupRaw k fields = found, Dict.lookupRaw k entries = stored at hrel ⊢
  rcases hrel with ⟨F, hone⟩ | _
  · rw [Option.some_inj, Option.some_inj]
    exact hone.eq_leaf_iff
  · exact iff_of_false nofun nofun

/-- The object under a label, with what comes before and after it.  Kind: L -/
theorem OwnsAll.split {κ : Type} [DecidableEq κ] {fields : List (κ × Tree K L)}
    {entries : List (κ × Obj L)} {k : κ} (howns : OwnsAll h fields entries G)
    (hget : Dict.lookupRaw k entries = some o) :
    ∃ f₁ t f₂ e₁ e₂ G₁ F G₂, fields = f₁ ++ (k, t) :: f₂ ∧ entries = e₁ ++ (k, o) :: e₂ ∧
      G = G₁ ++ (F ++ G₂) ∧ k ∉ f₁.map Prod.fst ∧ OwnsAll h f₁ e₁ G₁ ∧ Owns h t o F ∧
      OwnsAll h f₂ e₂ G₂ := by
  induction howns with
  | nil => cases hget
  | @cons k' t o' F G fields entries hfirst hrest ih =>
      by_cases hk : k' = k
      · subst hk
        rw [Dict.lookupRaw, if_pos rfl] at hget
        cases hget
        exact ⟨[], t, fields, [], entries, [], F, G, rfl, rfl, rfl, List.not_mem_nil, .nil, hfirst,
          hrest⟩
      · rw [Dict.lookupRaw, if_neg hk] at hget
        obtain ⟨f₁, t', f₂, e₁, e₂, G₁, F', G₂, rfl, rfl, rfl, hnot, hbefore, hown, hafter⟩ := ih hget
        refine ⟨(k', t) :: f₁, t', f₂, (k', o') :: e₁, e₂, F ++ G₁, F', G₂, rfl, rfl, ?_, ?_,
          .cons hfirst hbefore, hown, hafter⟩
        · rw [List.append_assoc]
        · rw [List.map_cons, List.mem_cons, not_or]
          exact ⟨fun heq => hk heq.symm, hnot⟩

/-- Without the entries of a label.  Kind: L -/
theorem OwnsAll.erase {κ : Type} [DecidableEq κ] {fields : List (κ × Tree K L)}
    {entries : List (κ × Obj L)} (howns : OwnsAll h fields entries G) (k : κ) :
    ∃ G', G'.Sublist G ∧ OwnsAll h (Dict.eraseRaw k fields) (Dict.eraseRaw k entries) G' := by
  induction howns with
  | nil => exact ⟨[], List.Sublist.refl _, .nil⟩
  | @cons k' t o F G fields entries hfirst _ ih =>
      obtain ⟨G', hsub, hrest⟩ := ih
      by_cases hk : k' = k
      · subst hk
        refine ⟨G', hsub.trans (List.sublist_append_right _ _), ?_⟩
        simpa [Dict.eraseRaw] using hrest
      · refine ⟨F ++ G', (List.Sublist.refl F).append hsub, ?_⟩
        have hcons := OwnsAll.cons (k := k') hfirst hrest
        simpa [Dict.eraseRaw, hk] using hcons

/-- With a leaf under a label.  Kind: L -/
theorem OwnsAll.insert_leaf {κ : Type} [DecidableEq κ] {fields : List (κ × Tree K L)}
    {entries : List (κ × Obj L)} (howns : OwnsAll h fields entries G) (k : κ) (x : L) :
    ∃ G', G'.Sublist G ∧
      OwnsAll h (Dict.insertRaw k (.leaf x) fields) (Dict.insertRaw k (.leaf x) entries) G' := by
  induction howns with
  | nil => exact ⟨[], List.Sublist.refl _, .cons (F := []) ⟨rfl, rfl⟩ .nil⟩
  | @cons k' t o F G fields entries hfirst hrest ih =>
      obtain ⟨G', hsub, hinsert⟩ := ih
      by_cases hk : k' = k
      · rw [Dict.insertRaw, Dict.insertRaw, if_pos hk, if_pos hk]
        exact ⟨G, List.sublist_append_right _ _, .cons (F := []) ⟨rfl, rfl⟩ hrest⟩
      · rw [Dict.insertRaw, Dict.insertRaw, if_neg hk, if_neg hk]
        exact ⟨F ++ G', (List.Sublist.refl F).append hsub, .cons hfirst hinsert⟩

/-! ## Changes -/

/-- The heap has changed inside the containers of `F` and in new ones; those of `F'` are among
them. -/
structure Changes (h : Heap K L) (F : List ℕ) (h' : Heap K L) (F' : List ℕ) : Prop where
  next_le : h.next ≤ h'.next
  frame : ∀ i < h.next, i ∉ F → h'.cells i = h.cells i
  new : ∀ i ∈ F', i ∈ F ∨ h.next ≤ i
  lt : ∀ i ∈ F', i < h'.next
  nodup : F'.Nodup

theorem Changes.refl (hlt : ∀ i ∈ F, i < h.next) (hnodup : F.Nodup) : Changes h F h F :=
  ⟨le_rfl, fun _ _ _ => rfl, fun _ hi => .inl hi, hlt, hnodup⟩

/-- A new container changes nothing else.  Kind: L -/
theorem changes_alloc (h : Heap K L) (c : Cell K (Obj L)) : Changes h [] (h.alloc c) [h.next] where
  next_le := Nat.le_succ _
  frame := fun i hlt _ => h.cells_alloc_of_ne c hlt.ne
  new := fun i hi => .inr (List.mem_singleton.mp hi).ge
  lt := fun i hi => by rw [List.mem_singleton.mp hi, Heap.next_alloc]; omega
  nodup := List.nodup_singleton _

/-- A write changes one container.  Kind: L -/
theorem changes_write {i : ℕ} (hlt : ∀ j ∈ F, j < h.next) (hnodup : F.Nodup) (hi : i ∈ F)
    (c : Cell K (Obj L)) : Changes h F (h.write i c) F where
  next_le := le_rfl
  frame := fun _ _ hj => h.cells_write_of_ne c fun heq => hj (heq ▸ hi)
  new := fun _ hj => .inl hj
  lt := hlt
  nodup := hnodup

/-- One after the other.  Kind: L -/
theorem Changes.trans {h₁ h₂ : Heap K L} {F₁ F₂ : List ℕ} (hfirst : Changes h F h₁ F₁)
    (hsecond : Changes h₁ F₁ h₂ F₂) : Changes h F h₂ F₂ where
  next_le := hfirst.next_le.trans hsecond.next_le
  frame := by
    intro i hlt hi
    have hi₁ : i ∉ F₁ := by
      intro hmem
      rcases hfirst.new i hmem with hold | hle
      · exact hi hold
      · omega
    rw [hsecond.frame i (hlt.trans_le hfirst.next_le) hi₁, hfirst.frame i hlt hi]
  new := by
    intro i hmem
    rcases hsecond.new i hmem with hold | hle
    · exact hfirst.new i hold
    · exact .inr (hfirst.next_le.trans hle)
  lt := hsecond.lt
  nodup := hsecond.nodup

/-- More containers may have changed.  Kind: L -/
theorem Changes.widen (hchanges : Changes h [] h' F') (F : List ℕ) : Changes h F h' F' where
  next_le := hchanges.next_le
  frame := fun i hi _ => hchanges.frame i hi List.not_mem_nil
  new := fun i hi => .inr ((hchanges.new i hi).resolve_left List.not_mem_nil)
  lt := hchanges.lt
  nodup := hchanges.nodup

/-- Fewer containers are kept.  Kind: L -/
theorem Changes.mono (hchanges : Changes h F h' F') (hsub : G.Sublist F') : Changes h F h' G where
  next_le := hchanges.next_le
  frame := hchanges.frame
  new := fun i hi => hchanges.new i (hsub.subset hi)
  lt := fun i hi => hchanges.lt i (hsub.subset hi)
  nodup := hchanges.nodup.sublist hsub

/-- A change of the containers of `F` leaves those of `G` alone.  Kind: L -/
theorem Changes.same (hchanges : Changes h F h' F') (hG : ∀ i ∈ G, i < h.next)
    (hdisjoint : F.Disjoint G) : ∀ i ∈ G, h'.cells i = h.cells i :=
  fun i hi => hchanges.frame i (hG i hi) fun hF => hdisjoint hF hi

/-- The containers that a change of `F` leaves do not meet those of `G`.  Kind: L -/
theorem Changes.disjoint (hchanges : Changes h F h' F') (hG : ∀ i ∈ G, i < h.next)
    (hdisjoint : F.Disjoint G) : F'.Disjoint G := by
  intro i hF' hi
  rcases hchanges.new i hF' with hF | hle
  · exact hdisjoint hF hi
  · have hlt := hG i hi
    omega

/-- Side by side.  Kind: L -/
theorem Changes.append {h₁ h₂ : Heap K L} (hfirst : Changes h F h₁ F')
    (hsecond : Changes h₁ G h₂ G') (hG : ∀ i ∈ G, i < h.next) (hdisjoint : F.Disjoint G) :
    Changes h (F ++ G) h₂ (F' ++ G') where
  next_le := hfirst.next_le.trans hsecond.next_le
  frame := by
    intro i hlt hi
    rw [List.mem_append, not_or] at hi
    rw [hsecond.frame i (hlt.trans_le hfirst.next_le) hi.2, hfirst.frame i hlt hi.1]
  new := by
    intro i hmem
    rcases List.mem_append.mp hmem with hmem | hmem
    · exact (hfirst.new i hmem).imp_left (List.mem_append_left _)
    · rcases hsecond.new i hmem with hold | hle
      · exact .inl (List.mem_append_right _ hold)
      · exact .inr (hfirst.next_le.trans hle)
  lt := by
    intro i hmem
    rcases List.mem_append.mp hmem with hmem | hmem
    · exact (hfirst.lt i hmem).trans_le hsecond.next_le
    · exact hsecond.lt i hmem
  nodup := by
    refine hfirst.nodup.append hsecond.nodup ?_
    have hapart : F'.Disjoint G := hfirst.disjoint hG hdisjoint
    exact (hsecond.disjoint hfirst.lt hapart.symm).symm

/-- Inside more containers.  Kind: L -/
theorem Changes.inside {A B : List ℕ} (hchanges : Changes h F h' F')
    (hlt : ∀ i ∈ A ++ (F ++ B), i < h.next) (hnodup : (A ++ (F ++ B)).Nodup) :
    Changes h (A ++ (F ++ B)) h' (A ++ (F' ++ B)) := by
  obtain ⟨hA, hFB, hdisjoint⟩ := List.nodup_append'.mp hnodup
  obtain ⟨hF, hB, hdisjoint'⟩ := List.nodup_append'.mp hFB
  have hltA : ∀ i ∈ A, i < h.next := fun i hi => hlt i (List.mem_append_left _ hi)
  have hltFB : ∀ i ∈ F ++ B, i < h.next := fun i hi => hlt i (List.mem_append_right _ hi)
  have hltB : ∀ i ∈ B, i < h.next := fun i hi => hltFB i (List.mem_append_right _ hi)
  have hleft : Changes h A h A := .refl hltA hA
  have hright : Changes h' B h' B :=
    .refl (fun i hi => (hltB i hi).trans_le hchanges.next_le) hB
  exact hleft.append (hchanges.append hright hltB hdisjoint') hltFB hdisjoint

/-- A dictionary gets a new entry, with new containers.  Kind: L -/
theorem owns_insert_new [DecidableEq K] {h₁ : Heap K L} {i : ℕ} {k : K}
    {fields : List (K × Tree K L)} {entries : Dict K (Obj L)} {N : List ℕ}
    (howns : OwnsAll h fields entries.entries G) (hlt : ∀ j ∈ i :: G, j < h.next)
    (hnodup : (i :: G).Nodup) (hchanges : Changes h [] h₁ N) (hnew : Owns h₁ t o N)
    (hnone : Dict.lookupRaw k entries.entries = none) :
    OwnsAll (h₁.write i (.dict (entries.insert k o))) (Dict.insertRaw k t fields)
        (entries.insert k o).entries (G ++ N) ∧
      Changes h (i :: G) (h₁.write i (.dict (entries.insert k o))) (i :: (G ++ N)) := by
  have hbeside : Changes h (i :: G) h₁ (i :: (G ++ N)) := by
    have hside := (Changes.refl hlt hnodup).append hchanges (fun j hj => absurd hj List.not_mem_nil)
      (List.disjoint_nil_right _)
    rw [List.append_nil] at hside
    exact hside
  have hwrite : Changes h₁ (i :: (G ++ N)) (h₁.write i (.dict (entries.insert k o))) (i :: (G ++ N)) :=
    changes_write hbeside.lt hbeside.nodup List.mem_cons_self _
  refine ⟨?_, hbeside.trans hwrite⟩
  have hfields : Dict.lookupRaw k fields = none := howns.lookup_none_iff.mp hnone
  rw [Dict.entries_insert_of_fresh hnone, Dict.insertRaw_of_fresh hfields]
  have hapart : i ∉ G ++ N := (List.nodup_cons.mp hbeside.nodup).1
  have hsame : OwnsAll h₁ fields entries.entries G :=
    howns.frame (hchanges.same (fun j hj => hlt j (List.mem_cons_of_mem _ hj))
      (List.disjoint_nil_left _))
  have hentry : OwnsAll h₁ [(k, t)] [(k, o)] N := by
    have hcons := OwnsAll.cons (k := k) hnew .nil
    rw [List.append_nil] at hcons
    exact hcons
  refine (hsame.append hentry).frame ?_
  intro j hj
  exact h₁.cells_write_of_ne _ fun heq => hapart (heq ▸ hj)

end ExpraConnect.Lib.Graph
