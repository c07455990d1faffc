import Mathlib.Data.List.Forall2
import Mathlib.Logic.Relation
import ExpraConnect.Lib.Dict

/-!
# Object graphs

Containers with identities, which may share their items and may contain themselves, and the finite
trees that they stand for.

* `Obj`, `Cell`, `Heap`: an object is a leaf or the identity of a container, and a heap gives the
  contents of the containers;
* `Tree`, `read`, `Reads`: the tree that an object stands for, read down to a depth;
* `Tree.NodeAt`: the nodes of a tree, with their depths;
* `Child`, `Cyclic`: a graph in which some container contains itself stands for no tree.

Leaves are of a type `L`, keys of a type `K`.
-/

namespace ExpraConnect.Lib.Graph

variable {K L : Type}

/-- A container of items. -/
inductive Cell (K α : Type) where
  | list (items : List α)
  | dict (entries : Dict K α)

/-- What a container contains. -/
def Cell.children {α : Type} : Cell K α → List α
  | .list items => items
  | .dict entries => entries.values

/-- A leaf, or the identity of a container. -/
inductive Obj (L : Type) where
  | leaf (x : L)
  | ref (i : ℕ)

/-- The containers. -/
structure Heap (K L : Type) where
  /-- The first identity that is not in use. -/
  next : ℕ
  /-- The contents by identity. -/
  cells : ℕ → Cell K (Obj L)

/-- A finite value. -/
inductive Tree (K L : Type) where
  | leaf (x : L)
  | list (items : List (Tree K L))
  | dict (fields : List (K × Tree K L))

namespace Tree

/-- What a value contains. -/
def children : Tree K L → List (Tree K L)
  | .leaf _ => []
  | .list items => items
  | .dict fields => fields.map Prod.snd

/-- A node of a tree, at its depth. -/
inductive NodeAt : Tree K L → ℕ → Tree K L → Prop
  | self (t : Tree K L) : NodeAt t 0 t
  | child {s t u : Tree K L} {d : ℕ} (hs : s ∈ t.children) (hu : NodeAt s d u) : NodeAt t (d + 1) u

end Tree

/-! ## Reading -/

/-- The tree of an object, if it has at most that many levels. -/
def read (h : Heap K L) : ℕ → Obj L → Option (Tree K L)
  | 0, _ => none
  | _ + 1, .leaf x => some (.leaf x)
  | n + 1, .ref i =>
      match h.cells i with
      | .list items => (items.mapM (read h n)).map .list
      | .dict entries =>
          (entries.entries.mapM fun p => (read h n p.2).map fun t => (p.1, t)).map .dict

/-- The tree of an object. -/
def Reads (h : Heap K L) (o : Obj L) (t : Tree K L) : Prop := ∃ n, read h n o = some t

/-- Without fuel nothing is read.  Kind: L -/
@[simp] theorem read_zero (h : Heap K L) (o : Obj L) : read h 0 o = none := rfl

/-- A leaf reads as itself.  Kind: L -/
@[simp] theorem read_leaf (h : Heap K L) (n : ℕ) (x : L) :
    read h (n + 1) (.leaf x) = some (.leaf x) := rfl

/-- `mapM` over options succeeds when every item does, with the results in order.  Kind: L -/
theorem mapM_eq_some_iff {α β : Type} {f : α → Option β} {l : List α} {out : List β} :
    l.mapM f = some out ↔ List.Forall₂ (fun a b => f a = some b) l out := by
  induction l generalizing out with
  | nil =>
      rw [List.mapM_nil, List.forall₂_nil_left_iff]
      exact ⟨fun h => (Option.some.inj h).symm, fun h => congrArg some h.symm⟩
  | cons a l ih =>
      rw [List.mapM_cons]
      constructor
      · intro h
        rcases ha : f a with _ | b
        · rw [ha] at h
          cases h
        rcases hl : l.mapM f with _ | bs
        · rw [ha, hl] at h
          cases h
        rw [ha, hl] at h
        cases h
        exact .cons ha (ih.mp hl)
      · intro h
        rcases h with _ | ⟨ha, hl⟩
        rw [ha, ih.mpr hl]
        rfl

/-- A partner on the right.  Kind: L -/
theorem exists_of_mem_left {α β : Type} {R : α → β → Prop} {l : List α} {l' : List β}
    (h : List.Forall₂ R l l') {a : α} (ha : a ∈ l) : ∃ b ∈ l', R a b := by
  induction h with
  | nil => cases ha
  | cons hab _ ih =>
      rcases List.mem_cons.mp ha with rfl | ha
      · exact ⟨_, List.mem_cons_self, hab⟩
      · obtain ⟨b, hb, hR⟩ := ih ha
        exact ⟨b, List.mem_cons_of_mem _ hb, hR⟩

/-- A partner on the left.  Kind: L -/
theorem exists_of_mem_right {α β : Type} {R : α → β → Prop} {l : List α} {l' : List β}
    (h : List.Forall₂ R l l') {b : β} (hb : b ∈ l') : ∃ a ∈ l, R a b :=
  exists_of_mem_left (R := fun b a => R a b) h.flip hb

/-- Partners chosen for a whole list.  Kind: L -/
theorem exists_forall₂ {α β : Type} {R : α → β → Prop} {l : List α}
    (h : ∀ a ∈ l, ∃ b, R a b) : ∃ l', List.Forall₂ R l l' := by
  induction l with
  | nil => exact ⟨[], .nil⟩
  | cons a l ih =>
      obtain ⟨b, hb⟩ := h a List.mem_cons_self
      obtain ⟨l', hl'⟩ := ih fun a ha => h a (List.mem_cons_of_mem _ ha)
      exact ⟨b :: l', .cons hb hl'⟩

/-- The relation may be weakened on the members of the lists.  Kind: L -/
theorem forall₂_imp_of_mem {α β : Type} {R S : α → β → Prop} {l : List α} {l' : List β}
    (h : List.Forall₂ R l l') (himp : ∀ a ∈ l, ∀ b ∈ l', R a b → S a b) :
    List.Forall₂ S l l' := by
  induction h with
  | nil => exact .nil
  | cons hab _ ih =>
      refine .cons (himp _ List.mem_cons_self _ List.mem_cons_self hab) (ih ?_)
      intro a ha b hb hR
      exact himp a (List.mem_cons_of_mem _ ha) b (List.mem_cons_of_mem _ hb) hR

/-- Reading a container is reading its items.  Kind: L -/
theorem read_ref_iff {h : Heap K L} {n i : ℕ} {t : Tree K L} :
    read h (n + 1) (.ref i) = some t ↔
      (∃ items trees, h.cells i = .list items ∧ t = .list trees ∧
        List.Forall₂ (fun o s => read h n o = some s) items trees) ∨
      ∃ entries fields, h.cells i = .dict entries ∧ t = .dict fields ∧
        List.Forall₂ (fun p q => p.1 = q.1 ∧ read h n p.2 = some q.2) entries.entries fields := by
  have hentry (p : K × Obj L) (q : K × Tree K L) :
      ((read h n p.2).map fun s => (p.1, s)) = some q ↔ p.1 = q.1 ∧ read h n p.2 = some q.2 := by
    obtain ⟨key, s⟩ := q
    rw [Option.map_eq_some_iff]
    constructor
    · rintro ⟨s', hs, hpair⟩
      cases hpair
      exact ⟨rfl, hs⟩
    · rintro ⟨hkey, hs⟩
      exact ⟨s, hs, Prod.ext hkey rfl⟩
  rcases hi : h.cells i with items | entries
  · rw [read, hi]
    dsimp only
    rw [Option.map_eq_some_iff]
    constructor
    · rintro ⟨trees, htrees, rfl⟩
      exact .inl ⟨items, trees, rfl, rfl, mapM_eq_some_iff.mp htrees⟩
    · rintro (⟨_, trees, heq, rfl, htrees⟩ | ⟨_, _, heq, -⟩)
      · cases heq
        exact ⟨trees, mapM_eq_some_iff.mpr htrees, rfl⟩
      · cases heq
  · rw [read, hi]
    dsimp only
    rw [Option.map_eq_some_iff]
    constructor
    · rintro ⟨fields, hfields, rfl⟩
      refine .inr ⟨entries, fields, rfl, rfl, ?_⟩
      exact (mapM_eq_some_iff.mp hfields).imp fun p q => (hentry p q).mp
    · rintro (⟨_, _, heq, -⟩ | ⟨_, fields, heq, rfl, hfields⟩)
      · cases heq
      · cases heq
        exact ⟨fields, mapM_eq_some_iff.mpr (hfields.imp fun p q => (hentry p q).mpr), rfl⟩

/-- There is more room to read down to a greater depth.  Kind: L -/
theorem read_mono {h : Heap K L} {n m : ℕ} {o : Obj L} {t : Tree K L} (hread : read h n o = some t)
    (hle : n ≤ m) : read h m o = some t := by
  induction n generalizing m o t with
  | zero => cases hread
  | succ n ih =>
      obtain ⟨m, rfl⟩ := Nat.exists_eq_add_of_le' (show 1 ≤ m by omega)
      rcases o with x | i
      · exact hread
      · rcases read_ref_iff.mp hread with ⟨items, trees, hi, rfl, hall⟩ | ⟨entries, fields, hi, rfl, hall⟩
        · refine read_ref_iff.mpr (.inl ⟨items, trees, hi, rfl, ?_⟩)
          exact hall.imp fun o s hs => ih hs (by omega)
        · refine read_ref_iff.mpr (.inr ⟨entries, fields, hi, rfl, ?_⟩)
          exact hall.imp fun p q hq => ⟨hq.1, ih hq.2 (by omega)⟩

/-- An object stands for one tree.  Kind: L -/
theorem Reads.unique {h : Heap K L} {o : Obj L} {s t : Tree K L} (hs : Reads h o s)
    (ht : Reads h o t) : s = t := by
  obtain ⟨n, hn⟩ := hs
  obtain ⟨m, hm⟩ := ht
  have hn' := read_mono hn (le_max_left n m)
  have hm' := read_mono hm (le_max_right n m)
  exact Option.some.inj (hn'.symm.trans hm')

/-- What a tree contains is read from what the container contains.  Kind: L -/
theorem read_children {h : Heap K L} {n : ℕ} {o : Obj L} {s t : Tree K L}
    (hread : read h n o = some t) (hs : s ∈ t.children) :
    ∃ m o', n = m + 1 ∧ read h m o' = some s := by
  rcases n with _ | n
  · cases hread
  rcases o with x | i
  · cases hread
    cases hs
  rcases read_ref_iff.mp hread with ⟨items, trees, hi, rfl, hall⟩ | ⟨entries, fields, hi, rfl, hall⟩
  · obtain ⟨o', -, hread'⟩ := exists_of_mem_right hall hs
    exact ⟨n, o', rfl, hread'⟩
  · obtain ⟨q, hq, rfl⟩ := List.mem_map.mp hs
    obtain ⟨p, -, -, hread'⟩ := exists_of_mem_right hall hq
    exact ⟨n, p.2, rfl, hread'⟩

/-- The nodes of a tree are at fewer levels than were read.  Kind: L -/
theorem Tree.NodeAt.lt_of_read {h : Heap K L} {n d : ℕ} {o : Obj L} {t u : Tree K L}
    (hnode : t.NodeAt d u) (hread : read h n o = some t) : d < n := by
  induction hnode generalizing n o with
  | self t =>
      rcases n with _ | n
      · cases hread
      · omega
  | child hs _ ih =>
      obtain ⟨m, o', rfl, hread'⟩ := read_children hread hs
      have hlt := ih hread'
      omega

/-- A tree is read down to the depths of its nodes.  Kind: L -/
theorem read_of_depths {h : Heap K L} {n room : ℕ} {o : Obj L} {t : Tree K L}
    (hread : read h n o = some t) (hdepths : ∀ d u, t.NodeAt d u → d < room) :
    read h room o = some t := by
  induction n generalizing room o t with
  | zero => cases hread
  | succ n ih =>
      obtain ⟨room, rfl⟩ := Nat.exists_eq_add_of_le' (hdepths 0 t (.self t))
      have hitem {s : Tree K L} (hs : s ∈ t.children) (d : ℕ) (u : Tree K L)
          (hu : s.NodeAt d u) : d < room := by
        have hlt := hdepths (d + 1) u (.child hs hu)
        omega
      rcases o with x | i
      · exact hread
      · rcases read_ref_iff.mp hread with
          ⟨items, trees, hi, rfl, hall⟩ | ⟨entries, fields, hi, rfl, hall⟩
        · refine read_ref_iff.mpr (.inl ⟨items, trees, hi, rfl, ?_⟩)
          exact forall₂_imp_of_mem hall fun o _ s hs hread => ih hread (hitem hs)
        · refine read_ref_iff.mpr (.inr ⟨entries, fields, hi, rfl, ?_⟩)
          exact forall₂_imp_of_mem hall fun p _ q hq hread =>
            ⟨hread.1, ih hread.2 (hitem (List.mem_map_of_mem hq))⟩

/-- A property of all nodes, at the root and below.  Kind: L -/
theorem Tree.forall_nodeAt_iff {P : ℕ → Tree K L → Prop} {t : Tree K L} :
    (∀ d u, t.NodeAt d u → P d u) ↔
      P 0 t ∧ ∀ s ∈ t.children, ∀ d u, s.NodeAt d u → P (d + 1) u := by
  constructor
  · intro h
    exact ⟨h 0 t (.self t), fun s hs d u hu => h (d + 1) u (.child hs hu)⟩
  · rintro ⟨hself, hchildren⟩ d u hu
    rcases hu with _ | ⟨hs, hu⟩
    · exact hself
    · exact hchildren _ hs _ u hu

/-- The tree has at most that many levels. -/
def Tree.Fits (n : ℕ) (t : Tree K L) : Prop := ∀ d u, t.NodeAt d u → d < n

/-- No tree fits in no levels.  Kind: L -/
theorem Tree.not_fits_zero (t : Tree K L) : ¬t.Fits 0 :=
  fun h => Nat.not_lt_zero _ (h 0 t (.self t))

/-- A tree fits in one level more than its subtrees.  Kind: L -/
theorem Tree.fits_succ_iff {n : ℕ} {t : Tree K L} :
    t.Fits (n + 1) ↔ ∀ s ∈ t.children, s.Fits n := by
  unfold Tree.Fits
  rw [Tree.forall_nodeAt_iff]
  constructor
  · rintro ⟨-, hchildren⟩ s hs d u hu
    have hlt := hchildren s hs d u hu
    omega
  · intro hchildren
    refine ⟨by omega, ?_⟩
    intro s hs d u hu
    have hlt := hchildren s hs d u hu
    omega

/-- More levels do no harm.  Kind: L -/
theorem Tree.Fits.mono {n m : ℕ} {t : Tree K L} (h : t.Fits n) (hle : n ≤ m) : t.Fits m :=
  fun d u hu => (h d u hu).trans_le hle

/-! ## Cycles -/

/-- The second object is an item of the first. -/
def Child (h : Heap K L) (o o' : Obj L) : Prop := ∃ i, o = .ref i ∧ o' ∈ (h.cells i).children

/-- A container that contains itself can be reached from the object. -/
def Cyclic (h : Heap K L) (o : Obj L) : Prop :=
  ∃ i, Relation.ReflTransGen (Child h) o (.ref i) ∧ Relation.TransGen (Child h) (.ref i) (.ref i)

/-- Items are read with less room.  Kind: L -/
theorem read_child {h : Heap K L} {n : ℕ} {o o' : Obj L} {t : Tree K L}
    (hread : read h n o = some t) (hchild : Child h o o') :
    ∃ m s, m < n ∧ read h m o' = some s := by
  obtain ⟨i, rfl, hmem⟩ := hchild
  rcases n with _ | n
  · cases hread
  rcases read_ref_iff.mp hread with ⟨items, trees, hi, -, hall⟩ | ⟨entries, fields, hi, -, hall⟩
  · rw [hi] at hmem
    obtain ⟨s, -, hs⟩ := exists_of_mem_left hall hmem
    exact ⟨n, s, by omega, hs⟩
  · rw [hi] at hmem
    obtain ⟨p, hp, rfl⟩ := List.mem_map.mp hmem
    obtain ⟨q, -, hq⟩ := exists_of_mem_left hall hp
    exact ⟨n, q.2, by omega, hq.2⟩

/-- What is read contains every descendant, read with less fuel.  Kind: L -/
theorem read_descendant {h : Heap K L} {n : ℕ} {o o' : Obj L} {t : Tree K L}
    (hread : read h n o = some t) (hpath : Relation.TransGen (Child h) o o') :
    ∃ m s, m < n ∧ read h m o' = some s := by
  induction hpath with
  | single hchild => exact read_child hread hchild
  | tail _ hchild ih =>
      obtain ⟨m, s, hlt, hs⟩ := ih
      obtain ⟨k, u, hlt', hu⟩ := read_child hs hchild
      exact ⟨k, u, by omega, hu⟩

/-- What contains itself stands for no tree.  Kind: L -/
theorem read_of_cycle {h : Heap K L} {o : Obj L} (hcycle : Relation.TransGen (Child h) o o)
    (n : ℕ) : read h n o = none := by
  induction n using Nat.strong_induction_on with
  | _ n ih =>
      rcases hread : read h n o with _ | t
      · rfl
      · obtain ⟨m, s, hlt, hs⟩ := read_descendant hread hcycle
        rw [ih m hlt] at hs
        cases hs

/-- A cycle does not read as a tree.  Kind: L -/
theorem Cyclic.not_reads {h : Heap K L} {o : Obj L} (hcyclic : Cyclic h o) (t : Tree K L) :
    ¬Reads h o t := by
  rintro ⟨n, hn⟩
  obtain ⟨i, hpath, hcycle⟩ := hcyclic
  rcases Relation.reflTransGen_iff_eq_or_transGen.mp hpath with heq | hpath
  · rw [← heq, read_of_cycle hcycle] at hn
    cases hn
  · obtain ⟨m, s, -, hs⟩ := read_descendant hn hpath
    rw [read_of_cycle hcycle] at hs
    cases hs

end ExpraConnect.Lib.Graph
