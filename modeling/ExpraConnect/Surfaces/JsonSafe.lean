import ExpraConnect.Objects
import ExpraConnect.Remote.WireProtocol

/-!
# JSON-safe surface parameters

`surfaces/protocol.py`, `_json_safe`: a loop over an explicit stack that checks an object, its items
and their items, however they share each other.

* `Visit`, `jsonSafeLoop`: the entries of the stack, and the loop;
* `safeTo`: the recursive meaning of the check, on objects;
* `Linked`: what the stack looks like at every turn of the loop: whatever lies above the exit marker
  of a container is a descendant of the container;
* `jsonSafeLoop_eq`: the loop ends, with the recursive meaning of what is on the stack;
* `json_safe_meaning`: the check accepts the objects that stand for a safe tree.
-/

namespace ExpraConnect

open ExpraConnect.Lib ExpraConnect.Lib.Graph

/-! ## The loop -/

/-- An entry of the stack: an object to check, or the exit marker of a container.
Source: `surfaces/protocol.py`, `_json_safe`.  Kind: D -/
inductive Visit where
  /-- `(current, depth, False)` -/
  | enter (current : PyObject) (depth : ℕ)
  /-- `(current, depth, True)`, of a container. -/
  | leave (current : ℕ) (depth : ℕ)

/-- A leaf that the loop accepts. -/
def Scalar.isPlain : Scalar → Bool
  | .null | .text _ | .bool _ | .int _ => true
  | .float (.finite _) => true
  | .float _ => false
  | .foreign _ => false

/-- The keys of a container are texts. -/
def textKeys {α : Type} : Cell Key α → Bool
  | .list _ => true
  | .dict entries => entries.keys.all Key.isText

/-- The loop of `_json_safe`, for at most `fuel` turns.
Source: `surfaces/protocol.py`, `_json_safe`.  Kind: D -/
def jsonSafeLoop (h : PyHeap) : ℕ → List Visit → List ℕ → Option (Except PyError Bool)
  | 0, _, _ => none
  | _ + 1, [], _ => some (.ok true)
  | fuel + 1, .leave current _ :: stack, activeContainers =>
      if current ∈ activeContainers then
        jsonSafeLoop h fuel stack (activeContainers.erase current)
      else some (.error ⟨.key, "container is not active"⟩)
  | fuel + 1, .enter current depth :: stack, activeContainers =>
      if maxSurfaceParamDepth < depth then some (.ok false)
      else
        match current with
        | .leaf x =>
            if x.isPlain then jsonSafeLoop h fuel stack activeContainers
            else some (.ok false)
        | .ref identity =>
            if identity ∈ activeContainers then some (.ok false)
            -- the items are pushed in reverse, so that the first one is on top
            else if textKeys (h.cells identity) then
              jsonSafeLoop h fuel
                ((h.cells identity).children.map (Visit.enter · (depth + 1)) ++
                  .leave identity depth :: stack)
                (identity :: activeContainers)
            else some (.ok false)

/-! ## The recursive meaning -/

/-- The object and its items are safe, down to `room` levels. -/
def safeTo (h : PyHeap) : ℕ → PyObject → Bool
  | 0, _ => false
  | _ + 1, .leaf x => x.isPlain
  | room + 1, .ref i => textKeys (h.cells i) && (h.cells i).children.all (safeTo h room)

/-- The levels that are left at a depth. -/
def roomAt (depth : ℕ) : ℕ := maxSurfaceParamDepth + 1 - depth

/-- What is left to check on the stack is safe. -/
def safeStack (h : PyHeap) (stack : List Visit) : Bool :=
  stack.all fun visit =>
    match visit with
    | .enter current depth => safeTo h (roomAt depth) current
    | .leave _ _ => true

/-- The turns that an object takes. -/
def turnsOf (h : PyHeap) : ℕ → PyObject → ℕ
  | 0, _ => 1
  | _ + 1, .leaf _ => 1
  | room + 1, .ref i => 2 + ((h.cells i).children.map (turnsOf h room)).sum

/-- The turns that a stack takes. -/
def turns (h : PyHeap) (stack : List Visit) : ℕ :=
  (stack.map fun visit =>
    match visit with
    | .enter current depth => turnsOf h (roomAt depth) current
    | .leave _ _ => 1).sum

/-- The containers with exit markers on the stack. -/
def exits (stack : List Visit) : List ℕ :=
  stack.filterMap fun visit =>
    match visit with
    | .enter _ _ => none
    | .leave current _ => some current

/-- The object of an entry. -/
def Visit.object : Visit → PyObject
  | .enter current _ => current
  | .leave current _ => .ref current

/-- What lies above the exit marker of a container is a descendant of the container. -/
def Linked (h : PyHeap) (stack : List Visit) : Prop :=
  stack.Pairwise fun above below =>
    ∀ i depth, below = .leave i depth → Relation.TransGen (Child h) (.ref i) above.object

variable {h : PyHeap}

/-- A descendant of a safe object is safe, on fewer levels.  Kind: L -/
theorem safeTo_descendant {room : ℕ} {o o' : PyObject} (hsafe : safeTo h room o = true)
    (hpath : Relation.TransGen (Child h) o o') : ∃ room' < room, safeTo h room' o' = true := by
  have hchild {room : ℕ} {o o' : PyObject} (hsafe : safeTo h room o = true)
      (hchild : Child h o o') : ∃ room' < room, safeTo h room' o' = true := by
    obtain ⟨i, rfl, hmem⟩ := hchild
    rcases room with _ | room
    · cases hsafe
    · rw [safeTo, Bool.and_eq_true, List.all_eq_true] at hsafe
      exact ⟨room, by omega, hsafe.2 o' hmem⟩
  induction hpath with
  | single hlast => exact hchild hsafe hlast
  | tail _ hlast ih =>
      obtain ⟨room', hlt, hsafe'⟩ := ih
      obtain ⟨room'', hlt', hsafe''⟩ := hchild hsafe' hlast
      exact ⟨room'', by omega, hsafe''⟩

/-- What contains itself is not safe.  Kind: L -/
theorem safeTo_of_cycle {o : PyObject} (hcycle : Relation.TransGen (Child h) o o) (room : ℕ) :
    safeTo h room o = false := by
  induction room using Nat.strong_induction_on with
  | _ room ih =>
      rcases hsafe : safeTo h room o with _ | _
      · rfl
      · obtain ⟨room', hlt, hsafe'⟩ := safeTo_descendant hsafe hcycle
        rw [ih room' hlt] at hsafe'
        cases hsafe'

/-- Every object takes a turn.  Kind: L -/
theorem turnsOf_pos (h : PyHeap) (room : ℕ) (o : PyObject) : 0 < turnsOf h room o := by
  rcases room with _ | room
  · exact Nat.one_pos
  · rcases o with x | i
    · exact Nat.one_pos
    · rw [turnsOf]
      omega

/-- One level deeper there is one level less.  Kind: L -/
theorem roomAt_of_le {depth : ℕ} (hle : depth ≤ maxSurfaceParamDepth) :
    roomAt depth = roomAt (depth + 1) + 1 := by
  unfold roomAt
  omega

/-- The loop ends, and accepts the stack if all that is left to check is safe.  Kind: L -/
theorem jsonSafeLoop_eq (fuel : ℕ) (stack : List Visit) (hfuel : turns h stack < fuel)
    (hlinked : Linked h stack) :
    jsonSafeLoop h fuel stack (exits stack) = some (.ok (safeStack h stack)) := by
  induction fuel generalizing stack with
  | zero => omega
  | succ fuel ih =>
      rcases stack with _ | ⟨visit, stack⟩
      · rfl
      obtain ⟨habove, hrest⟩ := List.pairwise_cons.mp hlinked
      rcases visit with ⟨current, depth⟩ | ⟨current, depth⟩
      · have hturns : turnsOf h (roomAt depth) current + turns h stack < fuel + 1 := by
          simpa [turns] using hfuel
        have hpos := turnsOf_pos h (roomAt depth) current
        have hsafe : safeStack h (.enter current depth :: stack) =
            (safeTo h (roomAt depth) current && safeStack h stack) := rfl
        have hexits : exits (.enter current depth :: stack) = exits stack := rfl
        rw [jsonSafeLoop.eq_def, hsafe, hexits]
        dsimp only
        by_cases hdeep : maxSurfaceParamDepth < depth
        · have hroom : roomAt depth = 0 := by
            unfold roomAt
            omega
          rw [if_pos hdeep, hroom]
          rfl
        have hroom := roomAt_of_le (not_lt.mp hdeep)
        rw [if_neg hdeep]
        rcases current with x | i
        · dsimp only
          rw [hroom, safeTo]
          rcases hplain : x.isPlain with _ | _
          · rfl
          · rw [if_pos rfl, Bool.true_and]
            exact ih stack (by omega) hrest
        · dsimp only
          by_cases hactive : i ∈ exits stack
          · -- the container is one of those that are being checked
            rw [if_pos hactive]
            obtain ⟨below, hbelow, hexit⟩ := List.mem_filterMap.mp hactive
            rcases below with ⟨o, d⟩ | ⟨j, d⟩
            · cases hexit
            · cases hexit
              have hcycle := habove _ hbelow i d rfl
              rw [safeTo_of_cycle (show Relation.TransGen (Child h) (.ref i) (.ref i) from hcycle)]
              rfl
          rw [if_neg hactive, hroom, safeTo]
          rcases hkeys : textKeys (h.cells i) with _ | _
          · rfl
          rw [if_pos rfl, Bool.true_and]
          set items := (h.cells i).children.map (Visit.enter · (depth + 1)) with hitems
          have hitem {visit : Visit} (hmem : visit ∈ items) :
              ∃ o ∈ (h.cells i).children, visit = .enter o (depth + 1) := by
            obtain ⟨o, ho, heq⟩ := List.mem_map.mp hmem
            exact ⟨o, ho, heq.symm⟩
          have hmarks : exits (items ++ .leave i depth :: stack) = i :: exits stack := by
            have hnone : exits items = [] := by
              refine List.filterMap_eq_nil_iff.mpr ?_
              intro visit hmem
              obtain ⟨o, -, rfl⟩ := hitem hmem
              rfl
            unfold exits at hnone ⊢
            rw [List.filterMap_append, hnone]
            rfl
          have hnew : safeStack h (items ++ .leave i depth :: stack) =
              ((h.cells i).children.all (safeTo h (roomAt (depth + 1))) && safeStack h stack) := by
            unfold safeStack
            rw [List.all_append, hitems, List.all_map]
            rfl
          have hcost : turns h (items ++ .leave i depth :: stack) + 1 =
              turnsOf h (roomAt depth) (.ref i) + turns h stack := by
            unfold turns
            rw [hroom, turnsOf, List.map_append, List.sum_append, hitems, List.map_map,
              List.map_cons, List.sum_cons]
            show (List.map (turnsOf h (roomAt (depth + 1))) _).sum + _ + 1 = _
            ring
          have hnext : Linked h (items ++ .leave i depth :: stack) := by
            refine List.pairwise_append.mpr ⟨?_, List.pairwise_cons.mpr ⟨?_, hrest⟩, ?_⟩
            · refine List.Pairwise.imp_of_mem ?_ (List.pairwise_of_forall fun _ _ => trivial)
              intro above below _ hbelow _ j d heq
              obtain ⟨o, -, rfl⟩ := hitem hbelow
              cases heq
            · intro below hbelow j d heq
              exact habove below hbelow j d heq
            · intro above hmem below hbelow j d heq
              obtain ⟨o, ho, rfl⟩ := hitem hmem
              have hchild : Child h (.ref i) o := ⟨i, rfl, ho⟩
              rcases List.mem_cons.mp hbelow with rfl | hbelow
              · cases heq
                exact .single hchild
              · exact (habove below hbelow j d heq).tail hchild
          have hrun := ih _ (by omega) hnext
          rw [hmarks, hnew] at hrun
          exact hrun
      · have hexits : exits (.leave current depth :: stack) = current :: exits stack := rfl
        rw [jsonSafeLoop, hexits, if_pos List.mem_cons_self, List.erase_cons_head]
        have hturns : 1 + turns h stack < fuel + 1 := by simpa [turns] using hfuel
        exact ih stack (by omega) hrest

/-! ## Safe trees -/

/-- A leaf that is accepted, or a container whose keys are texts. -/
def PlainNode : PyTree → Prop
  | .leaf x => x.isPlain = true
  | .list _ => True
  | .dict fields => ∀ p ∈ fields, p.1.isText = true

/-- Every node is a plain one, at a nesting depth that is allowed. -/
def SafeTree (t : PyTree) : Prop :=
  ∀ d u, t.NodeAt d u → d ≤ maxSurfaceParamDepth ∧ PlainNode u

/-- A container of safe items has a tree with plain nodes.  Kind: L -/
theorem safeTo_iff (h : PyHeap) (room : ℕ) (o : PyObject) :
    safeTo h room o = true ↔
      ∃ t, read h room o = some t ∧ ∀ d u, t.NodeAt d u → PlainNode u := by
  induction room generalizing o with
  | zero =>
      constructor
      · intro hsafe
        cases hsafe
      · rintro ⟨t, hread, -⟩
        cases hread
  | succ room ih =>
      rcases o with x | i
      · constructor
        · intro hplain
          exact ⟨.leaf x, rfl, Tree.forall_nodeAt_iff.mpr ⟨hplain, fun s hs => by cases hs⟩⟩
        · rintro ⟨t, hread, hplain⟩
          cases hread
          exact hplain 0 _ (.self _)
      rw [safeTo, Bool.and_eq_true, List.all_eq_true]
      constructor
      · rintro ⟨hkeys, hall⟩
        rcases hi : h.cells i with items | entries
        · rw [hi] at hall
          obtain ⟨trees, htrees⟩ := exists_forall₂ fun o ho => (ih o).mp (hall o ho)
          refine ⟨.list trees, read_ref_iff.mpr (.inl ⟨items, trees, hi, rfl, ?_⟩), ?_⟩
          · exact htrees.imp fun o s hs => hs.1
          · refine Tree.forall_nodeAt_iff.mpr ⟨trivial, ?_⟩
            intro s hs
            obtain ⟨o, -, -, hplain⟩ := exists_of_mem_right htrees hs
            exact hplain
        · rw [hi] at hall hkeys
          have hitem : ∀ p ∈ entries.entries, ∃ q : Key × PyTree, p.1 = q.1 ∧ read h room p.2 = some q.2 ∧
              ∀ d u, q.2.NodeAt d u → PlainNode u := by
            intro p hp
            obtain ⟨s, hs, hplain⟩ := (ih p.2).mp (hall p.2 (List.mem_map_of_mem hp))
            exact ⟨(p.1, s), rfl, hs, hplain⟩
          obtain ⟨fields, hfields⟩ := exists_forall₂ hitem
          refine ⟨.dict fields, read_ref_iff.mpr (.inr ⟨entries, fields, hi, rfl, ?_⟩), ?_⟩
          · exact hfields.imp fun p q hq => ⟨hq.1, hq.2.1⟩
          · refine Tree.forall_nodeAt_iff.mpr ⟨?_, ?_⟩
            · intro q hq
              obtain ⟨p, hp, hkey, -⟩ := exists_of_mem_right hfields hq
              rw [← hkey]
              exact List.all_eq_true.mp hkeys p.1 (List.mem_map_of_mem hp)
            · intro s hs
              obtain ⟨q, hq, rfl⟩ := List.mem_map.mp hs
              obtain ⟨p, -, -, -, hplain⟩ := exists_of_mem_right hfields hq
              exact hplain
      · rintro ⟨t, hread, hplain⟩
        rcases read_ref_iff.mp hread with
          ⟨items, trees, hi, rfl, hall⟩ | ⟨entries, fields, hi, rfl, hall⟩
        · obtain ⟨-, hchildren⟩ := Tree.forall_nodeAt_iff.mp hplain
          rw [hi]
          refine ⟨rfl, ?_⟩
          intro o ho
          obtain ⟨s, hs, hread'⟩ := exists_of_mem_left hall ho
          exact (ih o).mpr ⟨s, hread', hchildren s hs⟩
        · obtain ⟨hkeys, hchildren⟩ := Tree.forall_nodeAt_iff.mp hplain
          rw [hi]
          refine ⟨List.all_eq_true.mpr ?_, ?_⟩
          · intro key hkey
            obtain ⟨p, hp, rfl⟩ := List.mem_map.mp hkey
            obtain ⟨q, hq, hsame, -⟩ := exists_of_mem_left hall hp
            rw [hsame]
            exact hkeys q hq
          · intro o ho
            obtain ⟨p, hp, rfl⟩ := List.mem_map.mp ho
            obtain ⟨q, hq, -, hread'⟩ := exists_of_mem_left hall hp
            exact (ih p.2).mpr ⟨q.2, hread', hchildren q.2 (List.mem_map_of_mem hq)⟩

/-- An object with a tree is safe if the tree is.  Kind: L -/
theorem safeTo_of_reads {o : PyObject} {t : PyTree} (hreads : Reads h o t) :
    safeTo h (roomAt 0) o = true ↔ SafeTree t := by
  rw [safeTo_iff]
  constructor
  · rintro ⟨s, hread, hplain⟩
    obtain rfl := Reads.unique ⟨roomAt 0, hread⟩ hreads
    intro d u hnode
    have hlt := hnode.lt_of_read hread
    exact ⟨by unfold roomAt at hlt; omega, hplain d u hnode⟩
  · intro hsafe
    obtain ⟨n, hread⟩ := hreads
    refine ⟨t, read_of_depths hread ?_, fun d u hnode => (hsafe d u hnode).2⟩
    intro d u hnode
    have hle := (hsafe d u hnode).1
    unfold roomAt
    omega

/-! ## Values -/

/-- The nodes of a leaf.  Kind: L -/
theorem leaf_nodes {x : Scalar} {depth : ℕ} :
    (∀ d u, (Tree.leaf x : PyTree).NodeAt d u → depth + d ≤ maxSurfaceParamDepth ∧ PlainNode u) ↔
      depth ≤ maxSurfaceParamDepth ∧ x.isPlain = true := by
  rw [Tree.forall_nodeAt_iff]
  constructor
  · rintro ⟨hself, -⟩
    exact hself
  · intro hself
    exact ⟨hself, fun s hs => by cases hs⟩

/-- The keys of a value are texts.  Kind: L -/
theorem isText_toTreeFields (fields : List (String × Value)) :
    ∀ p ∈ Value.toTreeFields fields, p.1.isText = true := by
  induction fields with
  | nil =>
      intro p hp
      cases hp
  | cons field rest ih =>
      intro p hp
      rcases List.mem_cons.mp hp with rfl | hp
      · rfl
      · exact ih p hp

mutual

/-- The check of a value looks at the nodes of its tree.  Kind: L -/
theorem jsonSafe_iff_nodes : (v : Value) → (depth : ℕ) →
    (jsonSafe depth v = true ↔
      ∀ d u, v.toTree.NodeAt d u → depth + d ≤ maxSurfaceParamDepth ∧ PlainNode u)
  | .null, depth => by simp [jsonSafe, Value.toTree, leaf_nodes, Scalar.isPlain]
  | .str _, depth => by simp [jsonSafe, Value.toTree, leaf_nodes, Scalar.isPlain]
  | .bool _, depth => by simp [jsonSafe, Value.toTree, leaf_nodes, Scalar.isPlain]
  | .int _, depth => by simp [jsonSafe, Value.toTree, leaf_nodes, Scalar.isPlain]
  | .foreign _, depth => by simp [jsonSafe, Value.toTree, leaf_nodes, Scalar.isPlain]
  | .float x, depth => by
      rcases x with q | _ | _ | _ <;> simp [jsonSafe, Value.toTree, leaf_nodes, Scalar.isPlain]
  | .list items, depth => by
      rw [jsonSafe, Bool.and_eq_true, decide_eq_true_iff, jsonSafeList_iff_nodes items (depth + 1),
        Value.toTree, Tree.forall_nodeAt_iff]
      simp only [Tree.children, PlainNode, and_true, Nat.add_assoc, Nat.add_comm 1, Nat.add_zero]
  | .dict fields, depth => by
      rw [jsonSafe, Bool.and_eq_true, decide_eq_true_iff,
        jsonSafeFields_iff_nodes fields (depth + 1), Value.toTree, Tree.forall_nodeAt_iff]
      simp only [Tree.children, PlainNode, Nat.add_assoc, Nat.add_comm 1, Nat.add_zero]
      rw [iff_true_intro (isText_toTreeFields fields), and_true]

/-- A list is safe if and only if every node in it is shallow and plain.  Kind: L -/
theorem jsonSafeList_iff_nodes : (items : List Value) → (depth : ℕ) →
    (jsonSafeList depth items = true ↔ ∀ s ∈ Value.toTrees items,
      ∀ d u, s.NodeAt d u → depth + d ≤ maxSurfaceParamDepth ∧ PlainNode u)
  | [], depth => by simp [jsonSafeList, Value.toTrees]
  | v :: rest, depth => by
      rw [jsonSafeList, Bool.and_eq_true, jsonSafe_iff_nodes v depth,
        jsonSafeList_iff_nodes rest depth, Value.toTrees, List.forall_mem_cons]

/-- Fields are safe if and only if every node in them is shallow and plain.  Kind: L -/
theorem jsonSafeFields_iff_nodes : (fields : List (String × Value)) → (depth : ℕ) →
    (jsonSafeFields depth fields = true ↔ ∀ s ∈ (Value.toTreeFields fields).map Prod.snd,
      ∀ d u, s.NodeAt d u → depth + d ≤ maxSurfaceParamDepth ∧ PlainNode u)
  | [], depth => by simp [jsonSafeFields, Value.toTreeFields]
  | (k, v) :: rest, depth => by
      rw [jsonSafeFields, Bool.and_eq_true, jsonSafe_iff_nodes v depth,
        jsonSafeFields_iff_nodes rest depth, Value.toTreeFields, List.map_cons,
        List.forall_mem_cons]

end

/-- On an object that stands for a value, the check is the one of the value.  Kind: L -/
theorem safeTo_of_value {o : PyObject} {v : Value} (hreads : Reads h o v.toTree) :
    safeTo h (roomAt 0) o = jsonSafe 0 v := by
  rw [Bool.eq_iff_iff, safeTo_of_reads hreads, jsonSafe_iff_nodes v 0]
  simp only [SafeTree, Nat.zero_add]

/-- The loop of the check ends for every object. If the object stands for a tree, however the tree
is shared, the check accepts it when every node is of an accepted kind, at a depth that is allowed;
an object that contains itself is refused.
Source: `surfaces/protocol.py`, `_json_safe`.  Kind: P -/
theorem json_safe_meaning (h : PyHeap) (value : PyObject) :
    ∃ steps b, (∀ fuel ≥ steps, jsonSafeLoop h fuel [.enter value 0] [] = some (.ok b)) ∧
      (∀ t, Reads h value t → (b = true ↔ SafeTree t)) ∧ (Cyclic h value → b = false) := by
  refine ⟨turns h [.enter value 0] + 1, safeTo h (roomAt 0) value, ?_, ?_, ?_⟩
  · intro fuel hfuel
    have hrun := jsonSafeLoop_eq (h := h) fuel [.enter value 0] (by omega)
      (List.pairwise_singleton _ _)
    have hstack : safeStack h [.enter value 0] = safeTo h (roomAt 0) value := by
      unfold safeStack
      simp
    rw [hstack] at hrun
    exact hrun
  · intro t hreads
    exact safeTo_of_reads hreads
  · intro hcyclic
    rcases hsafe : safeTo h (roomAt 0) value with _ | _
    · rfl
    · obtain ⟨t, hread, -⟩ := (safeTo_iff h (roomAt 0) value).mp hsafe
      exact absurd ⟨roomAt 0, hread⟩ (hcyclic.not_reads t)

end ExpraConnect
