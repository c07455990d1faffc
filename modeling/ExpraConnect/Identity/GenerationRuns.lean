import ExpraConnect.Identity.TransportStore

/-!
# Transport generations as a peer sees them

A peer that recorded a generation of this node accepts another one only when its number is higher
(`candidate_transport_generation_allowed`).  Numbers are taken after the highest one that is still
remembered, so the question is what a run forgets.

* `loadDocument_sound`: what a document of any origin is read to is ordered and proven, so that
  runs from such a document stay reloadable too (`reopened_reloadable`);
* `TransportGeneration.Advances`: the same generation or a later number; every operation but
  `rollback_active` advances the current generation (`Transition.advances`);
* `generation_never_rebound`: without a successful `rollback_active` no number gets a second
  fingerprint and no peer is left behind;
* `generation_rebound`: with one, the number of the abandoned generation is given away again.

`retire` forgets too, but only numbers below the current one, which stays.
-/

namespace ExpraConnect

open ExpraConnect.Lib

variable {check : SignatureCheck} {node : NodeId} {root : String} {sign : ℕ → String → String}

/-! ## Documents of any origin -/

/-- A generation that was read has a proof that checks out.  Kind: L -/
theorem TransportGeneration.decode_eq_ok {raw : Value} {g : TransportGeneration}
    (h : decode check node root raw = .ok g) : g.Proven check node root := by
  cases raw with
  | dict fields =>
      simp only [decode, Except.bind_eq_ok] at h
      obtain ⟨generation, -, fingerprint, -, proof, -, h⟩ := h
      split at h
      · rename_i n fp p
        simp only [Except.bind_eq_ok, Except.raiseIf_eq_ok, not_or] at h
        obtain ⟨-, ⟨hn, hfp, hverify⟩, h⟩ := h
        cases h
        have hcast : ((n.toNat : ℕ) : ℤ) = n := Int.toNat_of_nonneg (by omega)
        unfold Proven
        rw [hcast]
        simpa using hverify
      · cases h
  | _ => cases h

/-- So has the next one.  Kind: L -/
theorem decodeNext_eq_ok {raw : Value} {n : TransportGeneration}
    (h : decodeNext check node root raw = .ok (some n)) : n.Proven check node root := by
  have hdecode : (some <$> TransportGeneration.decode check node root raw) = .ok (some n) := by
    cases raw with
    | null => cases h
    | _ => exact h
  cases hraw : TransportGeneration.decode check node root raw with
  | error e =>
      rw [hraw] at hdecode
      cases hdecode
  | ok g =>
      rw [hraw] at hdecode
      cases hdecode
      exact TransportGeneration.decode_eq_ok hraw

/-- The accepted generations that were read are keyed by their numbers, below the current one, and
proven.  Kind: L -/
theorem decodeAccepted_eq_ok {current : TransportGeneration} (items : List Value)
    {accepted result : Accepted}
    (haccepted : ∀ p ∈ accepted.entries, (p.2.1.generation = p.1 ∧ p.1 < current.generation) ∧
      p.2.1.Proven check node root)
    (h : decodeAccepted check node root current items accepted = .ok result) :
    ∀ p ∈ result.entries, (p.2.1.generation = p.1 ∧ p.1 < current.generation) ∧
      p.2.1.Proven check node root := by
  induction items generalizing accepted with
  | nil =>
      cases h
      exact haccepted
  | cons raw rest ih =>
      cases raw with
      | dict fields =>
          simp only [decodeAccepted, Except.bind_eq_ok, Except.raiseIf_eq_ok, not_or] at h
          obtain ⟨item, hitem, -, ⟨hfresh, hlt⟩, expiry, -, h⟩ := h
          refine ih (fun p hp => ?_) h
          have hnone : accepted.get? item.generation = none := by
            simpa [Dict.contains] using hfresh
          rw [Dict.entries_insert_of_fresh hnone, List.mem_append, List.mem_singleton] at hp
          rcases hp with hp | rfl
          · exact haccepted p hp
          · exact ⟨⟨rfl, by simpa using hlt⟩, TransportGeneration.decode_eq_ok hitem⟩
      | _ => cases h

/-- What a document is read to is sound, whoever wrote it.  Kind: L -/
theorem loadDocument_sound (hsign : SignsFor check node root sign) {document : Fields}
    {m : TransportManager} (h : loadDocument check node root sign document = .ok m) :
    m.Sound check node root := by
  unfold loadDocument at h
  split at h
  case h_2 =>
    split at h <;> cases h
  case h_1 m' hparse =>
    cases h
    unfold parseDocument at hparse
    dsimp only at hparse
    split at hparse
    · -- a document of the first version
      simp only [Except.bind_eq_ok] at hparse
      obtain ⟨value, -, hparse⟩ := hparse
      split at hparse
      · simp only [Except.bind_eq_ok, Except.raiseIf_eq_ok] at hparse
        obtain ⟨-, -, g, hg, hparse⟩ := hparse
        cases hparse
        obtain ⟨hfp, rfl⟩ := TransportStore.newGeneration_eq_ok sign hg
        refine .initialized ⟨_, Dict.empty, none⟩ ⟨fun p hp => ?_, fun n hn => ?_⟩
          ⟨hsign.proven (le_refl 1) hfp, fun p hp => ?_, fun n hn => ?_⟩
        · cases hp
        · cases hn
        · cases hp
        · cases hn
      · cases hparse
    · simp only [Except.bind_eq_ok, Except.raiseIf_eq_ok] at hparse
      obtain ⟨-, -, rawCurrent, -, current, hcurrent, rawAccepted, -, hparse⟩ := hparse
      split at hparse
      · simp only [Except.bind_eq_ok, Except.raiseIf_eq_ok] at hparse
        obtain ⟨accepted, haccepted, next, hnext, -, hguard, hparse⟩ := hparse
        cases hparse
        have hentries := decodeAccepted_eq_ok _ (fun p hp => by cases hp) haccepted
        refine .initialized ⟨current, accepted, next⟩
          ⟨fun p hp => (hentries p hp).1, fun n hn => ?_⟩
          ⟨TransportGeneration.decode_eq_ok hcurrent, fun p hp => (hentries p hp).2,
            fun n hn => ?_⟩
        · change next = some n at hn
          subst hn
          simp only [Option.any_some, Bool.or_eq_true, decide_eq_true_eq, not_or] at hguard
          exact not_le.mp hguard.1
        · change next = some n at hn
          subst hn
          exact decodeNext_eq_ok hnext
      · cases hparse

namespace TransportStore

/-- A manager on any store it accepts is settled.  Kind: L -/
theorem settled_of_reopen (hsign : SignsFor check node root sign) {s₀ s : TransportStore}
    (h : s₀.reopen check node root sign = .ok s) : s.Settled check node root sign := by
  unfold reopen at h
  split at h
  · cases h
    exact settled_fresh
  · rename_i document _
    rw [Except.bind_eq_ok] at h
    obtain ⟨m, hm, h⟩ := h
    cases h
    refine ⟨loadDocument_sound hsign hm, ?_⟩
    show (loadDocument check node root sign document >>= fun manager =>
      pure (⟨manager, some document⟩ : TransportStore)) = .ok ⟨m, some document⟩
    rw [hm]
    rfl

/-- What `generations_reloadable` says of a run from an empty store holds of a run from any store
that a manager accepts, whoever wrote it, but for the text of the document: until the first commit
it stays as it was found.
Source: `identity/transport_generation.py`, `TransportGenerationManager`.  Kind: P -/
theorem reopened_reloadable (hsign : SignsFor check node root sign) {s₀ start : TransportStore}
    (hopen : s₀.reopen check node root sign = .ok start) (ops : List GenerationOp) :
    let s := performAll check node root sign ops start
    (∀ op e s', TransportStore.perform check node root sign op s = .error e s' → s' = s) ∧
      s.reopen check node root sign = .ok s ∧
      (s = start ∨ ∃ document, s.stored = some document ∧ s.manager.toDict = .ok document) ∧
      ∀ current, s.manager.current = some current →
        (s.manager.accepted.values.map (·.1.generation)).Nodup ∧
          (∀ entry ∈ s.manager.accepted.values, entry.1.generation < current.generation) ∧
          ∀ next, s.manager.next = some next → current.generation < next.generation ∧
            ∀ entry ∈ s.manager.accepted.values, entry.1.generation ≠ next.generation := by
  intro s
  have hstart : start.Settled check node root sign := settled_of_reopen hsign hopen
  have hsettled : s.Settled check node root sign := hstart.performAll hsign ops
  refine ⟨fun op e s' hraise => hsettled.eq_of_raise hraise, hsettled.reopened, ?_, ?_⟩
  · rcases performAll_committed hsign hstart ops with hsame | ⟨d, -, -, hd⟩
    · exact .inl hsame
    · have hs : s = committed d := hd
      rw [hs]
      exact .inr ⟨d.toDict, rfl, rfl⟩
  · intro current hcurrent
    obtain ⟨hsound, -⟩ := hsettled
    generalize s.manager = m at hsound hcurrent ⊢
    cases hsound with
    | uninitialized => cases hcurrent
    | initialized d hordered _ =>
        cases hcurrent
        exact hordered.numbers

end TransportStore

/-! ## What a run does to the current generation -/

/-- The same generation, or a later number. -/
def TransportGeneration.Advances (c c' : TransportGeneration) : Prop :=
  c' = c ∨ c.generation < c'.generation

theorem TransportGeneration.Advances.trans {a b c : TransportGeneration} (hab : a.Advances b)
    (hbc : b.Advances c) : a.Advances c := by
  rcases hab with rfl | hab
  · exact hbc
  · rcases hbc with rfl | hbc
    · exact .inr hab
    · exact .inr (hab.trans hbc)

namespace TransportStore

/-- The current generation of a store advances to that of another one. -/
def Advances (s s' : TransportStore) : Prop :=
  ∀ c, s.manager.current = some c → ∃ c', s'.manager.current = some c' ∧ c.Advances c'

theorem Advances.refl (s : TransportStore) : s.Advances s := fun c hc => ⟨c, hc, .inl rfl⟩

theorem Advances.trans {s t u : TransportStore} (hst : s.Advances t) (htu : t.Advances u) :
    s.Advances u := by
  intro c hc
  obtain ⟨c', hc', hcc'⟩ := hst c hc
  obtain ⟨c'', hc'', hcc''⟩ := htu c' hc'
  exact ⟨c'', hc'', hcc'.trans hcc''⟩

/-- `rollback_active` goes back: generations are still accepted and the store saves. -/
def GoesBack (s : TransportStore) (op : GenerationOp) : Prop :=
  op = .rollbackActive none ∧ s.manager.accepted ≠ Dict.empty

/-- Every operation but a `rollback_active` that goes back advances the current generation.
Kind: L -/
theorem Transition.advances {m : TransportManager} {op : GenerationOp} {d : TransportState}
    {c : TransportGeneration} (hm : m.Sound check node root) (h : Transition sign m op d)
    (hop : ∀ fault, op ≠ .rollbackActive fault) (hc : m.current = some c) :
    c.Advances d.current := by
  cases h with
  | initialized _ _ _ hcurrent =>
      rw [hcurrent] at hc
      cases hc
  | prepared _ _ hcurrent =>
      rw [hcurrent] at hc
      cases hc
      exact .inl rfl
  | activated _ _ _ hcurrent hnext =>
      rw [hcurrent] at hc
      cases hc
      cases hm with
      | uninitialized => cases hcurrent
      | initialized d₀ hordered =>
          cases hcurrent
          exact .inr (hordered.next _ hnext)
  | retired _ _ hcurrent =>
      rw [hcurrent] at hc
      cases hc
      exact .inl rfl
  | rolledBack _ hcurrent =>
      rw [hcurrent] at hc
      cases hc
      exact .inl rfl
  | rolledBackActive fault => exact absurd rfl (hop fault)

/-- A `rollback_active` that does not go back changes nothing.  Kind: L -/
theorem rollbackActive_stays {s : TransportStore} {fault : Option PyError}
    (h : ¬GoesBack s (.rollbackActive fault)) : (rollbackActive fault).after s = s := by
  cases fault with
  | none =>
      have hempty : s.manager.accepted = Dict.empty := by
        by_contra hne
        exact h ⟨rfl, hne⟩
      obtain ⟨⟨current, accepted, next⟩, stored⟩ := s
      cases hempty
      rfl
  | some e =>
      have hpost : (rollbackActive (some e)).Post s (fun _ s' => s' = s) (fun _ s' => s' = s) := by
        unfold rollbackActive
        rw [PyM.post_bind, PyM.post_get]
        cases s.manager.accepted.keys.max? with
        | none => rfl
        | some previous =>
            dsimp only
            cases s.manager.accepted.get? previous with
            | none => rfl
            | some entry =>
                dsimp only
                unfold PyM.Post
                rw [commitTo_run]
      exact PyM.after_of_post hpost

/-- One operation, unless it goes back, advances the current generation.  Kind: L -/
theorem advances_perform {s : TransportStore} (h : s.Settled check node root sign)
    {op : GenerationOp} (hop : ¬GoesBack s op) :
    s.Advances ((perform check node root sign op).after s) := by
  by_cases hback : ∃ fault, op = .rollbackActive fault
  · obtain ⟨fault, rfl⟩ := hback
    have hsame : (perform check node root sign (.rollbackActive fault)).after s = s :=
      rollbackActive_stays hop
    rw [hsame]
    exact .refl s
  · rcases perform_did h op with hsame | ⟨d, hd, hcommitted⟩
    · rw [hsame]
      exact .refl s
    · rw [hcommitted]
      exact fun c hc =>
        ⟨d.current, rfl, hd.advances h.sound (fun fault heq => hback ⟨fault, heq⟩) hc⟩

/-- No operation of the run goes back. -/
def NeverBack (check : SignatureCheck) (node : NodeId) (root : String)
    (sign : ℕ → String → String) : List GenerationOp → TransportStore → Prop
  | [], _ => True
  | op :: ops, s => ¬GoesBack s op ∧
      NeverBack check node root sign ops ((perform check node root sign op).after s)

/-- The run up to a point, and from there on.  Kind: L -/
theorem performAll_append (ops ops' : List GenerationOp) (s : TransportStore) :
    performAll check node root sign (ops ++ ops') s =
      performAll check node root sign ops' (performAll check node root sign ops s) :=
  List.foldl_append ..

/-- A run that never goes back has no end that does.  Kind: L -/
theorem NeverBack.append {ops ops' : List GenerationOp} {s : TransportStore}
    (h : NeverBack check node root sign (ops ++ ops') s) :
    NeverBack check node root sign ops' (performAll check node root sign ops s) := by
  induction ops generalizing s with
  | nil => exact h
  | cons op ops ih => exact ih h.2

/-- A run that never goes back advances the current generation.  Kind: L -/
theorem advances_performAll (hsign : SignsFor check node root sign) {ops : List GenerationOp}
    {s : TransportStore} (h : s.Settled check node root sign)
    (hnever : NeverBack check node root sign ops s) :
    s.Advances (performAll check node root sign ops s) := by
  induction ops generalizing s with
  | nil => exact .refl s
  | cons op ops ih =>
      exact (advances_perform h hnever.1).trans (ih (h.perform hsign op) hnever.2)

/-! ## What a peer makes of it -/

/-- The record of a peer that trusts this node's root key and has seen the generation `c`. -/
def Records (root : String) (stored : Material) (c : TransportGeneration) : Prop :=
  stored.rootPublicKey = some root ∧ stored.transportFingerprint = some (.text c.fingerprint) ∧
    stored.transportGeneration = some (c.generation : ℤ)

/-- The peer lets the generation `c` replace what it has recorded. -/
def AllowedAt (check : SignatureCheck) (node : NodeId) (stored : Material)
    (c : TransportGeneration) : Prop :=
  candidateTransportGenerationAllowed check node stored (some c.fingerprint) (some c.generation)
    (some c.proof) = true

/-- A generation that advances what the peer has recorded is allowed.  Kind: L -/
theorem allowedAt_of_advances (hroot : root ≠ "")
    (hempty : ∀ generation fingerprint, check root node generation fingerprint "" = false)
    {stored : Material} {c c' : TransportGeneration} (hrecords : Records root stored c)
    (hproven : c'.Proven check node root) (h : c.Advances c') : AllowedAt check node stored c' := by
  obtain ⟨hkey, hfp, hgeneration⟩ := hrecords
  unfold AllowedAt candidateTransportGenerationAllowed
  rcases h with rfl | hlt
  · rw [if_pos (.inr (by rw [hfp]; rfl))]
  · split
    · rfl
    · have hproof : c'.proof ≠ "" := by
        intro hnone
        unfold TransportGeneration.Proven verifyTransportProof at hproven
        simp [hnone, hempty] at hproven
      have hlt' : (c.generation : ℤ) < c'.generation := by exact_mod_cast hlt
      have hverify : verifyTransportProof check node root c'.generation
          (.text c'.fingerprint) c'.proof = true := hproven
      simp [hkey, hgeneration, hroot, hlt', hproof, hverify]

/-- The current generation of a settled store is proven.  Kind: L -/
theorem Settled.proven {s : TransportStore} (h : s.Settled check node root sign)
    {c : TransportGeneration} (hc : s.manager.current = some c) : c.Proven check node root := by
  obtain ⟨hsound, -⟩ := h
  generalize s.manager = m at hsound hc
  cases hsound with
  | uninitialized => cases hc
  | initialized d _ hproven =>
      cases hc
      exact hproven.current

/-- In a run on any store, restarts included, that never goes back: of two points of it, no number
is bound to two fingerprints, and a peer that recorded the current generation at the first accepts
the one at the second.  The identity signs with the key that peers hold, and an empty text is no
signature.
Source: `identity/transport_generation.py`, `TransportGenerationManager`.  Kind: P -/
theorem generation_never_rebound (hsign : SignsFor check node root sign) (hroot : root ≠ "")
    (hempty : ∀ generation fingerprint, check root node generation fingerprint "" = false)
    {s₀ s : TransportStore} (hopen : s₀.reopen check node root sign = .ok s)
    (ops ops' : List GenerationOp) (hnever : NeverBack check node root sign (ops ++ ops') s) :
    let before := performAll check node root sign ops s
    let after := performAll check node root sign (ops ++ ops') s
    ∀ c c', before.manager.current = some c → after.manager.current = some c' →
      (c.generation = c'.generation → c.fingerprint = c'.fingerprint) ∧
        ∀ stored, Records root stored c → AllowedAt check node stored c' := by
  intro before after c c' hc hc'
  have hbefore : before.Settled check node root sign :=
    (settled_of_reopen hsign hopen).performAll hsign ops
  have hafter : after = performAll check node root sign ops' before := performAll_append ops ops' s
  have hadvances : before.Advances after := by
    rw [hafter]
    exact advances_performAll hsign hbefore hnever.append
  have hcc' : c.Advances c' := by
    obtain ⟨c'', hc'', h⟩ := hadvances c hc
    rw [hc'] at hc''
    cases hc''
    exact h
  have hproven : c'.Proven check node root := by
    have hsettled := hbefore.performAll hsign ops'
    rw [← hafter] at hsettled
    exact hsettled.proven hc'
  refine ⟨fun heq => ?_, fun stored hrecords =>
    allowedAt_of_advances hroot hempty hrecords hproven hcc'⟩
  rcases hcc' with rfl | hlt
  · rfl
  · omega

/-- A `rollback_active` that goes back restores a lower generation, and a peer that recorded the
abandoned one does not accept it under another fingerprint.  Kind: L -/
theorem left_behind {s : TransportStore} (hs : s.Settled check node root sign)
    {c : TransportGeneration} (hc : s.manager.current = some c)
    (hback : GoesBack s (.rollbackActive none)) :
    ∃ c', ((rollbackActive none).after s).manager.current = some c' ∧
      c'.generation < c.generation ∧ (c'.fingerprint ≠ c.fingerprint →
        ∀ stored, Records root stored c → ¬AllowedAt check node stored c') := by
  obtain ⟨-, hne⟩ := hback
  obtain ⟨hsound, -⟩ := hs
  obtain ⟨m, document⟩ := s
  cases hsound with
  | uninitialized => cases hc
  | initialized d hordered _ =>
      cases hc
      have hkeys : d.accepted.keys ≠ [] := fun hnil =>
        hne (Dict.ext' (List.map_eq_nil_iff.mp hnil))
      obtain ⟨previous, hprevious⟩ := Option.ne_none_iff_exists'.mp
        (mt List.max?_eq_none_iff.mp hkeys)
      have hmem : previous ∈ d.accepted.keys := List.max?_mem hprevious
      obtain ⟨⟨item, expiry⟩, hitem⟩ :=
        Option.isSome_iff_exists.mp (d.accepted.mem_keys_iff.mp hmem)
      obtain ⟨hkey, hlt⟩ := hordered.accepted _ (d.accepted.get?_eq_some_iff.mp hitem)
      have hrun : rollbackActive none ⟨TransportManager.load (some d), document⟩ =
          .ok () (committed ⟨item, d.accepted.erase previous, none⟩) := by
        have hload : (TransportManager.load (some d)).accepted = d.accepted := rfl
        simp only [rollbackActive, PyM.bind_apply, PyM.get_apply, hload, hprevious, hitem]
        exact commitTo_run none ..
      have hafter := PyM.after_of_ok hrun
      dsimp only at hkey hlt
      refine ⟨item, ?_, by omega, ?_⟩
      · exact congrArg (fun s : TransportStore => s.manager.current) hafter
      · rintro hfp stored ⟨hroot, hstored, hgeneration⟩ hallowed
        unfold AllowedAt candidateTransportGenerationAllowed at hallowed
        rw [if_neg (by rw [hstored]; simpa using hfp)] at hallowed
        have hle : ¬((d.current.generation : ℤ) < item.generation) := by omega
        simp [hroot, hgeneration, hle] at hallowed

/-- The sample check accepts no empty proof.  Kind: L -/
theorem sampleCheck_empty (root : String) (node : NodeId) (generation : ℤ) (fingerprint : String) :
    sampleCheck root node generation fingerprint "" = false := by
  unfold sampleCheck
  rw [decide_eq_false_iff_not]
  intro h
  have hlength := congrArg String.length h
  have hcolon : ":".length = 1 := rfl
  simp only [String.length_append, hcolon, String.length_empty] at hlength
  omega

/-- A node that rotates twice and retires the first generation: a peer that recorded the first one
accepts the last one. -/
theorem generation_never_rebound_twice :
    let ops : List GenerationOp := [.initializeCurrent none "one"]
    let ops' : List GenerationOp := [.prepare none "two", .activate none 2 0, .retire none 1,
      .rollbackActive (some ⟨.os, "disk full"⟩), .prepare none "three", .restart,
      .activate none 3 10]
    let after := performAll sampleCheck ⟨"node", by decide⟩ "root" sampleSign (ops ++ ops') fresh
    after.manager.current = some ⟨3, "three", "3:three"⟩ ∧
      ∀ stored, Records "root" stored ⟨1, "one", "1:one"⟩ →
        AllowedAt sampleCheck ⟨"node", by decide⟩ stored ⟨3, "three", "3:three"⟩ := by
  intro ops ops' after
  have hcurrent : after.manager.current = some ⟨3, "three", "3:three"⟩ := by decide +kernel
  refine ⟨hcurrent, ?_⟩
  have hnever : NeverBack sampleCheck ⟨"node", by decide⟩ "root" sampleSign (ops ++ ops')
      fresh := by
    refine ⟨?_, ?_, ?_, ?_, ?_, ?_, ?_, ?_, trivial⟩
    all_goals
      rintro ⟨⟨⟩, -⟩
  have hopen : fresh.reopen sampleCheck ⟨"node", by decide⟩ "root" sampleSign = .ok fresh := rfl
  exact (generation_never_rebound (sampleSign_signsFor ⟨"node", by decide⟩ "root") (by decide)
    (sampleCheck_empty "root" ⟨"node", by decide⟩) hopen ops ops' hnever
    ⟨1, "one", "1:one"⟩ ⟨3, "three", "3:three"⟩ (by decide +kernel) hcurrent).2

/-- The second generation is activated and abandoned, and the next rotation is given its number:
two fingerprints under the number 2, and a peer that recorded the first of them rejects the
other. -/
theorem generation_rebound :
    ¬∀ (check : SignatureCheck) (node : NodeId) (root : String) (sign : ℕ → String → String),
      SignsFor check node root sign → root ≠ "" →
      (∀ generation fingerprint, check root node generation fingerprint "" = false) →
      ∀ s₀ s : TransportStore, s₀.reopen check node root sign = .ok s →
      ∀ ops ops' : List GenerationOp,
      let before := performAll check node root sign ops s
      let after := performAll check node root sign (ops ++ ops') s
      ∀ c c', before.manager.current = some c → after.manager.current = some c' →
        (c.generation = c'.generation → c.fingerprint = c'.fingerprint) ∧
          ∀ stored, Records root stored c → AllowedAt check node stored c' := by
  intro h
  have hbound := (h sampleCheck ⟨"node", by decide⟩ "root" sampleSign
    (sampleSign_signsFor ⟨"node", by decide⟩ "root") (by decide)
    (sampleCheck_empty "root" ⟨"node", by decide⟩) fresh fresh rfl
    [.initializeCurrent none "one", .prepare none "two", .activate none 2 0]
    [.rollbackActive none, .prepare none "three", .activate none 2 10]
    ⟨2, "two", "2:two"⟩ ⟨2, "three", "2:three"⟩ (by decide +kernel) (by decide +kernel)).1 rfl
  exact absurd hbound (by decide)

end TransportStore

end ExpraConnect
