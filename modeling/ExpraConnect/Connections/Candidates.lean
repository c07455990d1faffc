import ExpraConnect.Connections.Manager

/-!
# Two decisions about the candidate of a trusted peer

Pairing asks `classify_trusted_candidate` what a candidate is, connecting and discovery ask
`candidate_transport_generation_allowed` whether it may be used.  Both compare the candidate's
transport with the stored one, and look at the generation and the proof of another.

* `ProvesRotation`: another transport that the stored root vouches for;
* `candidateAllowed_iff`, `classifyCandidate_eq_outboundTrusted_iff`: what each decision is;
* `decisions_agree_iff`: a record without a transport lets every candidate through the gate, and
  only there the decisions part, unless the candidate proves a rotation;
* `trustedCandidateIsValid_eq`: discovery asks no more of a candidate with the stored identity.
-/

namespace ExpraConnect

open ExpraConnect.Lib

/-! ## The decisions -/

/-- Source: `pairing/flow.py`, `_classify_candidate`.  Kind: D -/
def PairingManager.classifyCandidate (check : SignatureCheck) (m : PairingManager) (now : ℚ)
    (peer : NodeId) (candidate : DiscoveredNodeCandidate) : RelationshipState :=
  m.classifyTrustedCandidate check now peer candidate.rootPublicKey candidate.transportFingerprint
    candidate.transportGeneration candidate.transportProof

/-- The record that discovery compares a candidate with: the trusted peer, else the grant.
Source: `runtime/core.py`, `_trusted_candidate_is_valid`.  Kind: D -/
def PairingManager.storedMaterial (m : PairingManager) (peer : NodeId) :
    Option (NodeId × Material) :=
  match m.trusted.get? peer with
  | some t => some (t.peerId, t.toMaterial)
  | none => (m.grants.get? peer).map fun g => (g.callerId, g.toMaterial)

/-- Source: `runtime/core.py`, `_trusted_candidate_is_valid`, of a runtime with a pairing manager;
a fingerprint that is no text is never equal to one that is.  Kind: D -/
def trustedCandidateIsValid (check : SignatureCheck) (m : PairingManager)
    (candidate : DiscoveredNodeCandidate) : Bool :=
  match NodeId.new candidate.stableId with
  | .error _ => false
  | .ok peer =>
      match m.storedMaterial peer with
      | none => true
      | some (owner, stored) =>
          if stored.identityFingerprint.any (· ≠ .text "") ∧
              candidate.identityFingerprint.map Fingerprint.text ≠ stored.identityFingerprint then
            false
          else if stored.transportFingerprint = none then true
          else if candidate.transportFingerprint.map Fingerprint.text =
              stored.transportFingerprint then true
          else
            candidateTransportGenerationAllowed check owner stored candidate.transportFingerprint
              candidate.transportGeneration candidate.transportProof

/-- The candidate comes with a larger generation than the record, if this has one, and the root of
the record signed it.  Kind: D -/
def ProvesRotation (check : SignatureCheck) (t : TrustedPeer)
    (candidate : DiscoveredNodeCandidate) : Prop :=
  ∃ root fp generation proof, t.rootPublicKey = some root ∧
    candidate.transportFingerprint = some fp ∧ candidate.transportGeneration = some generation ∧
    candidate.transportProof = some proof ∧ proof ≠ "" ∧
    (∀ g, t.transportGeneration = some g → g < generation) ∧
    verifyTransportProof check t.peerId root generation (.text fp) proof = true

variable {check : SignatureCheck} {m : PairingManager} {now : ℚ} {t : TrustedPeer}
  {candidate : DiscoveredNodeCandidate} {root fp : String}

/-- A missing generation is smaller than any.  Kind: L -/
theorem all_lt_iff {stored : Option ℤ} {generation : ℤ} :
    stored.all (fun g => decide (g < generation)) = true ↔
      ∀ g, stored = some g → g < generation := by
  rw [Option.all_eq_true]
  constructor
  · intro h g hg
    exact of_decide_eq_true (h g hg)
  · intro h g hg
    exact decide_eq_true (h g hg)

/-- The gate: no stored transport, the stored transport, or one that is proven.
Source: `pairing/manager.py`, `candidate_transport_generation_allowed`.  Kind: L -/
theorem candidateAllowed_iff (hroot : t.rootPublicKey = some root) (hne : root ≠ "")
    (hfp : candidate.transportFingerprint = some fp) :
    candidateAllowed check t candidate = true ↔
      t.transportFingerprint = none ∨ SameTransport t candidate ∨
        ProvesRotation check t candidate := by
  unfold candidateAllowed candidateTransportGenerationAllowed
  by_cases hgate : t.transportFingerprint = none ∨
      candidate.transportFingerprint.map Fingerprint.text = t.transportFingerprint
  · rw [if_pos hgate]
    refine iff_of_true rfl ?_
    rcases hgate with h | h
    · exact .inl h
    · exact .inr (.inl h)
  · rw [if_neg hgate]
    obtain ⟨hstored, hother⟩ := not_or.mp hgate
    have hproves : ∀ {b : Bool}, (b = true ↔ ProvesRotation check t candidate) →
        (b = true ↔ t.transportFingerprint = none ∨ SameTransport t candidate ∨
          ProvesRotation check t candidate) := by
      intro b hb
      rw [hb]
      exact ⟨fun h => .inr (.inr h),
        fun h => h.resolve_left hstored |>.resolve_left hother⟩
    apply hproves
    cases hgeneration : candidate.transportGeneration with
    | none =>
        refine iff_of_false (by simp [hroot]) ?_
        rintro ⟨_, _, generation, _, -, -, hg, -⟩
        cases hgeneration.symm.trans hg
    | some generation =>
        cases hproof : candidate.transportProof with
        | none =>
            refine iff_of_false (by simp [hroot]) ?_
            rintro ⟨_, _, _, proof, -, -, -, hp, -⟩
            cases hproof.symm.trans hp
        | some proof =>
            simp only [hroot, hfp, Option.getD_some, Bool.and_eq_true, decide_eq_true_eq,
              all_lt_iff]
            constructor
            · rintro ⟨⟨⟨-, hlarger⟩, hpresent⟩, hverify⟩
              exact ⟨root, fp, generation, proof, hroot, hfp, hgeneration, hproof, hpresent,
                hlarger, hverify⟩
            · rintro ⟨root', fp', generation', proof', hr, hf, hg, hp, hpresent, hlarger, hverify⟩
              cases hroot.symm.trans hr
              cases hfp.symm.trans hf
              cases hgeneration.symm.trans hg
              cases hproof.symm.trans hp
              exact ⟨⟨⟨hne, hlarger⟩, hpresent⟩, hverify⟩

/-- The classification: the stored transport, or one that is proven.
Source: `pairing/manager.py`, `classify_trusted_candidate`.  Kind: L -/
theorem classifyCandidate_eq_outboundTrusted_iff (hstored : m.trusted.get? t.peerId = some t)
    (hunbroken : t.peerId ∉ m.authBroken) (hroot : t.rootPublicKey = some root) (hne : root ≠ "")
    (hsame : candidate.rootPublicKey = some root)
    (hfp : candidate.transportFingerprint = some fp) (hpresent : fp ≠ "") :
    m.classifyCandidate check now t.peerId candidate = .outboundTrusted ↔
      SameTransport t candidate ∨ ProvesRotation check t candidate := by
  have hfilter : ∀ {s : String}, s ≠ "" → (some s).filter (· ≠ "") = some s := by
    intro s hs
    simp [Option.filter, hs]
  unfold PairingManager.classifyCandidate PairingManager.classifyTrustedCandidate
  simp only [hstored, hunbroken, hroot, hfilter hne, hsame, if_false, ne_eq, not_true_eq_false]
  by_cases htransport : candidate.transportFingerprint.map Fingerprint.text =
      t.transportFingerprint
  · rw [if_pos htransport]
    exact iff_of_true rfl (.inl htransport)
  · rw [if_neg htransport, hfp, hfilter hpresent]
    have hrotates : ∀ {b : RelationshipState},
        (b = .outboundTrusted ↔ ProvesRotation check t candidate) →
        (b = .outboundTrusted ↔ SameTransport t candidate ∨
          ProvesRotation check t candidate) := by
      intro b hb
      rw [hb]
      exact ⟨.inr, fun h => h.resolve_left htransport⟩
    apply hrotates
    cases hgeneration : candidate.transportGeneration with
    | none =>
        refine iff_of_false (by simp) ?_
        rintro ⟨_, _, generation, _, -, -, hg, -⟩
        cases hgeneration.symm.trans hg
    | some generation =>
        cases hproof : candidate.transportProof.filter (· ≠ "") with
        | none =>
            refine iff_of_false (by simp) ?_
            rintro ⟨_, _, _, proof, -, -, -, hp, hpr, -⟩
            rw [hp, hfilter hpr] at hproof
            cases hproof
        | some proof =>
            obtain ⟨hp, hpr⟩ := Option.filter_eq_some_iff.mp hproof
            -- the proof that verifies is the candidate's, under the root and for its transport
            have hiff : (verifyTransportProof check t.peerId root generation (.text fp) proof = true
                ∧ t.transportGeneration.all (fun g => decide (g < generation)) = true) ↔
                ProvesRotation check t candidate := by
              rw [all_lt_iff]
              constructor
              · rintro ⟨hverify, hlarger⟩
                exact ⟨root, fp, generation, proof, hroot, hfp, hgeneration, hp,
                  of_decide_eq_true hpr, hlarger, hverify⟩
              · rintro ⟨root', fp', generation', proof', hr, hf, hg, hp', -, hlarger, hverify⟩
                cases hroot.symm.trans hr
                cases hfp.symm.trans hf
                cases hgeneration.symm.trans hg
                cases hp.symm.trans hp'
                exact ⟨hverify, hlarger⟩
            rw [← hiff]
            simp only [Option.any_some]
            split_ifs <;> simp_all

/-- **The two decisions.**  Of a candidate with the root of a record that is not marked as broken,
classification and gate say the same if and only if the record has a transport or the candidate
proves a rotation.
Source: `pairing/manager.py`, `classify_trusted_candidate` and
`candidate_transport_generation_allowed`.  Kind: P -/
theorem decisions_agree_iff (hstored : m.trusted.get? t.peerId = some t)
    (hunbroken : t.peerId ∉ m.authBroken) (hroot : t.rootPublicKey = some root) (hne : root ≠ "")
    (hsame : candidate.rootPublicKey = some root)
    (hfp : candidate.transportFingerprint = some fp) (hpresent : fp ≠ "") :
    (m.classifyCandidate check now t.peerId candidate = .outboundTrusted ↔
        candidateAllowed check t candidate = true) ↔
      t.transportFingerprint ≠ none ∨ ProvesRotation check t candidate := by
  rw [classifyCandidate_eq_outboundTrusted_iff hstored hunbroken hroot hne hsame hfp hpresent,
    candidateAllowed_iff hroot hne hfp]
  constructor
  · intro h
    by_cases hnone : t.transportFingerprint = none
    · right
      rcases h.mpr (.inl hnone) with htransport | hproves
      · unfold SameTransport at htransport
        rw [hfp, hnone] at htransport
        cases htransport
      · exact hproves
    · exact .inl hnone
  · rintro (hsome | hproves)
    · exact ⟨.inr, fun h => h.resolve_left hsome⟩
    · exact iff_of_true (.inr hproves) (.inr (.inr hproves))

/-- Discovery compares the identity too; of a candidate with the stored identity it asks what the
gate asks.  Source: `runtime/core.py`, `_trusted_candidate_is_valid`.  Kind: L -/
theorem trustedCandidateIsValid_eq (hstored : m.trusted.get? t.peerId = some t)
    (hid : candidate.stableId = t.peerId.value)
    (hidentity : t.identityFingerprint.all (· = .text "") = true ∨
      candidate.identityFingerprint.map Fingerprint.text = t.identityFingerprint) :
    trustedCandidateIsValid check m candidate = candidateAllowed check t candidate := by
  have hsame : ¬(t.identityFingerprint.any (· ≠ .text "") = true ∧
      candidate.identityFingerprint.map Fingerprint.text ≠ t.identityFingerprint) := by
    rintro ⟨hany, hother⟩
    rcases hidentity with hall | heq
    · cases hi : t.identityFingerprint with
      | none =>
          rw [hi] at hany
          cases hany
      | some fp =>
          rw [hi] at hany hall
          exact of_decide_eq_true hany (of_decide_eq_true hall)
    · exact hother heq
  unfold trustedCandidateIsValid PairingManager.storedMaterial candidateAllowed
  simp only [hid, NodeId.new_value, hstored]
  rw [if_neg hsame]
  -- the two shortcuts of discovery are the gate's own
  unfold candidateTransportGenerationAllowed
  by_cases hnone : t.transportFingerprint = none
  · rw [if_pos hnone, if_pos (.inl hnone)]
  · rw [if_neg hnone]
    by_cases htransport : candidate.transportFingerprint.map Fingerprint.text =
        t.transportFingerprint
    · rw [if_pos htransport, if_pos (.inr htransport)]
    · rw [if_neg htransport]

/-! ## A record without a transport -/

open ConnectionManager

/-- The peer of `renewing`, as a record that was stored with a root and without a transport. -/
def unpinnedPeer : TrustedPeer :=
  { renewingPeer with
    transportFingerprint := none
    transportGeneration := none
    transportProof := none }

/-- A candidate with the root of the record, another transport and nothing that proves it. -/
def unproven : DiscoveredNodeCandidate :=
  { renewed (some "root") with
    transportGeneration := none
    transportProof := none }

/-- The manager that trusts one peer. -/
def trusting (t : TrustedPeer) : PairingManager :=
  { PairingManager.new (.named "local node") with
    trusted := Dict.empty.insert t.peerId t }

/-- A renewing peer on which the decisions agree as the theorem says.  Kind: P -/
theorem decisions_agree_iff_renewing :
    ((trusting renewingPeer).classifyCandidate renewalCheck 0 renewing
        (renewed (some "root")) = .outboundTrusted ↔
      candidateAllowed renewalCheck renewingPeer (renewed (some "root")) = true) ↔
    renewingPeer.transportFingerprint ≠ none ∨
      ProvesRotation renewalCheck renewingPeer (renewed (some "root")) := by
  have hstored : (trusting renewingPeer).trusted.get? renewingPeer.peerId = some renewingPeer := by
    decide +kernel
  have hunbroken : renewingPeer.peerId ∉ (trusting renewingPeer).authBroken := by decide +kernel
  exact decisions_agree_iff hstored hunbroken rfl (by decide) rfl rfl (by decide)

/-- Connecting takes the unproven transport of a record without one; pairing calls it a conflict. -/
theorem unpinned_decisions_part :
    (trusting unpinnedPeer).trusted.get? unpinnedPeer.peerId = some unpinnedPeer ∧
      unpinnedPeer.peerId ∉ (trusting unpinnedPeer).authBroken ∧
      unpinnedPeer.rootPublicKey = unproven.rootPublicKey ∧
      unproven.transportFingerprint = some "second" ∧
      candidateAllowed renewalCheck unpinnedPeer unproven = true ∧
      (trusting unpinnedPeer).classifyCandidate renewalCheck 0 unpinnedPeer.peerId unproven =
        .identityConflict := by
  decide +kernel

end ExpraConnect
