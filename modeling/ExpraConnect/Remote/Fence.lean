import ExpraConnect.Remote.Mediation

/-!
# The installed fence over whole runs

`remote/service.py`: `update_cluster_fence` called any number of times, and what
`_verify_role_fence` lets through afterwards.

* `FenceValues`: a fence as a call or a request carries it;
* `Auth.installAll`, `Auth.accepted`: a sequence of calls, in which a rejected one changes nothing,
  and those of them that were accepted;
* `Supersedes`: what the guard compares, which is the fence of the installed cluster only;
* `installAll_fence`, `accepted_supersedes`: the fence is the last one accepted, and each accepted
  call supersedes the one before it.

A call for another cluster is accepted whatever it carries, so the epochs of one cluster are ordered
only as long as no other cluster was installed in between (`fence_forward`); after a move to another
cluster an older epoch can come back (`fence_goes_back`).
-/

namespace ExpraConnect

open ExpraConnect.Lib

variable {H : Type}

/-- A fence as a request carries it: cluster id, epoch and fencing token. -/
structure FenceValues where
  /-- `cluster_id` -/
  clusterId : String
  /-- `epoch` -/
  epoch : ℤ
  /-- `fencing_token` -/
  fencingToken : String
  deriving DecidableEq

namespace FenceValues

/-- The fence once these values are installed. -/
def fence (u : FenceValues) : Fence := ⟨some u.clusterId, some u.epoch, some u.fencingToken⟩

/-- A fence is determined by its values.  Kind: L -/
theorem fence_injective {u v : FenceValues} (h : u.fence = v.fence) : u = v := by
  obtain ⟨id, n, token⟩ := u
  simp only [fence, Fence.mk.injEq, Option.some.injEq] at h
  obtain ⟨rfl, rfl, rfl⟩ := h
  rfl

/-- `v` may follow `u`: for the same cluster it has a later epoch or is the same fence. -/
def Supersedes (v u : FenceValues) : Prop :=
  v.clusterId = u.clusterId → u.epoch < v.epoch ∨ v = u

end FenceValues

/-! ## One call -/

/-- `update_cluster_fence` with these values. -/
def Auth.install (a : Auth) (u : FenceValues) : Except PyError Auth :=
  a.updateClusterFence u.clusterId u.epoch u.fencingToken

/-- An accepted call leaves its own values installed, and supersedes what was installed before.
Kind: L -/
theorem Auth.install_eq_ok {a a' : Auth} {u : FenceValues} (h : a.install u = .ok a') :
    a'.fence = u.fence ∧ ∀ v : FenceValues, a.fence = v.fence → u.Supersedes v := by
  unfold Auth.install Auth.updateClusterFence at h
  dsimp only at h
  split at h
  case h_1 hnone =>
    -- no epoch is installed, so nothing was accepted before
    cases h
    refine ⟨rfl, fun v hv => ?_⟩
    rw [hv] at hnone
    cases hnone
  case h_2 current hcurrent =>
    split at h
    case isTrue hother =>
      cases h
      refine ⟨rfl, fun v hv hsame => ?_⟩
      rw [hv, FenceValues.fence, hsame] at hother
      exact absurd rfl hother
    case isFalse hid =>
      have hid : a.fence.clusterId = some u.clusterId := not_not.mp hid
      split at h
      case isTrue hlt => cases h
      case isFalse hge =>
        split at h
        case isTrue heq =>
          split at h
          case h_1 htoken => cases h
          case h_2 token htoken =>
            simp only [Except.bind_eq_ok, Except.raiseIf_eq_ok] at h
            obtain ⟨same, hsame, -, hno, h⟩ := h
            have htrue : same = true := by simpa using hno
            subst htrue
            have heqt : u.fencingToken = token := compareDigest_eq_true hsame
            cases h
            have hfence : a.fence = u.fence := by
              rw [FenceValues.fence, ← hid, heq, ← hcurrent, heqt, ← htoken]
            exact ⟨hfence, fun v hv _ => .inr (FenceValues.fence_injective (hfence ▸ hv))⟩
        case isFalse hne =>
          cases h
          refine ⟨rfl, fun v hv _ => .inl ?_⟩
          rw [hv] at hcurrent
          have hepoch : v.epoch = current := by
            simpa [FenceValues.fence] using hcurrent
          omega

/-! ## Runs -/

namespace Auth

/-- The calls one after the other; a rejected one changes nothing. -/
def installAll (a : Auth) : List FenceValues → Auth
  | [] => a
  | u :: us =>
      match a.install u with
      | .ok a' => a'.installAll us
      | .error _ => a.installAll us

/-- The calls that are accepted. -/
def accepted (a : Auth) : List FenceValues → List FenceValues
  | [] => []
  | u :: us =>
      match a.install u with
      | .ok a' => u :: a'.accepted us
      | .error _ => a.accepted us

/-- After a run in which calls were accepted the fence is that of the last of them.  Kind: L -/
theorem installAll_fence (us : List FenceValues) (a : Auth) :
    (a.installAll us).fence = ((a.accepted us).getLast?.map FenceValues.fence).getD a.fence := by
  induction us generalizing a with
  | nil => rfl
  | cons u us ih =>
      unfold installAll accepted
      split
      case h_1 a' hok =>
        rw [ih, List.getLast?_cons, (Auth.install_eq_ok hok).1]
        cases (a'.accepted us).getLast? <;> rfl
      case h_2 => exact ih a

/-- From a state with the fence `v` on, each accepted call supersedes the one before it.  Kind: L -/
theorem accepted_supersedes_from (us : List FenceValues) (a : Auth) (v : FenceValues)
    (hv : a.fence = v.fence) :
    (v :: a.accepted us).IsChain fun u w => w.Supersedes u := by
  induction us generalizing a v with
  | nil => exact List.isChain_singleton v
  | cons u us ih =>
      unfold accepted
      split
      case h_1 a' hok =>
        obtain ⟨hfence, hsup⟩ := Auth.install_eq_ok hok
        exact List.isChain_cons_cons.mpr ⟨hsup v hv, ih a' u hfence⟩
      case h_2 => exact ih a v hv

/-- Each accepted call supersedes the one before it.  Kind: L -/
theorem accepted_supersedes (us : List FenceValues) (a : Auth) :
    (a.accepted us).IsChain fun u w => w.Supersedes u := by
  induction us generalizing a with
  | nil => exact List.isChain_nil
  | cons u us ih =>
      unfold accepted
      split
      case h_1 a' hok => exact accepted_supersedes_from us a' u (Auth.install_eq_ok hok).1
      case h_2 => exact ih a

end Auth

/-! ## The fences of one cluster -/

/-- The fences of one stretch go forward: epochs do not decrease, and an epoch has one token. -/
def FenceValues.Forward (u v : FenceValues) : Prop :=
  u.epoch ≤ v.epoch ∧ (u.epoch = v.epoch → u.fencingToken = v.fencingToken)

/-- A chain of fences of one cluster, each superseding the one before, goes forward throughout.
Kind: L -/
theorem FenceValues.forward_of_chain {ys : List FenceValues} {c : String}
    (hchain : ys.IsChain fun u w => w.Supersedes u) (hc : ∀ u ∈ ys, u.clusterId = c) :
    ys.Pairwise FenceValues.Forward := by
  induction ys with
  | nil => exact List.Pairwise.nil
  | cons u ys ih =>
      have hrest : ys.Pairwise FenceValues.Forward :=
        ih hchain.tail fun w hw => hc w (List.mem_cons_of_mem u hw)
      refine List.pairwise_cons.mpr ⟨fun w hw => ?_, hrest⟩
      cases ys with
      | nil => cases hw
      | cons v ys =>
          have hstep : u.epoch < v.epoch ∨ v = u := by
            refine (List.isChain_cons_cons.mp hchain).1 ?_
            rw [hc v (by simp), hc u (by simp)]
          have hvw : v.Forward w ∨ w = v := by
            rcases List.mem_cons.mp hw with rfl | hw
            · exact .inr rfl
            · exact .inl ((List.pairwise_cons.mp hrest).1 w hw)
          rcases hstep with hlt | rfl
          · -- a later epoch was installed in between, so `w` has a later one too
            have hle : v.epoch ≤ w.epoch := by
              rcases hvw with h | rfl
              · exact h.1
              · exact le_refl _
            exact ⟨by omega, fun heq => by omega⟩
          · rcases hvw with h | rfl
            · exact h
            · exact ⟨le_refl _, fun _ => rfl⟩

/-- While the last call of a stretch is installed, no role request with a superseded epoch
passes.  Kind: L -/
theorem refused_of_superseded (cfg : ServiceConfig H) (a : Auth) {us xs ys : List FenceValues}
    (h : a.accepted us = xs ++ ys ++ []) (hforward : ys.Pairwise FenceValues.Forward)
    {u v : FenceValues} (hu : u ∈ ys) (hv : v ∈ ys) (hlt : u.epoch < v.epoch)
    {request : RemoteRequest} {epoch : Value} (hget : getField "epoch" request.params = some epoch)
    (hequals : epoch.equalsInt u.epoch = true) :
    ∃ e, checkRoleFence cfg request (a.installAll us).fence = .error e := by
  -- the installed fence is the last one of the stretch
  have hne : ys ≠ [] := List.ne_nil_of_mem hu
  have hfence : (a.installAll us).fence = (ys.getLast hne).fence := by
    rw [a.installAll_fence, h, List.append_nil, List.getLast?_append_of_ne_nil xs hne,
      List.getLast?_eq_some_getLast hne]
    rfl
  have hlast : v.epoch ≤ (ys.getLast hne).epoch := by
    rw [← List.dropLast_append_getLast hne] at hv hforward
    rcases List.mem_append.mp hv with hv | hv
    · exact ((List.pairwise_append.mp hforward).2.2 v hv _ (by simp)).1
    · rw [List.mem_singleton.mp hv]
  cases hcheck : checkRoleFence cfg request (a.installAll us).fence with
  | error e => exact ⟨e, rfl⟩
  | ok passed =>
      obtain ⟨value, hvalue, hvalue_eq⟩ :=
        (checkRoleFence_eq_ok hcheck).epoch (ys.getLast hne).epoch (by rw [hfence]; rfl)
      rw [hget] at hvalue
      cases hvalue
      have heq : u.epoch = (ys.getLast hne).epoch := Value.equalsInt_unique hequals hvalue_eq
      omega

/-- While the fence of another cluster is installed, no role request for this one passes.
Kind: L -/
theorem refused_elsewhere (cfg : ServiceConfig H) (a : Auth) {us xs zs : List FenceValues}
    {c : String} (h : a.accepted us = xs ++ zs) (hzs : zs ≠ []) (hc : ∀ w ∈ zs, w.clusterId ≠ c)
    {request : RemoteRequest} (hget : getField "cluster_id" request.params = some (.str c)) :
    ∃ e, checkRoleFence cfg request (a.installAll us).fence = .error e := by
  have hfence : (a.installAll us).fence = (zs.getLast hzs).fence := by
    rw [a.installAll_fence, h, List.getLast?_append_of_ne_nil xs hzs,
      List.getLast?_eq_some_getLast hzs]
    rfl
  cases hcheck : checkRoleFence cfg request (a.installAll us).fence with
  | error e => exact ⟨e, rfl⟩
  | ok passed =>
      have hid := (checkRoleFence_eq_ok hcheck).clusterId (zs.getLast hzs).clusterId
        (by rw [hfence]; rfl)
      rw [hget] at hid
      exact absurd (Option.some.inj hid).symm (hc _ (List.getLast_mem hzs))

/-- What the fence promises of a cluster whose calls are accepted one after the other, with no call
for another cluster in between: the accepted epochs do not decrease, no epoch has two tokens, and
while the last of them is installed no role request with a superseded epoch passes; nor does one for
this cluster with a superseded epoch pass later on, while other clusters are installed.
Source: `remote/service.py`, `update_cluster_fence` and `_verify_role_fence`.  Kind: P -/
theorem fence_forward (cfg : ServiceConfig H) (a : Auth) (us xs ys zs : List FenceValues)
    (c : String) (h : a.accepted us = xs ++ ys ++ zs) (hc : ∀ u ∈ ys, u.clusterId = c) :
    ys.Pairwise FenceValues.Forward ∧
      (zs = [] → ∀ u ∈ ys, ∀ v ∈ ys, u.epoch < v.epoch → ∀ request epoch,
        getField "epoch" request.params = some epoch → epoch.equalsInt u.epoch = true →
          ∃ e, checkRoleFence cfg request (a.installAll us).fence = .error e) ∧
      ((∀ w ∈ zs, w.clusterId ≠ c) → ∀ u ∈ ys, ∀ v ∈ ys, u.epoch < v.epoch →
        ∀ request epoch, getField "cluster_id" request.params = some (.str c) →
          getField "epoch" request.params = some epoch → epoch.equalsInt u.epoch = true →
            ∃ e, checkRoleFence cfg request (a.installAll us).fence = .error e) := by
  have hchain : ys.IsChain fun u w => w.Supersedes u := by
    have hall := a.accepted_supersedes us
    rw [h] at hall
    exact hall.left_of_append.right_of_append
  have hforward : ys.Pairwise FenceValues.Forward := FenceValues.forward_of_chain hchain hc
  have hinstalled : zs = [] → ∀ u ∈ ys, ∀ v ∈ ys, u.epoch < v.epoch → ∀ request epoch,
      getField "epoch" request.params = some epoch → epoch.equalsInt u.epoch = true →
        ∃ e, checkRoleFence cfg request (a.installAll us).fence = .error e := by
    intro hzs u hu v hv hlt request epoch hget hequals
    subst hzs
    exact refused_of_superseded cfg a h hforward hu hv hlt hget hequals
  refine ⟨hforward, hinstalled, fun hzs u hu v hv hlt request epoch hid hget hequals => ?_⟩
  by_cases hempty : zs = []
  · exact hinstalled hempty u hu v hv hlt request epoch hget hequals
  · exact refused_elsewhere cfg a h hempty hzs hid

/-- A service without a fence. -/
def unfenced : Auth := ⟨true, Dict.empty, [], 1, ⟨none, none, none⟩⟩

/-- A role request with the first epoch of the cluster `a`. -/
def supersededRequest : RemoteRequest :=
  ⟨⟨"node", by decide⟩, none, "pause_worker", [("cluster_id", .str "a"), ("epoch", .int 1)], "r", "n",
    0, none, false, none⟩

/-- Three calls for one cluster, of which the second is too old: the first and the third are
accepted, and a request with the first epoch is turned away, also after a call for another
cluster. -/
theorem fence_forward_rejects :
    unfenced.accepted [⟨"a", 1, "s"⟩, ⟨"a", 0, "t"⟩, ⟨"a", 2, "u"⟩] =
        [] ++ [⟨"a", 1, "s"⟩, ⟨"a", 2, "u"⟩] ++ [] ∧
      (∃ e, checkRoleFence (sampleConfig []) supersededRequest
        (unfenced.installAll [⟨"a", 1, "s"⟩, ⟨"a", 0, "t"⟩, ⟨"a", 2, "u"⟩]).fence = .error e) ∧
      ∃ e, checkRoleFence (sampleConfig []) supersededRequest
        (unfenced.installAll [⟨"a", 1, "s"⟩, ⟨"a", 2, "u"⟩, ⟨"b", 1, "t"⟩]).fence = .error e := by
  have haccepted : unfenced.accepted [⟨"a", 1, "s"⟩, ⟨"a", 0, "t"⟩, ⟨"a", 2, "u"⟩] =
      [] ++ [⟨"a", 1, "s"⟩, ⟨"a", 2, "u"⟩] ++ [] := by decide +kernel
  have hmoved : unfenced.accepted [⟨"a", 1, "s"⟩, ⟨"a", 2, "u"⟩, ⟨"b", 1, "t"⟩] =
      [] ++ [⟨"a", 1, "s"⟩, ⟨"a", 2, "u"⟩] ++ [⟨"b", 1, "t"⟩] := by decide +kernel
  refine ⟨haccepted, ?_, ?_⟩
  · exact (fence_forward (sampleConfig []) unfenced _ [] _ [] "a" haccepted (by simp)).2.1 rfl
      ⟨"a", 1, "s"⟩ (by simp) ⟨"a", 2, "u"⟩ (by simp) (by decide) _ (.int 1) rfl rfl
  · exact (fence_forward (sampleConfig []) unfenced _ [] _ [⟨"b", 1, "t"⟩] "a" hmoved (by simp)).2.2
      (by simp) ⟨"a", 1, "s"⟩ (by simp) ⟨"a", 2, "u"⟩ (by simp) (by decide) _ (.int 1) rfl rfl rfl

/-- After a move to another cluster the epoch of the first one goes back: it is accepted with
epoch 2, then another cluster is, then the first with epoch 1, and a request with the superseded
epoch 1 passes. -/
theorem fence_goes_back :
    ¬∀ (cfg : ServiceConfig ℕ) (a : Auth) (us : List FenceValues),
      ((a.accepted us).Pairwise fun u v => u.clusterId = v.clusterId → u.Forward v) ∧
        ∀ u ∈ a.accepted us, ∀ v ∈ a.accepted us, u.clusterId = v.clusterId → u.epoch < v.epoch →
          ∀ request, getField "epoch" request.params = some (.int u.epoch) →
            getField "cluster_id" request.params = some (.str u.clusterId) →
              ∃ e, checkRoleFence cfg request (a.installAll us).fence = .error e := by
  intro h
  have hforward := (h (sampleConfig []) unfenced
    [⟨"a", 2, "s"⟩, ⟨"b", 1, "t"⟩, ⟨"a", 1, "u"⟩]).1
  revert hforward
  have haccepted : unfenced.accepted [⟨"a", 2, "s"⟩, ⟨"b", 1, "t"⟩, ⟨"a", 1, "u"⟩] =
      [⟨"a", 2, "s"⟩, ⟨"b", 1, "t"⟩, ⟨"a", 1, "u"⟩] := by decide +kernel
  rw [haccepted]
  simp [FenceValues.Forward]

end ExpraConnect
