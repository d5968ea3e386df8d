import PowerMaxCsi.Service.StorageGroupCalls
import PowerMaxCsi.Service.StorageGroupContract

/-!
# Which masking views an unpublish deletes

`removeVolumesFromSGMV` deletes the masking view when the number of volumes that it has read is the
length of its batch.  That shows that all are in the batch only if it has no device twice and none
that is not in the storage group.
-/

namespace PowerMaxCsi.Service

open Prog List Option SgWorld Finset

section

variable {key : String} {req : AddRequest}

theorem processSingleAddVolumeToSGMV_calls (hk : req.key = key)
    (cfg : SgConfig) : Calls (Within key) (processSingleAddVolumeToSGMV cfg req) := by
  refine ⟨trivial, ?_⟩
  rintro (err | _)
  · exact ⟨trivial, fun _ => trivial⟩
  · exact (addVolumesToSGMV_calls (includes_within key) hk cfg true (by simp) _).calls.bind fun _ =>
      ⟨trivial, fun _ => trivial⟩

theorem handleAddVolumeToSGMVError_calls (hk : req.key = key)
    (cfg : SgConfig) : Calls (Within key) (handleAddVolumeToSGMVError cfg req) := by
  refine ⟨trivial, ?_⟩
  rintro (err | _)
  · trivial
  refine ⟨trivial, ?_⟩
  rintro (err | vol)
  · exact ⟨trivial, fun _ => trivial⟩
  refine ⟨trivial, ?_⟩
  rintro (err | view)
  · exact processSingleAddVolumeToSGMV_calls hk cfg
  · split
    · exact ⟨trivial, fun _ => trivial⟩
    · exact processSingleAddVolumeToSGMV_calls hk cfg

end

section

variable {i : Nat} {key : String} {w : SgWorld}
  {c : SgCall} {w₁ : SgWorld} {batch : Batch} {symID sgID : String}

theorem owns_of_answers {r : SgAnswer c} {w₂ : SgWorld} (ho : w.Owns i key)
    (hre : SgRely i c w w₁) (hr : c ≠ .releaseToken key)
    (ha : (sgContract i).answers w₁ c r w₂) : w₂.Owns i key := by
  obtain ⟨⟨took, hs⟩, -⟩ := ha
  exact (serve_runner hs hr).trans (hre.owns key ho)

theorem safe_of_calls {α : Type} {p : SgProg α} (ho : w.Owns i key) (hp : Calls (Within key) p) :
    (sgContract i).Safe (fun w' _ => w'.Owns i key) w p := by
  refine Contract.Safe.of_calls ho hp ?_
  intro c w w₁ hc ho hr hi
  have ho₁ := hr.owns key ho
  refine ⟨?_, fun r w₂ ha => owns_of_answers ho hr ?_ ha⟩
  · show SgIssue i w₁ c
    unfold SgIssue
    split
    · rwa [show getKey _ _ = key from hc]
    · rwa [show getKey _ _ = key from hc]
    · exact hc.elim
    · exact hc.elim
    · trivial
  · rintro rfl
    exact hc

theorem releaseToken_safe (ho : w.Owns i key) :
    (sgContract i).Safe (fun _ _ => True) w (Sg.releaseToken key) := by
  intro w₁ hr _
  exact ⟨hr.owns key ho, fun _ _ _ => trivial⟩

/-- A batch of distinct devices that are all in the group and as many as its volumes is all of
it. -/
theorem onlyBatch_of_card (hn : batch.devIDs.Nodup)
    (hmem : ∀ devID ∈ batch.devIDs, devID ∈ w.arrays.volumes batch.symID batch.storageGroupID)
    (hc : (w.arrays.volumes batch.symID batch.storageGroupID).card = batch.devIDs.length) :
    w.OnlyBatch batch := by
  have hs : batch.devIDs.toFinset ⊆ w.arrays.volumes batch.symID batch.storageGroupID :=
    fun devID h => hmem devID (mem_toFinset.mp h)
  have hle : (w.arrays.volumes batch.symID batch.storageGroupID).card ≤
      batch.devIDs.toFinset.card := by
    rw [hc, toFinset_card_of_nodup hn]
  exact (eq_of_subset_of_card_le hs hle).ge

theorem numOfVolumes_of_answers {sg : StorageGroup} {w₂ : SgWorld}
    (han : (sgContract i).answers w₁ (.pmax (.getStorageGroup symID sgID)) (.ok (some sg)) w₂) :
    w₂ = w₁ ∧ sg.numOfVolumes = (w₁.arrays.volumes symID sgID).card ∧
      BatchFits w₁ i symID sgID := by
  obtain ⟨⟨took, hs⟩, hf⟩ := han
  obtain ⟨arrays, ha, rfl⟩ := map_eq_some_iff.mp hs
  obtain ⟨hsg, ⟨⟩⟩ := ite_none_right_eq_some.mp ha
  obtain ⟨group, hg, rfl⟩ := map_eq_some_iff.mp hsg
  refine ⟨rfl, ?_, hf _ rfl⟩
  simp [SgArrays.volumes, hg, Group.describe]

def Announced (w : SgWorld) (i : Nat) (batch : Batch) : Prop :=
  w.Owns i batch.key ∧ w.processing i = some batch

theorem Announced.rely (h : Announced w i batch) (hr : SgRely i c w w₁) : Announced w₁ i batch :=
  ⟨hr.owns _ h.1, hr.processing.trans h.2⟩

theorem Announced.answers {r : SgAnswer c}
    (h : Announced w i batch) (han : (sgContract i).answers w c r w₁)
    (hr : c ≠ .releaseToken batch.key) (ha : ∀ batch', c ≠ .processing batch') :
    Announced w₁ i batch := by
  obtain ⟨⟨took, hs⟩, -⟩ := han
  have hp : w₁.processing i = w.processing i :=
    serve_processing hs fun batch' hc => absurd hc (ha batch')
  exact ⟨(serve_runner hs hr).trans h.1, hp.trans h.2⟩

/-- Volumes that are added until the masking view is deleted are in the batch. -/
theorem deleteMaskingView_safe {α : Type} {post : SgWorld → α → Prop}
    {k : Except PmaxError Unit → SgProg α} (hb : Announced w i batch) (ho : w.OnlyBatch batch)
    (hk : ∀ r w', w'.Owns i batch.key → (sgContract i).Safe post w' (k r)) :
    (sgContract i).Safe post w
      (.call (.pmax (.deleteMaskingView batch.symID batch.maskingViewID)) k) := by
  intro w₁ hr _
  refine ⟨⟨batch, (hb.rely hr).2, rfl, rfl, ?_⟩, fun r w₂ ha =>
    hk r w₂ (owns_of_answers hb.1 hr (by simp) ha)⟩
  have hv := hr.volumes rfl batch hb.2 hb.1
  exact hv.trans (union_subset ho subset_rfl)

/-- The masking view is deleted only if no other volume is in the storage group. -/
theorem removeVolumesFromSGMV_safe (clientSymID : String) (batch : Batch)
    (ho : w.Owns i batch.key) :
    (sgContract i).Safe (fun w' _ => w'.Owns i batch.key) w
      (removeVolumesFromSGMV clientSymID batch) := by
  have hrm : ∀ maskingViewDeleted w, w.Owns i batch.key → (sgContract i).Safe
      (fun w' _ => w'.Owns i batch.key) w (removeFromGroup batch maskingViewDeleted) :=
    fun _ _ ho => safe_of_calls ho (removeFromGroup_calls (includes_within _) batch _).calls
  intro w₁ hr₁ _
  refine ⟨trivial, ?_⟩
  rintro (err | _) w₂ ha₂
  · exact owns_of_answers ho hr₁ (by simp) ha₂
  have ho₂ : w₂.Owns i batch.key := owns_of_answers ho hr₁ (by simp) ha₂
  -- the batch is announced
  intro w₃ hr₃ _
  refine ⟨trivial, ?_⟩
  rintro _ w₄ ⟨⟨took, hs⟩, -⟩
  have hb₄ : Announced w₄ i batch := by
    cases hs
    exact ⟨hr₃.owns _ ho₂, Function.update_self _ _ _⟩
  intro w₅ hr₅ _
  refine ⟨trivial, fun boot w₆ ha₆ => ?_⟩
  have hb₆ := (hb₄.rely hr₅).answers ha₆ (by simp) (by simp)
  refine .ite (fun _ => hb₆.1) fun _ => ?_
  -- the storage group is read
  intro w₇ hr₇ _
  have hb₇ := hb₆.rely hr₇
  refine ⟨trivial, ?_⟩
  rintro (err | _ | sg) w₈ ha₈
  · exact (hb₇.answers ha₈ (by simp) (by simp)).1
  · exact safe_of_calls (hb₇.answers ha₈ (by simp) (by simp)).1 ⟨trivial, fun r => r.elim⟩
  obtain ⟨rfl, hnu, hf⟩ := numOfVolumes_of_answers ha₈
  refine .ite (fun _ => hb₇.1) fun _ => ?_
  refine .ite (fun hc => ?_) fun _ => hrm false _ hb₇.1
  split
  · exact hrm false _ hb₇.1
  obtain ⟨hn, hmem⟩ := hf batch hb₇.2 rfl rfl
  have hca : sg.numOfVolumes = batch.devIDs.length := by simpa using hc
  refine deleteMaskingView_safe hb₇ (onlyBatch_of_card hn hmem (hnu ▸ hca)) ?_
  rintro (err | _) w' ho'
  · exact ho'
  · exact hrm true _ ho'

theorem processSingleRemoveVolumeFromSG_safe {req : RemoveRequest} (hk : req.key = key)
    (ho : w.Owns i key) :
    (sgContract i).Safe (fun w' _ => w'.Owns i key) w (processSingleRemoveVolumeFromSG req) := by
  subst hk
  refine (removeVolumesFromSGMV_safe req.clientSymID (req.batch [req.devID]) ho).bind ?_
  exact fun w' err ho' => safe_of_calls ho' ⟨trivial, fun _ => trivial⟩

theorem handleRemoveVolumeFromSGMVError_safe {req : RemoveRequest} (hk : req.key = key)
    (ho : w.Owns i key) :
    (sgContract i).Safe (fun w' _ => w'.Owns i key) w (handleRemoveVolumeFromSGMVError req) := by
  intro w₁ hr₁ _
  refine ⟨trivial, ?_⟩
  rintro (err | _) w₂ ha₂
  · exact owns_of_answers ho hr₁ (by simp) ha₂
  have ho₂ : w₂.Owns i key := owns_of_answers ho hr₁ (by simp) ha₂
  intro w₃ hr₃ _
  refine ⟨trivial, ?_⟩
  rintro (err | vol) w₄ ha₄
  · exact safe_of_calls (owns_of_answers ho₂ hr₃ (by simp) ha₄) ⟨trivial, fun _ => trivial⟩
  have ho₄ : w₄.Owns i key := owns_of_answers ho₂ hr₃ (by simp) ha₄
  exact .ite (fun _ => processSingleRemoveVolumeFromSG_safe hk ho₄) fun _ =>
    safe_of_calls ho₄ ⟨trivial, fun _ => trivial⟩

theorem takeRemoveRequests_safe (n : Nat) {initial : Option RemoveRequest}
    {requests : List RemoveRequest} (ho : w.Owns i key) (hk : ∀ req ∈ requests, req.key = key) :
    (sgContract i).Safe (fun w' taken => w'.Owns i key ∧ ∀ req ∈ taken, req.key = key) w
      (takeRemoveRequests key n initial requests) := by
  induction n generalizing w initial requests with
  | zero => exact ⟨ho, hk⟩
  | succ n ih =>
    intro w₁ hr hi
    refine ⟨trivial, fun r w₂ ha => ?_⟩
    have ho₂ := owns_of_answers ho hr (by simp) ha
    obtain ⟨⟨took, hs⟩, -⟩ := ha
    rcases serve_receiveRemove hs with ⟨rfl, -⟩ | ⟨req, rest, hq, rfl, -⟩
    · exact ⟨ho₂, hk⟩
    have hke : req.key = key := hi.removed key req (by rw [hq]; exact mem_cons_self)
    show Contract.Safe _ _ _ (ite ..)
    split
    · exact ih ho₂ (forall_mem_append.mpr ⟨hk, forall_mem_singleton.mpr hke⟩)
    · refine (processSingleRemoveVolumeFromSG_safe hke ho₂).bind ?_
      exact fun w' _ ho' => ⟨ho', hk⟩

theorem runRemoveVolumesFromSGMV_safe (ho : w.Owns i (getKey symID sgID)) :
    (sgContract i).Safe (fun _ _ => True) w (runRemoveVolumesFromSGMV symID sgID) := by
  refine (takeRemoveRequests_safe maxRemoveGroupSize ho (by simp)).bind ?_
  rintro w₁ (_ | ⟨req, rest⟩) ⟨ho₁, hk⟩
  · exact releaseToken_safe ho₁
  have hke : req.key = getKey symID sgID := hk req (by simp)
  refine (removeVolumesFromSGMV_safe req.clientSymID
    (req.batch ((req :: rest).map (·.devID))) (hke ▸ ho₁)).bind ?_
  rintro w₂ (_ | err) ho₂
  · refine Contract.Safe.bind (safe_of_calls (hke ▸ ho₂) (Calls.forEach fun _ _ =>
      ⟨trivial, fun _ => trivial⟩)) fun w₃ _ ho₃ => releaseToken_safe ho₃
  · refine Contract.Safe.bind (Contract.Safe.forEach (P := fun w => w.Owns i (getKey symID sgID))
      (hke ▸ ho₂) fun req' hmem w ho =>
        handleRemoveVolumeFromSGMVError_safe (hk req' hmem) ho)
      fun w₃ _ ho₃ => releaseToken_safe ho₃

theorem takeAddRequests_safe (cfg : SgConfig) (fuel : Nat) {initial : Option AddRequest}
    {requests : List AddRequest} {devIDs : List String} (ho : w.Owns i key)
    (hk : ∀ req ∈ requests, req.key = key) :
    (sgContract i).Safe (fun w' taken => w'.Owns i key ∧ ∀ req ∈ taken.1, req.key = key) w
      (takeAddRequests cfg key fuel initial requests devIDs) := by
  induction fuel generalizing w initial requests devIDs with
  | zero =>
    intro w₁ _ _
    exact ⟨trivial, fun r => r.elim⟩
  | succ fuel ih =>
    unfold takeAddRequests
    split
    · exact ⟨ho, hk⟩
    intro w₁ hr hi
    refine ⟨trivial, fun r w₂ ha => ?_⟩
    have ho₂ := owns_of_answers ho hr (by simp) ha
    obtain ⟨⟨took, hs⟩, -⟩ := ha
    rcases serve_receiveAdd hs with ⟨rfl, -⟩ | ⟨req, rest, hq, rfl, -⟩
    · exact ⟨ho₂, hk⟩
    have hke : req.key = key := hi.added key req (by rw [hq]; exact mem_cons_self)
    refine .ite (fun _ => ?_) fun _ => ?_
    · have hch := addVolumeToSGMVVolumeCheck_calls (includes_within key) req
      refine (safe_of_calls ho₂ hch.calls).bind ?_
      rintro w₃ (err | ⟨addToSG, createMV⟩) ho₃
      · refine (safe_of_calls ho₃ ⟨trivial, fun _ => trivial⟩ :
          (sgContract i).Safe _ _ (Sg.respondAdd req (some err))).bind fun w₄ _ ho₄ => ?_
        exact ih ho₄ hk
      · dsimp only
        split
        · exact ih ho₃ (forall_mem_append.mpr ⟨hk, forall_mem_singleton.mpr hke⟩)
        · refine (safe_of_calls ho₃ ⟨trivial, fun _ => trivial⟩ :
            (sgContract i).Safe _ _ (Sg.respondAdd req none)).bind fun w₄ _ ho₄ => ?_
          exact ih ho₄ hk
    · refine (safe_of_calls ho₂ (processSingleAddVolumeToSGMV_calls hke cfg)).bind ?_
      exact fun w' _ ho' => ⟨ho', hk⟩

theorem runAddVolumesToSGMV_safe (cfg : SgConfig) (fuel : Nat) (ho : w.Owns i (getKey symID sgID)) :
    (sgContract i).Safe (fun _ _ => True) w (runAddVolumesToSGMV cfg fuel symID sgID) := by
  refine (takeAddRequests_safe cfg fuel ho (by simp)).bind ?_
  rintro w₁ ⟨_ | ⟨req, rest⟩, deviceIDs⟩ ⟨ho₁, hk⟩
  · exact releaseToken_safe ho₁
  have hke : req.key = getKey symID sgID := hk req (by simp)
  have hh : Calls (Within (getKey symID sgID))
      (forEach (req :: rest) (handleAddVolumeToSGMVError cfg)) :=
    Calls.forEach fun req' hmem => handleAddVolumeToSGMVError_calls (hk req' hmem) cfg
  have hr : Calls (Within (getKey symID sgID))
      (forEach (req :: rest) fun req => Sg.respondAdd req none) :=
    Calls.forEach fun _ _ => ⟨trivial, fun _ => trivial⟩
  have hrc := readConnections_calls (includes_within (getKey symID sgID)) req
  -- the batch, with a client or without one
  have hb : ∀ hasClient w (respond : Option String → SgProg Unit),
      w.Owns i (getKey symID sgID) →
      (∀ err, respond (some err) = do
        forEach (req :: rest) (handleAddVolumeToSGMVError cfg)
        Sg.releaseToken (getKey symID sgID)) →
      (respond none = do
        readConnections req
        forEach (req :: rest) fun req => Sg.respondAdd req none
        Sg.releaseToken (getKey symID sgID)) →
      (sgContract i).Safe (fun _ _ => True) w
        ((addVolumesToSGMV cfg hasClient req deviceIDs).bind respond) := by
    intro hasClient w respond ho hf ha
    refine (safe_of_calls ho (addVolumesToSGMV_calls (includes_within _) hke cfg hasClient
      (fun _ => trivial) deviceIDs).calls).bind ?_
    rintro w₂ (_ | err) ho₂
    · rw [ha]
      refine (safe_of_calls ho₂ hrc.calls).bind fun w₃ _ ho₃ => ?_
      refine (safe_of_calls ho₃ hr).bind ?_
      exact fun w₄ _ ho₄ => releaseToken_safe ho₄
    · rw [hf]
      refine (safe_of_calls ho₂ hh).bind ?_
      exact fun w₃ _ ho₃ => releaseToken_safe ho₃
  intro w₂ hre _
  refine ⟨trivial, ?_⟩
  rintro (err | _) w₃ han
  · have ho₃ := owns_of_answers ho₁ hre (by simp) han
    refine (safe_of_calls ho₃ hh).bind ?_
    exact fun w₄ _ ho₄ => hb false w₄ _ ho₄ (fun _ => rfl) rfl
  · exact hb true w₃ _ (owns_of_answers ho₁ hre (by simp) han) (fun _ => rfl) rfl

end

/-- A publish while a run is about to delete the masking view is for a volume of its batch. -/
def PublishFits (s : SgPool) (symID sgID devID : String) : Prop :=
  ∀ i ∈ (s.world.states (getKey symID sgID)).runner, ∀ batch ∈ s.world.processing i,
    batch.symID = symID → batch.storageGroupID = sgID →
      (s.thread i).next.map SgCall.deletesView = some true → devID ∈ batch.devIDs

/-- The batch is a set of volumes of the storage group that is read, and no publish interferes. -/
def CountsRight (s : SgPool) : SgEvent → Prop
  | .reply i c _ _ => CallFits s.world i c
  | .env (.publishMaskingViews symID _ devID view) => PublishFits s symID view.storageGroupID devID
  | _ => True

instance (s : SgPool) (symID sgID devID : String) : Decidable (PublishFits s symID sgID devID) :=
  inferInstanceAs (Decidable (∀ i ∈ _, ∀ batch ∈ _, _ → _ → _ → _))

instance decidableCountsRight (s : SgPool) : ∀ event, Decidable (CountsRight s event)
  | .start _ _ => .isTrue trivial
  | .reply i c _ _ => inferInstanceAs (Decidable (CallFits s.world i c))
  | .env (.requestAdd _) => .isTrue trivial
  | .env (.requestRemove _) => .isTrue trivial
  | .env (.publishMaskingViews symID _ devID view) =>
    inferInstanceAs (Decidable (PublishFits s symID view.storageGroupID devID))

namespace SgWorld

variable {w w' : SgWorld} {i : Nat} {key : String}

theorem act_spec {s : SgPool} {action : SgAction} (hf : CountsRight s (.env action))
    (hi : s.world.Inv) (h : s.world.act action = some w') :
    w'.Inv ∧ ∀ i c, (s.thread i).next = some c → SgRely i c s.world w' := by
  cases action with
  | requestAdd req =>
    obtain ⟨-, ⟨⟩⟩ := ite_none_right_eq_some.mp h
    refine ⟨hi.setState (hi.single _) (hi.token _) ?_ (hi.removed _), fun i c _ =>
      rely_setState fun ho => ho⟩
    exact forall_mem_append.mpr ⟨hi.added _, forall_mem_singleton.mpr rfl⟩
  | requestRemove req =>
    obtain ⟨-, ⟨⟩⟩ := ite_none_right_eq_some.mp h
    refine ⟨hi.setState (hi.single _) (hi.token _) (hi.added _) ?_, fun i c _ =>
      rely_setState fun ho => ho⟩
    exact forall_mem_append.mpr ⟨hi.removed _, forall_mem_singleton.mpr rfl⟩
  | publishMaskingViews symID maskingViewID devID view =>
    cases h
    refine ⟨⟨hi.single, hi.token, hi.added, hi.removed⟩, ?_⟩
    intro i c hn
    refine ⟨fun _ => id, rfl, fun hc batch hp ho => ?_⟩
    refine (SgArrays.volumes_publish_subset _ _ _ _ _).trans (union_subset_union_right ?_)
    split
    case isFalse => exact empty_subset _
    case isTrue hg =>
      obtain ⟨rfl, hsg⟩ := hg
      have hr : s.world.Owns i (getKey batch.symID view.storageGroupID) := hsg ▸ ho
      have hmem := hf i hr batch hp rfl hsg (by rw [hn]; exact congrArg some hc)
      simpa using hmem

end SgWorld

theorem sgThreads_meets (cfg : SgConfig) (arrays : SgArrays) :
    Threads.Meets sgContract (sgThreads cfg arrays) CountsRight where
  init i := ⟨fun _ => le_rfl, fun _ _ => rfl, by simp [sgThreads, KeyState.new],
    by simp [sgThreads, KeyState.new]⟩
  start s i job w _ hs h := by
    obtain ⟨hin, ho, hr⟩ := takeToken_spec (hs i).1 h
    refine ⟨fun _ => hin, fun j hj c _ => hr j c fun hji => hj (by rw [hji]), ?_⟩
    cases job with
    | runAddVolumesToSGMV fuel symID sgID => exact runAddVolumesToSGMV_safe cfg fuel ho
    | runRemoveVolumesFromSGMV symID sgID => exact runRemoveVolumesFromSGMV_safe ho
  reply s i c r took w hf hs hn h := by
    have hi : SgIssue i s.world c := (hs i).2.issue (hs i).1 hn
    refine ⟨fun j => (hs j).1.serve h, fun j hj c' _ => ?_, ⟨took, h⟩, hf⟩
    exact serve_rely hi h (fun hji => hj (by rw [hji])) c'
  env s action w hf hs h := by
    obtain ⟨hin, hr⟩ := act_spec hf (hs 0).1 h
    exact ⟨fun _ => hin, fun i _ c hn => hr i c hn⟩

/-- When a masking view is about to be deleted, all volumes of the group are in the batch. -/
def DeletesOnlyBatch (s : SgPool) : Prop :=
  ∀ i symID maskingViewID,
    (s.thread i).next = some (.pmax (.deleteMaskingView symID maskingViewID)) →
      ∃ batch, s.world.processing i = some batch ∧ batch.symID = symID ∧
        batch.maskingViewID = maskingViewID ∧ s.world.OnlyBatch batch

/-- If the batches are sets of volumes of their storage group, and no publish interferes, masking
views are deleted only if all volumes are in the batch. -/
theorem deletesOnlyBatch_of_countsRight (cfg : SgConfig) (arrays : SgArrays)
    (events : List SgEvent) (s : SgPool)
    (hru : (sgThreads cfg arrays).machine.run (sgThreads cfg arrays).machine.init events = some s)
    (hr : (sgThreads cfg arrays).machine.Along CountsRight (sgThreads cfg arrays).machine.init
      events) : DeletesOnlyBatch s := by
  have hs := (sgThreads_meets cfg arrays).run_sound hr hru
  intro i symID maskingViewID hn
  exact (hs i).2.issue (hs i).1 hn

def oneVolume : SgArrays where
  groups sym sg :=
    if sym = "000120000548" ∧ sg = "csi-no-srp-sg-ABC-node1" then
      some ⟨"", {"00001"}, ["csi-mv-ABC-node1"]⟩
    else none
  views sym mv :=
    if sym = "000120000548" ∧ mv = "csi-mv-ABC-node1" then
      some ⟨"csi-node-ABC-node1", "", "pg1", "csi-no-srp-sg-ABC-node1"⟩
    else none

def unpublishRequest : RemoveRequest :=
  ⟨"csi-no-srp-sg-ABC-node1", "csi-mv-ABC-node1", "req1", "000120000548", "000120000548", "00001",
    0⟩

def unpublishRun : List SgEvent :=
  let key := unpublishRequest.key
  [.env (.requestRemove unpublishRequest),
    .start 0 (.runRemoveVolumesFromSGMV "000120000548" "csi-no-srp-sg-ABC-node1"),
    .reply 0 (.receiveRemove key) (some unpublishRequest) true,
    .reply 0 (.receiveRemove key) none true,
    .reply 0 (.getPowerMaxClient "000120000548") (.ok ()) true,
    .reply 0 (.processing (unpublishRequest.batch ["00001"])) () true,
    .reply 0 (.isBootLUNStorageGroup "000120000548" "csi-no-srp-sg-ABC-node1") false true,
    .reply 0 (.pmax (.getStorageGroup "000120000548" "csi-no-srp-sg-ABC-node1"))
      (.ok (some ⟨"csi-no-srp-sg-ABC-node1", "", 1, 1, ["csi-mv-ABC-node1"]⟩)) true]

def racingPublish : SgEvent :=
  .env (.publishMaskingViews "000120000548" "csi-mv-ABC-node1" "00002"
    ⟨"csi-node-ABC-node1", "", "pg1", "csi-no-srp-sg-ABC-node1"⟩)

def observe (s : SgPool) : Option SgCall × Option Batch × Finset String :=
  ((s.thread 0).next, s.world.processing 0,
    s.world.arrays.volumes "000120000548" "csi-no-srp-sg-ABC-node1")

theorem deletesOnlyBatch_unpublishRun : ∃ s,
    (sgThreads ⟨false, ""⟩ oneVolume).machine.run (sgThreads ⟨false, ""⟩ oneVolume).machine.init
      unpublishRun = some s ∧
    (s.thread 0).next = some (.pmax (.deleteMaskingView "000120000548" "csi-mv-ABC-node1")) ∧
    DeletesOnlyBatch s := by
  have ho : (((sgThreads ⟨false, ""⟩ oneVolume).machine.run
      (sgThreads ⟨false, ""⟩ oneVolume).machine.init unpublishRun).map observe) =
      some (some (.pmax (.deleteMaskingView "000120000548" "csi-mv-ABC-node1")),
        some (unpublishRequest.batch ["00001"]), {"00001"}) := by decide
  obtain ⟨s, hr, hs⟩ := map_eq_some_iff.mp ho
  refine ⟨s, hr, congrArg Prod.fst hs, ?_⟩
  exact deletesOnlyBatch_of_countsRight ⟨false, ""⟩ oneVolume unpublishRun s hr (by decide)

/-- Another volume is published between the count and the deletion: it loses its
masking view. -/
theorem racingPublish_loses : ¬ ∀ cfg arrays events s,
    (sgThreads cfg arrays).machine.run (sgThreads cfg arrays).machine.init events = some s →
      DeletesOnlyBatch s := by
  intro ha
  have ho : (((sgThreads ⟨false, ""⟩ oneVolume).machine.run
      (sgThreads ⟨false, ""⟩ oneVolume).machine.init (unpublishRun ++ [racingPublish])).map
        observe) =
      some (some (.pmax (.deleteMaskingView "000120000548" "csi-mv-ABC-node1")),
        some (unpublishRequest.batch ["00001"]), {"00001", "00002"}) := by decide
  obtain ⟨s, hr, hs⟩ := map_eq_some_iff.mp ho
  simp only [observe, Prod.mk.injEq] at hs
  obtain ⟨hn, hp, hv⟩ := hs
  obtain ⟨batch, hb, -, -, hon⟩ := ha _ _ _ s hr 0 _ _ hn
  obtain rfl : unpublishRequest.batch ["00001"] = batch := by simpa [hp] using hb
  have hmem : "00002" ∈ s.world.arrays.volumes "000120000548" "csi-no-srp-sg-ABC-node1" := by
    rw [hv]
    decide
  exact absurd (hon hmem) (by decide)

end PowerMaxCsi.Service
