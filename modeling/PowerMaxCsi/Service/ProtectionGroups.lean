import PowerMaxCsi.Lib.Threads
import PowerMaxCsi.Service.Replication

/-!
# One mode for an RDF group

An RDF group is used in one mode only, and in ASYNC mode by one storage group only: `OneMode`.
`getOrCreateProtectedStorageGroup` checks that under a lock whose handle is the name of the group.
-/

namespace PowerMaxCsi.Service

open Strings Prog Function List Option

inductive RepMode where
  | async
  | sync
  | metro
deriving DecidableEq, Repr

def RepMode.text : RepMode → String
  | .async => Service.async
  | .sync => Service.sync
  | .metro => Service.metro

/-- The namespace of the request that asked for it, the RDF group and the mode. -/
structure ProtectionGroup where
  (ns rdfGrpNo : String)
  mode : RepMode
deriving DecidableEq, Repr

def ProtectionGroup.id (g : ProtectionGroup) : String :=
  buildProtectionGroupID g.ns g.rdfGrpNo g.mode.text

/-- The groups of an RDF group have one mode, and in ASYNC mode there is only one. -/
def OneMode (groups : List ProtectionGroup) : Prop :=
  ∀ a ∈ groups, ∀ b ∈ groups, a.rdfGrpNo = b.rdfGrpNo → a.mode = b.mode ∧ (a.mode = .async → a = b)

instance (groups : List ProtectionGroup) : Decidable (OneMode groups) :=
  inferInstanceAs (Decidable (∀ a ∈ groups, ∀ b ∈ groups, _))

def Fits (groups : List ProtectionGroup) (g : ProtectionGroup) : Prop :=
  ∀ a ∈ groups, a.rdfGrpNo = g.rdfGrpNo → a.mode = g.mode ∧ g.mode ≠ .async

variable {groups : List ProtectionGroup} {g : ProtectionGroup}

theorem OneMode.mono {groups' : List ProtectionGroup} (h : OneMode groups)
    (hs : groups' ⊆ groups) : OneMode groups' :=
  fun a ha b hb hab => h a (hs ha) b (hs hb) hab

theorem OneMode.cons (h : OneMode groups) (hg : Fits groups g) : OneMode (g :: groups) := by
  intro a ha b hb hab
  rcases mem_cons.mp ha with rfl | ha' <;> rcases mem_cons.mp hb with rfl | hb'
  · exact ⟨rfl, fun _ => rfl⟩
  · obtain ⟨hm, hasy⟩ := hg b hb' hab.symm
    exact ⟨hm.symm, fun h => absurd h hasy⟩
  · obtain ⟨hm, hasy⟩ := hg a ha' hab
    exact ⟨hm, fun h => absurd (hm ▸ h) hasy⟩
  · exact h a ha' b hb' hab

/-- The name has the part that `verifyProtectionGroupID` looks for. -/
theorem ProtectionGroup.id_contains (g : ProtectionGroup) :
    contains g.id ("-" ++ g.rdfGrpNo ++ "-" ++ g.mode.text) = true := by
  have hs : csiRepSGPrefix = "csi-rep-sg" ++ "-" := by decide
  rw [contains_iff]
  by_cases hm : g.mode.text = metro
  · refine ⟨"csi-rep-sg".toList, [], ?_⟩
    simp [id, buildProtectionGroupID, hm, hs]
  · refine ⟨(csiRepSGPrefix ++ g.ns).toList, [], ?_⟩
    simp [id, buildProtectionGroupID, hm]

/-- **The check.**  A group that passes the check for one storage group fits beside it. -/
theorem fits_of_noConflict {a : ProtectionGroup} (hn : a.rdfGrpNo = g.rdfGrpNo)
    (h : protectionGroupConflict g.rdfGrpNo g.mode.text a.id = none) :
    a.mode = g.mode ∧ g.mode ≠ .async := by
  have hu := a.id_contains
  rw [hn] at hu
  revert h hu
  cases g.mode <;> cases a.mode <;>
    simp +contextual [protectionGroupConflict, RepMode.text, async, sync, metro]

theorem fits_of_verified {ids : List String} (hi : ∀ a ∈ groups, a.id ∈ ids)
    (h : ids.findSome? (protectionGroupConflict g.rdfGrpNo g.mode.text) = none) : Fits groups g :=
  fun a ha hn => fits_of_noConflict hn (List.findSome?_eq_none_iff.mp h a.id (hi a ha))

/-- The storage groups, the holders of the locks, and the group that each goroutine works on. -/
structure GroupArray (ι : Type) where
  groups : List ProtectionGroup
  others : List String
  lock : String → Option ι
  running : ι → Option ProtectionGroup

namespace GroupArray

variable {ι : Type}

def ids (w : GroupArray ι) : List String := w.groups.map (·.id) ++ w.others

def create (w : GroupArray ι) (i : ι) (storageGroupID : String) : GroupArray ι :=
  match w.running i with
  | some g =>
    if g.id = storageGroupID then { w with groups := g :: w.groups }
    else { w with others := storageGroupID :: w.others }
  | none => { w with others := storageGroupID :: w.others }

def finish [DecidableEq ι] (w : GroupArray ι) (i : ι) : GroupArray ι :=
  { w with running := update w.running i none }

def setLock (w : GroupArray ι) (handle : String) (holder : Option ι) : GroupArray ι :=
  { w with lock := update w.lock handle holder }

/-- A lock is granted while nobody holds it, and a creation that fails may have taken effect. -/
def serve [DecidableEq ι] (w : GroupArray ι) (i : ι) (took : Bool) :
    (c : RepCall) → RepAnswer c → Option (GroupArray ι)
  | .requestLock handle, r =>
    match r with
    | .ok _ => if w.lock handle = none then some (w.setLock handle (some i)) else none
    | .error _ => some (w.finish i)
  | .releaseLock handle _, _ =>
    if w.lock handle = some i then some ((w.setLock handle none).finish i) else none
  | .getProtectedStorageGroup _ storageGroupID, r =>
    match r with
    | .ok _ => if storageGroupID ∈ w.ids then some w else none
    | .error _ => some w
  | .getStorageGroupIDList _, r =>
    match r with
    | .ok ids => if ids.Perm w.ids then some w else none
    | .error _ => some w
  | .createStorageGroup _ storageGroupID _ _ _ _, r =>
    match r with
    | .ok () => if storageGroupID ∈ w.ids then none else some (w.create i storageGroupID)
    | .error _ =>
      if took ∧ storageGroupID ∉ w.ids then some (w.create i storageGroupID) else some w
  | _, _ => none

/-- What the rest of the driver does to the storage groups. -/
inductive Change where
  | create (storageGroupID : String)
  | delete (storageGroupID : String)
deriving DecidableEq, Repr

def change (w : GroupArray ι) : Change → Option (GroupArray ι)
  | .create storageGroupID =>
    if storageGroupID ∈ w.ids then none
    else some { w with others := storageGroupID :: w.others }
  | .delete storageGroupID =>
    some { w with
      groups := w.groups.filter (·.id ≠ storageGroupID)
      others := w.others.filter (· ≠ storageGroupID) }

/-- The calls under way for one RDF group are for the same group. -/
def Apart (w : GroupArray ι) : Prop :=
  ∀ j k, ∀ a ∈ w.running j, ∀ b ∈ w.running k, a.rdfGrpNo = b.rdfGrpNo → a.id = b.id

def Inside (w : GroupArray ι) (symID : String) (i : ι) (g : ProtectionGroup) : Prop :=
  w.running i = some g ∧ w.lock (g.id ++ symID) = some i

variable {w w' : GroupArray ι} {i : ι} {took : Bool}

theorem create_running (storageGroupID : String) :
    (w.create i storageGroupID).running = w.running := by
  unfold create
  split
  · split <;> rfl
  · rfl

theorem create_lock (storageGroupID : String) : (w.create i storageGroupID).lock = w.lock := by
  unfold create
  split
  · split <;> rfl
  · rfl

theorem create_groups (h : w.running i = some g) : (w.create i g.id).groups = g :: w.groups := by
  simp [create, h]

theorem change_eq {e : Change} (h : w.change e = some w') :
    w'.groups ⊆ w.groups ∧ w'.lock = w.lock ∧ w'.running = w.running := by
  cases e with
  | create storageGroupID =>
    simp only [change, ite_none_left_eq_some, some.injEq] at h
    obtain ⟨-, rfl⟩ := h
    exact ⟨fun _ ha => ha, rfl, rfl⟩
  | delete storageGroupID =>
    cases h
    exact ⟨fun _ ha => mem_of_mem_filter ha, rfl, rfl⟩

variable [DecidableEq ι]

inductive Act (w : GroupArray ι) (i : ι) : RepCall → GroupArray ι → Prop
  | none (c : RepCall) : Act w i c w
  | lock (handle : String) (h : w.lock handle = .none) :
      Act w i (.requestLock handle) (w.setLock handle (some i))
  | refuse (handle : String) : Act w i (.requestLock handle) (w.finish i)
  | unlock (handle : String) (lockNum : Nat) (h : w.lock handle = some i) :
      Act w i (.releaseLock handle lockNum) ((w.setLock handle .none).finish i)
  | create (symID storageGroupID srpID serviceLevel : String) (thick : Bool)
      (limits : Option HostIOLimits) :
      Act w i (.createStorageGroup symID storageGroupID srpID serviceLevel thick limits)
        (w.create i storageGroupID)

variable {c : RepCall}

theorem serve_act {r : RepAnswer c} (h : w.serve i took c r = some w') : Act w i c w' := by
  unfold serve at h
  split at h
  · split at h
    · split at h
      · cases h
        exact .lock _ ‹_›
      · cases h
    · cases h
      exact .refuse _
  · split at h
    · cases h
      exact .unlock _ _ ‹_›
    · cases h
  · split at h
    · split at h
      · cases h
        exact .none _
      · cases h
    · cases h
      exact .none _
  · split at h
    · split at h
      · cases h
        exact .none _
      · cases h
    · cases h
      exact .none _
  · split at h
    · split at h
      · cases h
      · cases h
        exact .create ..
    · split at h
      · cases h
        exact .create ..
      · cases h
        exact .none _
  · cases h

variable (h : Act w i c w')

include h

theorem Act.running_other {k : ι} (hk : k ≠ i) : w'.running k = w.running k := by
  cases h with
  | none => rfl
  | lock => rfl
  | refuse => exact update_of_ne hk ..
  | unlock => exact update_of_ne hk ..
  | create => rw [create_running]

theorem Act.running_sub {k : ι} (hg : g ∈ w'.running k) : g ∈ w.running k := by
  by_cases hk : k = i
  · subst hk
    cases h with
    | none => exact hg
    | lock => exact hg
    | refuse => simp [finish] at hg
    | unlock => simp [finish] at hg
    | create => rwa [create_running] at hg
  · rwa [h.running_other hk] at hg

theorem Act.lock_other {k : ι} {handle : String} (hk : k ≠ i) (hh : w.lock handle = some k) :
    w'.lock handle = some k := by
  cases h with
  | none => exact hh
  | lock handle' hf =>
    have hne : handle ≠ handle' := by
      rintro rfl
      simp [hf] at hh
    simpa [setLock, update_of_ne hne] using hh
  | refuse => exact hh
  | unlock handle' lockNum ho =>
    have hne : handle ≠ handle' := by
      rintro rfl
      exact hk (some.inj (hh.symm.trans ho))
    simpa [setLock, finish, update_of_ne hne] using hh
  | create => rwa [create_lock]

theorem Act.apart (hw : w.Apart) : w'.Apart :=
  fun j k a ha b hb hn => hw j k a (h.running_sub ha) b (h.running_sub hb) hn

omit h

end GroupArray

section

open GroupArray

variable {ι : Type} (symID : String)

abbrev GroupEvent (ι : Type) := Threads.Event ι RepCall ProtectionGroup Change Bool RepAnswer

abbrev GroupPool (ι : Type) := Threads.Pool ι RepCall (GroupArray ι) RepAnswer

/-- The pool of the calls of `getOrCreateProtectedStorageGroup` on an array. -/
def groupThreads [DecidableEq ι] (groups : List ProtectionGroup) (others : List String) :
    Threads ι RepCall ProtectionGroup Change Bool (GroupArray ι) RepAnswer where
  init := ⟨groups, others, fun _ => none, fun _ => none⟩
  program g :=
    (getOrCreateProtectedStorageGroup symID g.id g.rdfGrpNo g.mode.text).bind fun _ => .ret ()
  start w i g := some { w with running := update w.running i (some g) }
  serve w i c r took := w.serve i took c r
  env := change

/-- A call starts only if the calls under way for its RDF group are for the same group. -/
def StartsApart (s : GroupPool ι) : GroupEvent ι → Prop
  | .start _ g => ∀ k, ∀ a ∈ s.world.running k, a.rdfGrpNo = g.rdfGrpNo → a.id = g.id
  | _ => True

instance [Fintype ι] (s : GroupPool ι) (e : GroupEvent ι) :
    Decidable (StartsApart s e) :=
  match e with
  | .start _ g => inferInstanceAs
      (Decidable (∀ k, ∀ a ∈ s.world.running k, a.rdfGrpNo = g.rdfGrpNo → a.id = g.id))
  | .reply .. => isTrue trivial
  | .env _ => isTrue trivial

/-- No group of the RDF group is created while the goroutine holds the lock of its call. -/
def GroupRely (i : ι) (w w' : GroupArray ι) : Prop :=
  w'.running i = w.running i ∧
  (∀ handle, w.lock handle = some i → w'.lock handle = some i) ∧
  ∀ g, w.Inside symID i g → ∀ a ∈ w'.groups, a.rdfGrpNo = g.rdfGrpNo → a ∈ w.groups

/-- A group is created by the holder of its lock, and only if it fits. -/
def GroupIssue (i : ι) (w : GroupArray ι) : RepCall → Prop
  | .createStorageGroup _ storageGroupID _ _ _ _ =>
    ∃ g, w.Inside symID i g ∧ g.id = storageGroupID ∧ Fits w.groups g
  | _ => True

variable {symID} {i : ι} {w w' w'' : GroupArray ι} {g : ProtectionGroup}

theorem GroupRely.refl : GroupRely symID i w w := ⟨rfl, fun _ h => h, fun _ _ _ ha _ => ha⟩

variable (h : GroupRely symID i w w')

include h

theorem GroupRely.inside (hg : w.Inside symID i g) : w'.Inside symID i g :=
  ⟨h.1.trans hg.1, h.2.1 _ hg.2⟩

theorem GroupRely.trans (h' : GroupRely symID i w' w'') : GroupRely symID i w w'' :=
  ⟨h'.1.trans h.1, fun handle hl => h'.2.1 handle (h.2.1 handle hl),
    fun g hg a ha hn => h.2.2 g hg a (h'.2.2 g (h.inside hg) a ha hn) hn⟩

theorem GroupRely.fits (hg : w.Inside symID i g) (hf : Fits w.groups g) : Fits w'.groups g :=
  fun a ha hn => hf a (h.2.2 g hg a ha hn) hn

omit h

variable [DecidableEq ι]

variable (symID) in
def groupContract (i : ι) : Contract RepCall RepAnswer (GroupArray ι) where
  inv w := OneMode w.groups ∧ w.Apart
  rely _ := GroupRely symID i
  answers w c r w' := ∃ took, w.serve i took c r = some w'
  issue w c := GroupIssue symID i w c
  rely_refl _ _ := .refl
  rely_trans _ _ _ _ h h' := h.trans h'

abbrev GroupSafe (symID : String) (i : ι) {α : Type} (w : GroupArray ι) (p : RepProg α) : Prop :=
  (groupContract symID i).Safe (fun _ _ => True) w p

theorem verifyProtectionGroupID_safe (hg : w.Inside symID i g) :
    (groupContract symID i).Safe
      (fun w' err => w'.Inside symID i g ∧ (err = none → Fits w'.groups g)) w
      (verifyProtectionGroupID symID g.rdfGrpNo g.mode.text) := by
  intro w₁ hr _
  refine ⟨trivial, ?_⟩
  rintro (err | ids) w₂ ⟨took, hs⟩
  · obtain rfl : w₁ = w₂ := some.inj hs
    refine ⟨hr.inside hg, fun h => ?_⟩
    cases h
  · have hp : ids.Perm w₁.ids ∧ w₁ = w₂ := by
      simpa [serve] using hs
    obtain ⟨hp, rfl⟩ := hp
    refine ⟨hr.inside hg, fun h => fits_of_verified (fun a ha => ?_) h⟩
    rw [hp.mem_iff]
    exact mem_append_left _ (mem_map_of_mem ha)

theorem createGroup_safe (hg : w.Inside symID i g) (hf : Fits w.groups g) :
    GroupSafe symID i w (Prog.ask (RepCall.createStorageGroup symID g.id "None" "" false none)) := by
  intro w₁ hr _
  exact ⟨⟨g, hr.inside hg, rfl, hr.fits hg hf⟩, fun _ _ _ => trivial⟩

theorem releaseLock_safe {α : Type} {p : RepProg α} (handle : String) (lockNum : Nat)
    (hp : GroupSafe symID i w p) :
    GroupSafe symID i w (p.bind fun result =>
      (Prog.ask (RepCall.releaseLock handle lockNum)).bind fun _ => .ret result) :=
  hp.bind fun _ _ _ _ _ _ => ⟨trivial, fun _ _ _ => trivial⟩

theorem getOrCreateProtectedStorageGroup_safe (hg : w.running i = some g) :
    GroupSafe symID i w
      (getOrCreateProtectedStorageGroup symID g.id g.rdfGrpNo g.mode.text) := by
  intro w₁ hr _
  refine ⟨trivial, ?_⟩
  rintro (err | lockNum) w₂ ⟨took, hs⟩
  · trivial
  -- The lock is held from here on.
  have hi : w₂.Inside symID i g := by
    have hl : w₁.lock (g.id ++ symID) = none ∧ w₁.setLock (g.id ++ symID) (some i) = w₂ := by
      simpa [serve] using hs
    obtain ⟨-, rfl⟩ := hl
    exact ⟨hr.1.trans hg, update_self ..⟩
  refine releaseLock_safe (g.id ++ symID) lockNum ?_
  intro w₃ hr₃ _
  refine ⟨trivial, ?_⟩
  rintro (err | rdf) w₄ ⟨took, hs⟩
  · obtain rfl : w₃ = w₄ := some.inj hs
    show GroupSafe symID i w₃ (ite ..)
    split
    · trivial
    · refine (verifyProtectionGroupID_safe (hr₃.inside hi)).bind fun w₅ err h₅ => ?_
      cases err with
      | some err => trivial
      | none =>
        refine (createGroup_safe h₅.1 (h₅.2 rfl)).bind fun w₆ r _ => ?_
        cases r <;> trivial
  · trivial

omit [DecidableEq ι] in
/-- A creation by the holder keeps one mode, and no other holder sees a new group of its RDF
group. -/
theorem create_step (hi : OneMode w.groups ∧ w.Apart) (hg : w.Inside symID i g)
    (hf : Fits w.groups g) :
    OneMode (w.create i g.id).groups ∧
      ∀ k, k ≠ i → GroupRely symID k w (w.create i g.id) := by
  rw [create_groups hg.1]
  refine ⟨hi.1.cons hf, fun k hk => ⟨by rw [create_running], ?_, ?_⟩⟩
  · intro handle hh
    rwa [create_lock]
  · intro b hb a ha hn
    rw [create_groups hg.1] at ha
    rcases mem_cons.mp ha with rfl | ha
    -- The new group is of the same RDF group: the two calls have one lock.
    · have hid := hi.2 i k a hg.1 b hb.1 hn
      have hl := hg.2
      rw [hid, hb.2] at hl
      exact absurd (some.inj hl) hk
    · exact ha

theorem GroupArray.Act.rely {c : RepCall} {k : ι} (h : Act w i c w') (hk : k ≠ i)
    (hg : w'.groups = w.groups) : GroupRely symID k w w' :=
  ⟨h.running_other hk, fun _ hh => h.lock_other hk hh, fun _ _ _ ha _ => hg ▸ ha⟩

theorem serve_step {c : RepCall} {r : RepAnswer c} {took : Bool}
    (hin : OneMode w.groups ∧ w.Apart) (hi : GroupIssue symID i w c)
    (h : w.serve i took c r = some w') :
    (OneMode w'.groups ∧ w'.Apart) ∧ ∀ k, k ≠ i → GroupRely symID k w w' := by
  have hac := serve_act h
  have ha := hac.apart hin.2
  by_cases hgr : w'.groups = w.groups
  · exact ⟨⟨hgr ▸ hin.1, ha⟩, fun k hk => hac.rely hk hgr⟩
  · cases hac with
    | create sym storageGroupID srpID serviceLevel thick limits =>
      obtain ⟨g, hg, rfl, hf⟩ := hi
      obtain ⟨ho, hr⟩ := create_step hin hg hf
      exact ⟨⟨ho, ha⟩, hr⟩
    | none => exact absurd rfl hgr
    | lock => exact absurd rfl hgr
    | refuse => exact absurd rfl hgr
    | unlock => exact absurd rfl hgr

theorem groupThreads_meets (others : List String) (hg : OneMode groups) :
    Threads.Meets (groupContract (ι := ι) symID) (groupThreads symID groups others)
      StartsApart where
  init i := ⟨hg, fun j k a ha => by cases ha⟩
  start s i g w hap hs hw := by
    cases hw
    have hin := (hs i).1
    refine ⟨fun _ => ⟨hin.1, ?_⟩, fun k hk c _ => ⟨?_, fun _ h => h, fun _ _ _ ha _ => ha⟩, ?_⟩
    · intro j k a ha b hb hn
      by_cases hj : j = i <;> by_cases hk : k = i
      · subst hj hk
        simp only [update_self, mem_def, some.injEq] at ha hb
        rw [← ha, ← hb]
      · subst hj
        simp only [update_self, mem_def, some.injEq] at ha
        simp only [update_of_ne hk] at hb
        subst ha
        exact (hap k b hb hn.symm).symm
      · subst hk
        simp only [update_self, mem_def, some.injEq] at hb
        simp only [update_of_ne hj] at ha
        subst hb
        exact hap j a ha hn
      · simp only [update_of_ne hj] at ha
        simp only [update_of_ne hk] at hb
        exact hin.2 j k a ha b hb hn
    · exact update_of_ne (fun h => hk (congrArg some h)) ..
    · exact (getOrCreateProtectedStorageGroup_safe (update_self ..)).bind fun _ _ _ => trivial
  reply s i c r took w _ hs hc hw := by
    have hin := (hs i).1
    have hi := (hs i).2.issue hin hc
    obtain ⟨hin', hre⟩ := serve_step hin hi hw
    exact ⟨fun _ => hin', fun k hk c _ => hre k (fun h => hk (congrArg some h)), took, hw⟩
  env s e w _ hs hw := by
    obtain ⟨hsu, hl, hr⟩ := change_eq hw
    refine ⟨fun i => ⟨(hs i).1.1.mono hsu, ?_⟩, fun k _ c _ => ⟨congrFun hr k, ?_, ?_⟩⟩
    · intro j k a ha b hb hn
      rw [hr] at ha hb
      exact (hs i).1.2 j k a ha b hb hn
    · intro handle hh
      rwa [hl]
    · exact fun _ _ _ ha _ => hsu ha

end

/-- **One mode for an RDF group**, and in ASYNC mode one group, if no two calls for different
storage groups of it are under way at once. -/
theorem oneMode_of_apart {ι : Type} [DecidableEq ι] [Inhabited ι] (symID : String)
    (others : List String) (hg : OneMode groups) {events : List (GroupEvent ι)} {s : GroupPool ι}
    (ha : (groupThreads symID groups others).machine.Along StartsApart
      (groupThreads symID groups others).machine.init events)
    (hr : (groupThreads symID groups others).machine.run
      (groupThreads symID groups others).machine.init events = some s) : OneMode s.world.groups :=
  ((groupThreads_meets others hg).run_sound ha hr default).1.1

namespace TwoNamespaces

/-- The group of a namespace that replicates over RDF group 13 in ASYNC mode. -/
def first : ProtectionGroup := ⟨"billing", "13", .async⟩

def second : ProtectionGroup := ⟨"orders", "13", .async⟩

def threads : Threads (Fin 2) RepCall ProtectionGroup GroupArray.Change Bool
    (GroupArray (Fin 2)) RepAnswer :=
  groupThreads "000001" [] []

def locked (i : Fin 2) (g : ProtectionGroup) : List (GroupEvent (Fin 2)) :=
  [.start i g, .reply i (.requestLock (g.id ++ "000001")) (.ok 1) false,
    .reply i (.getProtectedStorageGroup "000001" g.id) (.error ⟨cannotBeFound, false⟩) false]

def listed (i : Fin 2) (ids : List String) : List (GroupEvent (Fin 2)) :=
  [.reply i (.getStorageGroupIDList "000001") (.ok ids) false]

def created (i : Fin 2) (g : ProtectionGroup) : List (GroupEvent (Fin 2)) :=
  [.reply i (.createStorageGroup "000001" g.id "None" "" false none) (.ok ()) false]

def released (i : Fin 2) (g : ProtectionGroup) : List (GroupEvent (Fin 2)) :=
  [.reply i (.releaseLock (g.id ++ "000001") 1) () false]

def inTurn : List (GroupEvent (Fin 2)) :=
  locked 0 first ++ listed 0 [] ++ created 0 first ++ released 0 first ++
    locked 1 second ++ listed 1 [first.id] ++ released 1 second

def together : List (GroupEvent (Fin 2)) :=
  locked 0 first ++ locked 1 second ++ listed 0 [] ++ listed 1 [] ++
    created 0 first ++ created 1 second

def groupsAfter (events : List (GroupEvent (Fin 2))) : Option (List ProtectionGroup) :=
  (threads.machine.run threads.machine.init events).map (·.world.groups)

theorem inTurn_oneMode : ∃ s, threads.machine.run threads.machine.init inTurn = some s ∧
    s.world.groups = [first] ∧ OneMode s.world.groups := by
  have ho : groupsAfter inTurn = some [first] := by decide +kernel
  obtain ⟨s, hr, hs⟩ := map_eq_some_iff.mp ho
  have he : OneMode [] := by decide
  exact ⟨s, hr, hs, oneMode_of_apart "000001" [] he (by decide +kernel) hr⟩

/-- RDF group 13 has two groups in ASYNC mode. -/
theorem together_twoGroups : ¬ ∀ (ι : Type) [DecidableEq ι] (symID : String)
    (groups : List ProtectionGroup) (others : List String)
    (events : List (GroupEvent ι)) (s : GroupPool ι), OneMode groups →
    (groupThreads symID groups others).machine.run
      (groupThreads symID groups others).machine.init events = some s → OneMode s.world.groups := by
  intro ha
  have ho : groupsAfter together = some [second, first] := by decide +kernel
  obtain ⟨s, hr, hs⟩ := map_eq_some_iff.mp ho
  have hon := ha (Fin 2) "000001" [] [] together s (by decide) hr
  rw [hs] at hon
  exact absurd hon (by decide)

end TwoNamespaces

end PowerMaxCsi.Service
