import PowerMaxCsi.Lib.Serial
import PowerMaxCsi.Migration.ArrayMigrate

/-!
# Migrations of several array pairs

The variables of the package are shared by the migrations of all array pairs, so a commit may put
volumes of another pair into its storage groups.  `owner` is the remote array of the request that
has made the maps last.
-/

namespace PowerMaxCsi.Migration

open Prog Function List Option Cache

structure DriverWorld where
  cache : Cache
  owner : Option String
  request : Nat → ArrayMigrateRequest
  reported : List (String × String)

namespace DriverWorld

variable (w : DriverWorld)

def report (session : MigrationSession) : DriverWorld :=
  { w with reported :=
      session.devicePairs.map (fun pair => (session.targetArray, pair.tgtVolumeName)) ++ w.reported }

def serveCache (i : Nat) (c : CacheCall) (r : CacheAnswer c) : Option DriverWorld :=
  (w.cache.serve c r).map fun cache =>
    { w with
      cache := cache
      owner := if c = .makeMaps then some (w.request i).remoteSymID else w.owner }

def serve (i : Nat) : (c : MgCall) → MgAnswer c → Option DriverWorld
  | .cache c, r => w.serveCache i c r
  | .getStorageGroupMigrationByID _ _, r =>
    match r with
    | .ok session => some (w.report session)
    | .error _ => some w
  | .createSGMigration _ remoteSymID _, r =>
    match r with
    | .ok session => if session.targetArray = remoteSymID then some (w.report session) else none
    | .error _ => some w
  | _, _ => some w

end DriverWorld

def migrateThreads (clusterPrefix : String) :
    Threads Nat MgCall ArrayMigrateRequest Empty Unit DriverWorld MgAnswer where
  init := ⟨.new, none, fun _ => ⟨[], .unknown⟩, []⟩
  program req := (arrayMigrate clusterPrefix req).bind fun _ => .ret ()
  start w i req := some { w with request := update w.request i req }
  serve w i c r _ := w.serve i c r
  env _ e := nomatch e

abbrev MgPool := Threads.Pool Nat MgCall DriverWorld MgAnswer

abbrev MgEvent := Threads.Event Nat MgCall ArrayMigrateRequest Empty Unit MgAnswer

/-- Volumes are added to a remote array only if they were reported for it. -/
def DriverWorld.Permits (w : DriverWorld) : MgCall → Prop
  | .addVolumesToStorageGroupS remoteSymID _ volumeIDs =>
    ∀ volumeID ∈ volumeIDs, (remoteSymID, volumeID) ∈ w.reported
  | _ => True

def Isolated (s : MgPool) : Prop := ∀ i c, (s.thread i).next = some c → s.world.Permits c

/-- A session that is found for a storage group migrates to the remote array of the request. -/
def DriverWorld.SessionFits (w : DriverWorld) (i : Nat) : (c : MgCall) → MgAnswer c → Prop
  | .getStorageGroupMigrationByID _ _, r => ∀ session, r = .ok session →
      session.targetArray = (w.request i).remoteSymID
  | _, _ => True

/-- Requests are served one after the other, and one for another remote array is an `MG_MIGRATE`
that makes the maps anew. -/
def PairsApart (s : MgPool) : MgEvent → Prop
  | .start _ req => (∀ i, (s.thread i).next = none) ∧
      (s.world.owner = some req.remoteSymID ∨
        req.action = .mgMigrate ∧ s.world.cache.cacheReset = false)
  | .reply i c r _ => s.world.SessionFits i c r
  | .env _ => True

namespace DriverWorld

structure Clean (w : DriverWorld) (remoteSymID : String) : Prop where
  pairs : ∀ src tgt, w.cache.nodePairs src = some tgt → (remoteSymID, tgt) ∈ w.reported
  volumes : ∀ entry ∈ w.cache.sgToRemoteVols, ∀ tgt ∈ entry.2, (remoteSymID, tgt) ∈ w.reported

def Owned (w : DriverWorld) : Prop := ∀ remoteSymID, w.owner = some remoteSymID → w.Clean remoteSymID

structure Ready (i : Nat) (remoteSymID : String) (w : DriverWorld) : Prop where
  request : (w.request i).remoteSymID = remoteSymID
  owner : w.owner = some remoteSymID
  clean : w.Clean remoteSymID

def answers (i : Nat) (w : DriverWorld) (c : MgCall) (r : MgAnswer c) (w' : DriverWorld) : Prop :=
  w.serve i c r = some w' ∧ w.SessionFits i c r

variable {i : Nat} {remoteSymID : String} {w w' : DriverWorld}

theorem Owned.withRequest (h : w.Owned) (request : Nat → ArrayMigrateRequest) :
    Owned { w with request := request } := by
  intro remoteSymID ho
  exact ⟨(h remoteSymID ho).pairs, (h remoteSymID ho).volumes⟩

theorem Ready.owned (h : w.Ready i remoteSymID) : w.Owned := by
  intro remoteSymID' ho
  obtain rfl := some.inj (h.owner.symm.trans ho)
  exact h.clean

theorem Ready.report (h : w.Ready i remoteSymID) (session : MigrationSession) :
    (w.report session).Ready i remoteSymID where
  request := h.request
  owner := h.owner
  clean := ⟨fun src tgt ht => mem_append_right _ (h.clean.pairs src tgt ht),
    fun entry he tgt ht => mem_append_right _ (h.clean.volumes entry he tgt ht)⟩

theorem mem_report {session : MigrationSession} {pair : DevicePair}
    (hp : pair ∈ session.devicePairs) :
    (session.targetArray, pair.tgtVolumeName) ∈ (w.report session).reported :=
  mem_append_left _ (mem_map_of_mem hp)

theorem Ready.storeNodePair {src tgt : String} (h : w.Ready i remoteSymID)
    (hr : (remoteSymID, tgt) ∈ w.reported) :
    Ready i remoteSymID { w with cache := { w.cache with
      nodePairs := (update w.cache.nodePairs src (some tgt)) } } where
  request := h.request
  owner := h.owner
  clean := by
    refine ⟨fun src' tgt' ht' => ?_, h.clean.volumes⟩
    by_cases hs : src' = src
    · subst hs
      obtain rfl : tgt = tgt' := by simpa using ht'
      exact hr
    · exact h.clean.pairs src' tgt' (by simpa [hs] using ht')

theorem Ready.storeSGToRemoteVols {sg : String} {remoteVolIDs : List String}
    (h : w.Ready i remoteSymID) (hr : ∀ tgt ∈ remoteVolIDs, (remoteSymID, tgt) ∈ w.reported) :
    Ready i remoteSymID { w with cache := { w.cache with
      sgToRemoteVols := ((sg, remoteVolIDs) :: w.cache.sgToRemoteVols.filter (·.1 ≠ sg)) } } where
  request := h.request
  owner := h.owner
  clean := by
    refine ⟨h.clean.pairs, fun entry he tgt ht => ?_⟩
    rcases mem_cons.mp he with rfl | he
    · exact hr tgt ht
    · exact h.clean.volumes entry (mem_filter.mp he).1 tgt ht

end DriverWorld

def CacheCall.fillsMaps : CacheCall → Bool
  | .makeMaps | .storeNodePair _ _ | .storeSGToRemoteVols _ _ => true
  | _ => false

/-- The call neither puts devices into the maps nor adds volumes to a storage group. -/
def MgCall.isPlain : MgCall → Bool
  | .cache c => !c.fillsMaps
  | .addVolumesToStorageGroupS _ _ _ => false
  | _ => true

namespace DriverWorld

variable {i : Nat} {remoteSymID : String} {w w' : DriverWorld}

theorem answers_cache {c : CacheCall} {r : CacheAnswer c} (hc : c ≠ .makeMaps)
    (ha : answers i w (.cache c) r w') :
    ∃ m, w.cache.serve c r = some m ∧ w' = { w with cache := m } := by
  obtain ⟨m, hm, rfl⟩ := map_eq_some_iff.mp ha.1
  exact ⟨m, hm, by simp [hc]⟩

theorem serve_of_not_fillsMaps {m m' : Cache} {c : CacheCall} {r : CacheAnswer c}
    (hc : c.fillsMaps = false) (hs : m.serve c r = some m') :
    m'.nodePairs = m.nodePairs ∧ m'.sgToRemoteVols = m.sgToRemoteVols := by
  cases c with
  | makeMaps | storeNodePair | storeSGToRemoteVols => cases hc
  | loadCacheReset =>
    obtain ⟨-, rfl⟩ := serve_loadCacheReset.mp hs
    exact ⟨rfl, rfl⟩
  | loadLocalSGVolumeList =>
    obtain ⟨-, rfl⟩ := serve_loadLocalSGVolumeList.mp hs
    exact ⟨rfl, rfl⟩
  | loadNodePair =>
    obtain ⟨-, rfl⟩ := serve_loadNodePair.mp hs
    exact ⟨rfl, rfl⟩
  | rangeSGToRemoteVols =>
    obtain ⟨-, rfl⟩ := serve_rangeSGToRemoteVols.mp hs
    exact ⟨rfl, rfl⟩
  | storeCacheReset | storeLocalSGVolumeList =>
    cases hs
    exact ⟨rfl, rfl⟩

theorem Ready.answers_plain {c : MgCall} {r : MgAnswer c} (h : w.Ready i remoteSymID)
    (hc : c.isPlain = true) (ha : answers i w c r w') : w'.Ready i remoteSymID := by
  cases c with
  | addVolumesToStorageGroupS => cases hc
  | cache c =>
    have hf : c.fillsMaps = false := by simpa [MgCall.isPlain] using hc
    have hne : c ≠ .makeMaps := by
      rintro rfl
      cases hf
    obtain ⟨m, hm, rfl⟩ := answers_cache hne ha
    obtain ⟨hp, hv⟩ := serve_of_not_fillsMaps hf hm
    refine ⟨h.request, h.owner, fun src tgt ht => ?_, fun entry he => ?_⟩
    · exact h.clean.pairs src tgt (hp ▸ ht)
    · exact h.clean.volumes entry (hv ▸ he)
  | getStorageGroupMigrationByID =>
    cases r with
    | error err =>
      obtain rfl := some.inj ha.1
      exact h
    | ok session =>
      obtain rfl := some.inj ha.1
      exact h.report session
  | createSGMigration symID remoteSymID' sg =>
    cases r with
    | error err =>
      obtain rfl := some.inj ha.1
      exact h
    | ok session =>
      obtain ⟨-, hw'⟩ := ite_none_right_eq_some.mp ha.1
      cases hw'
      exact h.report session
  | _ =>
    obtain rfl := some.inj ha.1
    exact h

theorem permits_of_isPlain {c : MgCall} (hc : c.isPlain = true) : w.Permits c := by
  cases c with
  | addVolumesToStorageGroupS => cases hc
  | _ => trivial

/-- At each call the maps are clean for their owner, and the call is permitted. -/
abbrev Serves {α : Type} (i : Nat) (post : DriverWorld → α → Prop) (w : DriverWorld)
    (p : MgProg α) : Prop :=
  SafeIn (answers i) (fun w c => w.Owned ∧ w.Permits c) post w p

theorem Ready.serves {α : Type} {p : MgProg α} (h : w.Ready i remoteSymID)
    (hp : Calls (fun c => c.isPlain = true) p) :
    Serves i (fun w' _ => w'.Ready i remoteSymID) w p :=
  SafeIn.of_calls h hp fun _ _ hc hw =>
    ⟨⟨hw.owned, permits_of_isPlain hc⟩, fun _ _ ha => hw.answers_plain hc ha⟩

theorem removeVolumes_plain (symID sg : String) (volumeIDs : List String) :
    Calls (fun c => c.isPlain = true) (removeVolumes symID sg volumeIDs) :=
  Calls.forEach fun _ _ => ⟨rfl, fun _ => trivial⟩

theorem emptyGroups_plain (symID : String) (sgs : List String) :
    Calls (fun c => c.isPlain = true) (emptyGroups symID sgs) := by
  induction sgs with
  | nil => trivial
  | cons sg sgs ih =>
    refine ⟨rfl, ?_⟩
    rintro (err | it)
    · trivial
    refine Calls.ite ?_ ih
    exact ⟨rfl, fun _ => (removeVolumes_plain symID sg _).bind fun _ => ih⟩

theorem ensureRemoteGroup_plain (symID remoteSymID : String) (remoteSGIDs : List String)
    (sg : String) : Calls (fun c => c.isPlain = true)
      (ensureRemoteGroup symID remoteSymID remoteSGIDs sg) := by
  refine Calls.ite trivial ⟨rfl, ?_⟩
  rintro (err | params)
  · trivial
  simp only [ret_bind]
  split
  · trivial
  · refine ⟨rfl, ?_⟩
    rintro (err | _) <;> trivial

theorem getOrCreateMigrationEnvironment_plain (localSymID remoteSymID : String) :
    Calls (fun c => c.isPlain = true)
      (getOrCreateMigrationEnvironment localSymID remoteSymID) := by
  refine ⟨rfl, ?_⟩
  rintro (err | _ | _)
  · exact ⟨rfl, fun _ => trivial⟩
  · exact ⟨rfl, fun _ => trivial⟩
  · trivial

theorem storageGroupCommit_plain (symID action : String) :
    Calls (fun c => c.isPlain = true) (storageGroupCommit symID action) := by
  have hs : ∀ ids, Calls (fun c => c.isPlain = true) (commitSessions symID action ids) := by
    intro ids
    induction ids with
    | nil => trivial
    | cons id ids ih =>
      refine ⟨rfl, ?_⟩
      rintro (err | session)
      · trivial
      refine Calls.ite ⟨rfl, ?_⟩ trivial
      rintro (err | _)
      · trivial
      · exact ih
  refine ⟨rfl, ?_⟩
  rintro (err | ids)
  · trivial
  · exact hs ids

theorem resetCache_serves (hre : (w.request i).remoteSymID = remoteSymID) (h : w.Owned)
    (hc : w.owner = some remoteSymID ∨ w.cache.cacheReset = false) :
    Serves i (fun w' _ => w'.Ready i remoteSymID) w resetCache := by
  refine ⟨⟨h, trivial⟩, ?_⟩
  rintro r w₁ ha
  obtain ⟨m, hm, rfl⟩ := answers_cache (c := .loadCacheReset) nofun ha
  obtain ⟨hr, rfl⟩ := serve_loadCacheReset.mp hm
  cases r with
  | true =>
    have ho := hc.resolve_right (by simp [← hr])
    exact ⟨hre, ho, h remoteSymID ho⟩
  | false =>
    refine ⟨⟨h, trivial⟩, ?_⟩
    rintro r w₂ ha
    have hs : w.serveCache i .makeMaps r = some w₂ := ha.1
    obtain ⟨m, hm, rfl⟩ := map_eq_some_iff.mp hs
    cases hm
    have hrea : Ready i remoteSymID { w with
        cache := { new with cacheReset := w.cache.cacheReset }
        owner := some (w.request i).remoteSymID } :=
      ⟨hre, congrArg some hre, nofun, nofun⟩
    exact hrea.serves ⟨rfl, fun _ => trivial⟩

variable {symID clusterPrefix : String} (h : w.Ready i remoteSymID)

include h

theorem getOrCreateSGMigration_serves {sg : String} :
    Serves i (fun w' r => w'.Ready i remoteSymID ∧ ∀ session, r = .ok session →
      ∀ pair ∈ session.devicePairs, (remoteSymID, pair.tgtVolumeName) ∈ w'.reported) w
      (getOrCreateSGMigration symID remoteSymID sg) := by
  refine ⟨⟨h.owned, trivial⟩, fun r w₁ ha => ?_⟩
  have h₁ : w₁.Ready i remoteSymID := h.answers_plain rfl ha
  rcases r with ⟨err, isNil⟩ | session
  · refine .ite (fun _ => ?_) fun _ => ⟨h₁, nofun⟩
    refine ⟨⟨h₁.owned, trivial⟩, fun r w₂ ha => ?_⟩
    refine ⟨h₁.answers_plain rfl ha, ?_⟩
    rintro session rfl pair hp
    obtain ⟨rfl, hw₂⟩ := ite_none_right_eq_some.mp ha.1
    cases hw₂
    exact mem_report hp
  · refine ⟨h₁, ?_⟩
    rintro session' hs pair hp
    cases hs
    obtain rfl := some.inj ha.1
    have ht : session.targetArray = remoteSymID := (ha.2 session rfl).trans h.request
    exact ht ▸ mem_report hp

theorem storeNodePairs_serves {devicePairs : List DevicePair}
    (hr : ∀ pair ∈ devicePairs, (remoteSymID, pair.tgtVolumeName) ∈ w.reported) :
    Serves i (fun w' _ => w'.Ready i remoteSymID) w (storeNodePairs devicePairs) := by
  refine (SafeIn.forEach (I := fun left w => w.Ready i remoteSymID ∧
    ∀ pair ∈ left, (remoteSymID, pair.tgtVolumeName) ∈ w.reported) ⟨h, hr⟩ ?_).mono
      fun w' _ h' => h'.1
  rintro pair left w ⟨h, hr⟩
  refine ⟨⟨h.owned, trivial⟩, fun r w' ha => ?_⟩
  obtain ⟨m, hm, rfl⟩ := answers_cache (c := .storeNodePair _ _) nofun ha
  cases hm
  refine ⟨h.storeNodePair (hr pair mem_cons_self), fun pair' hp' => ?_⟩
  exact hr pair' (mem_cons_of_mem _ hp')

theorem migrateGroups_serves {sgs : List String} :
    Serves i (fun w' _ => w'.Ready i remoteSymID) w (migrateGroups symID remoteSymID sgs) := by
  induction sgs generalizing w with
  | nil => exact h
  | cons sg sgs ih =>
    refine ⟨⟨h.owned, trivial⟩, fun r w₁ ha => ?_⟩
    have h₁ : w₁.Ready i remoteSymID := h.answers_plain rfl ha
    rcases r with err | params
    · exact h₁
    refine .ite (fun _ => ?_) fun _ => ih h₁
    refine (getOrCreateSGMigration_serves h₁).bind ?_
    rintro w₂ (err | session) ⟨h₂, hr⟩
    · exact h₂
    · exact (storeNodePairs_serves h₂ (hr session rfl)).bind fun w₃ _ h₃ => ih h₃

theorem remoteVolumes_serves {volumeIDs remoteVolIDs : List String}
    (hre : ∀ tgt ∈ remoteVolIDs, (remoteSymID, tgt) ∈ w.reported) :
    Serves i (fun w' r => w' = w ∧ ∀ tgt ∈ r, (remoteSymID, tgt) ∈ w.reported) w
      (remoteVolumes volumeIDs remoteVolIDs) := by
  have hl : ∀ volumeID r w', answers i w (.cache (.loadNodePair volumeID)) r w' →
      r = w.cache.nodePairs volumeID ∧ w' = w := by
    intro volumeID r w' ha
    obtain ⟨m, hm, rfl⟩ := answers_cache (c := .loadNodePair _) nofun ha
    obtain ⟨hr, rfl⟩ := serve_loadNodePair.mp hm
    exact ⟨hr, rfl⟩
  induction volumeIDs generalizing remoteVolIDs with
  | nil => exact ⟨rfl, hre⟩
  | cons volumeID volumeIDs ih =>
    refine ⟨⟨h.owned, trivial⟩, fun r w₁ ha => ?_⟩
    obtain ⟨hr, rfl⟩ := hl volumeID r w₁ ha
    cases r with
    | none => exact ih hre
    | some tgt =>
      refine ⟨⟨h.owned, trivial⟩, fun r' w₂ ha' => ?_⟩
      obtain ⟨rfl, rfl⟩ := hl volumeID r' w₂ ha'
      rw [← hr]
      exact ih (forall_mem_append.mpr
        ⟨hre, forall_mem_singleton.mpr (h.clean.pairs volumeID tgt hr.symm)⟩)

theorem storeRemoteVolumes_serves {sg : String} :
    Serves i (fun w' _ => w'.Ready i remoteSymID) w (storeRemoteVolumes sg) := by
  refine ⟨⟨h.owned, trivial⟩, fun r w₁ ha => ?_⟩
  have h₁ : w₁.Ready i remoteSymID := h.answers_plain rfl ha
  cases r with
  | none => exact h₁
  | some it =>
    refine ⟨⟨h₁.owned, trivial⟩, fun r w₂ ha => ?_⟩
    have h₂ : w₂.Ready i remoteSymID := h₁.answers_plain rfl ha
    cases r with
    | none => exact h₂
    | some it =>
      refine (remoteVolumes_serves h₂ (by simp)).bind ?_
      rintro w₃ remoteVolIDs ⟨rfl, hr⟩
      refine ⟨⟨h₂.owned, trivial⟩, fun r w₄ ha => ?_⟩
      obtain ⟨m, hm, rfl⟩ := answers_cache (c := .storeSGToRemoteVols _ _) nofun ha
      cases hm
      exact h₂.storeSGToRemoteVols hr

theorem makeRemoteGroups_serves {remoteSGIDs sgs : List String} :
    Serves i (fun w' _ => w'.Ready i remoteSymID) w
      (makeRemoteGroups symID remoteSymID remoteSGIDs sgs) := by
  induction sgs generalizing w with
  | nil => exact h
  | cons sg sgs ih =>
    refine (h.serves (ensureRemoteGroup_plain symID remoteSymID remoteSGIDs sg)).bind ?_
    rintro w₁ (failure | _) h₁
    · exact h₁
    refine (storeRemoteVolumes_serves h₁).bind ?_
    rintro w₂ (failure | _) h₂
    · exact h₂
    · exact ih h₂

theorem storageGroupMigration_serves :
    Serves i (fun w' _ => w'.Ready i remoteSymID) w
      (storageGroupMigration symID remoteSymID clusterPrefix) := by
  refine ⟨⟨h.owned, trivial⟩, fun r w₁ ha => ?_⟩
  have h₁ : w₁.Ready i remoteSymID := h.answers_plain rfl ha
  rcases r with err | sgs
  · exact h₁
  refine (h₁.serves (emptyGroups_plain symID sgs)).bind ?_
  rintro w₂ (failure | _) h₂
  · exact h₂
  refine ⟨⟨h₂.owned, trivial⟩, fun r w₃ ha => ?_⟩
  have h₃ : w₃.Ready i remoteSymID := h₂.answers_plain rfl ha
  rcases r with err | noSrp
  · exact h₃
  refine (migrateGroups_serves h₃).bind ?_
  rintro w₄ (failure | _) h₄
  · exact h₄
  refine ⟨⟨h₄.owned, trivial⟩, fun r w₅ ha => ?_⟩
  have h₅ : w₅.Ready i remoteSymID := h₄.answers_plain rfl ha
  rcases r with err | remoteSGIDs
  · exact h₅
  · exact makeRemoteGroups_serves h₅

theorem addVolumes_serves {entries : List (String × List String)}
    (hr : ∀ entry ∈ entries, ∀ tgt ∈ entry.2, (remoteSymID, tgt) ∈ w.reported) :
    Serves i (fun w' _ => w'.Ready i remoteSymID) w (addVolumes remoteSymID entries) := by
  induction entries with
  | nil => exact h
  | cons entry entries ih =>
    have hre := ih fun entry' he' => hr entry' (mem_cons_of_mem _ he')
    refine .ite (fun _ => hre) fun _ => ?_
    refine ⟨⟨h.owned, hr entry mem_cons_self⟩, fun r w₁ ha => ?_⟩
    obtain rfl := some.inj ha.1
    rcases r with err | _
    · exact h
    · exact hre

theorem addVolumesToRemoteSG_serves :
    Serves i (fun w' _ => w'.Ready i remoteSymID) w (addVolumesToRemoteSG remoteSymID) := by
  refine ⟨⟨h.owned, trivial⟩, fun entries w₁ ha => ?_⟩
  obtain ⟨m, hm, rfl⟩ := answers_cache (c := .rangeSGToRemoteVols) nofun ha
  obtain ⟨hp, rfl⟩ := serve_rangeSGToRemoteVols.mp hm
  refine .ite (fun _ => h) fun _ => ?_
  refine (addVolumes_serves h fun entry he =>
    h.clean.volumes entry (hp.mem_iff.mp he)).bind ?_
  rintro w₂ (failure | _) h₂
  · exact h₂
  · exact h₂

theorem mgCommit_serves {localSymID : String} :
    Serves i (fun w' _ => w'.Owned) w (mgCommit localSymID remoteSymID) := by
  refine (h.serves (storageGroupCommit_plain localSymID migrationActionCommit)).bind ?_
  rintro w₁ (failure | _) h₁
  · exact h₁.owned
  refine (addVolumesToRemoteSG_serves h₁).bind ?_
  rintro w₂ (failure | added) h₂
  · exact h₂.owned
  refine ⟨⟨h₂.owned, trivial⟩, fun r w₃ ha => ?_⟩
  have h₃ : w₃.Ready i remoteSymID := h₂.answers_plain rfl ha
  rcases r with err | _
  · exact h₃.owned
  refine ⟨⟨h₃.owned, trivial⟩, fun r w₄ ha => ?_⟩
  exact (h₃.answers_plain rfl ha).owned

omit h

theorem mgMigrate_serves {localSymID : String}
    (hr : (w.request i).remoteSymID = remoteSymID) (h : w.Owned)
    (hc : w.owner = some remoteSymID ∨ w.cache.cacheReset = false) :
    Serves i (fun w' _ => w'.Owned) w (mgMigrate localSymID remoteSymID clusterPrefix) := by
  refine (resetCache_serves hr h hc).bind fun w₁ _ h₁ => ?_
  refine (h₁.serves (getOrCreateMigrationEnvironment_plain localSymID remoteSymID)).bind ?_
  rintro w₂ (err | _) h₂
  · exact h₂.owned
  refine (storageGroupMigration_serves h₂).bind ?_
  rintro w₃ (failure | _) h₃
  · exact h₃.owned
  · exact h₃.owned

/-- **A request** adds only volumes that were reported for its remote array, and leaves the maps
clean for their owner. -/
theorem arrayMigrate_serves {req : ArrayMigrateRequest} (hre : w.request i = req) (h : w.Owned)
    (hc : w.owner = some req.remoteSymID ∨ req.action = .mgMigrate ∧ w.cache.cacheReset = false) :
    Serves i (fun w' _ => w'.Owned) w (arrayMigrate clusterPrefix req) := by
  unfold arrayMigrate
  split
  · exact h
  split
  · exact h
  refine ⟨⟨h, trivial⟩, fun r w₁ han => ?_⟩
  obtain rfl := some.inj han.1
  rcases r with err | _
  · exact h
  have hr : (w.request i).remoteSymID = req.remoteSymID := congrArg _ hre
  split
  · exact mgMigrate_serves hr h (hc.imp_right And.right)
  case h_2 ha =>
    have ho := hc.resolve_right fun hm => by
      cases ha.symm.trans hm.1
    exact mgCommit_serves ⟨hr, ho, h _ ho⟩
  · exact h

end DriverWorld

theorem migrateThreads_serial (clusterPrefix : String) :
    Threads.Serial (migrateThreads clusterPrefix) PairsApart DriverWorld.answers DriverWorld.Owned
      DriverWorld.Permits where
  init := nofun
  idle := fun _ _ _ hG => hG.1
  start := by
    intro s i req w hG hi hst
    cases hst
    have hr : update s.world.request i req i = req := update_self ..
    have hs : DriverWorld.Serves i (fun w' _ => w'.Owned)
        { s.world with request := update s.world.request i req }
        (arrayMigrate clusterPrefix req) :=
      DriverWorld.arrayMigrate_serves hr (hi.withRequest _) hG.2
    exact hs.bind fun _ _ hw => hw
  reply := fun _ _ _ _ _ _ hG hse => ⟨hse, hG⟩
  env := fun _ e => nomatch e

/-- **Pairs apart.**  If requests are serial, one for another remote array makes the maps anew, and
sessions migrate to that of the request, volumes are added only where they were reported. -/
theorem isolated_of_pairsApart (clusterPrefix : String) (es : List MgEvent) (t : MgPool)
    (hr : (migrateThreads clusterPrefix).machine.run (migrateThreads clusterPrefix).machine.init es =
      some t) (hG : (migrateThreads clusterPrefix).machine.Along PairsApart
      (migrateThreads clusterPrefix).machine.init es) : Isolated t := by
  intro i c hn
  have hk := ((migrateThreads_serial clusterPrefix).run_serving hG hr).keeps i
  exact (SafeIn.issue_of_next hk hn).2

namespace TwoPairs

def request (localSymID remoteSymID : String) (action : ActionType) : ArrayMigrateRequest :=
  ⟨[("SYMID", localSymID), ("RemoteSYMID", remoteSymID)], action⟩

def answered (i : Nat) (c : MgCall) (r : MgAnswer c) : MgEvent := .reply i c r ()

/-- Array 000120000548 is migrated to 000120000549: the storage group is emptied. -/
def emptied : List MgEvent :=
  [.start 0 (request "000120000548" "000120000549" .mgMigrate),
    answered 0 (.getPowerMaxClient "000120000548") (.ok ()),
    answered 0 (.cache .loadCacheReset) false,
    answered 0 (.cache .makeMaps) (),
    answered 0 (.cache (.storeCacheReset true)) (),
    answered 0 (.getMigrationEnvironment "000120000548" "000120000549") (.ok true),
    answered 0 (.getStorageGroupIDList "000120000548" "csi-ABC") (.ok ["csi-ABC-SG"]),
    answered 0 (.getVolumesInStorageGroupIterator "000120000548" "csi-ABC-SG") (.ok ⟨1, ["00011"]⟩),
    answered 0 (.cache (.storeLocalSGVolumeList "csi-ABC-SG" ⟨1, ["00011"]⟩)) (),
    answered 0 (.removeVolumesFromStorageGroup "000120000548" "csi-ABC-SG" "00011") (.ok ()),
    answered 0 (.getStorageGroupIDList "000120000548" "csi-no-srp-sg-ABC")
      (.ok ["csi-no-srp-sg-ABC-node1-FC"]),
    answered 0 (.getStorageGroup "000120000548" "csi-no-srp-sg-ABC-node1-FC")
      (.ok ⟨1, "SRP_1", "Diamond", none⟩)]

def reported : MgEvent :=
  answered 0 (.getStorageGroupMigrationByID "000120000548" "csi-no-srp-sg-ABC-node1-FC")
    (.ok ⟨"000120000549", "csi-no-srp-sg-ABC-node1-FC", "Synchronized", [⟨"00011", "00031"⟩]⟩)

def remembered : List MgEvent :=
  [answered 0 (.cache (.storeNodePair "00011" "00031")) (),
    answered 0 (.getStorageGroupIDList "000120000549" "csi-ABC") (.ok ["csi-ABC-SG"]),
    answered 0 (.cache (.loadLocalSGVolumeList "csi-ABC-SG")) (some ⟨1, ["00011"]⟩),
    answered 0 (.cache (.loadLocalSGVolumeList "csi-ABC-SG")) (some ⟨1, ["00011"]⟩),
    answered 0 (.cache (.loadNodePair "00011")) (some "00031"),
    answered 0 (.cache (.loadNodePair "00011")) (some "00031"),
    answered 0 (.cache (.storeSGToRemoteVols "csi-ABC-SG" ["00031"])) ()]

def migrated : List MgEvent := emptied ++ reported :: remembered

def committed (localSymID remoteSymID : String) : List MgEvent :=
  [.start 0 (request localSymID remoteSymID .mgCommit),
    answered 0 (.getPowerMaxClient localSymID) (.ok ()),
    answered 0 (.getStorageGroupMigration localSymID) (.ok []),
    answered 0 (.cache .rangeSGToRemoteVols) [("csi-ABC-SG", ["00031"])]]

abbrev threads := migrateThreads "ABC"

theorem migrated_pairsApart : threads.machine.Along PairsApart threads.machine.init migrated := by
  have hp : ∀ e ∈ emptied.tail, ∀ s, PairsApart s e := by
    simp [emptied, answered, PairsApart, DriverWorld.SessionFits]
  have hp' : ∀ e ∈ remembered, ∀ s, PairsApart s e := by
    simp [remembered, answered, PairsApart, DriverWorld.SessionFits]
  refine threads.machine.along_append.mpr ⟨?_, fun s hs => ⟨?_, fun s' _ => ?_⟩⟩
  · exact ⟨⟨fun _ => rfl, .inr ⟨rfl, rfl⟩⟩, fun s _ => threads.machine.along_of_forall hp s⟩
  · have ho : ((threads.machine.run threads.machine.init emptied).map fun t =>
        (t.world.request 0).remoteSymID) = some "000120000549" := by decide
    rw [hs] at ho
    rintro session hse
    cases hse
    exact (some.inj ho).symm
  · exact threads.machine.along_of_forall hp' s'

theorem committed_pairsApart : threads.machine.Along PairsApart threads.machine.init
    (migrated ++ committed "000120000548" "000120000549") := by
  have hp : ∀ e ∈ (committed "000120000548" "000120000549").tail, ∀ s, PairsApart s e := by
    simp [committed, answered, PairsApart, DriverWorld.SessionFits]
  have ho : ((threads.machine.run threads.machine.init migrated).map fun t =>
      ((t.thread 0).next, t.world.owner)) = some (none, some "000120000549") := by decide
  refine threads.machine.along_append.mpr ⟨migrated_pairsApart, fun s hs => ?_⟩
  rw [hs] at ho
  simp only [map_some, some.injEq, Prod.mk.injEq] at ho
  refine ⟨⟨fun i => ?_, .inl ho.2⟩, fun s' _ => threads.machine.along_of_forall hp s'⟩
  by_cases hi : i = 0
  · exact hi ▸ ho.1
  · have hot : ∀ e ∈ migrated, e.thread ≠ some i := by
      simp [migrated, emptied, reported, remembered, answered, Threads.Event.thread, Ne.symm hi]
    rw [Threads.run_thread_eq hot hs]
    rfl

/-- The migration is committed: the volume is added to a storage group of 000120000549. -/
theorem own_volume_added : ∃ t, threads.machine.run threads.machine.init
    (migrated ++ committed "000120000548" "000120000549") = some t ∧
      (t.thread 0).next =
        some (.addVolumesToStorageGroupS "000120000549" "csi-ABC-SG" ["00031"]) ∧ Isolated t := by
  have ho : ((threads.machine.run threads.machine.init
      (migrated ++ committed "000120000548" "000120000549")).map fun t => (t.thread 0).next) =
      some (some (.addVolumesToStorageGroupS "000120000549" "csi-ABC-SG" ["00031"])) := by decide
  obtain ⟨t, hr, hn⟩ := map_eq_some_iff.mp ho
  exact ⟨t, hr, hn, isolated_of_pairsApart "ABC" _ t hr committed_pairsApart⟩

/-- The migration of 000197900046 is committed: a volume that was reported for 000120000549 is added
on 000197900047. -/
theorem foreign_volume_added : ¬ ∀ clusterPrefix es t,
    (migrateThreads clusterPrefix).machine.run (migrateThreads clusterPrefix).machine.init es =
      some t → Isolated t := by
  intro ha
  have ho : ((threads.machine.run threads.machine.init
      (migrated ++ committed "000197900046" "000197900047")).map fun t =>
        ((t.thread 0).next, t.world.reported)) =
      some (some (.addVolumesToStorageGroupS "000197900047" "csi-ABC-SG" ["00031"]),
        [("000120000549", "00031")]) := by decide
  obtain ⟨t, hr, ht⟩ := map_eq_some_iff.mp ho
  simp only [Prod.mk.injEq] at ht
  have hp := ha "ABC" _ t hr 0 _ ht.1 "00031" mem_cons_self
  rw [ht.2] at hp
  exact absurd hp (by decide)

end TwoPairs

end PowerMaxCsi.Migration
