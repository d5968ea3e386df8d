import PowerMaxCsi.Addons.Replication
import PowerMaxCsi.Lib.Threads

/-!
# Requests that act on a state read before the lock

`PromoteVolume`, `DemoteVolume` and `ResyncVolume` read the SRDF state, wait for the lock, and
decide by what they have read (`SRDFRequest.decision`).  That is right at the time of the lock if no
action is carried out on the group meanwhile.
-/

namespace PowerMaxCsi.Addons

open Service Prog Function List Option Bool

structure SRDFAction where
  action : String
  (force exemptConsistency bias : Bool)
deriving DecidableEq, Repr

inductive SRDFRequest where
  | promote (source : Option ReplicationSource) (force : Bool)
  | demote (source : Option ReplicationSource) (force : Bool)
  | resync (source : Option ReplicationSource) (force : Bool)
deriving DecidableEq, Repr

namespace SRDFRequest

/-- The handler of a request, whatever it answers. -/
def run : SRDFRequest → AddonsProg Unit
  | promote source force => (promoteVolume source force).bind fun _ => ret ()
  | demote source force => (demoteVolume source force).bind fun _ => ret ()
  | resync source force => (resyncVolume source force).bind fun _ => ret ()

def decision (req : SRDFRequest) (sgRDF : SGRDFInfo) : List SRDFAction :=
  let personality := csiAddonsSRDFPersonality sgRDF
  if personality.mixedPersonalities then []
  else
    match req with
    | promote _ force =>
      if personality.mixedStates ∧ ¬ force then []
      else if personality.isR1 then
        if personality.state = failedOver then [⟨"Failback", force, true, false⟩] else []
      else if personality.state = failedOver then []
      else
        -- a planned failover also swaps the sides
        ⟨"Failover", force, true, false⟩ ::
          if force then [] else [⟨"Swap", false, false, false⟩]
    | demote _ force =>
      if personality.mixedStates ∨ ¬ personality.isR1 ∨ personality.state = failedOver then []
      else [⟨"Failover", force, true, false⟩]
    | resync _ force =>
      (resyncAction personality.state).toList.map fun action =>
        ⟨action, force, action = "Resume", false⟩

def Selects (req : SRDFRequest) (id : VolumeGroupID) (sgRDF : SGRDFInfo) : AddonsCall → Prop
  | .executeReplicationActionOnSG symID action storageGroupID rdfGrpNo force exemptConsistency bias =>
    ⟨symID, storageGroupID, rdfGrpNo⟩ = id ∧
      ⟨action, force, exemptConsistency, bias⟩ ∈ req.decision sgRDF
  | _ => False

variable {source : Option ReplicationSource} {force : Bool} {id : VolumeGroupID} {sgRDF : SGRDFInfo}

theorem act_calls {req : SRDFRequest} {action : String} {force exemptConsistency : Bool}
    {failed : String → String}
    (h : ⟨action, force, exemptConsistency, false⟩ ∈ req.decision sgRDF) :
    Calls (req.Selects id sgRDF) (act id action force exemptConsistency failed) := by
  refine ⟨⟨rfl, h⟩, ?_⟩
  rintro (err | ok) <;> trivial

theorem promoteGroup_calls :
    Calls ((promote source force).Selects id sgRDF) (promoteGroup force id sgRDF) := by
  unfold promoteGroup
  dsimp only
  split
  · trivial
  split
  · trivial
  split
  · trivial
  split
  · trivial
  case isFalse hp hst hso ht =>
    split
    case isTrue hf =>
      refine act_calls ?_
      simp only [decision, hp, hst, hf, if_true, if_false, false_eq_true, mem_singleton]
    case isFalse hf =>
      have hR2 : (csiAddonsSRDFPersonality sgRDF).isR1 = false := by
        by_contra hR1
        rw [not_eq_false] at hR1
        exact hso ⟨hR1, fun hs => hf ⟨hR1, hs⟩⟩
      have hs : (csiAddonsSRDFPersonality sgRDF).state ≠ failedOver :=
        fun hs => ht ⟨by rw [hR2]; exact false_ne_true, hs⟩
      have hd : (promote source force).decision sgRDF =
          ⟨"Failover", force, true, false⟩ ::
            if force then [] else [⟨"Swap", false, false, false⟩] := by
        simp only [decision, hp, hst, hR2, hs, if_false, false_eq_true]
      refine (act_calls (hd ▸ mem_cons_self)).bind ?_
      rintro (failure | ok)
      · trivial
      dsimp only
      split
      case isTrue hpl =>
        refine ⟨⟨rfl, ?_⟩, fun _ => trivial⟩
        rw [hd, if_neg hpl]
        exact mem_cons_of_mem _ mem_cons_self
      case isFalse => trivial

theorem demoteGroup_calls :
    Calls ((demote source force).Selects id sgRDF) (demoteGroup force id sgRDF) := by
  unfold demoteGroup
  dsimp only
  split
  · trivial
  split
  · trivial
  split
  · trivial
  case isFalse hp hs hso =>
    refine act_calls ?_
    have hn : ¬ ((csiAddonsSRDFPersonality sgRDF).mixedStates = true ∨
        ¬ (csiAddonsSRDFPersonality sgRDF).isR1 = true ∨
        (csiAddonsSRDFPersonality sgRDF).state = failedOver) := by
      rintro (hm | hr)
      · exact hs hm
      · exact hso hr
    simp only [decision, hp, hn, if_false, false_eq_true, mem_singleton]

theorem resyncGroup_calls :
    Calls ((resync source force).Selects id sgRDF) (resyncGroup force id sgRDF) := by
  unfold resyncGroup
  dsimp only
  split
  · trivial
  split
  · trivial
  split
  · trivial
  case isFalse hp _ _ =>
    cases ha : resyncAction (csiAddonsSRDFPersonality sgRDF).state with
    | none => trivial
    | some action =>
      refine (act_calls ?_).bind ?_
      · simp [decision, hp, ha]
      · rintro (failure | ok) <;> trivial

end SRDFRequest

structure SRDFWorld where
  rdfInfo : VolumeGroupID → Option SGRDFInfo
  holder : String → Option Nat
  request : Nat → Option SRDFRequest
  atLock : Nat → Option (VolumeGroupID → Option SGRDFInfo)

namespace SRDFWorld

def lock (w : SRDFWorld) (i : Nat) (handle : String) : SRDFWorld :=
  { w with
    holder := update w.holder handle (some i)
    atLock := update w.atLock i (some w.rdfInfo) }

def release (w : SRDFWorld) (handle : String) : SRDFWorld :=
  { w with holder := update w.holder handle none }

def acted (w : SRDFWorld) (symID sgName : String) (rdfInfo : VolumeGroupID → Option SGRDFInfo) :
    SRDFWorld :=
  { w with rdfInfo := fun id =>
      if id.symID = symID ∧ id.sgName = sgName then rdfInfo id else w.rdfInfo id }

def serve (w : SRDFWorld) (i : Nat) : (c : AddonsCall) → AddonsAnswer c →
    (VolumeGroupID → Option SGRDFInfo) → Option SRDFWorld
  | .getPowerMaxClient _, _, _ => some w
  | .getStorageGroupRDFInfo _ _ _, .error _, _ => some w
  | .getStorageGroupRDFInfo symID storageGroupID rdfGrpNo, .ok sgRDF, _ =>
    if w.rdfInfo ⟨symID, storageGroupID, rdfGrpNo⟩ = sgRDF then some w else none
  | .rep (.requestLock _), .error _, _ => some w
  | .rep (.requestLock handle), .ok _, _ =>
    if w.holder handle = none then some (w.lock i handle) else none
  | .rep (.releaseLock handle _), _, _ =>
    if w.holder handle = some i then some (w.release handle) else none
  | .executeReplicationActionOnSG symID _ storageGroupID _ _ _ _, _, rdfInfo =>
    some (w.acted symID storageGroupID rdfInfo)
  | _, _, _ => none

/-- The action is one that the decision selects for the state that the array had when the request
acquired the lock, which it still holds. -/
def Decided (w : SRDFWorld) (i : Nat) : AddonsCall → Prop
  | .executeReplicationActionOnSG symID action storageGroupID rdfGrpNo force exemptConsistency bias =>
    w.holder (csiAddonsSGLockHandle ⟨symID, storageGroupID, rdfGrpNo⟩) = some i ∧
      ∃ req rdfInfo sgRDF, w.request i = some req ∧ w.atLock i = some rdfInfo ∧
        rdfInfo ⟨symID, storageGroupID, rdfGrpNo⟩ = some sgRDF ∧
        ⟨action, force, exemptConsistency, bias⟩ ∈ req.decision sgRDF
  | _ => True

end SRDFWorld

/-- The requests; the state that the array goes over to by itself is the action. -/
def srdfThreads (rdfInfo : VolumeGroupID → Option SGRDFInfo) :
    Threads Nat AddonsCall SRDFRequest (VolumeGroupID → Option SGRDFInfo)
      (VolumeGroupID → Option SGRDFInfo) SRDFWorld AddonsAnswer where
  init := ⟨rdfInfo, fun _ => none, fun _ => none, fun _ => none⟩
  program := SRDFRequest.run
  start w i req := some { w with
    request := update w.request i (some req)
    atLock := update w.atLock i none }
  serve w i c r rdfInfo := w.serve i c r rdfInfo
  env w rdfInfo := some { w with rdfInfo := rdfInfo }

abbrev SRDFPool := Threads.Pool Nat AddonsCall SRDFWorld AddonsAnswer

abbrev SRDFEvent :=
  Threads.Event Nat AddonsCall SRDFRequest (VolumeGroupID → Option SGRDFInfo)
    (VolumeGroupID → Option SGRDFInfo) AddonsAnswer

def BetweenCalls (s : SRDFPool) : SRDFEvent → Prop
  | .env _ => ∀ i, (s.thread i).next = none
  | _ => True

/-- Every action is decided by the state at the time of the lock. -/
def DecidedAtLock (s : SRDFPool) : SRDFEvent → Prop
  | .reply i c _ _ => (s.thread i).next = some c → s.world.Decided i c
  | _ => True

/-- No action is carried out on a storage group while another request waits for its lock. -/
def Undisturbed (s : SRDFPool) : SRDFEvent → Prop
  | .reply i (.executeReplicationActionOnSG symID _ storageGroupID rdfGrpNo _ _ _) _ _ =>
    ∀ j, j ≠ i → (s.thread j).next ≠
      some (.rep (.requestLock (csiAddonsSGLockHandle ⟨symID, storageGroupID, rdfGrpNo⟩)))
  | _ => True

/-- While a request waits for the lock of a group, the state of the group stays as it is. -/
structure SRDFRely (i : Nat) (c : AddonsCall) (w w' : SRDFWorld) : Prop where
  request : w'.request i = w.request i
  atLock : w'.atLock i = w.atLock i
  holder : ∀ handle, w.holder handle = some i → w'.holder handle = some i
  rdfInfo : ∀ id, c = .rep (.requestLock (csiAddonsSGLockHandle id)) → w'.rdfInfo id = w.rdfInfo id

def srdfContract (i : Nat) : Contract AddonsCall AddonsAnswer SRDFWorld where
  inv _ := True
  rely := SRDFRely i
  answers w c r w' := ∃ rdfInfo, w.serve i c r rdfInfo = some w'
  issue w c := w.Decided i c
  rely_refl _ _ := ⟨rfl, rfl, fun _ => id, fun _ _ => rfl⟩
  rely_trans _ _ _ _ h h' :=
    ⟨h'.request.trans h.request, h'.atLock.trans h.atLock,
      fun handle hh => h'.holder handle (h.holder handle hh),
      fun id hc => (h'.rdfInfo id hc).trans (h.rdfInfo id hc)⟩

namespace SRDFWorld

variable {w w' : SRDFWorld} {i : Nat} {c : AddonsCall}
  {r : AddonsAnswer c} {rdfInfo : VolumeGroupID → Option SGRDFInfo} (h : w.serve i c r rdfInfo = some w')

include h

theorem serve_cases :
    w' = w ∨
      (∃ handle, c = .rep (.requestLock handle) ∧ w.holder handle = none ∧ w' = w.lock i handle) ∨
      (∃ handle, w.holder handle = some i ∧ w' = w.release handle) ∨
      ∃ symID action storageGroupID rdfGrpNo force exemptConsistency bias,
        c = .executeReplicationActionOnSG symID action storageGroupID rdfGrpNo force
          exemptConsistency bias ∧ w' = w.acted symID storageGroupID rdfInfo := by
  unfold serve at h
  split at h
  case h_1 | h_2 | h_4 => exact .inl (some.inj h).symm
  case h_3 =>
    split at h
    · exact .inl (some.inj h).symm
    · cases h
  case h_5 handle _ =>
    split at h
    case isTrue hf => exact .inr (.inl ⟨handle, rfl, hf, (some.inj h).symm⟩)
    case isFalse => cases h
  case h_6 handle _ _ =>
    split at h
    case isTrue hh => exact .inr (.inr (.inl ⟨handle, hh, (some.inj h).symm⟩))
    case isFalse => cases h
  case h_7 =>
    exact .inr (.inr (.inr ⟨_, _, _, _, _, _, _, rfl, (some.inj h).symm⟩))
  case h_8 => cases h

/-- A call does what the others rely on, unless it is an action on the group whose lock they
await. -/
theorem serve_rely {j : Nat} (hj : j ≠ i) {c' : AddonsCall}
    (hw : ∀ symID action storageGroupID rdfGrpNo force exemptConsistency bias,
      c = .executeReplicationActionOnSG symID action storageGroupID rdfGrpNo force
        exemptConsistency bias →
      c' ≠ .rep (.requestLock (csiAddonsSGLockHandle ⟨symID, storageGroupID, rdfGrpNo⟩))) :
    SRDFRely j c' w w' := by
  obtain rfl | ⟨handle, -, hf, rfl⟩ | ⟨handle, hhe, rfl⟩ |
    ⟨symID, action, storageGroupID, rdfGrpNo, force, exemptConsistency, bias, hc, rfl⟩ :=
    serve_cases h
  · exact ⟨rfl, rfl, fun _ => id, fun _ _ => rfl⟩
  · refine ⟨rfl, update_of_ne hj _ _, fun handle' hh => ?_, fun _ _ => rfl⟩
    refine (update_of_ne ?_ _ _).trans hh
    rintro rfl
    rw [hf] at hh
    cases hh
  · refine ⟨rfl, rfl, fun handle' hh => ?_, fun _ _ => rfl⟩
    refine (update_of_ne ?_ _ _).trans hh
    rintro rfl
    exact hj (some.inj (hh.symm.trans hhe))
  · refine ⟨rfl, rfl, fun _ => id, fun id hc' => ?_⟩
    refine if_neg ?_
    rintro ⟨rfl, rfl⟩
    exact hw _ _ _ _ _ _ _ hc hc'

omit h

end SRDFWorld

section

variable {i : Nat} {w w' : SRDFWorld} {req : SRDFRequest} {id : VolumeGroupID} {sgRDF : SGRDFInfo}

structure Current (i : Nat) (req : SRDFRequest) (id : VolumeGroupID) (sgRDF : SGRDFInfo)
    (w : SRDFWorld) : Prop where
  request : w.request i = some req
  holder : w.holder (csiAddonsSGLockHandle id) = some i
  atLock : ∃ rdfInfo, w.atLock i = some rdfInfo ∧ rdfInfo id = some sgRDF

theorem Current.rely {c : AddonsCall} (h : Current i req id sgRDF w) (hr : SRDFRely i c w w') :
    Current i req id sgRDF w' where
  request := hr.request.trans h.request
  holder := hr.holder _ h.holder
  atLock := by
    rw [hr.atLock]
    exact h.atLock

theorem Current.decided {c : AddonsCall} (h : Current i req id sgRDF w)
    (hc : req.Selects id sgRDF c) : w.Decided i c := by
  cases c
  case executeReplicationActionOnSG =>
    obtain ⟨rfl, hmem⟩ := hc
    obtain ⟨rdfInfo, ha, hi⟩ := h.atLock
    exact ⟨h.holder, req, rdfInfo, sgRDF, h.request, ha, hi, hmem⟩
  all_goals exact hc.elim

variable {α : Type}

theorem body_safe {body : AddonsProg α} (hw : Current i req id sgRDF w)
    (hb : Calls (req.Selects id sgRDF) body) :
    (srdfContract i).Safe (fun w _ => Current i req id sgRDF w) w body := by
  refine Contract.Safe.of_calls hw hb fun c w₀ w₁ hc hw₀ hr _ => ?_
  have hw₁ := hw₀.rely hr
  refine ⟨hw₁.decided hc, ?_⟩
  rintro r w₂ ⟨rdfInfo, hs⟩
  cases c
  case executeReplicationActionOnSG =>
    cases hs
    exact ⟨hw₁.request, hw₁.holder, hw₁.atLock⟩
  all_goals exact hc.elim

variable (hr : w.request i = some req)

include hr

theorem withSGLock_safe {body : AddonsProg (Except Failure α)} (hrea : w.rdfInfo id = some sgRDF)
    (hb : Calls (req.Selects id sgRDF) body) :
    (srdfContract i).Safe (fun _ _ => True) w (withSGLock id body) := by
  intro w₁ hre _
  refine ⟨trivial, ?_⟩
  rintro (err | lockNum) w₂ ⟨rdfInfo, hs⟩
  · trivial
  obtain ⟨-, ⟨⟩⟩ := ite_none_right_eq_some.mp hs
  have hc : Current i req id sgRDF (w₁.lock i (csiAddonsSGLockHandle id)) := by
    refine ⟨hre.request.trans hr, update_self _ _ _, w₁.rdfInfo, update_self _ _ _, ?_⟩
    rw [hre.rdfInfo id rfl]
    exact hrea
  refine (body_safe hc hb).bind fun w₃ result _ => ?_
  exact fun w₄ _ _ => ⟨trivial, fun _ _ _ => trivial⟩

theorem withSRDFContext_safe {source : Option ReplicationSource}
    {body : VolumeGroupID → SGRDFInfo → AddonsProg (Except Failure α)}
    (hb : ∀ id sgRDF, Calls (req.Selects id sgRDF) (body id sgRDF)) :
    (srdfContract i).Safe (fun _ _ => True) w (withSRDFContext source body) := by
  unfold withSRDFContext
  split
  case h_1 => trivial
  case h_2 id _ =>
    intro w₁ hre₁ _
    refine ⟨trivial, ?_⟩
    rintro (err | ok) w₂ ⟨rdfInfo, hs₂⟩
    · trivial
    obtain rfl : w₁ = w₂ := some.inj hs₂
    intro w₃ hre₃ _
    refine ⟨trivial, ?_⟩
    rintro (err | sgRDF) w₄ ⟨rdfInfo, hs₄⟩
    · trivial
    obtain ⟨hre, ⟨⟩⟩ := ite_none_right_eq_some.mp hs₄
    cases sgRDF with
    | none => trivial
    | some sgRDF =>
      have hr₃ := (hre₃.request.trans hre₁.request).trans hr
      exact withSGLock_safe hr₃ hre (hb id sgRDF)

theorem run_safe : (srdfContract i).Safe (fun _ _ => True) w req.run := by
  cases req with
  | promote source force =>
    refine (withSRDFContext_safe hr fun _ _ => ?_).bind fun _ _ _ => trivial
    exact SRDFRequest.promoteGroup_calls
  | demote source force =>
    refine (withSRDFContext_safe hr fun _ _ => ?_).bind fun _ _ _ => trivial
    exact SRDFRequest.demoteGroup_calls
  | resync source force =>
    refine (withSRDFContext_safe hr fun _ _ => ?_).bind fun _ _ _ => trivial
    exact SRDFRequest.resyncGroup_calls

omit hr

end

theorem srdfThreads_meets (rdfInfo : VolumeGroupID → Option SGRDFInfo) :
    Threads.Meets srdfContract (srdfThreads rdfInfo)
      fun s e => BetweenCalls s e ∧ Undisturbed s e where
  init _ := trivial
  start s i req w _ _ hst := by
    cases hst
    refine ⟨fun _ => trivial, fun j hj c _ => ?_, run_safe (update_self _ _ _)⟩
    have hji : j ≠ i := fun h => hj (congrArg some h)
    exact ⟨update_of_ne hji _ _, update_of_ne hji _ _, fun _ => id, fun _ _ => rfl⟩
  reply s i c r rdfInfo w hG _ _ hs := by
    refine ⟨fun _ => trivial, fun j hj c' hn => ?_, rdfInfo, hs⟩
    have hji : j ≠ i := fun h => hj (congrArg some h)
    refine SRDFWorld.serve_rely hs hji ?_
    rintro symID action storageGroupID rdfGrpNo force exemptConsistency bias rfl rfl
    exact hG.2 j hji hn
  env s d w hG _ _ := by
    refine ⟨fun _ => trivial, fun j _ c hn => ?_⟩
    rw [hG.1 j] at hn
    cases hn

theorem decidedAtLock_of_sound {s : SRDFPool} (hs : s.Sound srdfContract) (e : SRDFEvent) :
    DecidedAtLock s e := by
  cases e with
  | start | env => trivial
  | reply i c r rdfInfo =>
    intro hn
    exact (hs i).2.issue trivial hn

/-- If the array changes its state only between requests, and no action is carried out on a group
while another request that has read its state waits, every action is decided by the state at the
time of the lock. -/
theorem decidedAtLock_of_undisturbed (rdfInfo : VolumeGroupID → Option SGRDFInfo)
    (events : List SRDFEvent)
    (hr : (srdfThreads rdfInfo).machine.Along (fun s e => BetweenCalls s e ∧ Undisturbed s e)
      (srdfThreads rdfInfo).machine.init events) :
    (srdfThreads rdfInfo).machine.Along DecidedAtLock (srdfThreads rdfInfo).machine.init events := by
  have hi : (srdfThreads rdfInfo).machine.init.Sound srdfContract :=
    fun i => ⟨trivial, trivial⟩
  exact Machine.Along.of_invariant _ (fun _ _ _ hs hG hst => (srdfThreads_meets rdfInfo).step hs hG hst)
    (fun _ e hs _ => decidedAtLock_of_sound hs e) hi hr

/-- Only the first `n` requests take steps, and one is served only while the others have no call to
make. -/
def actsAlone (n : Nat) (s : SRDFPool) : SRDFEvent → Bool
  | .start i _ => i < n
  | .env _ => false
  | .reply i _ _ _ => i < n ∧ ∀ j < n, j ≠ i → (s.thread j).next = none

/-- The other requests never get a call to make. -/
theorem idle_of_actsAlone {rdfInfo : VolumeGroupID → Option SGRDFInfo} {n : Nat} {s s' : SRDFPool}
    {e : SRDFEvent} (hi : ∀ j ≥ n, (s.thread j).next = none) (ht : actsAlone n s e = true)
    (hs : (srdfThreads rdfInfo).step s e = some s') : ∀ j ≥ n, (s'.thread j).next = none := by
  intro j hj
  have ho : e.thread ≠ some j := by
    rintro he
    cases e with
    | start i | reply i =>
      cases he
      simp only [actsAlone, decide_eq_true_eq] at ht
      omega
    | env => cases he
  rw [Threads.step_thread_eq ho hs]
  exact hi j hj

theorem undisturbed_of_actsAlone (rdfInfo : VolumeGroupID → Option SGRDFInfo) {n : Nat}
    {events : List SRDFEvent}
    (ha : (srdfThreads rdfInfo).machine.Along (fun s e => actsAlone n s e = true)
      (srdfThreads rdfInfo).machine.init events) :
    (srdfThreads rdfInfo).machine.Along (fun s e => BetweenCalls s e ∧ Undisturbed s e)
      (srdfThreads rdfInfo).machine.init events := by
  refine Machine.Along.of_invariant _ (fun _ _ _ => idle_of_actsAlone) ?_ (fun _ _ => rfl) ha
  intro s e hi ht
  cases e with
  | start => exact ⟨trivial, trivial⟩
  | env => cases ht
  | reply i c r f =>
    refine ⟨trivial, ?_⟩
    cases c
    case executeReplicationActionOnSG =>
      intro j hj
      have hn : (s.thread j).next = none := by
        by_cases hlt : j < n
        · exact (of_decide_eq_true ht).2 j hlt hj
        · exact hi j (Nat.le_of_not_lt hlt)
      rw [hn]
      exact (some_ne_none _).symm
    all_goals trivial

namespace DemoteTwice

def id : VolumeGroupID := ⟨"000197900046", "csi-rep-sg-addons-12-ASYNC", "12"⟩

def source (_ : VolumeGroupID) : Option SGRDFInfo := some ⟨["Consistent"], ["R1"]⟩

def takenOver (_ : VolumeGroupID) : Option SGRDFInfo := some ⟨["Failed Over"], ["R1"]⟩

def group : Option ReplicationSource := some (.volumegroup (encodeVolumeGroupID id))

def reads (i : Nat) (request : SRDFRequest) (rdfInfo : VolumeGroupID → Option SGRDFInfo) :
    List SRDFEvent :=
  [.start i request,
    .reply i (.getPowerMaxClient [id.symID]) (.ok ()) source,
    .reply i (.getStorageGroupRDFInfo id.symID id.sgName id.rdfGrpNo) (.ok (rdfInfo id)) source]

def locks (i lockNum : Nat) : SRDFEvent :=
  .reply i (.rep (.requestLock (csiAddonsSGLockHandle id))) (.ok lockNum) source

def action (name : String) : AddonsCall :=
  .executeReplicationActionOnSG id.symID name id.sgName id.rdfGrpNo false true false

def acts (i lockNum : Nat) (name : String) (rdfInfo : VolumeGroupID → Option SGRDFInfo) :
    List SRDFEvent :=
  [locks i lockNum,
    .reply i (action name) (.ok ()) rdfInfo,
    .reply i (.rep (.releaseLock (csiAddonsSGLockHandle id) lockNum)) () source]

/-- A group is demoted by one request and promoted by the next. -/
def inTurn : List SRDFEvent :=
  reads 0 (.demote group false) source ++ acts 0 1 "Failover" takenOver ++
    (reads 1 (.promote group false) takenOver ++ acts 1 2 "Failback" source)

theorem decidedAtLock_inTurn :
    ((srdfThreads source).machine.run (srdfThreads source).machine.init inTurn).map
      (fun s => s.world.rdfInfo id) = some (source id) ∧
    (srdfThreads source).machine.Along DecidedAtLock (srdfThreads source).machine.init inTurn := by
  refine ⟨by decide +kernel, decidedAtLock_of_undisturbed source _ ?_⟩
  exact undisturbed_of_actsAlone source (n := 2) (by decide +kernel)

def both : List SRDFEvent :=
  reads 0 (.demote group false) source ++ reads 1 (.demote group false) source

/-- The second of two requests that have both read the state fails the group over again. -/
theorem demotes_twice : ¬ ∀ rdfInfo events,
    (srdfThreads rdfInfo).machine.Along BetweenCalls (srdfThreads rdfInfo).machine.init events →
    (srdfThreads rdfInfo).machine.Along DecidedAtLock (srdfThreads rdfInfo).machine.init events := by
  intro hal
  have ho : ((srdfThreads source).machine.run (srdfThreads source).machine.init
      (both ++ acts 0 1 "Failover" takenOver ++ [locks 1 2])).map (fun s =>
        ((s.thread 1).next, s.world.request 1, (s.world.atLock 1).map (· id))) =
      some (some (action "Failover"), some (.demote group false), some (takenOver id)) := by
    decide +kernel
  obtain ⟨s, hru, hs⟩ := map_eq_some_iff.mp ho
  simp only [Prod.mk.injEq] at hs
  obtain ⟨hn, hr, ha⟩ := hs
  have hb : ∀ e ∈ both ++ acts 0 1 "Failover" takenOver ++ [locks 1 2] ++
      [.reply 1 (action "Failover") (.ok ()) takenOver], ∀ s, BetweenCalls s e := by
    intro e he s
    have ht : e.thread ≠ none := by
      revert e
      decide
    cases e with
    | start | reply => trivial
    | env => exact absurd rfl ht
  have hd : DecidedAtLock s (.reply 1 (action "Failover") (.ok ()) takenOver) :=
    ((Machine.along_append _).mp (hal source _ (Machine.along_of_forall _ hb _))).2 s hru |>.1
  obtain ⟨-, req, rdfInfo, sgRDF, hre, hi, hsg, hmem⟩ := hd hn
  obtain rfl := some.inj (hr.symm.trans hre)
  rw [hi] at ha
  obtain rfl := some.inj (hsg.symm.trans (some.inj ha))
  exact absurd hmem (by decide)

end DemoteTwice

end PowerMaxCsi.Addons
