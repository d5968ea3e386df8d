import Mathlib.Logic.Relation
import PowerMaxCsi.Lib.Machine

/-!
# Locks of snapshots

`CreateSnapshotFromVolume` holds the lock of its volume and, if that is the target of a snapshot, of
the source which the array reports.  Which of those that wait gets a lock is open.
-/

namespace PowerMaxCsi.Service.Snap

inductive Next
  | requestLock
  | getSnapSessions
  | requestSourceLock (source : String)
  | getSnapSessionsAgain
  | modifySnapshotS
  | createSnapshot
  | getSnapshotInfo
  | releaseLocks
deriving DecidableEq

/-- A request, with the volumes whose locks it holds, the latest first. -/
structure Creation where
  (volumeID snapID : String)
  /-- `SnapSource` or `SnapTarget` of the volume. -/
  inSession : Bool
  locks : List String
  next : Next
deriving DecidableEq

/-- Of the sessions, the names of the snapshots are read and the source with whether it is
defined. -/
inductive CreationAnswer
  | ok
  | error
  | sessions (names : List String) (target : Option (String × Bool))
deriving DecidableEq

namespace Creation

variable (c : Creation)

/-- `CreateSnapshotFromVolume`, from one call to the next. -/
def answered : Next → CreationAnswer → Option Creation
  | .requestLock, .ok =>
    let next := if c.inSession then .getSnapSessions else .createSnapshot
    some { c with locks := [c.volumeID], next }
  | .getSnapSessions, .sessions names target =>
    if c.snapID ∈ names then some { c with next := .getSnapshotInfo }
    else match target with
      | none => some { c with next := .createSnapshot }
      | some (_, false) => some { c with next := .releaseLocks }
      | some (source, true) =>
        if c.volumeID = source then some { c with next := .getSnapSessionsAgain }
        else some { c with next := .requestSourceLock source }
  | .requestSourceLock source, .ok =>
    some { c with locks := source :: c.locks, next := .getSnapSessionsAgain }
  | .getSnapSessionsAgain, .sessions _ target =>
    some { c with next := if target.isSome then .modifySnapshotS else .createSnapshot }
  | .modifySnapshotS, .ok => some { c with next := .createSnapshot }
  | .createSnapshot, .ok => some { c with next := .getSnapshotInfo }
  | .getSnapshotInfo, .ok => some { c with next := .releaseLocks }
  | .releaseLocks, _ => some { c with locks := c.locks.tail }
  | _, .error => some { c with next := .releaseLocks }
  | _, _ => none

def waits : Option String :=
  match c.next with
  | .requestLock => some c.volumeID
  | .requestSourceLock source => some source
  | _ => none

end Creation

inductive CreationEvent
  | create (volumeID snapID : String) (inSession : Bool)
  | answer (i : Nat) (a : CreationAnswer)

/-- A lock is given to a request only if no request has it. -/
def createStep (calls : List Creation) : CreationEvent → Option (List Creation)
  | .create volumeID snapID inSession =>
    some (calls ++ [⟨volumeID, snapID, inSession, [], .requestLock⟩])
  | .answer i a => do
    let c ← calls[i]?
    let c' ← c.answered c.next a
    if a = .ok ∧ ∃ v ∈ c.waits, ∃ d ∈ calls, v ∈ d.locks then none else some (calls.set i c')

def creations : Machine (List Creation) CreationEvent := ⟨[], createStep⟩

def waitsAt (calls : List Creation) (i : Nat) : Option String := calls[i]?.bind Creation.waits

/-- The request `i` waits for a lock that the request `j` holds. -/
def WaitsFor (calls : List Creation) (i j : Nat) : Prop :=
  ∃ v ∈ waitsAt calls i, ∃ d ∈ calls[j]?, v ∈ d.locks

/-- The source that is reported for a target comes before it. -/
def Ordered (rank : String → Nat) (calls : List Creation) : CreationEvent → Prop
  | .answer i (.sessions _ (some (source, _))) =>
    ∀ c ∈ calls[i]?, source = c.volumeID ∨ rank source < rank c.volumeID
  | _ => True

/-- A request asks for locks in descending order. -/
def Creation.Inv (rank : String → Nat) (c : Creation) : Prop :=
  match c.next with
  | .requestLock => c.locks = []
  | .getSnapSessions => c.locks = [c.volumeID]
  | .requestSourceLock source => c.locks = [c.volumeID] ∧ rank source < rank c.volumeID
  | _ => True

variable {rank : String → Nat} {c c' : Creation} {calls calls' : List Creation} {e : CreationEvent}

theorem Creation.Inv.answered {a : CreationAnswer} (hc : c.Inv rank)
    (h : c.answered c.next a = some c') (ha : ∀ names source b, a = .sessions names
      (some (source, b)) → source = c.volumeID ∨ rank source < rank c.volumeID) : c'.Inv rank := by
  unfold Creation.answered at h
  split at h
  case h_2 names target hp =>
    simp only [Creation.Inv, hp] at hc
    split at h
    · cases h
      trivial
    · split at h
      case h_3 source =>
        split at h
        · cases h
          trivial
        case isFalse hne =>
          cases h
          exact ⟨hc, (ha names source true rfl).resolve_left (Ne.symm hne)⟩
      all_goals
        cases h
        trivial
  all_goals grind [Creation.Inv]

theorem Creation.Inv.rank_lt (hc : c.Inv rank) {u v : String} (hu : c.waits = some u)
    (hv : v ∈ c.locks) : rank u < rank v := by
  unfold Creation.waits at hu
  split at hu <;> simp_all [Creation.Inv]

theorem createStep_inv (hs : ∀ c ∈ calls, c.Inv rank) (he : Ordered rank calls e)
    (h : createStep calls e = some calls') : ∀ c ∈ calls', c.Inv rank := by
  cases e with
  | create volumeID snapID inSession =>
    cases h
    intro c hc
    rcases List.mem_append.mp hc with hc | hc
    · exact hs c hc
    · obtain rfl := List.mem_singleton.mp hc
      rfl
  | answer i a =>
    obtain ⟨c, hc, h⟩ := Option.bind_eq_some_iff.mp h
    obtain ⟨c', hc', h⟩ := Option.bind_eq_some_iff.mp h
    split at h
    case isTrue => cases h
    case isFalse =>
      cases h
      intro d hd
      rcases List.mem_or_eq_of_mem_set hd with hd | rfl
      · exact hs d hd
      · refine (hs c (List.mem_of_getElem? hc)).answered hc' fun names source b hr => ?_
        subst hr
        exact he c hc

/-- Along a chain of requests, what they wait for gets smaller. -/
theorem rank_lt_of_transGen (hs : ∀ c ∈ calls, c.Inv rank) {i j : Nat}
    (h : Relation.TransGen (WaitsFor calls) i j) {u v : String} (hv : waitsAt calls i = some v)
    (hu : waitsAt calls j = some u) : rank u < rank v := by
  have step {i j : Nat} {u v : String} (h : WaitsFor calls i j) (hv : waitsAt calls i = some v)
      (hu : waitsAt calls j = some u) : rank u < rank v := by
    obtain ⟨v', hv', d, hd, hl⟩ := h
    obtain rfl : v = v' := Option.some.inj (hv.symm.trans hv')
    obtain ⟨d', hd', hw⟩ := Option.bind_eq_some_iff.mp hu
    obtain rfl : d = d' := Option.some.inj (hd.symm.trans hd')
    exact (hs d (List.mem_of_getElem? hd)).rank_lt hw hl
  induction h generalizing u with
  | single h => exact step h hv hu
  | tail _ h ih =>
    obtain ⟨w, hw, -⟩ := id h
    exact Nat.lt_trans (step h hw hu) (ih hw)

/-- **No deadlock**, if the sources that the array reports come before their targets in some
order. -/
theorem not_transGen_waitsFor {rank : String → Nat} {es : List CreationEvent}
    {calls : List Creation} (h : creations.Along (Ordered rank) [] es)
    (hr : creations.run [] es = some calls) (i : Nat) :
    ¬ Relation.TransGen (WaitsFor calls) i i := by
  intro hc
  have hs := creations.run_invariant (I := fun calls => ∀ c ∈ calls, c.Inv rank)
    (fun _ _ _ => createStep_inv) (by simp) h hr
  obtain ⟨j, ⟨v, hv, -⟩, -⟩ := Relation.TransGen.head'_iff.mp hc
  exact Nat.lt_irrefl _ (rank_lt_of_transGen hs hc hv hv)

/-- Two volumes, each of which is the target of a snapshot of the other. -/
def linkedVolumes : List CreationEvent :=
  [.create "00001" "snap-1" true, .create "00002" "snap-2" true, .answer 0 .ok, .answer 1 .ok,
    .answer 0 (.sessions [] (some ("00002", true))),
    .answer 1 (.sessions [] (some ("00001", true)))]

/-- Each request holds its volume and waits for the one that the other holds. -/
theorem linkedVolumes_deadlock : ¬ ∀ es calls, creations.run [] es = some calls →
    ∀ i, ¬ Relation.TransGen (WaitsFor calls) i i := by
  intro h
  refine h linkedVolumes _ rfl 0 (.tail (.single (b := 1) ?_) ?_)
  · exact ⟨"00002", rfl, _, rfl, by decide⟩
  · exact ⟨"00001", rfl, _, rfl, by decide⟩

theorem not_transGen_chain : ∃ calls, creations.run [] (linkedVolumes.take 5) = some calls ∧
    ¬ Relation.TransGen (WaitsFor calls) 0 0 := by
  have ho : creations.Along (Ordered fun v => if v = "00001" then 1 else 0) []
      (linkedVolumes.take 5) := by
    simp [linkedVolumes, Machine.Along, Ordered, creations, createStep, Creation.answered]
  exact ⟨_, rfl, not_transGen_waitsFor ho rfl 0⟩

end PowerMaxCsi.Service.Snap
