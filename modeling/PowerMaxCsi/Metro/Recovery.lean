import PowerMaxCsi.Lib.Machine
import PowerMaxCsi.Metro.State
import PowerMaxCsi.Service.Pmax

/-!
# Detecting that an array has recovered

`doMetroStateCheck` of `service/service.go` and the `SiteStateTracker` of
`pkg/symmetrix/reconciliation.go`.  A recovery starts the replay only for the loser of a check.
-/

namespace PowerMaxCsi.Metro

open List

open Service (Code GrpcError)

inductive MetroSiteState where
  | unknown
  | reachable
  | unreachable
deriving DecidableEq, Repr

/-- `SiteStateTracker`: the states by array, `SiteUnknown` for one that is not there. -/
abbrev SiteStateTracker := String → MetroSiteState

def newSiteStateTracker : SiteStateTracker := fun _ => .unknown

def SiteStateTracker.updateState (t : SiteStateTracker) (arrayID : String)
    (newState : MetroSiteState) : SiteStateTracker × Bool :=
  (Function.update t arrayID newState, t arrayID = .unreachable ∧ newState = .reachable)

inductive MetroEffect where
  | put (localSymID remoteSymID : String) (state : MetroState)
  | putError (localSymID remoteSymID : String) (err : MetroError)
  | setMetroWinner (localSymID remoteSymID winnerSymID : String)
  | emitMetroEvent (reason : String)
  | siteFailure (loserSymID : String)
  | updateState (arrayID : String) (state : MetroSiteState)
  | triggerReconciliation (arrayID : String)
deriving DecidableEq, Repr

structure CheckOutcome where
  tracker : SiteStateTracker
  effects : List MetroEffect
  err : Option GrpcError

def announce (q : MetroQuery) (state : MetroState) : List MetroEffect :=
  [.put q.localSymID q.remoteSymID state] ++
    (if state.winnerSymID ≠ "" then
      [.setMetroWinner q.localSymID q.remoteSymID state.winnerSymID] else []) ++
    (if state.deviceBiasR1Failure then [.emitMetroEvent "MetroDeviceBiasR1Failure"] else []) ++
    (if state.loserUnreachable then
      [.emitMetroEvent "MetroSiteFailure", .siteFailure state.loserSymID] else [])

def doMetroStateCheck (tracker : SiteStateTracker) (q : MetroQuery) : CheckOutcome :=
  match q.checkMetroStateWithRDFGroupsAndTimeout with
  | .error err =>
    let tracker := (tracker.updateState q.localSymID .unreachable).1
    let tracker := (tracker.updateState q.remoteSymID .unreachable).1
    let effects := [.putError q.localSymID q.remoteSymID err,
      .updateState q.localSymID .unreachable, .updateState q.remoteSymID .unreachable]
    match err with
    | .bothArraysUnreachable _ _ =>
      ⟨tracker, effects ++ [.emitMetroEvent "MetroBothArraysUnreachable"],
        some ⟨.unavailable, "both local and remote arrays are unreachable"⟩⟩
    | .deviceBiasR1Failure =>
      ⟨tracker, effects ++ [.emitMetroEvent "MetroDeviceBiasR1Failure"],
        some ⟨.failedPrecondition, "Device Bias R1-side failure: manual R1 restoration required"⟩⟩
    | .noMetroRDFGroup => ⟨tracker, effects, none⟩
  | .ok state =>
    let tracker := (tracker.updateState state.winnerSymID .reachable).1
    let effects := announce q state ++ [.updateState state.winnerSymID .reachable]
    if state.loserUnreachable then
      ⟨(tracker.updateState state.loserSymID .unreachable).1,
        effects ++ [.updateState state.loserSymID .unreachable], none⟩
    else
      let (tracker, loserRecovered) := tracker.updateState state.loserSymID .reachable
      ⟨tracker,
        effects ++ [.updateState state.loserSymID .reachable] ++
          (if loserRecovered then [.triggerReconciliation state.loserSymID] else []), none⟩

structure Checks where
  tracker : SiteStateTracker
  history : List MetroEffect

def checks : Machine Checks MetroQuery where
  init := ⟨newSiteStateTracker, []⟩
  step s q :=
    let outcome := doMetroStateCheck s.tracker q
    some ⟨outcome.tracker, s.history ++ outcome.effects⟩

def record (arrayID : String) (last : MetroSiteState) : MetroEffect → MetroSiteState
  | .updateState arrayID' state => if arrayID' = arrayID then state else last
  | _ => last

def lastRecord (history : List MetroEffect) (arrayID : String) : MetroSiteState :=
  history.foldl (record arrayID) .unknown

def Checks.Tracks (s : Checks) : Prop := ∀ arrayID, s.tracker arrayID = lastRecord s.history arrayID

/-- The replay is started for every array that is reachable and was recorded as unreachable. -/
def RecoveryTriggered (s : Checks) (q : MetroQuery) : Prop :=
  ∀ state, q.checkMetroStateWithRDFGroupsAndTimeout = .ok state →
    ∀ symID, q.Responds symID → lastRecord s.history symID = .unreachable →
      .triggerReconciliation symID ∈ (doMetroStateCheck s.tracker q).effects

/-- An array that is last recorded as unreachable is not the winner. -/
def WinnerUp (s : Checks) (q : MetroQuery) : Prop :=
  ∀ symID, q.Wins symID → lastRecord s.history symID ≠ .unreachable

theorem SiteStateTracker.updateState_apply (t : SiteStateTracker) (arrayID arrayID' : String)
    (state : MetroSiteState) :
    (t.updateState arrayID' state).1 arrayID = record arrayID (t arrayID)
      (.updateState arrayID' state) := by
  simp [SiteStateTracker.updateState, Function.update_apply, record, eq_comm]

theorem foldl_record_announce (q : MetroQuery) (state : MetroState) (arrayID : String)
    (last : MetroSiteState) : (announce q state).foldl (record arrayID) last = last := by
  unfold announce
  split <;> split <;> split <;> rfl

theorem doMetroStateCheck_tracker (tracker : SiteStateTracker) (q : MetroQuery) (arrayID : String) :
    (doMetroStateCheck tracker q).tracker arrayID =
      (doMetroStateCheck tracker q).effects.foldl (record arrayID) (tracker arrayID) := by
  unfold doMetroStateCheck
  split
  case h_1 err _ =>
    cases err <;> simp [SiteStateTracker.updateState_apply, record]
  case h_2 state _ =>
    dsimp only
    split
    case isTrue =>
      simp [SiteStateTracker.updateState_apply, foldl_record_announce]
    case isFalse =>
      split <;> simp [SiteStateTracker.updateState_apply, foldl_record_announce, record]

theorem Checks.Tracks.step {s s' : Checks} {q : MetroQuery} (h : s.Tracks)
    (hs : checks.step s q = some s') : s'.Tracks := by
  cases hs
  intro arrayID
  rw [lastRecord, foldl_append]
  show (doMetroStateCheck s.tracker q).tracker arrayID = _
  rw [doMetroStateCheck_tracker, h arrayID]
  rfl

theorem triggerReconciliation_notMem_announce (q : MetroQuery) (state : MetroState)
    (symID : String) : .triggerReconciliation symID ∉ announce q state := by
  unfold announce
  split <;> split <;> split <;> simp

theorem triggerReconciliation_mem {tracker : SiteStateTracker} {q : MetroQuery} {state : MetroState}
    (h : q.checkMetroStateWithRDFGroupsAndTimeout = .ok state) {symID : String} :
    .triggerReconciliation symID ∈ (doMetroStateCheck tracker q).effects ↔
      symID = state.loserSymID ∧ state.loserUnreachable = false ∧
        tracker symID = .unreachable := by
  have hne := (MetroQuery.wins_of_check h).2.1
  have ha := triggerReconciliation_notMem_announce q state symID
  unfold doMetroStateCheck
  rw [h]
  dsimp only
  split
  case isTrue hu => simp [ha, hu]
  case isFalse hr =>
    -- the record of the winner does not change that of the loser
    have hl : (tracker.updateState state.winnerSymID .reachable).1 state.loserSymID =
        tracker state.loserSymID := Function.update_of_ne hne.symm _ _
    simp only [SiteStateTracker.updateState] at hl
    simp only [SiteStateTracker.updateState, hl, and_true, decide_eq_true_eq,
      Bool.not_eq_true _ |>.mp hr, true_and]
    split
    case isTrue hd =>
      simp only [mem_append, ha, mem_singleton, reduceCtorEq, false_or,
        MetroEffect.triggerReconciliation.injEq]
      constructor
      · rintro rfl
        exact ⟨rfl, hd⟩
      · exact And.left
    case isFalse hup =>
      simp only [mem_append, ha, mem_singleton, reduceCtorEq, not_mem_nil,
        or_self, false_iff, not_and]
      rintro rfl
      exact hup

theorem recoveryTriggered_iff {s : Checks} (h : s.Tracks) (q : MetroQuery) :
    RecoveryTriggered s q ↔ WinnerUp s q := by
  constructor
  · intro ht symID hw hd
    obtain ⟨state, hc, rfl⟩ := MetroQuery.check_of_wins hw
    obtain ⟨-, hne, hr⟩ := MetroQuery.wins_of_check hc
    have hmem := ht state hc _ ((hr _).mpr (.inl rfl)) hd
    exact hne ((triggerReconciliation_mem hc).mp hmem).1
  · intro hup state hc symID hre hd
    obtain ⟨hw, -, hr⟩ := MetroQuery.wins_of_check hc
    rw [triggerReconciliation_mem hc, h symID]
    rcases (hr symID).mp hre with rfl | ⟨hl, hrea⟩
    · exact absurd hd (hup _ hw)
    · exact ⟨hl, hrea, hd⟩

/-- The replay is started for every array that recovers exactly if no check names an array the
winner that is recorded as unreachable. -/
theorem recoveriesTriggered_iff (queries : List MetroQuery) :
    checks.Along RecoveryTriggered checks.init queries ↔
      checks.Along WinnerUp checks.init queries :=
  checks.along_congr (fun _ _ _ h hs => h.step hs) (fun _ q h => recoveryTriggered_iff h q)
    (fun _ => rfl) queries

def pairQuery (answer : Except String RDFGroup) : MetroQuery where
  localSymID := "000120000548"
  remoteSymID := "000120000549"
  localRDFGroupNo := "12"
  remoteRDFGroupNo := "12"
  cached := none
  localAnswers := ⟨true, .ok none, fun _ => answer⟩
  remoteAnswers := ⟨true, .ok none, fun _ => answer⟩
  ne := by decide

/-- Both arrays fail and come back: no replay is started for the one that wins. -/
theorem bothRecover_missed : ¬ ∀ queries, checks.Along RecoveryTriggered checks.init queries := by
  intro ha
  have hc := ha [pairQuery (.error "timeout"),
    pairQuery (.ok ⟨false, false, false, false, "000120000548"⟩)]
  have hr := (hc.2 _ rfl).1 _ rfl "000120000548" (.inl ⟨rfl, _, rfl⟩) rfl
  exact absurd hr (by decide)

end PowerMaxCsi.Metro
