import PowerMaxCsi.Lib.Strings

/-!
# The state of a Metro pair

`CheckMetroStateWithRDFGroupsAndTimeout` of `pkg/symmetrix/metro.go`.  A query that runs into its
timeout is answered with an error.  `MetroQuery.Wins` is in terms of the answers alone.
-/

namespace PowerMaxCsi.Metro

structure RDFGroup where
  (witnessConfigured witnessEffective biasConfigured biasEffective : Bool)
  devicePolarity : String
deriving DecidableEq, Repr

structure RDFGroupEntry where
  rdfgNumber : Int
  groupType : String
deriving DecidableEq, Repr

structure MetroState where
  (winnerSymID loserSymID : String)
  (witnessConfigured witnessEffective biasConfigured biasEffective deviceBiasR1Failure : Bool)
  loserUnreachable : Bool
deriving DecidableEq, Repr

inductive MetroError where
  /-- `ErrBothArraysUnreachable`, with the errors of the queries. -/
  | bothArraysUnreachable (localErr remoteErr : String)
  | noMetroRDFGroup
  | deviceBiasR1Failure
deriving DecidableEq, Repr

def MetroError.text : MetroError → String
  | .bothArraysUnreachable localErr remoteErr =>
    "both local and remote arrays are unreachable: local: " ++ localErr ++ ", remote: " ++ remoteErr
  | .noMetroRDFGroup => "no SRDF/Metro RDF group found for array pair"
  | .deviceBiasR1Failure => "Device Bias R1-side failure: manual R1 restoration required"

structure ArrayAnswers where
  registered : Bool
  /-- `GetRDFGroupList`; `none` is a nil list. -/
  getRDFGroupList : Except String (Option (List RDFGroupEntry))
  getRDFGroupByID : String → Except String RDFGroup

structure MetroQuery where
  (localSymID remoteSymID localRDFGroupNo remoteRDFGroupNo : String)
  cached : Option String
  (localAnswers remoteAnswers : ArrayAnswers)
  ne : localSymID ≠ remoteSymID

def metroGroupNo (answers : ArrayAnswers) : Option String :=
  if answers.registered then
    match answers.getRDFGroupList with
    | .ok (some entries) =>
      (entries.find? fun g => g.groupType = "Metro" ∨ g.groupType = "METRO").map
        fun g => toString g.rdfgNumber
    | _ => none
  else none

namespace MetroQuery

def resolveRDFGroupNo (q : MetroQuery) (rdfGroupNo : String) : String :=
  if rdfGroupNo ≠ "" then rdfGroupNo
  else ((q.cached.or (metroGroupNo q.localAnswers)).or (metroGroupNo q.remoteAnswers)).getD ""

def groupNo (q : MetroQuery) : String := q.resolveRDFGroupNo q.localRDFGroupNo

def localGroup (q : MetroQuery) : Except String RDFGroup :=
  if q.localAnswers.registered then q.localAnswers.getRDFGroupByID q.groupNo
  else .error "local client is nil"

def remoteGroup (q : MetroQuery) : Except String RDFGroup :=
  if q.remoteAnswers.registered then
    q.remoteAnswers.getRDFGroupByID
      (if q.remoteRDFGroupNo = "" then q.groupNo else q.remoteRDFGroupNo)
  else .error "remote client is nil"

def localWins (q : MetroQuery) (localRDFGroup remoteRDFGroup : RDFGroup) : Bool :=
  let localIsR1 : Bool := localRDFGroup.devicePolarity = q.localSymID
  let remoteIsR1 : Bool := remoteRDFGroup.devicePolarity = q.remoteSymID
  let localWitness := localRDFGroup.witnessEffective || localRDFGroup.biasEffective
  let remoteWitness := remoteRDFGroup.witnessEffective || remoteRDFGroup.biasEffective
  if localWitness && !remoteWitness then true
  else if remoteWitness && !localWitness then false
  else if localIsR1 && !remoteIsR1 then true
  else if remoteIsR1 && !localIsR1 then false
  else true

/-- The group of the winner, the winner, the loser, and whether the loser responded. -/
def winner (q : MetroQuery) : Except MetroError (RDFGroup × String × String × Bool) :=
  match q.localGroup, q.remoteGroup with
  | .error localErr, .error remoteErr => .error (.bothArraysUnreachable localErr remoteErr)
  | .error _, .ok remoteRDFGroup => .ok (remoteRDFGroup, q.remoteSymID, q.localSymID, false)
  | .ok localRDFGroup, .error _ => .ok (localRDFGroup, q.localSymID, q.remoteSymID, false)
  | .ok localRDFGroup, .ok remoteRDFGroup =>
    if q.localWins localRDFGroup remoteRDFGroup then
      .ok (localRDFGroup, q.localSymID, q.remoteSymID, true)
    else .ok (remoteRDFGroup, q.remoteSymID, q.localSymID, true)

def checkMetroStateWithRDFGroupsAndTimeout (q : MetroQuery) : Except MetroError MetroState :=
  if q.groupNo = "" then .error .noMetroRDFGroup
  else
    match q.winner with
    | .error err => .error err
    | .ok (rdfGroup, winnerSymID, loserSymID, loserResponded) =>
      if rdfGroup.biasConfigured ∧ ¬ rdfGroup.biasEffective ∧
          winnerSymID ≠ rdfGroup.devicePolarity then .error .deviceBiasR1Failure
      else .ok
        { winnerSymID := winnerSymID
          loserSymID := loserSymID
          witnessConfigured := rdfGroup.witnessConfigured
          witnessEffective := rdfGroup.witnessEffective
          biasConfigured := rdfGroup.biasConfigured
          biasEffective := rdfGroup.biasEffective
          deviceBiasR1Failure := false
          loserUnreachable := !loserResponded }

def Responds (q : MetroQuery) (symID : String) : Prop :=
  (symID = q.localSymID ∧ ∃ group, q.localGroup = .ok group) ∨
    (symID = q.remoteSymID ∧ ∃ group, q.remoteGroup = .ok group)

def Arbitrated (group : RDFGroup) : Prop := group.witnessEffective = true ∨ group.biasEffective = true

/-- Of two arrays that respond the local one is preferred: it alone is arbitrated, or both or none
are and not only the remote one is R1. -/
def LocalPreferred (q : MetroQuery) (localRDFGroup remoteRDFGroup : RDFGroup) : Prop :=
  Arbitrated localRDFGroup ∧ ¬ Arbitrated remoteRDFGroup ∨
    (Arbitrated localRDFGroup ↔ Arbitrated remoteRDFGroup) ∧
      (localRDFGroup.devicePolarity = q.localSymID ∨ remoteRDFGroup.devicePolarity ≠ q.remoteSymID)

/-- The array, with this group, is the only one that responds or the preferred one. -/
inductive Selected (q : MetroQuery) : RDFGroup → String → Prop where
  | localOnly {group : RDFGroup} {err : String} : q.localGroup = .ok group →
      q.remoteGroup = .error err → Selected q group q.localSymID
  | remoteOnly {group : RDFGroup} {err : String} : q.localGroup = .error err →
      q.remoteGroup = .ok group → Selected q group q.remoteSymID
  | localPreferred {group group' : RDFGroup} : q.localGroup = .ok group →
      q.remoteGroup = .ok group' → q.LocalPreferred group group' → Selected q group q.localSymID
  | remotePreferred {group group' : RDFGroup} : q.localGroup = .ok group →
      q.remoteGroup = .ok group' → ¬ q.LocalPreferred group group' →
      Selected q group' q.remoteSymID

/-- The array is selected, and its bias is effective if configured, unless it is R1. -/
def Wins (q : MetroQuery) (symID : String) : Prop :=
  q.groupNo ≠ "" ∧ ∃ group, q.Selected group symID ∧
    (group.biasConfigured = true → group.biasEffective = true ∨ symID = group.devicePolarity)

variable {q : MetroQuery}

theorem localWins_iff {localRDFGroup remoteRDFGroup : RDFGroup} :
    q.localWins localRDFGroup remoteRDFGroup = true ↔
      q.LocalPreferred localRDFGroup remoteRDFGroup := by
  simp only [localWins, LocalPreferred, Arbitrated]
  grind

theorem winner_eq_ok {group : RDFGroup} {winnerSymID loserSymID : String} {loserResponded : Bool}
    (h : q.winner = .ok (group, winnerSymID, loserSymID, loserResponded)) :
    q.Selected group winnerSymID ∧ winnerSymID ≠ loserSymID ∧
      ∀ symID, q.Responds symID ↔
        symID = winnerSymID ∨ symID = loserSymID ∧ loserResponded = true := by
  have hne := q.ne
  unfold winner at h
  split at h
  case h_1 => cases h
  case h_2 hl hr =>
    cases h
    exact ⟨.remoteOnly hl hr, hne.symm, by simp [Responds, hl, hr]⟩
  case h_3 hl hr =>
    cases h
    exact ⟨.localOnly hl hr, hne, by simp [Responds, hl, hr]⟩
  case h_4 hl hr =>
    split at h
    case isTrue hw =>
      cases h
      exact ⟨.localPreferred hl hr (localWins_iff.mp hw), hne, by simp [Responds, hl, hr]⟩
    case isFalse hw =>
      cases h
      refine ⟨.remotePreferred hl hr (mt localWins_iff.mpr hw), hne.symm, ?_⟩
      simp [Responds, hl, hr, or_comm]

theorem exists_winner {group : RDFGroup} {symID : String} (h : q.Selected group symID) :
    ∃ loserSymID loserResponded, q.winner = .ok (group, symID, loserSymID, loserResponded) := by
  unfold winner
  cases h with
  | localOnly hl hr => exact ⟨_, _, by rw [hl, hr]⟩
  | remoteOnly hl hr => exact ⟨_, _, by rw [hl, hr]⟩
  | localPreferred hl hr hw =>
    exact ⟨_, _, by rw [hl, hr]; exact if_pos (localWins_iff.mpr hw)⟩
  | remotePreferred hl hr hw =>
    exact ⟨_, _, by rw [hl, hr]; exact if_neg (mt localWins_iff.mp hw)⟩

theorem wins_of_check {state : MetroState}
    (h : q.checkMetroStateWithRDFGroupsAndTimeout = .ok state) :
    q.Wins state.winnerSymID ∧ state.winnerSymID ≠ state.loserSymID ∧
      ∀ symID, q.Responds symID ↔ symID = state.winnerSymID ∨
        symID = state.loserSymID ∧ state.loserUnreachable = false := by
  unfold checkMetroStateWithRDFGroupsAndTimeout at h
  split at h
  case isTrue => cases h
  case isFalse hg =>
    split at h
    case h_1 => cases h
    case h_2 group winnerSymID loserSymID loserResponded hw =>
      split at h
      case isTrue => cases h
      case isFalse hb =>
        cases h
        obtain ⟨hs, hne, hr⟩ := winner_eq_ok hw
        refine ⟨⟨hg, group, hs, ?_⟩, hne, by simpa using hr⟩
        intro hc
        by_contra hn
        exact hb ⟨hc, fun he => hn (.inl he), fun hr1 => hn (.inr hr1)⟩

theorem check_of_wins {symID : String} (h : q.Wins symID) :
    ∃ state, q.checkMetroStateWithRDFGroupsAndTimeout = .ok state ∧ state.winnerSymID = symID := by
  obtain ⟨hg, group, hs, hb⟩ := h
  obtain ⟨loserSymID, loserResponded, hw⟩ := exists_winner hs
  unfold checkMetroStateWithRDFGroupsAndTimeout
  rw [if_neg hg, hw]
  dsimp only
  rw [if_neg]
  · exact ⟨_, rfl, rfl⟩
  · rintro ⟨hc, hi, hr2⟩
    exact (hb hc).elim hi hr2

end MetroQuery

end PowerMaxCsi.Metro
