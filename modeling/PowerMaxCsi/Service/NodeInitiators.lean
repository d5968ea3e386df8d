import PowerMaxCsi.Service.SingleNodePublish

/-!
# Initiators of a node

`verifyAndUpdateInitiatorsInADiffHost`: the message of a conflict is kept in a variable, which the
next valid pair clears.
-/

namespace PowerMaxCsi.Service.Initiators

open Strings

/-- The initiators of the array, the host of each one and the error of `UpdateHostName`, if any. -/
structure InitiatorArray where
  symID : String
  initiatorIDs : Except String (List String)
  host : String → Except String String
  updateHostName : String → Option String

structure Loop where
  validInitiators : List String
  errormsg : String
  hostUpdated : Bool
deriving DecidableEq

def differentHost (symID initiatorID host : String) : String :=
  "initiator: " ++ initiatorID ++ " is already a part of a different host: " ++ host ++ " on: " ++
    symID

variable (A : InitiatorArray) (modifyHostName : Bool) (hostID : String)

/-- The body of the inner loop, for a pair that matches. -/
def visit (l : Loop) (pair : String × String) : Loop :=
  let (nodeInitiator, initiatorID) := pair
  let valid (hostUpdated : Bool) : Loop :=
    ⟨appendIfMissing l.validInitiators nodeInitiator, "", hostUpdated⟩
  match A.host initiatorID with
  | .error _ => l
  | .ok host =>
    if host = "" ∨ equalFold host hostID then valid l.hostUpdated
    else if modifyHostName then
      if l.hostUpdated then
        { l with errormsg := "Skipping Updating Host " ++ host ++ " for initiator: " ++
          initiatorID ++ " as updated host already present on: " ++ A.symID }
      else
        match A.updateHostName host with
        | some err =>
          { l with errormsg := "Failed to change host name from " ++ host ++ " to " ++ hostID ++
            ": " ++ err }
        | none => valid true
    else { l with errormsg := differentHost A.symID initiatorID host }

/-- The pairs that match, in the order of the loops. -/
def pairs (nodeInitiators initiatorIDs : List String) : List (String × String) :=
  nodeInitiators.flatMap fun nodeInitiator =>
    (initiatorIDs.filter (contains · (trimPrefix nodeInitiator "0x"))).map
      (trimPrefix nodeInitiator "0x", ·)

def nvmeTCPTransportProtocol : String := "NVMETCP"

/-- `verifyAndUpdateInitiatorsInADiffHost`, with the error, if any. -/
def verifyAndUpdateInitiatorsInADiffHost (nodeInitiators : List String) :
    List String × Option String :=
  match A.initiatorIDs with
  | .error err => ([], some err)
  | .ok initiatorIDs =>
    let l := (pairs nodeInitiators initiatorIDs).foldl (visit A modifyHostName hostID)
      ⟨[], "", false⟩
    if l.errormsg ≠ "" then (l.validInitiators, some l.errormsg)
    else if l.validInitiators = [] ∧ contains hostID nvmeTCPTransportProtocol then
      (nodeInitiators, none)
    else (l.validInitiators, none)

def Conflicts (pair : String × String) : Prop :=
  ∃ host, A.host pair.2 = .ok host ∧ host ≠ "" ∧ equalFold host hostID = false

variable {A hostID} {l : Loop} {pair : String × String} {nodeInitiators ids : List String}

theorem visit_of_conflicts (h : Conflicts A hostID pair) :
    ∃ msg ≠ "", visit A false hostID l pair = { l with errormsg := msg } := by
  obtain ⟨host, hh, hne, heq⟩ := h
  refine ⟨differentHost A.symID pair.2 host, fun h => ?_, by simp [visit, hh, hne, heq]⟩
  simp [differentHost] at h

section
variable (hlook : ∀ id, ∃ host, A.host id = .ok host)

include hlook

theorem visit_of_not_conflicts (h : ¬ Conflicts A hostID pair) :
    visit A false hostID l pair =
      ⟨appendIfMissing l.validInitiators pair.1, "", l.hostUpdated⟩ := by
  obtain ⟨host, hh⟩ := hlook pair.2
  have hv : host = "" ∨ equalFold host hostID = true := by
    by_contra! hc
    exact h ⟨host, hh, hc.1, by simpa using hc.2⟩
  simp [visit, hh, hv]

/-- The message is that of the last pair. -/
theorem errormsg_foldl (ps : List (String × String)) (hl : l.errormsg = "") :
    (ps.foldl (visit A false hostID) l).errormsg ≠ "" ↔
      ∃ p ∈ ps.getLast?, Conflicts A hostID p := by
  cases ps using List.reverseRecOn with
  | nil => simp [hl]
  | append_singleton ps p _ =>
    rw [List.foldl_concat]
    by_cases hc : Conflicts A hostID p
    · obtain ⟨msg, hne, hv⟩ := visit_of_conflicts (l := ps.foldl (visit A false hostID) l) hc
      simp [hv, hne, hc]
    · simp [visit_of_not_conflicts hlook hc, hc]

theorem mem_validInitiators_foldl (ps : List (String × String)) (n : String) :
    n ∈ (ps.foldl (visit A false hostID) l).validInitiators ↔
      n ∈ l.validInitiators ∨ ∃ p ∈ ps, p.1 = n ∧ ¬ Conflicts A hostID p := by
  induction ps using List.reverseRecOn with
  | nil => simp
  | append_singleton ps p ih =>
    rw [List.foldl_concat]
    by_cases hc : Conflicts A hostID p
    · obtain ⟨msg, -, hv⟩ := visit_of_conflicts (l := ps.foldl (visit A false hostID) l) hc
      simp only [hv, ih]
      grind
    · simp only [visit_of_not_conflicts hlook hc, mem_appendIfMissing, ih]
      grind

/-- The array's list of initiators is `ids`, and host names are not modified. -/
def outcome (A : InitiatorArray) (hostID : String) (nodeInitiators ids : List String) :
    List String × Option String :=
  verifyAndUpdateInitiatorsInADiffHost { A with initiatorIDs := .ok ids } false hostID
    nodeInitiators

theorem outcome_error :
    (outcome A hostID nodeInitiators ids).2 ≠ none ↔
      ∃ p ∈ (pairs nodeInitiators ids).getLast?, Conflicts A hostID p := by
  have he : _ ↔ ∃ p ∈ (pairs nodeInitiators ids).getLast?, Conflicts A hostID p :=
    errormsg_foldl (A := { A with initiatorIDs := .ok ids }) (l := ⟨[], "", false⟩) hlook _ rfl
  simp only [outcome, verifyAndUpdateInitiatorsInADiffHost, ← he]
  split
  case isTrue h => simpa using h
  case isFalse h =>
    rw [apply_ite Prod.snd]
    simpa using h

/-- Whether or not there is an error, those that match without a conflict are returned. -/
theorem mem_outcome (hnv : contains hostID nvmeTCPTransportProtocol = false) (n : String) :
    n ∈ (outcome A hostID nodeInitiators ids).1 ↔
      ∃ p ∈ pairs nodeInitiators ids, p.1 = n ∧ ¬ Conflicts A hostID p := by
  have hm : _ ↔ _ ∨ ∃ p ∈ pairs nodeInitiators ids, p.1 = n ∧ ¬ Conflicts A hostID p :=
    mem_validInitiators_foldl (A := { A with initiatorIDs := .ok ids }) (l := ⟨[], "", false⟩)
      hlook _ n
  simp only [outcome, verifyAndUpdateInitiatorsInADiffHost, hnv, Bool.false_eq_true, and_false,
    if_false, apply_ite Prod.fst, ite_self, hm, List.not_mem_nil, false_or]

end

theorem mem_pairs : pair ∈ pairs nodeInitiators ids ↔ ∃ n ∈ nodeInitiators,
    pair.2 ∈ ids ∧ contains pair.2 (trimPrefix n "0x") = true ∧ trimPrefix n "0x" = pair.1 := by
  obtain ⟨x, id⟩ := pair
  simp only [pairs, List.mem_flatMap, List.mem_map, List.mem_filter, Prod.mk.injEq]
  grind

/-- Every pair that matches is the last one in some order of the two lists. -/
theorem exists_getLast?_pairs (hp : pair ∈ pairs nodeInitiators ids) :
    ∃ nodes ids', nodes.Perm nodeInitiators ∧ ids'.Perm ids ∧
      (pairs nodes ids').getLast? = some pair := by
  obtain ⟨n, hn, hid, hc, ht⟩ := mem_pairs.mp hp
  refine ⟨nodeInitiators.erase n ++ [n], ids.erase pair.2 ++ [pair.2], ?_, ?_, ?_⟩
  · exact (List.perm_append_singleton _ _).trans (List.perm_cons_erase hn).symm
  · exact (List.perm_append_singleton _ _).trans (List.perm_cons_erase hid).symm
  · rw [ht] at hc
    simp [pairs, List.flatMap_append, List.filter_append, hc, ht]

/-- What is asked for: an error for a conflict and for nothing else, without one the initiators that
match, and neither depends on the order of the lists. -/
structure ConflictsReported (A : InitiatorArray) (hostID : String)
    (nodeInitiators ids : List String) : Prop where
  error_iff : (outcome A hostID nodeInitiators ids).2 ≠ none ↔
    ∃ p ∈ pairs nodeInitiators ids, Conflicts A hostID p
  returned : (¬ ∃ p ∈ pairs nodeInitiators ids, Conflicts A hostID p) → ∀ n,
    n ∈ (outcome A hostID nodeInitiators ids).1 ↔ ∃ p ∈ pairs nodeInitiators ids, p.1 = n
  error_perm : ∀ nodes ids', nodes.Perm nodeInitiators → ids'.Perm ids →
    ((outcome A hostID nodes ids').2 ≠ none ↔ (outcome A hostID nodeInitiators ids).2 ≠ none)
  returned_perm : ∀ nodes ids', nodes.Perm nodeInitiators → ids'.Perm ids → ∀ n,
    n ∈ (outcome A hostID nodes ids').1 ↔ n ∈ (outcome A hostID nodeInitiators ids).1

theorem mem_pairs_perm {nodes ids' : List String} (hn : nodes.Perm nodeInitiators)
    (hi : ids'.Perm ids) : pair ∈ pairs nodes ids' ↔ pair ∈ pairs nodeInitiators ids := by
  simp only [mem_pairs, hn.mem_iff, hi.mem_iff]

/-- If the pairs agree on whether they conflict, the last one speaks for all. -/
theorem exists_getLast?_iff
    (h : (∀ p ∈ pairs nodeInitiators ids, Conflicts A hostID p) ∨
      ∀ p ∈ pairs nodeInitiators ids, ¬ Conflicts A hostID p) :
    (∃ p ∈ (pairs nodeInitiators ids).getLast?, Conflicts A hostID p) ↔
      ∃ p ∈ pairs nodeInitiators ids, Conflicts A hostID p := by
  constructor
  · rintro ⟨p, hp, hc⟩
    exact ⟨p, List.mem_of_getLast? hp, hc⟩
  · rintro ⟨p, hp, hc⟩
    obtain hall | hno := h
    · have hne := List.ne_nil_of_mem hp
      exact ⟨_, List.getLast?_eq_some_getLast hne, hall _ (List.getLast_mem hne)⟩
    · exact absurd hc (hno p hp)

/-- **Conflicts.**  They are reported in every order of the lists exactly if all the pairs that
match conflict or none does. -/
theorem conflictsReported_iff (hlook : ∀ id, ∃ host, A.host id = .ok host)
    (hnv : contains hostID nvmeTCPTransportProtocol = false) :
    ConflictsReported A hostID nodeInitiators ids ↔
      (∀ p ∈ pairs nodeInitiators ids, Conflicts A hostID p) ∨
        ∀ p ∈ pairs nodeInitiators ids, ¬ Conflicts A hostID p := by
  constructor
  · intro h
    by_contra! hmix
    obtain ⟨⟨good, hg, hgood⟩, bad, hb, hbad⟩ := hmix
    -- with the pair that does not conflict at the end, there is no error
    obtain ⟨nodes, ids', hn, hi, hlast⟩ := exists_getLast?_pairs hg
    have herr := (h.error_perm nodes ids' hn hi).mpr (h.error_iff.mpr ⟨bad, hb, hbad⟩)
    obtain ⟨p, hp, hc⟩ := (outcome_error hlook).mp herr
    rw [hlast] at hp
    cases hp
    exact hgood hc
  · intro h
    refine ⟨?_, fun hno n => ?_, fun nodes ids' hn hi => ?_, fun nodes ids' hn hi n => ?_⟩
    · rw [outcome_error hlook, exists_getLast?_iff h]
    · rw [mem_outcome hlook hnv]
      push Not at hno
      exact exists_congr fun p => and_congr_right fun hp => and_iff_left (hno p hp)
    · have h' : (∀ p ∈ pairs nodes ids', Conflicts A hostID p) ∨
          ∀ p ∈ pairs nodes ids', ¬ Conflicts A hostID p := by
        simpa only [mem_pairs_perm hn hi] using h
      rw [outcome_error hlook, outcome_error hlook, exists_getLast?_iff h, exists_getLast?_iff h']
      simp only [mem_pairs_perm hn hi]
    · simp only [mem_outcome hlook hnv, mem_pairs_perm hn hi]

def twoHosts : InitiatorArray :=
  ⟨"000120000548", .ok ["FA-1D:4:10000090fa66060a", "FA-2D:4:10000090fa66060b"],
    fun id => .ok (if contains id "060a" then "other-host" else "node-1"), fun _ => none⟩

theorem twoHosts_conflicts :
    Conflicts twoHosts "node-1" ("10000090fa66060a", "FA-1D:4:10000090fa66060a") :=
  ⟨"other-host", rfl, by decide, by decide⟩

/-- Both initiators are of another host. -/
theorem conflictsReported_other : ConflictsReported twoHosts "node-2"
    ["0x10000090fa66060b", "0x10000090fa66060a"]
    ["FA-1D:4:10000090fa66060a", "FA-2D:4:10000090fa66060b"] := by
  refine (conflictsReported_iff (fun _ => ⟨_, rfl⟩) (by decide)).mpr (.inl fun p _ => ?_)
  refine ⟨_, rfl, ?_⟩
  split <;> decide

/-- The first initiator is of another host, and the second pair clears the message. -/
theorem conflict_forgotten : ¬ ∀ (A : InitiatorArray) hostID nodeInitiators ids,
    (∀ id, ∃ host, A.host id = .ok host) → contains hostID nvmeTCPTransportProtocol = false →
    ConflictsReported A hostID nodeInitiators ids := by
  intro h
  have hc := h twoHosts "node-1" ["0x10000090fa66060a", "0x10000090fa66060b"]
    ["FA-1D:4:10000090fa66060a", "FA-2D:4:10000090fa66060b"] (fun _ => ⟨_, rfl⟩) (by decide)
  exact hc.error_iff.mpr ⟨_, by decide +kernel, twoHosts_conflicts⟩ (by decide +kernel)

end PowerMaxCsi.Service.Initiators
