import PowerMaxCsi.Addons.Helpers

/-!
# Actions on a replicated storage group

`Failover`, `Failback`, `Reprotect` and `Swap` of `service/replication.go`.  Each reads the SRDF
state once and decides by it and by the side of the array.  The log lines are left out.
-/

namespace PowerMaxCsi.Service.SRDF

open Addons Prog

/-- `getStateAndSRDFPersonality`, for one of the two lists: the first entry that is not empty, and
whether another one follows it. -/
def uniform (entries : List String) : String × Bool :=
  match entries.dropWhile (· = "") with
  | [] => ("", false)
  | entry :: rest => (entry, rest.any (· ≠ entry))

def isValidStateForFailOver (state : String) : Bool := state = consistent ∨ state = synchronized

/-- What the operations return: whether nothing was to be done, the state that was read, and the
error. -/
structure ActionResult where
  inDesiredState : Bool
  psg : Option SGRDFInfo
  err : Option Failure
deriving DecidableEq, Repr

def ActionResult.failed (failure : Failure) : ActionResult := ⟨false, none, some failure⟩

def ActionResult.done : ActionResult := ⟨false, none, none⟩

def ActionResult.idempotent (psg : SGRDFInfo) : ActionResult := ⟨true, some psg, none⟩

def failedPrecondition (desc : String) : Failure := Addons.failedWith .failedPrecondition desc

section

variable (g : VolumeGroupID)

/-- An action, and what follows if it succeeds. -/
def perform (action : String) (force exemptConsistency : Bool) (failed : String → Failure)
    (next : AddonsProg ActionResult) : AddonsProg ActionResult := do
  match ← executeReplicationActionOnSG g.symID action g.sgName g.rdfGrpNo force exemptConsistency
      false with
  | .error err => return .failed (failed err.text)
  | .ok () => next

/-- The part that the operations share.  `mixed` is what is returned for mixed personalities. -/
def withRDFState (planned : Bool) (mixed : SGRDFInfo → Failure → ActionResult)
    (body : SGRDFInfo → String → Bool → AddonsProg ActionResult) : AddonsProg ActionResult := do
  match ← getStorageGroupRDFInfo g.symID g.sgName g.rdfGrpNo with
  | .error err => return .failed (internal ("Failed to fetch replication state for SG (" ++
      g.sgName ++ ") - Error (" ++ err.text ++ ")"))
  | .ok none => return .failed .panics
  | .ok (some psg) =>
    let (localPersonality, mixedPersonalities) := uniform psg.volumeRdfTypes
    let (state, mixedStates) := uniform psg.states
    if mixedPersonalities then
      return mixed psg (failedPrecondition ("SG Name: " ++ g.sgName ++ ", state: " ++
        state ++ " - mixed SRDF personalities. can't perform SRDF operations at SG level"))
    else if mixedStates ∧ planned then
      return .failed (failedPrecondition ("SG Name: " ++ g.sgName ++ ", states: " ++
        listText psg.states ++
        " - mixed SRDF states. can't perform planned SRDF operations at SG level"))
    else body psg state (localPersonality = "R1")

def notModified (operation err : String) : Failure :=
  internal (operation ++ ": Failed to modify SG (" ++ g.sgName ++ ") - Error (" ++ err ++ ")")

def undetermined (state : String) : ActionResult :=
  .failed (internal ("SG name: " ++ g.sgName ++ ",state: " ++ state ++
    ". driver unable to determine next SRDF action"))

def failover (toLocal unplanned withoutSwap : Bool) : AddonsProg ActionResult :=
  withRDFState g (!unplanned) (fun _ => .failed) fun psg state isR1 =>
    let perform := perform g
    let failed := notModified g "Fail over"
    if unplanned then
      if isR1 = toLocal then return .idempotent psg
      else perform "Failover" true true failed (return .done)
    else if withoutSwap then
      if isR1 ≠ toLocal then
        if state = consistent then perform "Failover" false true failed (return .done)
        else if state = failedOver then return .idempotent psg
        else
          -- the text has the error where it announces the state
          perform "Failover" unplanned true (fun err => failedPrecondition
            ("Unable to perform Fail over for SG Name: " ++ g.sgName ++ ", state: " ++ err ++
              ". An attempt failed with")) (return .done)
      else if isR1 then
        return .failed (failedPrecondition ("Can't perform planned failover without " ++
          "Swap to the target site as it is already R1"))
      else return .done
    else if isR1 = toLocal then
      if state = consistent ∨ state = suspended then return .idempotent psg
      else return undetermined g state
    else
      let swap := perform "Swap" unplanned true failed (return .done)
      if state = failedOver then swap
      else if isValidStateForFailOver state then perform "Failover" unplanned true failed swap
      else
        let code := if state = suspended ∨ state = "Invalid" then .aborted else .failedPrecondition
        return .failed (Addons.failedWith code ("SG name: " ++ g.sgName ++ ", state: " ++ state ++
          ", can't perform planned failover with Swap in this state"))

def failback (toLocal : Bool) : AddonsProg ActionResult :=
  withRDFState g true (fun _ => .failed) fun psg state isR1 =>
    if isR1 = toLocal then
      if state = consistent ∨ state = synchronized then return .idempotent psg
      else
        let failed (err : String) : Failure :=
          if state ≠ failedOver then
            failedPrecondition ("Incorrect state to perform failback for SG name: " ++
              g.sgName ++ ", state: " ++ state ++ ". Failed with error: " ++ err)
          else notModified g "Fail back" err
        perform g "Failback" false true failed (return .done)
    else return ⟨true, some psg, some (failedPrecondition
      "Can't perform planned failback to the target site as it is R2")⟩

def reprotect (toLocal : Bool) : AddonsProg ActionResult :=
  withRDFState g true (fun psg failure => ⟨true, some psg, some failure⟩)
    fun psg state isR1 =>
    if isR1 = toLocal then
      if state = consistent ∨ state = synchronized then return .idempotent psg
      else do
        match ← executeReplicationActionOnSG g.symID "Resume" g.sgName g.rdfGrpNo true false
            false with
        | .ok () => return .done
        | .error err =>
          perform g "Establish" true false (fun err1 => internal (
            "Both Resume & Establish failed for SG " ++ g.sgName ++ " with errors - " ++ err.text ++
            " & " ++ err1)) (return .done)
    else return ⟨true, some psg, some (failedPrecondition ("SG Name: " ++ g.sgName ++
      ", state: " ++ state ++ " - Can't reprotect volumes at site which is R2"))⟩

def swap (toLocal : Bool) : AddonsProg ActionResult :=
  withRDFState g true (fun _ => .failed) fun psg state isR1 =>
    if state = consistent ∨ state = synchronized then
      return .failed (failedPrecondition ("SG Name: " ++ g.sgName ++ ", states: " ++
        listText psg.states ++ " - Incorrect SRDF state to perform a Swap"))
    else if isR1 ≠ toLocal then
      perform g "Swap" false false (notModified g "Swap") (return .done)
    else if state = suspended then return .idempotent psg
    else return undetermined g state

inductive Operation where
  | failover (toLocal unplanned withoutSwap : Bool)
  | failback (toLocal : Bool)
  | reprotect (toLocal : Bool)
  | swap (toLocal : Bool)
deriving DecidableEq, Repr

def Operation.run : Operation → AddonsProg ActionResult
  | .failover toLocal unplanned withoutSwap =>
    SRDF.failover g toLocal unplanned withoutSwap
  | .failback toLocal => SRDF.failback g toLocal
  | .reprotect toLocal => SRDF.reprotect g toLocal
  | .swap toLocal => SRDF.swap g toLocal

end

def isR1 (psg : SGRDFInfo) : Bool := (uniform psg.volumeRdfTypes).1 = "R1"

def Operation.toLocal : Operation → Bool
  | .failover toLocal _ _ | .failback toLocal | .reprotect toLocal | .swap toLocal => toLocal

/-- A failover or a swap is for the side that is not R1, everything else for the one that is. -/
def Operation.Directs (op : Operation) (psg : SGRDFInfo) (action : String) : Prop :=
  action ∈ ["Failover", "Swap"] ↔ isR1 psg ≠ op.toLocal

/-- A planned failover without swap to the remote side, although the local side is not R1. -/
def Operation.Void (op : Operation) (psg : SGRDFInfo) : Prop :=
  op = .failover false false true ∧ isR1 psg = false

section

variable (g : VolumeGroupID) (op : Operation)

def Read (h : AddonsHistory) (psg : SGRDFInfo) : Prop :=
  ⟨.getStorageGroupRDFInfo g.symID g.sgName g.rdfGrpNo, .ok (some psg)⟩ ∈ h

/-- The last call is an action on the group that succeeds. -/
def Acted (h : AddonsHistory) : Prop :=
  ∃ action force exemptConsistency, h.getLast? = some ⟨.executeReplicationActionOnSG g.symID action
    g.sgName g.rdfGrpNo force exemptConsistency false, .ok ()⟩

/-- The state is read, or the action goes with the side of the array. -/
def Fits (h : AddonsHistory) (c : AddonsCall) : Prop :=
  c = .getStorageGroupRDFInfo g.symID g.sgName g.rdfGrpNo ∨
  ∃ psg action force exemptConsistency, Read g h psg ∧ (uniform psg.volumeRdfTypes).2 = false ∧
    op.Directs psg action ∧ c = .executeReplicationActionOnSG g.symID action g.sgName g.rdfGrpNo
      force exemptConsistency false

/-- What was to be done was done, and nothing else, unless the operation is void. -/
def Achieves (h : AddonsHistory) (r : ActionResult) : Prop :=
  r.err = none → ∃ psg, Read g h psg ∧ (Acted g h ↔ r.inDesiredState = false ∧ ¬ op.Void psg)

abbrev Keeps (h : AddonsHistory) (p : AddonsProg ActionResult) : Prop :=
  Safe (Fits g op) (Achieves g op) h p

variable {g op} {h : AddonsHistory} {psg : SGRDFInfo}

theorem withRDFState_keeps {planned : Bool} {mixed : SGRDFInfo → Failure → ActionResult}
    {body : SGRDFInfo → String → Bool → AddonsProg ActionResult}
    (hm : ∀ psg failure, (mixed psg failure).err ≠ none)
    (hb : ∀ h psg, Read g h psg → (uniform psg.volumeRdfTypes).2 = false → ¬ Acted g h →
      Keeps g op h (body psg (uniform psg.states).1 (isR1 psg))) :
    Keeps g op [] (withRDFState g planned mixed body) := by
  refine ⟨.inl rfl, ?_⟩
  rintro (err | _ | psg)
  · exact nofun
  · exact nofun
  · simp only [ret_bind]
    refine .ite (fun _ he => absurd he (hm _ _)) fun hp => .ite (fun _ => nofun) fun _ => ?_
    refine hb _ psg (List.mem_singleton_self _) (eq_false_of_ne_true hp) ?_
    rintro ⟨_, _, _, ⟨⟩⟩

theorem idempotent_keeps (hr : Read g h psg) (hn : ¬ Acted g h) :
    Keeps g op h (return .idempotent psg) :=
  fun _ => ⟨psg, hr, iff_of_false hn nofun⟩

section

variable {action : String} {force exemptConsistency : Bool} {failed : String → Failure}
  (hr : Read g h psg) (hu : (uniform psg.volumeRdfTypes).2 = false) (hd : op.Directs psg action)

include hr hu hd

theorem fits_act : Fits g op h (.executeReplicationActionOnSG g.symID action g.sgName g.rdfGrpNo
    force exemptConsistency false) :=
  .inr ⟨psg, action, force, exemptConsistency, hr, hu, hd, rfl⟩

theorem perform_keeps {next : AddonsProg ActionResult}
    (hn : ∀ h', Read g h' psg → Acted g h' → Keeps g op h' next) :
    Keeps g op h (perform g action force exemptConsistency failed next) := by
  refine ⟨fits_act hr hu hd, ?_⟩
  rintro (err | ⟨⟩)
  · exact nofun
  · exact hn _ (List.mem_append_left _ hr)
      ⟨action, force, exemptConsistency, List.getLast?_concat⟩

theorem perform_done (hv : ¬ op.Void psg) :
    Keeps g op h (perform g action force exemptConsistency failed (return .done)) :=
  perform_keeps hr hu hd fun _ hr' ha _ => ⟨psg, hr', iff_of_true ha ⟨rfl, hv⟩⟩

end

theorem failover_keeps (toLocal unplanned withoutSwap : Bool) :
    Keeps g (.failover toLocal unplanned withoutSwap) []
      (failover g toLocal unplanned withoutSwap) := by
  refine withRDFState_keeps nofun fun h psg hr hu hn => ?_
  generalize hop : Operation.failover toLocal unplanned withoutSwap = op
  have hv (hne : isR1 psg ≠ toLocal) : ¬ op.Void psg := by
    rintro ⟨rfl, hf⟩
    cases hop
    exact hne hf
  have hf (hne : isR1 psg ≠ toLocal) : op.Directs psg "Failover" :=
    iff_of_true (by decide) (hop ▸ hne)
  have hs (hne : isR1 psg ≠ toLocal) : op.Directs psg "Swap" :=
    iff_of_true (by decide) (hop ▸ hne)
  dsimp only
  split
  · exact .ite (fun _ => idempotent_keeps hr hn) fun hne => perform_done hr hu (hf hne) (hv hne)
  split
  · refine .ite (fun hne => ?_) fun heq => ?_
    · refine .ite (fun _ => perform_done hr hu (hf hne) (hv hne)) fun _ => ?_
      exact .ite (fun _ => idempotent_keeps hr hn) fun _ => perform_done hr hu (hf hne) (hv hne)
    · -- the operation is void: nothing is done, and no error is returned
      refine .ite (fun _ => nofun) fun hR1 _ => ⟨psg, hr, iff_of_false hn fun ha => ha.2 ?_⟩
      simp_all [Operation.Void]
  refine .ite (fun _ => .ite (fun _ => idempotent_keeps hr hn) fun _ => nofun) fun hne => ?_
  refine .ite (fun _ => perform_done hr hu (hs hne) (hv hne)) fun _ => ?_
  refine .ite (fun _ => ?_) fun _ => nofun
  exact perform_keeps hr hu (hf hne) fun h' hr' _ => perform_done hr' hu (hs hne) (hv hne)

variable (toLocal : Bool)

theorem failback_keeps : Keeps g (.failback toLocal) [] (failback g toLocal) := by
  refine withRDFState_keeps nofun fun h psg hr hu hn => .ite (fun heq => ?_) fun _ => nofun
  refine .ite (fun _ => idempotent_keeps hr hn) fun _ => perform_done hr hu ?_ nofun
  exact iff_of_false (by decide) (not_not_intro heq)

theorem reprotect_keeps : Keeps g (.reprotect toLocal) [] (reprotect g toLocal) := by
  refine withRDFState_keeps nofun fun h psg hr hu hn => .ite (fun heq => ?_) fun _ => nofun
  have hd {action : String} (hn : action ∉ ["Failover", "Swap"]) :
      (Operation.reprotect toLocal).Directs psg action := iff_of_false hn (not_not_intro heq)
  refine .ite (fun _ => idempotent_keeps hr hn) fun _ => ?_
  refine ⟨fits_act hr hu (@hd "Resume" (by decide)), ?_⟩
  rintro (err | ⟨⟩)
  · simp only [ret_bind]
    exact perform_done (List.mem_append_left _ hr) hu (@hd "Establish" (by decide)) nofun
  · exact fun _ => ⟨psg, List.mem_append_left _ hr,
      iff_of_true ⟨_, _, _, List.getLast?_concat⟩ ⟨rfl, nofun⟩⟩

theorem swap_keeps : Keeps g (.swap toLocal) [] (swap g toLocal) := by
  refine withRDFState_keeps nofun fun h psg hr hu hn => .ite (fun _ => nofun) fun _ => ?_
  refine .ite (fun hne => perform_done hr hu (iff_of_true (by decide) hne) nofun) fun _ => ?_
  exact .ite (fun _ => idempotent_keeps hr hn) fun _ => nofun

theorem run_keeps (op : Operation) : Keeps g op [] (op.run g) := by
  cases op with
  | failover toLocal unplanned withoutSwap => exact failover_keeps ..
  | failback toLocal => exact failback_keeps toLocal
  | reprotect toLocal => exact reprotect_keeps toLocal
  | swap toLocal => exact swap_keeps toLocal

end

/-- **Success means action.**  An operation that succeeds has ended with a successful action on the
group exactly if it did not find it in the desired state, unless it is void. -/
theorem acted_iff (g : VolumeGroupID) (op : Operation) (h : AddonsHistory) (r : ActionResult)
    (he : Exec (op.run g) h r) (hs : r.err = none) :
    ∃ psg, Read g h psg ∧ (Acted g h ↔ r.inDesiredState = false ∧ ¬ op.Void psg) :=
  (run_keeps op).exec he hs

def r2Group : VolumeGroupID := ⟨"000001", "sg", "7"⟩

def unplannedRun : AddonsHistory :=
  [⟨.getStorageGroupRDFInfo "000001" "sg" "7", .ok (some ⟨["Consistent"], ["R2"]⟩)⟩,
    ⟨.executeReplicationActionOnSG "000001" "Failover" "sg" "7" true true false, .ok ()⟩]

theorem acted_unplannedRun : Acted r2Group unplannedRun := by
  obtain ⟨psg, -, hacted⟩ := acted_iff r2Group (.failover true true false) unplannedRun .done
    (exec_of_follow (by decide +kernel)) rfl
  exact hacted.mpr ⟨rfl, nofun⟩

/-- **The direction of actions.**  Every call reads the state, or is an action on the group that
goes with the side of the array that was read. -/
theorem action_fits (g : VolumeGroupID) (op : Operation) (h : AddonsHistory) (c : AddonsCall)
    (hc : Issues (op.run g) h c) : Fits g op h c :=
  (run_keeps op).issues hc

theorem fits_unplannedRun : Fits r2Group (.failover true true false) (unplannedRun.take 1)
    (.executeReplicationActionOnSG "000001" "Failover" "sg" "7" true true false) :=
  action_fits _ _ _ _ (issues_of_follow (by decide +kernel))

end PowerMaxCsi.Service.SRDF
