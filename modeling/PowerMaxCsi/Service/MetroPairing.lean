import PowerMaxCsi.Service.CreateMetroVolume

/-!
# The pairing of a degraded volume

`reconcileMetroPairing` and `setupDegradedVolumeAsMetro` of `service/service.go`.  The remote device
is looked for, and created, under the ID of the local one.
-/

namespace PowerMaxCsi.Service

open Strings Prog

def rdfSplit : String := "Split"

def rdfInvalid : String := "Invalid"

def syncInProgress : String := "SyncInProg"

/-- What the setup is about: the operation, and what was parsed from its handle. -/
structure SetupArgs where
  op : MetroPairingOp
  (localSymID localDevID remoteSymID sgName : String)
deriving DecidableEq, Repr

namespace SetupArgs

def remoteSGName (a : SetupArgs) : String :=
  if a.op.remoteStorageGroupName = "" then csiRepSGPrefix ++ a.op.remoteRDFGroupNo ++ "-" ++ metro
  else a.op.remoteStorageGroupName

def remoteVolID (a : SetupArgs) : String := a.localDevID

end SetupArgs

structure SetupFlags where
  (createdRemoteSG createdRemoteVolume : Bool)
deriving DecidableEq, Repr

def rollback (a : SetupArgs) (flags : SetupFlags) : RepProg Unit := do
  if flags.createdRemoteVolume then
    let _ ← Prog.ask (RepCall.deleteVolume a.remoteSymID a.localDevID)
  if flags.createdRemoteSG then
    let _ ← Prog.ask (RepCall.deleteStorageGroup a.remoteSymID a.remoteSGName)

def setupFail (a : SetupArgs) (flags : SetupFlags) (text : String) :
    RepProg (Except Failure Unit) := do
  rollback a flags
  return .error (.failed (.plain ("setupDegradedVolumeAsMetro: " ++ text)))

def setupFailWith (a : SetupArgs) (flags : SetupFlags) (text : String) :
    Failure → RepProg (Except Failure Unit)
  | .panics => return .error .panics
  | .failed err => setupFail a flags (text ++ err.text)

def verifyPair (a : SetupArgs) (flags : SetupFlags) : RepProg (Except Failure Unit) := do
  match ← Prog.ask (RepCall.getStorageGroupRDFInfo a.localSymID a.sgName a.op.rdfGroupNo) with
  | .error err => setupFail a flags ("post-setup GetStorageGroupRDFInfo failed: " ++ err.text)
  | .ok verifyRDF =>
    let postState := verifyRDF.states.headD ""
    if postState ≠ activeActive ∧ postState ≠ activeBias then
      setupFail a flags ("setup completed but SG " ++ a.sgName ++ " is in state \"" ++ postState ++
        "\" (expected ActiveActive/ActiveBias)")
    else return .ok ()

def pairDevices (a : SetupArgs) (flags : SetupFlags) : RepProg (Except Failure Unit) := do
  match ← establish a.localSymID a.sgName a.op.rdfGroupNo false with
  | .error failure => setupFailWith a flags "failed to establish RDF pair: " failure
  | .ok () =>
    match ← protectStorageGroup a.localSymID a.remoteSymID a.sgName a.remoteSGName ""
        a.op.rdfGroupNo a.op.replicationMode false with
    | .error failure => setupFailWith a flags "failed to protect local storage group: " failure
    | .ok () =>
      match ← establish a.localSymID a.sgName a.op.rdfGroupNo false with
      | .error failure =>
        setupFailWith a flags "failed to establish Metro relationship: " failure
      | .ok () => verifyPair a flags

def setupDevice (a : SetupArgs) (createdRemoteSG : Bool) : RepProg (Except Failure Unit) := do
  if a.op.requiredCylinders ≤ 0 then
    setupFail a ⟨createdRemoteSG, false⟩ ("missing required cylinder count for volume " ++
      a.op.volumeID)
  else
    match ← Prog.ask (RepCall.getVolumeByID a.remoteSymID a.remoteVolID) with
    | .ok _ => pairDevices a ⟨createdRemoteSG, false⟩
    | .error getErr =>
      if !contains (toLower getErr.text) "not found" then
        setupFail a ⟨createdRemoteSG, false⟩ ("failed to check remote volume " ++ a.remoteSymID ++
          "/" ++ a.remoteVolID ++ ": " ++ getErr.text)
      else
        match ← Prog.ask (RepCall.createVolumeInStorageGroupS a.remoteSymID a.remoteSGName
            a.remoteVolID a.op.requiredCylinders) with
        | .error createVolErr =>
          setupFail a ⟨createdRemoteSG, false⟩ ("failed to create remote volume " ++
            a.remoteVolID ++ " in SG " ++ a.remoteSGName ++ ": " ++ createVolErr.text)
        | .ok _ => pairDevices a ⟨createdRemoteSG, true⟩

def setupDegradedVolumeAsMetro (a : SetupArgs) : RepProg (Except Failure Unit) := do
  match ← Prog.ask (RepCall.getStorageGroup a.remoteSymID a.remoteSGName) with
  | .ok _ => setupDevice a false
  | .error _ =>
    match ← Prog.ask (RepCall.createStorageGroup a.remoteSymID a.remoteSGName a.op.remoteSRP
        a.op.remoteServiceLevel false none) with
    | .error createErr => return .error (.failed (.plain (
        "setupDegradedVolumeAsMetro: failed to create remote storage group " ++ a.remoteSGName ++
          ": " ++ createErr.text)))
    | .ok () => setupDevice a true

inductive PairingResult where
  | done
  | failed (err : String)
  | unsafeState (state : String)
  | panics
deriving DecidableEq, Repr

def PairingResult.ofFailure (text : String) : Failure → PairingResult
  | .panics => .panics
  | .failed err => .failed (text ++ err.text)

def pairingSGName (op : MetroPairingOp) : Option String :=
  if op.storageGroupName ≠ "" then some op.storageGroupName
  else if op.rdfGroupNo = "" then none
  else some (csiRepSGPrefix ++ op.rdfGroupNo ++ "-" ++ metro)

def reestablish (op : MetroPairingOp) (localSymID sgName : String) : RepProg PairingResult := do
  match ← establish localSymID sgName op.rdfGroupNo false with
  | .error failure =>
    return .ofFailure ("reconcileMetroPairing: Establish(" ++ sgName ++ "): ") failure
  | .ok () =>
    match ← Prog.ask (RepCall.getStorageGroupRDFInfo localSymID sgName op.rdfGroupNo) with
    | .error err => return .failed (
        "reconcileMetroPairing: post-Establish GetStorageGroupRDFInfo(" ++ sgName ++ "): " ++
          err.text)
    | .ok verifyRDF =>
      let postState := verifyRDF.states.headD ""
      if postState ≠ activeActive ∧ postState ≠ activeBias then
        return .failed ("reconcileMetroPairing: Establish completed but SG " ++ sgName ++
          " is in state \"" ++ postState ++ "\" (expected ActiveActive/ActiveBias) — will retry")
      else return .done

def reconcileMetroPairing (op : MetroPairingOp) : RepProg PairingResult := do
  match parseCsiID op.volumeID with
  | .panics => return .panics
  | .malformed text =>
    return .failed ("reconcileMetroPairing: parseCsiID(" ++ op.volumeID ++ "): " ++ text)
  | .ok csiID =>
    match ← Prog.ask (RepCall.getPowerMaxClient csiID.arrayID csiID.remoteSymID) with
    | .error err => return .failed ("reconcileMetroPairing: GetPowerMaxClient(" ++
        csiID.arrayID ++ "): " ++ err)
    | .ok () =>
      match pairingSGName op with
      | none => return .failed (
          "reconcileMetroPairing: both StorageGroupName and RDFGroupNo are empty for volume " ++
            op.volumeID)
      | some sgName =>
        match ← Prog.ask (RepCall.getStorageGroupRDFInfo csiID.arrayID sgName
            op.rdfGroupNo) with
        | .error stateErr =>
          if isConnectivityError stateErr.text stateErr.timeout then
            return .failed ("reconcileMetroPairing: array unreachable, will retry: " ++
              stateErr.text)
          else
            match ← setupDegradedVolumeAsMetro
                ⟨op, csiID.arrayID, csiID.devID, csiID.remoteSymID, sgName⟩ with
            | .error failure => return .ofFailure "" failure
            | .ok () => return .done
        | .ok sgRDF =>
          let rdfState := sgRDF.states.headD ""
          if rdfState = activeActive ∨ rdfState = activeBias then return .done
          else if rdfState = syncInProgress then
            return .failed ("reconcileMetroPairing: SRDF SG " ++ sgName ++
              " is in transitional state \"" ++ rdfState ++ "\" — will retry")
          else if rdfState = rdfSplit ∨ rdfState = rdfInvalid ∨ rdfState = "Mixed" ∨
              rdfState = "Unknown" ∨ rdfState = "" then
            return .unsafeState rdfState
          else reestablish op csiID.arrayID sgName

/-! ## What a successful pairing has seen -/

/-- The last call has found the pairs of the group active. -/
def FoundActive (symID sgName rdfGrpNo : String) (h : RepHistory) : Prop :=
  ∃ psg : SGRDFInfo, h.getLast? = some ⟨.getStorageGroupRDFInfo symID sgName rdfGrpNo, .ok psg⟩ ∧
    (psg.states.headD "" = activeActive ∨ psg.states.headD "" = activeBias)

section

variable {a : SetupArgs} {flags : SetupFlags} {text : String} {h : RepHistory}

/-- A setup that succeeds has found the pair active. -/
abbrev SetupVerified (a : SetupArgs) (h : RepHistory) (p : RepProg (Except Failure Unit)) : Prop :=
  Safe (fun _ _ => True)
    (fun h r => r = .ok () → FoundActive a.localSymID a.sgName a.op.rdfGroupNo h) h p

theorem setupFail_verified : SetupVerified a h (setupFail a flags text) :=
  (Safe.any _).bind fun _ _ _ _ => nofun

theorem setupFailWith_verified {failure : Failure} :
    SetupVerified a h (setupFailWith a flags text failure) := by
  cases failure with
  | panics => exact nofun
  | failed err => exact setupFail_verified

theorem foundActive_concat {symID sgName rdfGrpNo : String} {psg : SGRDFInfo}
    (hs : ¬ (psg.states.headD "" ≠ activeActive ∧ psg.states.headD "" ≠ activeBias)) :
    FoundActive symID sgName rdfGrpNo
      (h ++ [⟨.getStorageGroupRDFInfo symID sgName rdfGrpNo, .ok psg⟩]) := by
  refine ⟨psg, List.getLast?_concat, ?_⟩
  rwa [← not_ne_iff, ← not_ne_iff (b := activeBias), ← not_and_or]

theorem pairDevices_verified : SetupVerified a h (pairDevices a flags) := by
  refine (Safe.any _).bind ?_
  rintro h₁ (failure | _) - -
  · exact setupFailWith_verified
  refine (Safe.any _).bind ?_
  rintro h₂ (failure | _) - -
  · exact setupFailWith_verified
  refine (Safe.any _).bind ?_
  rintro h₃ (failure | _) - -
  · exact setupFailWith_verified
  refine ⟨trivial, ?_⟩
  rintro (err | verifyRDF)
  · exact setupFail_verified
  · exact .ite (fun _ => setupFail_verified) fun hs _ => foundActive_concat hs

theorem setupDevice_verified (createdRemoteSG : Bool) :
    SetupVerified a h (setupDevice a createdRemoteSG) := by
  refine .ite (fun _ => setupFail_verified) fun _ => ⟨trivial, ?_⟩
  rintro (getErr | _)
  · refine .ite (fun _ => setupFail_verified) fun _ => ⟨trivial, ?_⟩
    rintro (createVolErr | _)
    · exact setupFail_verified
    · exact pairDevices_verified
  · exact pairDevices_verified

theorem setupDegradedVolumeAsMetro_verified :
    SetupVerified a h (setupDegradedVolumeAsMetro a) := by
  refine ⟨trivial, ?_⟩
  rintro (_ | _)
  · refine ⟨trivial, ?_⟩
    rintro (createErr | _)
    · exact nofun
    · exact setupDevice_verified true
  · exact setupDevice_verified false

end

/-- What the result of `reconcileMetroPairing` tells: the pair was found active, or it was left
alone in a state that is not safe. -/
structure Reconciled (op : MetroPairingOp) (h : RepHistory) (r : PairingResult) : Prop where
  active : r = .done → ∃ csiID sgName, parseCsiID op.volumeID = .ok csiID ∧
    pairingSGName op = some sgName ∧ FoundActive csiID.arrayID sgName op.rdfGroupNo h
  untouched : ∀ state, r = .unsafeState state → ∃ csiID sgName, ∃ psg : SGRDFInfo,
    parseCsiID op.volumeID = .ok csiID ∧ pairingSGName op = some sgName ∧
    state = psg.states.headD "" ∧ h = [⟨.getPowerMaxClient csiID.arrayID csiID.remoteSymID, .ok ()⟩,
      ⟨.getStorageGroupRDFInfo csiID.arrayID sgName op.rdfGroupNo, .ok psg⟩]

theorem Reconciled.of_failed {op : MetroPairingOp} {h : RepHistory} {r : PairingResult}
    (hd : r ≠ .done) (hu : ∀ state, r ≠ .unsafeState state) : Reconciled op h r :=
  ⟨fun heq => absurd heq hd, fun state heq => absurd heq (hu state)⟩

theorem ofFailure_reconciled {op : MetroPairingOp} {h : RepHistory} (text : String)
    (failure : Failure) : Reconciled op h (.ofFailure text failure) := by
  cases failure <;> exact .of_failed nofun nofun

theorem reconcileMetroPairing_reconciled (op : MetroPairingOp) :
    Safe (fun _ _ => True) (Reconciled op) [] (reconcileMetroPairing op) := by
  unfold reconcileMetroPairing
  cases hp : parseCsiID op.volumeID with
  | panics => exact .of_failed nofun nofun
  | malformed text => exact .of_failed nofun nofun
  | ok csiID =>
    refine ⟨trivial, ?_⟩
    rintro (err | _)
    · exact .of_failed nofun nofun
    cases hn : pairingSGName op with
    | none => exact .of_failed nofun nofun
    | some sgName =>
      have hdone {h : RepHistory} (hf : FoundActive csiID.arrayID sgName op.rdfGroupNo h) :
          Reconciled op h .done :=
        ⟨fun _ => ⟨csiID, sgName, hp, hn, hf⟩, nofun⟩
      refine ⟨trivial, ?_⟩
      rintro (stateErr | sgRDF)
      · refine .ite (fun _ => .of_failed nofun nofun) fun _ =>
          setupDegradedVolumeAsMetro_verified.bind ?_
        rintro h₁ (failure | _) - hv
        · exact ofFailure_reconciled _ failure
        · exact hdone (hv rfl)
      · refine .ite (fun hs => hdone ⟨sgRDF, rfl, hs⟩) fun _ => .ite
          (fun _ => .of_failed nofun nofun) fun _ => .ite (fun _ => ?_) fun _ => ?_
        · refine ⟨nofun, ?_⟩
          rintro state ⟨⟩
          exact ⟨csiID, sgName, sgRDF, hp, hn, rfl, rfl⟩
        -- the pair is established again, and looked at
        refine (Safe.any _).bind ?_
        rintro h₁ (failure | _) - -
        · exact ofFailure_reconciled _ failure
        refine ⟨trivial, ?_⟩
        rintro (err | verifyRDF)
        · exact .of_failed nofun nofun
        · exact .ite (fun _ => .of_failed nofun nofun) fun hs => hdone (foundActive_concat hs)

/-- **Pairings are verified.**  `reconcileMetroPairing` reports a pairing as done only if its last
call has found the group active, and leaves a group in a state that is not safe alone. -/
theorem pairing_reconciled (op : MetroPairingOp) (h : RepHistory) (r : PairingResult)
    (he : Exec (reconcileMetroPairing op) h r) : Reconciled op h r :=
  (reconcileMetroPairing_reconciled op).exec he

def biasedOp : MetroPairingOp :=
  ⟨"csi-ABC-pvc-000197900046:000197900047-00A1:00B1", "000197900047", "7", "7", "", "", "SRP_1",
    "Diamond", 547, "csi-ABC-pvc", "", metro, "000197900046", "csi-powermax", ""⟩

theorem pairing_reconciled_bias : Reconciled biasedOp
    [⟨.getPowerMaxClient "000197900046" "000197900047", .ok ()⟩,
      ⟨.getStorageGroupRDFInfo "000197900046" "csi-rep-sg-7-METRO" "7", .ok ⟨[activeBias], ["R1"]⟩⟩]
    .done :=
  pairing_reconciled _ _ _ (exec_of_follow (by decide +kernel))

end PowerMaxCsi.Service
