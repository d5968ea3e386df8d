import PowerMaxCsi.Service.PublishContext

/-!
# Targets of a node

`NodeStageVolume` asks for the targets of each leg; those for iSCSI are looked up in the masking
view that was read before, then among all targets of the array.
-/

namespace PowerMaxCsi.Service.Targets

open Prog Strings

/-- What `symToMaskingViewTargets` has for an array. -/
inductive CachedTargets where
  | targets (targets : List TargetInfo)
  | otherType
deriving DecidableEq

def targetsNamed (arrayTarget : String) (targets : List TargetInfo) : List TargetInfo :=
  targets.filter (·.target = arrayTarget)

/-- The loop over the targets if there is a masking view in the cache.  `found` is not reset. -/
def cachedTargetsFrom (targets allTargets : List TargetInfo) : Bool → List String → List TargetInfo
  | _, [] => []
  | found, arrayTarget :: rest =>
    let cached := targetsNamed arrayTarget targets
    let found := found || !cached.isEmpty
    if found then cached ++ cachedTargetsFrom targets allTargets found rest
    else
      let all := targetsNamed arrayTarget allTargets
      if all.isEmpty then [] else all ++ cachedTargetsFrom targets allTargets found rest

/-- The arguments are the answers of `getISCSITargets`, `GetInitiators` and
`getAndConfigureMaskingViewTargets`. -/
def getAndConfigureArrayISCSITargets (arrayTargets : List String) (allTargets : List TargetInfo)
    (initiators : Except String (List String)) (cached : Option CachedTargets)
    (maskingViewTargets : List String → List TargetInfo) : List TargetInfo :=
  match initiators, cached with
  | .error _, _ => []
  | .ok _, some (.targets targets) => cachedTargetsFrom targets allTargets false arrayTargets
  | .ok iqns, _ => arrayTargets.flatMap (targetsNamed · (maskingViewTargets iqns))

variable {targets allTargets : List TargetInfo} {arrayTargets : List String}

def Lists (targets : List TargetInfo) (arrayTarget : String) : Prop :=
  ∃ t ∈ targets, t.target = arrayTarget

instance (targets : List TargetInfo) (a : String) : Decidable (Lists targets a) :=
  inferInstanceAs (Decidable (∃ t ∈ targets, t.target = a))

/-- After `pre` the loop is still looking: up to the first target in the cache all are discovered. -/
def Reached (targets allTargets : List TargetInfo) (pre : List String) : Prop :=
  ∀ u ∈ pre.takeWhile (fun u => ¬ Lists targets u), Lists allTargets u

theorem targetsNamed_isEmpty {a : String} :
    (targetsNamed a targets).isEmpty = true ↔ ¬ Lists targets a := by
  simp [targetsNamed, Lists]

theorem lists_targetsNamed {a t : String} :
    Lists (targetsNamed a targets) t ↔ t = a ∧ Lists targets t := by
  simp only [Lists, targetsNamed, List.mem_filter, decide_eq_true_eq]
  grind

theorem lists_append {ts us : List TargetInfo} {a : String} :
    Lists (ts ++ us) a ↔ Lists ts a ∨ Lists us a := by
  simp only [Lists, List.mem_append, or_and_right, exists_or]

theorem reached_cons_of_cached {a : String} {pre : List String} (ha : Lists targets a) :
    Reached targets allTargets (a :: pre) := by
  simp [Reached, ha]

theorem reached_cons_of_not_cached {a : String} {pre : List String} (ha : ¬ Lists targets a) :
    Reached targets allTargets (a :: pre) ↔
      Lists allTargets a ∧ Reached targets allTargets pre := by
  simp [Reached, ha]

/-- After a hit only the cache is looked at. -/
theorem lists_of_found {t : String} :
    Lists (cachedTargetsFrom targets allTargets true arrayTargets) t ↔
      t ∈ arrayTargets ∧ Lists targets t := by
  induction arrayTargets with
  | nil => simp [cachedTargetsFrom, Lists]
  | cons a rest ih =>
    simp only [cachedTargetsFrom, Bool.true_or, if_true, lists_append, lists_targetsNamed, ih,
      List.mem_cons, or_and_right]

theorem cachedTargetsFrom_cached {a : String} {rest : List String} (hc : Lists targets a) :
    cachedTargetsFrom targets allTargets false (a :: rest) =
      targetsNamed a targets ++ cachedTargetsFrom targets allTargets true rest := by
  have he : (targetsNamed a targets).isEmpty = false := by
    simpa using mt targetsNamed_isEmpty.mp (not_not_intro hc)
  simp [cachedTargetsFrom, he]

theorem cachedTargetsFrom_not_cached {a : String} {rest : List String} (hc : ¬ Lists targets a) :
    cachedTargetsFrom targets allTargets false (a :: rest) =
      if Lists allTargets a then
        targetsNamed a allTargets ++ cachedTargetsFrom targets allTargets false rest
      else [] := by
  have he := targetsNamed_isEmpty.mpr hc
  by_cases ha : Lists allTargets a
  · have hne : (targetsNamed a allTargets).isEmpty = false := by
      simpa using mt targetsNamed_isEmpty.mp (not_not_intro ha)
    simp [cachedTargetsFrom, he, ha, hne]
  · simp [cachedTargetsFrom, he, ha, targetsNamed_isEmpty.mpr ha]

/-- The entry of a target at its first place in the list: the loop has to get there, and then to
look where the target is. -/
theorem lists_cachedTargetsFrom {pre post : List String} {t : String} (ht : t ∉ pre)
    (hl : Lists targets t ∨ Lists allTargets t) :
    Lists (cachedTargetsFrom targets allTargets false (pre ++ t :: post)) t ↔
      Reached targets allTargets pre ∧ (Lists targets t ∨ ∀ u ∈ pre, ¬ Lists targets u) := by
  induction pre with
  | nil =>
    refine iff_of_true ?_ (by simp [Reached])
    by_cases hc : Lists targets t
    · simp [cachedTargetsFrom_cached, lists_append, lists_targetsNamed, hc]
    · have ha := hl.resolve_left hc
      simp [cachedTargetsFrom_not_cached, lists_append, lists_targetsNamed, hc, ha]
  | cons a pre ih =>
    obtain ⟨hne, ht⟩ : t ≠ a ∧ t ∉ pre := by simpa using ht
    rw [List.cons_append]
    by_cases hc : Lists targets a
    · simp [cachedTargetsFrom_cached hc, lists_append, lists_targetsNamed, hne, lists_of_found,
        reached_cons_of_cached hc, hc]
    · rw [cachedTargetsFrom_not_cached hc, reached_cons_of_not_cached hc]
      by_cases ha : Lists allTargets a
      · simp [lists_append, lists_targetsNamed, hc, ha, hne, ih ht]
      · rw [if_neg ha]
        exact iff_of_false (by simp [Lists]) fun h => ha h.1.1

/-- **iSCSI targets.**  All that are in the cache or discovered have an entry exactly if, for each
of them, those before it are discovered up to the first one in the cache, and one that is only
discovered has none in the cache before it. -/
theorem lists_iscsiTargets_iff (arrayTargets : List String) (targets allTargets : List TargetInfo)
    (iqns : List String) (maskingViewTargets : List String → List TargetInfo) :
    (∀ t ∈ arrayTargets, Lists targets t ∨ Lists allTargets t →
      Lists (getAndConfigureArrayISCSITargets arrayTargets allTargets (.ok iqns)
        (some (.targets targets)) maskingViewTargets) t) ↔
    ∀ pre t post, arrayTargets = pre ++ t :: post → t ∉ pre →
      Lists targets t ∨ Lists allTargets t →
      Reached targets allTargets pre ∧ (Lists targets t ∨ ∀ u ∈ pre, ¬ Lists targets u) := by
  constructor
  · rintro h pre t post rfl ht hl
    exact (lists_cachedTargetsFrom ht hl).mp (h t (by simp) hl)
  · intro h t ht hl
    obtain ⟨pre, post, rfl, hpre⟩ := List.eq_append_cons_of_mem ht
    exact (lists_cachedTargetsFrom hpre hl).mpr (h pre t post rfl hpre hl)

/-- In the other order it has none. -/
theorem iscsiTarget_missing : ¬ ∀ arrayTargets targets allTargets iqns maskingViewTargets,
    ∀ t ∈ arrayTargets, Lists targets t ∨ Lists allTargets t →
      Lists (getAndConfigureArrayISCSITargets arrayTargets allTargets (.ok iqns)
        (some (.targets targets)) maskingViewTargets) t := by
  intro h
  obtain ⟨t, ht, hb⟩ := h ["iqn.a", "iqn.b"] [⟨"iqn.a", "10.0.0.1"⟩] [⟨"iqn.b", "10.0.0.2"⟩] []
    (fun _ => []) "iqn.b" (by simp) (.inr ⟨_, List.mem_cons_self, rfl⟩)
  revert t
  decide

structure NodeFlags where
  useFC : Bool
  useNVMeTCP : Bool
  isVsphereEnabled : Bool
  isNVMeTCPHostManaged : Bool

structure PublishContextData where
  deviceWWN : String
  volumeLUNAddress : String
  array : String
  iscsiTargets : List TargetInfo
  fcTargets : List String
  nvmetcpTargets : List TargetInfo

inductive Connection where
  | iscsi (targets : List TargetInfo) (lun : Int)
  | fc (targets : List String) (lun : Int)
  | rdm (targets : List String) (lun : Int) (wwn : String)
  | nvmeTCP (targets : List TargetInfo) (wwn : String)
deriving DecidableEq

/-- Answered with an error, if any; a connection is for the local or the remote leg. -/
inductive StageCall where
  | verifyHostManagedNVMeTCPMetro (symID remoteSymID : String)
  | hostManagedSession (array : String) (targets : List TargetInfo)
  | connectVolume (isLocal : Bool) (connection : Connection)
deriving DecidableEq

inductive StageError where
  | lun (err : Numeral.NumError)
  | text (err : String)
deriving DecidableEq

abbrev StageProg := Prog StageCall fun _ => Option String

def notFound (err : String) : StageError :=
  .text ("Unable to find device after multiple discovery attempts: " ++ err)

def connectWith (isLocal : Bool) (connection : Connection) : StageProg (Option StageError) := do
  return (← ask (.connectVolume isLocal connection)).map notFound

/-- A check that is made for some nodes only; the staging goes on unless it fails. -/
def checked (isNeeded : Bool) (check : StageCall) (failure : String → StageError)
    (rest : StageProg (Option StageError)) : StageProg (Option StageError) :=
  if isNeeded then do
    match ← ask check with
    | some err => return some (failure err)
    | none => rest
  else rest

/-- The flags of the node decide the connector, not the kind of the targets in the data. -/
@[irreducible] def connectDevice (node : NodeFlags) (isLocal : Bool) (data : PublishContextData) :
    StageProg (Option StageError) :=
  match Numeral.parseInt 16 data.volumeLUNAddress with
  | (_, some err) => return some (.lun err)
  | (lun, none) =>
    let connect := connectWith isLocal
    if node.useFC then
      if node.isVsphereEnabled then
        connect (.rdm data.fcTargets lun (trimPrefix data.deviceWWN "0x"))
      else connect (.fc data.fcTargets lun)
    else if node.useNVMeTCP then
      checked node.isNVMeTCPHostManaged (.hostManagedSession data.array data.nvmetcpTargets)
        notFound (connect (.nvmeTCP data.nvmetcpTargets data.deviceWWN))
    else connect (.iscsi data.iscsiTargets lun)

def legData (t : ArrayTargets) (wwn nvmeWWN volumeLUNAddress array : String) : PublishContextData :=
  if t.isFC then ⟨"0x" ++ wwn, volumeLUNAddress, array, [], t.fcTargets, []⟩
  else if t.isNVMeTCP then ⟨nvmeWWN, volumeLUNAddress, array, [], [], t.nvmeTargets⟩
  else ⟨"0x" ++ wwn, volumeLUNAddress, array, t.iscsiTargets, [], []⟩

/-- The result of a program whose calls are answered by a function. -/
def resolve {α : Type} (lookup : TargetCall → List TargetInfo) :
    Prog TargetCall (fun _ => List TargetInfo) α → α
  | .ret a => a
  | .call c k => resolve lookup (k (lookup c))

/-- From where the publish context is read; `remoteSymID` is empty without a remote leg. -/
structure Stage where
  symID : String
  remoteSymID : String
  localManaged : Bool
  volumeWWN : String
  publishContext : PublishContext
  lookup : TargetCall → List TargetInfo

namespace Stage

variable (s : Stage)

def value (key : String) : String := (contextValue s.publishContext key).getD ""

def isUniformMetro : Bool := s.value "REMOTE_LUN_ADDRESS" ≠ ""

def legTargets (isLocal : Bool) : ArrayTargets :=
  resolve s.lookup <|
    if isLocal then getArrayTargets (targetIdentifiers true s.publishContext) s.symID
    else getArrayTargets (targetIdentifiers (!s.isUniformMetro) s.publishContext) s.remoteSymID

def connectLocal (node : NodeFlags) : StageProg (Option StageError) :=
  if s.value "LUN_ADDRESS" = "" ∧ s.localManaged = false then return none
  else
    let t := s.legTargets true
    checked (t.isNVMeTCP && s.remoteSymID ≠ "" && node.isNVMeTCPHostManaged)
      (.verifyHostManagedNVMeTCPMetro s.symID s.remoteSymID) .text
      (connectDevice node true (legData t s.volumeWWN s.volumeWWN (s.value "LUN_ADDRESS") s.symID))

def connectRemote (node : NodeFlags) : StageProg (Option StageError) :=
  let remVolumeLUNAddress := s.value (contextKey (!s.isUniformMetro) "LUN_ADDRESS")
  if s.remoteSymID = "" ∨ s.value "DEVICE_WWN" = "" ∨ remVolumeLUNAddress = "" then return none
  else connectDevice node false (legData (s.legTargets false) (s.value "DEVICE_WWN") s.volumeWWN
    remVolumeLUNAddress s.remoteSymID)

/-- The end of `NodeStageVolume`. -/
def nodeStageVolume (node : NodeFlags) : StageProg (Option StageError) := do
  match ← s.connectLocal node with
  | some err => return some err
  | none => s.connectRemote node

end Stage

/-- The connector is that of the protocol, and gets its targets. -/
def Connection.Serves (t : ArrayTargets) : Connection → Prop
  | .fc targets _ | .rdm targets _ _ => t.isFC = true ∧ targets = t.fcTargets
  | .nvmeTCP targets _ => t.isFC = false ∧ t.isNVMeTCP = true ∧ targets = t.nvmeTargets
  | .iscsi targets _ => t.isFC = false ∧ t.isNVMeTCP = false ∧ targets = t.iscsiTargets

/-- The flags of the node say the same as the identifiers. -/
def NodeFlags.Agrees (node : NodeFlags) (t : ArrayTargets) : Prop :=
  node.useFC = t.isFC ∧ (t.isFC = false → node.useNVMeTCP = t.isNVMeTCP)

/-- Connections are made by the connector of their leg. -/
def StageCall.Fits (legs : Bool → ArrayTargets) (c : StageCall) : Prop :=
  ∀ isLocal connection, c = .connectVolume isLocal connection → connection.Serves (legs isLocal)

variable {node : NodeFlags} {legs : Bool → ArrayTargets} {isLocal : Bool}

theorem connectWith_fits (connection : Connection) :
    Calls (StageCall.Fits legs) (connectWith isLocal connection) ↔
      connection.Serves (legs isLocal) := by
  constructor
  · exact fun h => h.1 _ _ rfl
  · refine fun hs => ⟨fun isLocal connection hc => ?_, fun _ => trivial⟩
    cases hc
    exact hs

theorem checked_fits {isNeeded : Bool} {check : StageCall} {failure : String → StageError}
    {rest : StageProg (Option StageError)}
    (hc : ∀ isLocal connection, check ≠ .connectVolume isLocal connection) :
    Calls (StageCall.Fits legs) (checked isNeeded check failure rest) ↔
      Calls (StageCall.Fits legs) rest := by
  cases isNeeded with
  | false => exact Iff.rfl
  | true =>
    refine ⟨fun h => h.2 none, fun h => ⟨fun _ _ he => absurd he (hc _ _), fun err => ?_⟩⟩
    cases err with
    | some err => trivial
    | none => exact h

theorem checked_exec {isNeeded : Bool} {check : StageCall} {failure : String → StageError}
    {rest : StageProg (Option StageError)} :
    (∃ h, Exec (checked isNeeded check failure rest) h none) ↔ ∃ h, Exec rest h none := by
  cases isNeeded with
  | false => exact Iff.rfl
  | true =>
    constructor
    · rintro ⟨h, he⟩
      cases he with
      | @call _ _ err h _ he =>
        cases err with
        | some err => cases he
        | none => exact ⟨h, he⟩
    · rintro ⟨h, he⟩
      exact ⟨⟨check, none⟩ :: h, .call he⟩

theorem legData_lun (t : ArrayTargets) (wwn nvmeWWN lun array : String) :
    (legData t wwn nvmeWWN lun array).volumeLUNAddress = lun := by
  unfold legData
  split_ifs <;> rfl

/-- A device is connected by the connector of its leg exactly if the node's flags agree with it; an
address that is no number is connected by none. -/
theorem connectDevice_fits (wwn nvmeWWN lun array : String) :
    Calls (StageCall.Fits legs)
      (connectDevice node isLocal (legData (legs isLocal) wwn nvmeWWN lun array)) ↔
    ((Numeral.parseInt 16 lun).2 = none → node.Agrees (legs isLocal)) := by
  unfold connectDevice
  rw [legData_lun]
  rcases Numeral.parseInt 16 lun with ⟨l, _ | err⟩
  case some => exact iff_of_true trivial (by simp)
  case none =>
    obtain ⟨useFC, useNVMeTCP, isVsphereEnabled, isNVMeTCPHostManaged⟩ := node
    simp only [true_imp_iff, NodeFlags.Agrees]
    cases useFC with
    | true =>
      cases isVsphereEnabled <;> cases ht : (legs isLocal).isFC <;>
        simp [connectWith_fits, Connection.Serves, legData, ht]
    | false =>
      simp only [Bool.false_eq_true, if_false]
      rw [apply_ite (Calls _), checked_fits (by simp)]
      cases useNVMeTCP <;> cases ht : (legs isLocal).isFC <;>
        cases hn : (legs isLocal).isNVMeTCP <;>
        simp [connectWith_fits, Connection.Serves, legData, ht, hn]

/-- A device can be connected without an error exactly if its address is a number. -/
theorem connectDevice_exec {data : PublishContextData} :
    (∃ h, Exec (connectDevice node isLocal data) h none) ↔
      (Numeral.parseInt 16 data.volumeLUNAddress).2 = none := by
  have hc (connection : Connection) : ∃ h, Exec (connectWith isLocal connection) h none :=
    ⟨[⟨.connectVolume isLocal connection, none⟩], .call .ret⟩
  unfold connectDevice
  rcases Numeral.parseInt 16 data.volumeLUNAddress with ⟨l, _ | err⟩
  case some =>
    refine iff_of_false ?_ (by simp)
    rintro ⟨h, he⟩
    cases he
  case none =>
    refine iff_of_true ?_ rfl
    dsimp only
    split_ifs
    · exact hc _
    · exact hc _
    · exact checked_exec.mpr (hc _)
    · exact hc _

namespace Stage

variable (s : Stage)

/-- The local leg is left out: no address is published and its array is not managed here. -/
def LocalSkipped : Prop := s.value "LUN_ADDRESS" = "" ∧ s.localManaged = false

def remoteAddress : String := s.value (contextKey (!s.isUniformMetro) "LUN_ADDRESS")

def RemoteSkipped : Prop :=
  s.remoteSymID = "" ∨ s.value "DEVICE_WWN" = "" ∨ s.remoteAddress = ""

/-- The legs for which a connector is called: they are not left out and their addresses are numbers,
and for the remote leg the local one does not fail before. -/
def Connects : Bool → Prop
  | true => ¬ s.LocalSkipped ∧ (Numeral.parseInt 16 (s.value "LUN_ADDRESS")).2 = none
  | false =>
    (s.LocalSkipped ∨ (Numeral.parseInt 16 (s.value "LUN_ADDRESS")).2 = none) ∧
      ¬ s.RemoteSkipped ∧ (Numeral.parseInt 16 s.remoteAddress).2 = none

theorem connectLocal_fits :
    Calls (StageCall.Fits s.legTargets) (s.connectLocal node) ↔
      (s.Connects true → node.Agrees (s.legTargets true)) := by
  unfold connectLocal
  split
  case isTrue hs => exact iff_of_true trivial fun hc => absurd hs hc.1
  case isFalse hs =>
    rw [checked_fits (by simp), connectDevice_fits, Connects, and_imp]
    exact ⟨fun h _ => h, fun h => h hs⟩

/-- The staging goes on to the remote leg. -/
theorem connectLocal_exec (node : NodeFlags) :
    (∃ h, Exec (s.connectLocal node) h none) ↔
      s.LocalSkipped ∨ (Numeral.parseInt 16 (s.value "LUN_ADDRESS")).2 = none := by
  unfold connectLocal
  split
  case isTrue hs => exact iff_of_true ⟨_, .ret⟩ (.inl hs)
  case isFalse hs =>
    rw [checked_exec, connectDevice_exec, legData_lun]
    exact (or_iff_right (a := s.LocalSkipped) hs).symm

theorem connectRemote_fits :
    Calls (StageCall.Fits s.legTargets) (s.connectRemote node) ↔
      (¬ s.RemoteSkipped → (Numeral.parseInt 16 s.remoteAddress).2 = none →
        node.Agrees (s.legTargets false)) := by
  unfold connectRemote
  dsimp only
  split
  case isTrue hs => exact iff_of_true trivial fun hc => absurd hs hc
  case isFalse hs =>
    rw [connectDevice_fits]
    exact ⟨fun h _ => h, fun h => h hs⟩

end Stage

/-- **Connectors.**  Every leg is connected by the connector of its own protocol, with its targets,
exactly if the node's flags agree with the protocol of each leg that is connected at all. -/
theorem connections_fit_iff (s : Stage) (node : NodeFlags) :
    Calls (StageCall.Fits s.legTargets) (s.nodeStageVolume node) ↔
      ∀ isLocal, s.Connects isLocal → node.Agrees (s.legTargets isLocal) := by
  simp only [Stage.nodeStageVolume, bind_eq]
  rw [calls_bind, s.connectLocal_fits, Bool.forall_bool, and_comm]
  refine and_congr_left fun _ => ?_
  rw [Stage.Connects, ← s.connectLocal_exec node]
  constructor
  · rintro h ⟨⟨tr, htr⟩, hr⟩
    exact s.connectRemote_fits.mp (h tr none htr) hr.1 hr.2
  · intro h tr err htr
    cases err with
    | some err => trivial
    | none => exact s.connectRemote_fits.mpr fun hs hn => h ⟨⟨tr, htr⟩, hs, hn⟩

def fcStage : Stage :=
  ⟨"000120000548", "", true, "60000970000120000548533030303031",
    [("LUN_ADDRESS", "0001"), ("PORT_IDENTIFIERS", "0x5000097500000001,")], fun _ => []⟩

theorem fcStage_targets (isLocal : Bool) :
    fcStage.legTargets isLocal = ⟨[], ["5000097500000001"], [], true, false⟩ := by
  revert isLocal
  decide +kernel

/-- A node that uses NVMe/TCP asks for it, with no targets. -/
theorem connection_of_other_protocol : ¬ ∀ (s : Stage) (node : NodeFlags),
    Calls (StageCall.Fits s.legTargets) (s.nodeStageVolume node) := by
  intro h
  have hc := (h fcStage ⟨false, true, false, false⟩).exec (h := [⟨.connectVolume true
    (.nvmeTCP [] ("0x" ++ fcStage.volumeWWN)), none⟩]) (a := none)
    (exec_of_follow (by decide +kernel))
  have hs := hc _ List.mem_cons_self _ _ rfl
  rw [fcStage_targets] at hs
  exact absurd hs.1 (by decide)

end PowerMaxCsi.Service.Targets
