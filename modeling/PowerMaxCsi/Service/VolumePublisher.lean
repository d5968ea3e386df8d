import PowerMaxCsi.Service.Replication
import PowerMaxCsi.Service.StorageGroupSvc

/-!
# The publisher for Unisphere 10.4

`u4p104VolumePublisher.Publish` of `service/volume_publisher.go`, with the functions of
`service/controller.go` and `service/node.go` that it uses.  The adopted host, the selection of a
port group and the identifier of a port are calls.  Waiting and logging are left out.
-/

namespace PowerMaxCsi.Service

open Strings

structure PublishConfig where
  (clusterPrefix nodeNameTemplate transportProtocol : String)
  (useNVMeTCP isVsphereEnabled : Bool)
  vSphereHostName : String
deriving DecidableEq, Repr

structure WwnVolume extends Volume where
  effectiveWWN : String
deriving DecidableEq, Repr

structure MaskingViewConnection where
  (volumeID hostLUNAddress directorPort : String)
deriving DecidableEq, Repr

/-- `types.PublishMaskingViewsParam`, with one masking view and one volume. -/
structure PublishMaskingViewsParam where
  (maskingViewID storageGroupID volumeID hostID portGroupID : String)
deriving DecidableEq, Repr

def buildPublishMaskingViewsParam (tgtMaskingViewID tgtStorageGroupID devID hostID
    portGroupID : String) : PublishMaskingViewsParam where
  maskingViewID := tgtMaskingViewID
  storageGroupID := tgtStorageGroupID
  volumeID := devID
  hostID := hostID
  portGroupID := portGroupID

/-- `none` for a nil capability, and in it for a nil access mode. -/
structure PublishRequest where
  nodeID : String
  volumeCapability : Option (Option AccessMode)
deriving DecidableEq, Repr

inductive PubCall where
  | getVolumeByID (symID volumeID : String)
  | getAdoptedHostIDFromNodeLabels (symID nodeID : String)
  | nodeCacheLoad (cacheID : String)
  /-- `nodeCache.LoadOrStore`; the answer is only logged. -/
  | nodeCacheLoadOrStore (cacheID hostID : String)
  | getMaskingViewByID (symID maskingViewID : String)
  | getHostByID (symID hostID : String)
  | getHostGroupByID (symID hostGroupID : String)
  | selectOrCreatePortGroup (symID : String) (host : Host)
  | publishMaskingViews (symID : String) (param : PublishMaskingViewsParam)
  | requestLock (handle reqID : String)
  | releaseLock (handle reqID : String) (lockNum : Int)
  | getMaskingViewConnections (symID maskingViewID volumeID : String)
  | getPortGroupByID (symID portGroupID : String)
  | getPortIdentifier (symID dirPortKey : String)
deriving DecidableEq, Repr

/-- The response of `PublishMaskingViews` may be nil; of a port group its ports are read. -/
abbrev PubAnswer : PubCall → Type
  | .getVolumeByID _ _ => Except PmaxError WwnVolume
  | .getAdoptedHostIDFromNodeLabels _ _ => Except String String
  | .nodeCacheLoad _ => Option String
  | .nodeCacheLoadOrStore _ _ => Unit
  | .getMaskingViewByID _ _ => Except PmaxError (Option MaskingView)
  | .getHostByID _ _ => Except PmaxError Host
  | .getHostGroupByID _ _ => Except PmaxError HostGroup
  | .selectOrCreatePortGroup _ _ => Except String String
  | .publishMaskingViews _ _ => Except PmaxError (Option Nat)
  | .requestLock _ _ => Except String Int
  | .releaseLock _ _ _ => Unit
  | .getMaskingViewConnections _ _ _ => Except PmaxError (List MaskingViewConnection)
  | .getPortGroupByID _ _ => Except PmaxError (List (String × String))
  | .getPortIdentifier _ _ => Except String String

abbrev PubProg := Prog PubCall PubAnswer

def csiHostPrefix : String := "csi-node-"

def csiNoSrpSGPrefix : String := "csi-no-srp-sg-"

def fcSuffix : String := "-FC"

def nvmeTCPSuffix : String := "-NVMETCP"

def vsphere : String := "VSPHERE"

/-- What is made for a node: its host, its storage group and its masking view. -/
structure NodeTarget where
  (hostID storageGroupID maskingViewID : String)
deriving DecidableEq, Repr

def isValidHostID (hostID : String) : Bool :=
  match hostID.toList with
  | [] => false
  | c :: cs => c.isAlphanum && cs.all fun c => c.isAlphanum || c == '_' || c == '-'

def buildHostIDFromTemplate (cfg : PublishConfig) (nodeID : String) : Option String :=
  match split cfg.nodeNameTemplate '%' with
  | nodePrefix :: _ :: nodeSuffix :: _ =>
    let hostID := nodePrefix ++ nodeID ++ nodeSuffix
    if isValidHostID hostID then some hostID else none
  | _ => none

def getHostIDFromTemplate (cfg : PublishConfig) (nodeID : String) : String :=
  let default := csiHostPrefix ++ cfg.clusterPrefix ++ "-" ++ nodeID
  if cfg.nodeNameTemplate ≠ "" then (buildHostIDFromTemplate cfg nodeID).getD default else default

def sanitizedNodeID (nodeID : String) : String :=
  String.ofList (nodeID.toList.map fun c => if c = '.' then '-' else c)

def getISCSIHostSGAndMVIDFromNodeID (cfg : PublishConfig) (nodeID : String) : NodeTarget where
  hostID := getHostIDFromTemplate cfg (sanitizedNodeID nodeID)
  storageGroupID := csiNoSrpSGPrefix ++ (cfg.clusterPrefix ++ "-" ++ sanitizedNodeID nodeID)
  maskingViewID := csiMVPrefix ++ (cfg.clusterPrefix ++ "-" ++ sanitizedNodeID nodeID)

def NodeTarget.withSuffix (target : NodeTarget) (suffix : String) : NodeTarget where
  hostID := target.hostID ++ suffix
  storageGroupID := target.storageGroupID ++ suffix
  maskingViewID := target.maskingViewID ++ suffix

def getFCHostSGAndMVIDFromNodeID (cfg : PublishConfig) (nodeID : String) : NodeTarget :=
  (getISCSIHostSGAndMVIDFromNodeID cfg nodeID).withSuffix fcSuffix

def getNVMETCPHostSGAndMVIDFromNodeID (cfg : PublishConfig) (nodeID : String) : NodeTarget :=
  (getISCSIHostSGAndMVIDFromNodeID cfg nodeID).withSuffix nvmeTCPSuffix

def getVSphereFCHostSGAndMVIDFromNodeID (cfg : PublishConfig) : NodeTarget where
  hostID := cfg.vSphereHostName
  storageGroupID := csiNoSrpSGPrefix ++ (cfg.clusterPrefix ++ "-" ++ vsphere)
  maskingViewID := csiMVPrefix ++ (cfg.clusterPrefix ++ "-" ++ vsphere)

def getHostSGAndMVIDFromNodeID (cfg : PublishConfig) (nodeID : String) (isISCSI : Bool) :
    NodeTarget :=
  if cfg.isVsphereEnabled then getVSphereFCHostSGAndMVIDFromNodeID cfg
  else if isISCSI then getISCSIHostSGAndMVIDFromNodeID cfg nodeID
  else getFCHostSGAndMVIDFromNodeID cfg nodeID

def noHost (symID nodeID : String) : String :=
  "Failed to fetch host id from array " ++ symID ++ " for node: " ++ nodeID

def hostHasType (symID hostID hostType : String) : PubProg Bool := do
  match ← Prog.ask (PubCall.getHostByID symID hostID) with
  | .ok host => return host.hostType = hostType
  | .error _ => return false

def isNodeNVMe (cfg : PublishConfig) (symID nodeID adoptedID : String) :
    PubProg (Except String Bool) := do
  let target := getNVMETCPHostSGAndMVIDFromNodeID cfg nodeID
  if adoptedID ≠ "" then return .ok false
  else if cfg.transportProtocol = "NVMETCP" ∨ cfg.useNVMeTCP then
    match ← Prog.ask (PubCall.getMaskingViewByID symID target.maskingViewID) with
    | .ok _ => return .ok true
    | .error _ =>
      if ← hostHasType symID target.hostID "NVMe/TCP" then return .ok true
      else return .error (noHost symID nodeID)
  else return .ok false

def getHostForVsphere (cfg : PublishConfig) (symID : String) : PubProg (Option String) := do
  match ← Prog.ask (PubCall.getHostByID symID cfg.vSphereHostName) with
  | .ok _ => return none
  | .error err =>
    if contains err.text "cannot be found" then
      match ← Prog.ask (PubCall.getHostGroupByID symID cfg.vSphereHostName) with
      | .ok _ => return none
      | .error err => return some err.text
    else return some err.text

def preferFC (cfg : PublishConfig) (symID nodeID : String) : PubProg (Except String Bool) := do
  let fc := getFCHostSGAndMVIDFromNodeID cfg nodeID
  let iscsi := getISCSIHostSGAndMVIDFromNodeID cfg nodeID
  match ← Prog.ask (PubCall.getMaskingViewByID symID fc.maskingViewID) with
  | .ok _ => return .ok false
  | .error _ =>
    match ← Prog.ask (PubCall.getMaskingViewByID symID iscsi.maskingViewID) with
    | .ok _ => return .ok true
    | .error _ =>
      if ← hostHasType symID fc.hostID "Fibre" then return .ok false
      else if ← hostHasType symID iscsi.hostID "iSCSI" then return .ok true
      else return .error (noHost symID nodeID)

def preferISCSI (cfg : PublishConfig) (symID nodeID : String) : PubProg (Except String Bool) := do
  let fc := getFCHostSGAndMVIDFromNodeID cfg nodeID
  let iscsi := getISCSIHostSGAndMVIDFromNodeID cfg nodeID
  match ← Prog.ask (PubCall.getMaskingViewByID symID iscsi.maskingViewID) with
  | .ok _ => return .ok true
  | .error _ =>
    if ← hostHasType symID iscsi.hostID "iSCSI" then return .ok true
    else if ← hostHasType symID fc.hostID "Fibre" then return .ok false
    else return .error (noHost symID nodeID)

def isNodeISCSI (cfg : PublishConfig) (symID nodeID adoptedID : String) :
    PubProg (Except String Bool) := do
  if adoptedID ≠ "" then return .ok false
  else if cfg.isVsphereEnabled then
    match ← getHostForVsphere cfg symID with
    | none => return .ok false
    | some err =>
      return .error ("Failed to fetch host/host group from array for node " ++ nodeID ++ " err: " ++
        err)
  else if cfg.transportProtocol = "FC" ∨ cfg.transportProtocol = "" then preferFC cfg symID nodeID
  else if cfg.transportProtocol = "ISCSI" then preferISCSI cfg symID nodeID
  else return .error (noHost symID nodeID)

inductive Protocol where
  | nvmeTCP
  | iSCSI
  | fc
deriving DecidableEq, Repr

def cachedProtocol (hostID : String) : Protocol :=
  if contains hostID nvmeTCPSuffix then .nvmeTCP
  else if contains hostID fcSuffix then .fc
  else .iSCSI

def detectProtocol (cfg : PublishConfig) (symID nodeID : String) :
    PubProg (Except String Protocol) := do
  match ← isNodeNVMe cfg symID nodeID "" with
  | .error err => return .error err
  | .ok true => return .ok .nvmeTCP
  | .ok false =>
    match ← isNodeISCSI cfg symID nodeID "" with
    | .error err => return .error err
    | .ok true => return .ok .iSCSI
    | .ok false => return .ok .fc

def nodeTarget (cfg : PublishConfig) (nodeID adoptedID : String) (protocol : Protocol) :
    NodeTarget :=
  let target :=
    match protocol with
    | .nvmeTCP => getNVMETCPHostSGAndMVIDFromNodeID cfg nodeID
    | .iSCSI => getHostSGAndMVIDFromNodeID cfg nodeID true
    | .fc => getHostSGAndMVIDFromNodeID cfg nodeID false
  -- only the host of an adopted node has another name
  if adoptedID ≠ "" then { target with hostID := adoptedID } else target

def resolveTarget (cfg : PublishConfig) (symID nodeID : String) :
    PubProg (Except Failure NodeTarget) := do
  let cacheID := symID ++ ":" ++ nodeID
  match ← Prog.ask (PubCall.getAdoptedHostIDFromNodeLabels symID nodeID) with
  | .error err => return .error (internal err)
  | .ok adoptedID =>
    if adoptedID ≠ "" then
      let target := nodeTarget cfg nodeID adoptedID .fc
      Prog.ask (PubCall.nodeCacheLoadOrStore cacheID target.hostID)
      return .ok target
    else
      match ← Prog.ask (PubCall.nodeCacheLoad cacheID) with
      | some hostID => return .ok (nodeTarget cfg nodeID "" (cachedProtocol hostID))
      | none =>
        match ← detectProtocol cfg symID nodeID with
        | .error err => return .error (.failed (.status ⟨.notFound, err⟩))
        | .ok protocol =>
          let target := nodeTarget cfg nodeID "" protocol
          Prog.ask (PubCall.nodeCacheLoadOrStore cacheID target.hostID)
          return .ok target

def getVolumeOfID (volID : String) : PubProg (Except Failure (CsiID × WwnVolume)) := do
  match parseCsiID volID with
  | .panics => return .error .panics
  | .malformed text => return .error (.failed (.status ⟨.invalidArgument,
      "volID: " ++ volID ++ " malformed. Error: " ++ text⟩))
  | .ok csiID =>
    match ← Prog.ask (PubCall.getVolumeByID csiID.arrayID csiID.devID) with
    | .error err =>
      if contains err.text cannotBeFound then
        return .error (.failed (.status ⟨.notFound, "Volume not found (Array: " ++ csiID.arrayID ++
          ", Volume: " ++ csiID.devID ++ ")status " ++ err.text⟩))
      else return .error (internal ("failure checking volume (Array: " ++ csiID.arrayID ++
        ", Volume: " ++ csiID.devID ++ ")status " ++ err.text))
    | .ok vol =>
      if !volumeIdentifiersMatch csiID.volName vol.volumeIdentifier then
        return .error (.failed (.status ⟨.failedPrecondition,
          "Failed to validate combination of Volume Name and Volume ID"⟩))
      else return .ok (csiID, vol)

def choosePortGroup (symID : String) (target : NodeTarget) : PubProg (Except Failure String) := do
  match ← Prog.ask (PubCall.getMaskingViewByID symID target.maskingViewID) with
  | .ok (some existingMV) =>
    let hostMatch := equalFold existingMV.hostID target.hostID ||
      equalFold existingMV.hostGroupID target.hostID
    let sgMatch := equalFold existingMV.storageGroupID target.storageGroupID
    if !hostMatch || !sgMatch then
      return .error (internal ("10.4 ControllerPublishVolume: Existing masking view " ++
        target.maskingViewID ++ " with conflicting SG " ++ target.storageGroupID ++ " or Host " ++
          target.hostID))
    else return .ok existingMV.portGroupID
  | _ =>
    match ← Prog.ask (PubCall.getHostByID symID target.hostID) with
    | .error err => return .error (.failed (.status ⟨.notFound,
        "Failed to fetch host details for " ++ target.hostID ++ " on " ++ symID ++ ": " ++ err.text⟩))
    | .ok host =>
      match ← Prog.ask (PubCall.selectOrCreatePortGroup symID host) with
      | .error err => return .error (internal (
          "Failed to select/create port group for host " ++ target.hostID ++ " on " ++ symID ++
            ": " ++ err))
      | .ok portGroupID => return .ok portGroupID

def getMVLockKey (symID tgtMaskingViewID : String) : String := symID ++ ":" ++ tgtMaskingViewID

/-- The loop of `updatePublishContext` that reads the connections, with the rounds left. -/
def fetchConnections (symID tgtMaskingViewID devID reqID : String) :
    Nat → PubProg (Except Failure (List MaskingViewConnection))
  | 0 => return .error (internal ("PublishContext: Could not get MV Connections: " ++
      tgtMaskingViewID))
  | n + 1 => do
    let handle := getMVLockKey symID tgtMaskingViewID
    match ← Prog.ask (PubCall.requestLock handle reqID) with
    | .error lockErr => return .error (internal ("failed to acquire lock: " ++ lockErr))
    | .ok lockNum =>
      let answer ← Prog.ask (PubCall.getMaskingViewConnections symID tgtMaskingViewID devID)
      Prog.ask (PubCall.releaseLock handle reqID lockNum)
      match answer with
      | .ok connections => return .ok connections
      | .error _ => fetchConnections symID tgtMaskingViewID devID reqID n

def enoughConnections (symID tgtMaskingViewID devID reqID : String)
    (connections : List MaskingViewConnection) :
    PubProg (Except Failure (List MaskingViewConnection)) :=
  if (connections.filter (·.volumeID = devID)).length ≥ 2 then return .ok connections
  else fetchConnections symID tgtMaskingViewID devID reqID 2

def readConnectionsOf (cfg : PublishConfig) (devID : String) :
    List MaskingViewConnection → String → List String → Except Failure (String × List String)
  | [], lunid, dirPorts => .ok (lunid, dirPorts)
  | conn :: conns, lunid, dirPorts =>
    if devID ≠ conn.volumeID then readConnectionsOf cfg devID conns lunid dirPorts
    else
      let dirPorts' := appendIfMissing dirPorts conn.directorPort
      if lunid = "" then readConnectionsOf cfg devID conns conn.hostLUNAddress dirPorts'
      else if lunid ≠ conn.hostLUNAddress ∧ !cfg.isVsphereEnabled then
        .error (internal "PublishContext: MV Connection has multiple HostLUNAddress values")
      else readConnectionsOf cfg devID conns lunid dirPorts'

/-- The ports of the masking view, for a volume of vSphere without connections. -/
def portsOfView (symID tgtMaskingViewID : String) (dirPorts : List String) :
    PubProg (Except Failure (String × List String)) := do
  match ← Prog.ask (PubCall.getMaskingViewByID symID tgtMaskingViewID) with
  | .error err => return .error (internal ("PublishContext: Failed to get masking view " ++
      tgtMaskingViewID ++ ": " ++ err.text))
  | .ok none => return .error .panics
  | .ok (some mv) =>
    match ← Prog.ask (PubCall.getPortGroupByID symID mv.portGroupID) with
    | .error err => return .error (internal ("PublishContext: Failed to get port group " ++
        mv.portGroupID ++ ": " ++ err.text))
    | .ok ports =>
      let dirPorts := ports.foldl (fun dirPorts port =>
        appendIfMissing dirPorts (port.1 ++ ":" ++ port.2)) dirPorts
      if dirPorts = [] then
        return .error (internal ("PublishContext: Port group " ++ mv.portGroupID ++
          " has no ports configured"))
      else return .ok ("0000", dirPorts)

def portIdentifiersOf (symID : String) : List String → String → PubProg String
  | [], portIdentifiers => return portIdentifiers
  | dirPortKey :: dirPorts, portIdentifiers => do
    match ← Prog.ask (PubCall.getPortIdentifier symID dirPortKey) with
    | .error _ => portIdentifiersOf symID dirPorts portIdentifiers
    | .ok portIdentifier =>
      portIdentifiersOf symID dirPorts (portIdentifiers ++ portIdentifier ++ ",")

def maxPortIdentifierLength : Nat := 128

abbrev PublishContext := List (String × String)

def contextEntries (isLocal : Bool) (portIdentifiers lunid : String) : PublishContext :=
  let keyCount := len portIdentifiers / maxPortIdentifierLength + 1
  let key (name : String) : String := if isLocal then name else "REMOTE_" ++ name
  (List.range keyCount).map (fun i => (key "PORT_IDENTIFIERS" ++ "_" ++ toString (i + 1),
    String.ofList ((portIdentifiers.toList.drop (i * maxPortIdentifierLength)).take
      maxPortIdentifierLength))) ++
    [(key "PORT_IDENTIFIER_KEYS", toString keyCount), (key "LUN_ADDRESS", lunid)]

/-- The end of `updatePublishContext`, once the LUN address and the ports are known. -/
def finishPublishContext (publishContext : PublishContext) (symID tgtMaskingViewID : String)
    (isLocal : Bool) (lunid : String) (dirPorts : List String) :
    PubProg (Except Failure PublishContext) := do
  let portIdentifiers ← portIdentifiersOf symID dirPorts ""
  if portIdentifiers = "" then
    return .error (internal (
      "PublishContext: Failed to fetch port details for any director ports which are part of " ++
        "masking view: " ++ tgtMaskingViewID))
  else return .ok (publishContext ++ contextEntries isLocal portIdentifiers lunid)

def updatePublishContext (cfg : PublishConfig) (publishContext : PublishContext)
    (symID tgtMaskingViewID devID reqID : String) (connections : List MaskingViewConnection)
    (isLocal : Bool) : PubProg (Except Failure PublishContext) := do
  match ← enoughConnections symID tgtMaskingViewID devID reqID connections with
  | .error failure => return .error failure
  | .ok connections =>
    match readConnectionsOf cfg devID connections "" [] with
    | .error failure => return .error failure
    | .ok (lunid, dirPorts) =>
      if lunid ≠ "" then
        finishPublishContext publishContext symID tgtMaskingViewID isLocal lunid dirPorts
      else if cfg.isVsphereEnabled then
        match ← portsOfView symID tgtMaskingViewID dirPorts with
        | .error failure => return .error failure
        | .ok (lunid, dirPorts) =>
          finishPublishContext publishContext symID tgtMaskingViewID isLocal lunid dirPorts
      else return .error (internal "PublishContext: No matching connections for deviceID")

def connect (cfg : PublishConfig) (reqID symID devID wwn : String) (target : NodeTarget) :
    PubProg (Except Failure PublishContext) := do
  let handle := getMVLockKey symID target.maskingViewID
  match ← Prog.ask (PubCall.requestLock handle reqID) with
  | .error err => return .error (internal ("failed to acquire lock: " ++ err))
  | .ok lockNum =>
    let answer ← Prog.ask (PubCall.getMaskingViewConnections symID target.maskingViewID devID)
    Prog.ask (PubCall.releaseLock handle reqID lockNum)
    let connections :=
      match answer with
      | .ok connections => connections
      | .error _ => []
    updatePublishContext cfg [("DEVICE_WWN", wwn)] symID target.maskingViewID devID reqID
      connections true

def publishTo (cfg : PublishConfig) (volID reqID symID devID wwn : String) (target : NodeTarget)
    (portGroupID : String) : PubProg (Except Failure PublishContext) := do
  if wwn = "" then
    return .error (internal ("PublishVolume: Volume " ++ volID ++
      " has no effective WWN, Unisphere may not be synchronized with array or synchronization may" ++
        " be in progress"))
  else
    match ← Prog.ask (PubCall.publishMaskingViews symID (buildPublishMaskingViewsParam
        target.maskingViewID target.storageGroupID devID target.hostID portGroupID)) with
    | .error err => return .error (internal ("10.4 PublishMaskingViews failed: " ++ err.text))
    | .ok publishResp =>
      if publishResp.getD 0 > 0 then
        return .error (internal ("10.4 PublishMaskingViews failed for masking view " ++
          target.maskingViewID))
      else connect cfg reqID symID devID wwn target

def publishChecked (cfg : PublishConfig) (volID reqID nodeID : String) :
    PubProg (Except Failure PublishContext) := do
  match ← getVolumeOfID volID with
  | .error failure => return .error failure
  | .ok (csiID, vol) =>
    match ← resolveTarget cfg csiID.arrayID nodeID with
    | .error failure => return .error failure
    | .ok target =>
      match ← choosePortGroup csiID.arrayID target with
      | .error failure => return .error failure
      | .ok portGroupID =>
        publishTo cfg volID reqID csiID.arrayID csiID.devID vol.effectiveWWN target portGroupID

def u4p104Publish (cfg : PublishConfig) (volID reqID : String) (req : PublishRequest) :
    PubProg (Except Failure PublishContext) := do
  if req.nodeID = "" then return .error (invalidArgument "node ID is required")
  else
    match req.volumeCapability with
    | none => return .error (invalidArgument "volume capability is required")
    | some none => return .error (invalidArgument "access mode is required")
    | some (some .unknown) => return .error (invalidArgument "access mode cannot be UNKNOWN")
    | some (some _) => publishChecked cfg volID reqID req.nodeID

end PowerMaxCsi.Service
