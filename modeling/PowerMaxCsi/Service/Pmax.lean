import PowerMaxCsi.Lib.Prog

/-!
# The array client

The errors of the driver, and the calls of `pmax.Pmax` with the parts of their answers that are
read.
-/

namespace PowerMaxCsi.Service

inductive Code where
  | internal
  | failedPrecondition
  | invalidArgument
  | notFound
  | unavailable
  | alreadyExists
  | outOfRange
  | resourceExhausted
  | aborted
deriving DecidableEq, Repr

def Code.text : Code → String
  | .internal => "Internal"
  | .failedPrecondition => "FailedPrecondition"
  | .invalidArgument => "InvalidArgument"
  | .notFound => "NotFound"
  | .unavailable => "Unavailable"
  | .alreadyExists => "AlreadyExists"
  | .outOfRange => "OutOfRange"
  | .resourceExhausted => "ResourceExhausted"
  | .aborted => "Aborted"

structure GrpcError where
  code : Code
  desc : String
deriving DecidableEq, Repr

def GrpcError.text (err : GrpcError) : String :=
  "rpc error: code = " ++ err.code.text ++ " desc = " ++ err.desc

structure PmaxError where
  text : String
  /-- A deadline, an end of file or a timeout of the network, by the type of the error. -/
  timeout : Bool
deriving DecidableEq, Repr

structure Volume where
  (volumeID volumeIdentifier : String)
  storageGroupIDList : List String
  (snapSource snapTarget : Bool)
  numberOfFrontEndPaths : Nat
deriving DecidableEq, Repr

structure VolumeEnhanced where
  (id identifier : String)
  storageGroups : List String
deriving DecidableEq, Repr

structure StorageGroup where
  (storageGroupID srp : String)
  (numOfVolumes numOfMaskingViews : Nat)
  maskingView : List String
deriving DecidableEq, Repr

structure MaskingView where
  (hostID hostGroupID portGroupID storageGroupID : String)
deriving DecidableEq, Repr

structure Host where
  (hostID hostType : String)
  numberHostGroups : Nat
deriving DecidableEq, Repr

structure HostGroup where
  hostGroupID : String
  hosts : List String
deriving DecidableEq, Repr

inductive PmaxCall where
  | getVersionDetails (symID : String)
  | getVolumesByIdentifierMatch (symID volumeIDPrefix : String)
  | getVolumeByID (symID volumeID : String)
  | getStorageGroup (symID storageGroupID : String)
  | renameVolume (symID volumeID newName : String)
  | deleteVolume (symID volumeID : String)
  | getFileSystemByID (symID fsID : String)
  | getNFSExportList (symID fsID : String)
  | deleteFileSystem (symID fsID : String)
  | getMaskingViewByID (symID maskingViewID : String)
  | addVolumesToStorageGroup (symID storageGroupID : String) (volumeIDs : List String)
  | addVolumesToStorageGroupS (symID storageGroupID : String) (volumeIDs : List String)
  | removeVolumesFromStorageGroup (symID storageGroupID : String) (volumeIDs : List String)
  | createStorageGroup (symID storageGroupID : String)
  | deleteStorageGroup (symID storageGroupID : String)
  | createMaskingView (symID maskingViewID storageGroupID targetID : String) (isHost : Bool)
      (portGroupID : String)
  | deleteMaskingView (symID maskingViewID : String)
  | getMaskingViewConnections (symID maskingViewID : String)
  | getHostByID (symID hostID : String)
  | getHostGroupList (symID : String)
  | getHostGroupByID (symID hostGroupID : String)
deriving DecidableEq, Repr

/-- A pointer that may be nil next to a nil error is an option; of a file system only the name is
read, of an NFS export the ID. -/
abbrev PmaxAnswer : PmaxCall → Type
  | .getVersionDetails _ => Except PmaxError String
  | .getVolumesByIdentifierMatch _ _ => Except PmaxError (List VolumeEnhanced)
  | .getVolumeByID _ _ => Except PmaxError Volume
  | .getStorageGroup _ _ => Except PmaxError (Option StorageGroup)
  | .renameVolume _ _ _ => Except PmaxError (Option Volume)
  | .deleteVolume _ _ => Except PmaxError Unit
  | .getFileSystemByID _ _ => Except PmaxError String
  | .getNFSExportList _ _ => Option (List String)
  | .deleteFileSystem _ _ => Except PmaxError Unit
  | .getMaskingViewByID _ _ => Except PmaxError MaskingView
  | .addVolumesToStorageGroup _ _ _ => Except PmaxError Unit
  | .addVolumesToStorageGroupS _ _ _ => Except PmaxError Unit
  | .removeVolumesFromStorageGroup _ _ _ => Except PmaxError Unit
  | .createStorageGroup _ _ => Except PmaxError Unit
  | .deleteStorageGroup _ _ => Except PmaxError Unit
  | .createMaskingView _ _ _ _ _ _ => Except PmaxError Unit
  | .deleteMaskingView _ _ => Except PmaxError Unit
  | .getMaskingViewConnections _ _ => Except PmaxError Unit
  | .getHostByID _ _ => Except PmaxError Host
  | .getHostGroupList _ => Except PmaxError (Option (List String))
  | .getHostGroupByID _ _ => Except PmaxError HostGroup

abbrev PmaxProg := Prog PmaxCall PmaxAnswer

abbrev PmaxHistory := Prog.History PmaxCall PmaxAnswer

namespace Pmax

/-- `versionCache.getOrFetchVersionDetails`; the answer is the API version. -/
def getVersionDetails (symID : String) : PmaxProg (Except PmaxError String) :=
  Prog.ask (PmaxCall.getVersionDetails symID)

def getVolumesByIdentifierMatch (symID volumeIDPrefix : String) :
    PmaxProg (Except PmaxError (List VolumeEnhanced)) :=
  Prog.ask (PmaxCall.getVolumesByIdentifierMatch symID volumeIDPrefix)

def getVolumeByID (symID volumeID : String) : PmaxProg (Except PmaxError Volume) :=
  Prog.ask (PmaxCall.getVolumeByID symID volumeID)

/-- `DeleteVolume`; the volume ID may be a range. -/
def deleteVolume (symID volumeID : String) : PmaxProg (Except PmaxError Unit) :=
  Prog.ask (PmaxCall.deleteVolume symID volumeID)

end Pmax

def deletionPrefix : String := "_DEL"

def csiPrefix : String := "csi"

def apiVersion101 : Int := 101

end PowerMaxCsi.Service
