import Mathlib.Data.Finset.Card
import PowerMaxCsi.Service.StorageGroupSvc

/-!
# Storage groups, masking views and those who change them

The storage groups and masking views, the queues and tokens, and the goroutines.
`PublishMaskingViews` of Unisphere 10.4 uses no token.  A read is answered with what is there or an
error, and a change that fails may have taken effect.
-/

namespace PowerMaxCsi.Service

structure Group where
  srp : String
  volumes : Finset String
  maskingViews : List String
deriving DecidableEq

def Group.describe (group : Group) (storageGroupID : String) : StorageGroup :=
  ⟨storageGroupID, group.srp, group.volumes.card, group.maskingViews.length, group.maskingViews⟩

def Group.new : Group := ⟨"", ∅, []⟩

structure SgArrays where
  groups : String → String → Option Group
  views : String → String → Option MaskingView

namespace SgArrays

def volumes (a : SgArrays) (symID storageGroupID : String) : Finset String :=
  ((a.groups symID storageGroupID).map Group.volumes).getD ∅

def setGroup (a : SgArrays) (symID storageGroupID : String) (group : Option Group) : SgArrays :=
  { a with groups := fun sym sg =>
      if sym = symID ∧ sg = storageGroupID then group else a.groups sym sg }

def setView (a : SgArrays) (symID maskingViewID : String) (view : Option MaskingView) : SgArrays :=
  { a with views := fun sym mv =>
      if sym = symID ∧ mv = maskingViewID then view else a.views sym mv }

def addVolumes (a : SgArrays) (symID storageGroupID : String) (devIDs : List String) : SgArrays :=
  a.setGroup symID storageGroupID ((a.groups symID storageGroupID).map fun group =>
    { group with volumes := group.volumes ∪ devIDs.toFinset })

def removeVolumes (a : SgArrays) (symID storageGroupID : String) (devIDs : List String) :
    SgArrays :=
  a.setGroup symID storageGroupID ((a.groups symID storageGroupID).map fun group =>
    { group with volumes := group.volumes \ devIDs.toFinset })

def createGroup (a : SgArrays) (symID storageGroupID : String) : SgArrays :=
  a.setGroup symID storageGroupID (some ((a.groups symID storageGroupID).getD .new))

def createView (a : SgArrays) (symID maskingViewID : String) (view : MaskingView) : SgArrays :=
  (a.setView symID maskingViewID (some view)).setGroup symID view.storageGroupID
    ((a.groups symID view.storageGroupID).map fun group =>
      { group with maskingViews := group.maskingViews ++ [maskingViewID] })

def deleteView (a : SgArrays) (symID maskingViewID : String) : SgArrays :=
  match a.views symID maskingViewID with
  | none => a
  | some view =>
    (a.setView symID maskingViewID none).setGroup symID view.storageGroupID
      ((a.groups symID view.storageGroupID).map fun group =>
        { group with maskingViews := group.maskingViews.erase maskingViewID })

/-- The storage group, the masking view and the membership are there afterwards. -/
def publish (a : SgArrays) (symID maskingViewID devID : String) (view : MaskingView) : SgArrays :=
  let added := (a.createGroup symID view.storageGroupID).addVolumes symID view.storageGroupID
    [devID]
  if a.views symID maskingViewID = none then added.createView symID maskingViewID view else added

def change (a a' : SgArrays) (took : Bool) : Except PmaxError Unit → SgArrays
  | .ok () => a'
  | .error _ => if took then a' else a

def serve (a : SgArrays) (took : Bool) : (c : PmaxCall) → PmaxAnswer c → Option SgArrays
  | .getStorageGroup symID sgID, r =>
    match r with
    | .ok (some sg) =>
      if (a.groups symID sgID).map (Group.describe · sgID) = some sg then some a else none
    | _ => some a
  | .getMaskingViewByID symID maskingViewID, r =>
    match r with
    | .ok view => if a.views symID maskingViewID = some view then some a else none
    | .error _ => some a
  | .addVolumesToStorageGroup symID sgID devIDs, r =>
    some (a.change (a.addVolumes symID sgID devIDs) took r)
  | .addVolumesToStorageGroupS symID sgID devIDs, r =>
    some (a.change (a.addVolumes symID sgID devIDs) took r)
  | .removeVolumesFromStorageGroup symID sgID devIDs, r =>
    some (a.change (a.removeVolumes symID sgID devIDs) took r)
  | .createStorageGroup symID sgID, r => some (a.change (a.createGroup symID sgID) took r)
  | .deleteStorageGroup symID sgID, r => some (a.change (a.setGroup symID sgID none) took r)
  | .createMaskingView symID maskingViewID sgID targetID isHost portGroupID, r =>
    some (a.change (a.createView symID maskingViewID
      ⟨if isHost then targetID else "", if isHost then "" else targetID, portGroupID, sgID⟩)
      took r)
  | .deleteMaskingView symID maskingViewID, r =>
    some (a.change (a.deleteView symID maskingViewID) took r)
  | _, _ => some a

end SgArrays

/-- `updateStorageGroupState`, with the goroutine that received the token. -/
structure KeyState where
  addVolumeToSGMVQueue : List AddRequest
  removeVolumeFromSGMVQueue : List RemoveRequest
  lock : Nat
  runner : Option Nat

/-- `getUpdateStorageGroupState` creates a state with one token in its channel. -/
def KeyState.new : KeyState := ⟨[], [], 1, none⟩

/-- The arrays, `updateSGStateMap`, and the batch that each goroutine has announced last. -/
structure SgWorld where
  arrays : SgArrays
  states : String → KeyState
  processing : Nat → Option Batch

namespace SgWorld

def setState (w : SgWorld) (key : String) (state : KeyState) : SgWorld :=
  { w with states := Function.update w.states key state }

def serve (w : SgWorld) (i : Nat) (took : Bool) : (c : SgCall) → SgAnswer c → Option SgWorld
  | .pmax c, r => (w.arrays.serve took c r).map fun arrays => { w with arrays := arrays }
  | .receiveAdd key, r =>
    let state := w.states key
    match state.addVolumeToSGMVQueue, r with
    | [], none => some w
    | req :: rest, some req' =>
      if req = req' then some (w.setState key { state with addVolumeToSGMVQueue := rest })
      else none
    | _, _ => none
  | .receiveRemove key, r =>
    let state := w.states key
    match state.removeVolumeFromSGMVQueue, r with
    | [], none => some w
    | req :: rest, some req' =>
      if req = req' then some (w.setState key { state with removeVolumeFromSGMVQueue := rest })
      else none
    | _, _ => none
  | .processing batch, _ =>
    some { w with processing := Function.update w.processing i (some batch) }
  | .releaseToken key, _ =>
    let state := w.states key
    if state.lock = 0 then
      some (w.setState key { state with lock := 1, runner := none })
    else none
  | _, _ => some w

end SgWorld

inductive SgJob where
  | runAddVolumesToSGMV (fuel : Nat) (symID tgtStorageGroupID : String)
  | runRemoveVolumesFromSGMV (symID tgtStorageGroupID : String)
deriving DecidableEq, Repr

def SgJob.key : SgJob → String
  | .runAddVolumesToSGMV _ symID tgtStorageGroupID => getKey symID tgtStorageGroupID
  | .runRemoveVolumesFromSGMV symID tgtStorageGroupID => getKey symID tgtStorageGroupID

inductive SgAction where
  | requestAdd (req : AddRequest)
  | requestRemove (req : RemoveRequest)
  /-- `PublishMaskingViews` of the publisher for Unisphere 10.4 takes effect. -/
  | publishMaskingViews (symID maskingViewID devID : String) (view : MaskingView)
deriving DecidableEq, Repr

/-- A request is queued, if there is room, or a publish takes effect. -/
def SgWorld.act (w : SgWorld) : SgAction → Option SgWorld
  | .requestAdd req =>
    let state := w.states req.key
    if state.addVolumeToSGMVQueue.length < storageGroupSvcQueueDepth then
      some (w.setState req.key { state with
        addVolumeToSGMVQueue := state.addVolumeToSGMVQueue ++ [req] })
    else none
  | .requestRemove req =>
    let state := w.states req.key
    if state.removeVolumeFromSGMVQueue.length < storageGroupSvcQueueDepth then
      some (w.setState req.key { state with
        removeVolumeFromSGMVQueue := state.removeVolumeFromSGMVQueue ++ [req] })
    else none
  | .publishMaskingViews symID maskingViewID devID view =>
    some { w with arrays := w.arrays.publish symID maskingViewID devID view }

def SgWorld.takeToken (w : SgWorld) (i : Nat) (key : String) : Option SgWorld :=
  let state := w.states key
  if state.lock = 0 then none
  else some
    { w.setState key { state with lock := state.lock - 1, runner := some i } with
      processing := Function.update w.processing i none }

def sgThreads (cfg : SgConfig) (arrays : SgArrays) :
    Prog.Threads Nat SgCall SgJob SgAction Bool SgWorld SgAnswer where
  init := ⟨arrays, fun _ => .new, fun _ => none⟩
  program
    | .runAddVolumesToSGMV fuel symID tgtStorageGroupID =>
      runAddVolumesToSGMV cfg fuel symID tgtStorageGroupID
    | .runRemoveVolumesFromSGMV symID tgtStorageGroupID =>
      runRemoveVolumesFromSGMV symID tgtStorageGroupID
  start w i job := w.takeToken i job.key
  serve w i c r took := w.serve i took c r
  env := SgWorld.act

abbrev SgPool := Prog.Threads.Pool Nat SgCall SgWorld SgAnswer

abbrev SgEvent := Prog.Threads.Event Nat SgCall SgJob SgAction Bool SgAnswer

end PowerMaxCsi.Service
