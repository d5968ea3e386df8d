import PowerMaxCsi.Lib.Strings
import PowerMaxCsi.Service.Pmax

/-!
# Volume handles and volume identifiers

A handle carries the volume name and the IDs of the array and the device.  The identifier of a
device starts out as the volume name, possibly behind a tenant prefix, and gets the deletion prefix.
-/

namespace PowerMaxCsi.Service

open Strings

def maxVolIdentifierLength : Nat := 64

def maxClusterPrefixLength : Nat := 3

def csiVolumePrefix : String := "csi-"

/-- The parts of a handle; the remote ones are empty unless it is a Metro volume. -/
structure CsiID where
  (volName arrayID devID remoteSymID remoteVolID : String)
deriving DecidableEq, Repr

inductive ParsedID where
  | ok (id : CsiID)
  | malformed (text : String)
  | panics
deriving DecidableEq, Repr

/-- The end of `parseCsiID`: the IDs of a Metro volume have two parts. -/
def splitRemote (volName arrayID devID : String) : ParsedID :=
  if contains arrayID ":" then
    match split arrayID ':', split devID ':' with
    | localArray :: remoteArray :: _, localDev :: remoteDev :: _ =>
      .ok ⟨volName, localArray, localDev, remoteArray, remoteDev⟩
    | _, _ => .panics
  else .ok ⟨volName, arrayID, devID, "", ""⟩

def parseCsiID (csiID : String) : ParsedID :=
  let malformed := ParsedID.malformed ("The CSI ID " ++ csiID ++ " is not formed correctly")
  if csiID = "" then .malformed "A Volume ID is required for the request"
  else
    -- the components from the last one backwards
    match (split csiID '-').reverse with
    | lastElem :: scndLastElem :: third :: rest =>
      let finish (arrayID devID : String) : ParsedID :=
        let lengthOfTrailer := len devID + len arrayID + 2
        if len csiID ≤ lengthOfTrailer + 2 then malformed
        else splitRemote (cut csiID (len csiID - lengthOfTrailer)) arrayID devID
      if len lastElem > 5 ∧ len scndLastElem < 12 then
        match third :: rest with
        | c₃ :: c₄ :: c₅ :: arrayID :: _ =>
          finish arrayID (join [c₅, c₄, c₃, scndLastElem, lastElem] "-")
        | _ => .malformed ("the CSI ID " ++ csiID ++ " is not formed correctly")
      else finish scndLastElem lastElem
    | _ => malformed

def volumeIdentifiersMatch (expected actual : String) : Bool :=
  if expected = "" ∨ actual = expected then expected ≠ ""
  else
    let suffix := "-" ++ expected
    if hasSuffix actual suffix then len (trimSuffix actual suffix) ≤ maxClusterPrefixLength
    else false

def deletionMarkedVolumeMatches (expected actual : String) : Bool :=
  if hasPrefix actual deletionPrefix then
    volumeIdentifiersMatch expected (trimPrefix actual deletionPrefix)
  else false

/-- The old identifier behind the deletion prefix, cut to the length that the array accepts. -/
def deletionName (identifier : String) : String :=
  let newVolName := deletionPrefix ++ identifier
  if len newVolName > maxVolIdentifierLength then cut newVolName maxVolIdentifierLength
  else newVolName

def deletionPrefixMsg : String :=
  "volume handle must begin with CSI deletion prefix \"" ++ deletionPrefix ++ csiPrefix ++ "-\""

def deletionRequestError (deviceID volumeHandle symID : String) : Option String :=
  if deviceID = "" then some "device id can't be empty"
  else if symID = "" then some "sym id can't be empty"
  else if hasPrefix volumeHandle (deletionPrefix ++ csiPrefix ++ "-") then none
  else if ¬ hasPrefix volumeHandle deletionPrefix then some deletionPrefixMsg
  else
    match index (trimPrefix volumeHandle deletionPrefix) ("-" ++ csiPrefix ++ "-") with
    | some markerIndex => if markerIndex > 0 ∧ markerIndex ≤ 3 then none else some deletionPrefixMsg
    | none => some deletionPrefixMsg

section

variable {volName arrayID devID : String}

theorem dash_notMem_iff {s t : String} :
    '-' ∉ (s ++ t).toList ↔ '-' ∉ s.toList ∧ '-' ∉ t.toList := by
  rw [String.toList_append, List.mem_append, not_or]

theorem split_dash (s t : String) : split (s ++ "-" ++ t) '-' = split s '-' ++ split t '-' :=
  split_append s t '-'

theorem split_dash_last (s : String) (hl : '-' ∉ devID.toList) :
    split (s ++ "-" ++ devID) '-' = split s '-' ++ [devID] := by
  rw [split_dash, split_of_notMem hl]

theorem cut_trailer (volName arrayID devID : String) :
    cut (volName ++ "-" ++ arrayID ++ "-" ++ devID)
      (len (volName ++ "-" ++ arrayID ++ "-" ++ devID) - (len devID + len arrayID + 2)) = volName := by
  have hd : len "-" = 1 := rfl
  have hl : len (volName ++ "-" ++ arrayID ++ "-" ++ devID) - (len devID + len arrayID + 2) =
      len volName := by
    simp only [len_append]
    omega
  rw [hl, String.append_assoc, String.append_assoc, String.append_assoc]
  exact cut_append ..

theorem handle_ne_empty (volName arrayID devID : String) :
    volName ++ "-" ++ arrayID ++ "-" ++ devID ≠ "" := by
  intro he
  have hl := congrArg len he
  simp only [len_append] at hl
  have hd : len "-" = 1 := rfl
  have hz : len "" = 0 := rfl
  omega

theorem trailer_lt (hn : 2 < len volName) : ¬ len (volName ++ "-" ++ arrayID ++ "-" ++ devID) ≤
    len devID + len arrayID + 2 + 2 := by
  have hd : len "-" = 1 := rfl
  simp only [len_append]
  omega

/-- Two last components unlike those of a file system are the IDs of an array and a device. -/
theorem parseCsiID_of_last_two (hn : 2 < len volName) (ha : '-' ∉ arrayID.toList)
    (hd : '-' ∉ devID.toList) (hb : ¬ (len devID > 5 ∧ len arrayID < 12)) :
    parseCsiID (volName ++ "-" ++ arrayID ++ "-" ++ devID) = splitRemote volName arrayID devID := by
  obtain ⟨third, rest, hr⟩ := List.exists_cons_of_ne_nil
    (mt List.reverse_eq_nil_iff.mp (split_ne_nil volName '-'))
  rw [parseCsiID, if_neg (handle_ne_empty _ _ _), split_dash_last _ hd, split_dash_last _ ha]
  simp only [List.reverse_append, List.reverse_cons, List.reverse_nil, List.nil_append,
    List.cons_append, hr]
  rw [if_neg hb, if_neg (trailer_lt hn), cut_trailer]

/-- Six last components, a long one behind a short one, are the IDs of an array and a file
system. -/
theorem parseCsiID_of_last_six {c₁ c₂ c₃ c₄ c₅ : String} (hn : 2 < len volName)
    (ha : '-' ∉ arrayID.toList)
    (hp : '-' ∉ c₁.toList ∧ '-' ∉ c₂.toList ∧ '-' ∉ c₃.toList ∧ '-' ∉ c₄.toList ∧ '-' ∉ c₅.toList)
    (hl : len c₅ > 5) (hf : len c₄ < 12) :
    parseCsiID (volName ++ "-" ++ arrayID ++ "-" ++ join [c₁, c₂, c₃, c₄, c₅] "-") =
      splitRemote volName arrayID (join [c₁, c₂, c₃, c₄, c₅] "-") := by
  obtain ⟨h₁, h₂, h₃, h₄, h₅⟩ := hp
  have hj : join [c₁, c₂, c₃, c₄, c₅] "-" =
      c₁ ++ "-" ++ c₂ ++ "-" ++ c₃ ++ "-" ++ c₄ ++ "-" ++ c₅ := by
    simp [join, String.append_assoc]
  have hs : split (volName ++ "-" ++ arrayID ++ "-" ++ join [c₁, c₂, c₃, c₄, c₅] "-") '-' =
      split volName '-' ++ [arrayID, c₁, c₂, c₃, c₄, c₅] := by
    rw [hj]
    simp only [← String.append_assoc]
    rw [split_dash_last _ h₅, split_dash_last _ h₄, split_dash_last _ h₃, split_dash_last _ h₂,
      split_dash_last _ h₁, split_dash_last _ ha]
    simp
  rw [parseCsiID, if_neg (handle_ne_empty _ _ _), hs]
  simp only [List.reverse_append, List.reverse_cons, List.reverse_nil, List.nil_append,
    List.cons_append]
  rw [if_pos ⟨hl, hf⟩, if_neg (trailer_lt hn), cut_trailer]

end

example : parseCsiID "csi-ABC-pmax-260602731A-ns1-nsx-000120000548-011AB" =
    .ok ⟨"csi-ABC-pmax-260602731A-ns1-nsx", "000120000548", "011AB", "", ""⟩ := by decide

example : parseCsiID "csi-ABC-pmax-448c258b72-ns1-nsx-000120000549-649112ce-742b-b93a-abcd-026048200208" =
    .ok ⟨"csi-ABC-pmax-448c258b72-ns1-nsx", "000120000549",
      "649112ce-742b-b93a-abcd-026048200208", "", ""⟩ := by decide

end PowerMaxCsi.Service
