import PowerMaxCsi.Service.CreateMetroVolume

/-!
# The handle of a Metro volume

IDs have no dash and no colon, and serial numbers are long enough that the handle is not taken for
that of a file system (`MetroLegs`).
-/

namespace PowerMaxCsi.Service

open Strings

def PlainID (id : String) : Prop := '-' ∉ id.toList ∧ ':' ∉ id.toList

instance (id : String) : Decidable (PlainID id) := inferInstanceAs (Decidable (_ ∧ _))

/-- A Metro volume: its name, and its devices.  A degraded one has no remote device. -/
structure MetroLegs where
  (volName symID remoteSymID devID remoteDevID : String)
  named : 2 < len volName
  serials : 11 ≤ len symID + len remoteSymID
  plainSym : PlainID symID
  plainRemoteSym : PlainID remoteSymID
  plainDev : PlainID devID
  plainRemoteDev : PlainID remoteDevID

namespace MetroLegs

variable (m : MetroLegs)

def handle : String := metroHandle m.volName m.symID m.remoteSymID m.devID m.remoteDevID

def csiID : CsiID := ⟨m.volName, m.symID, m.devID, m.remoteSymID, m.remoteDevID⟩

theorem split_pair {a b : String} (ha : PlainID a) (hb : PlainID b) :
    split (a ++ ":" ++ b) ':' = [a, b] := by
  have hap := split_append a b ':'
  rwa [split_of_notMem ha.2, split_of_notMem hb.2] at hap

theorem dash_notMem_pair {a b : String} (ha : PlainID a) (hb : PlainID b) :
    '-' ∉ (a ++ ":" ++ b).toList := by
  rw [dash_notMem_iff, dash_notMem_iff]
  exact ⟨⟨ha.1, by decide⟩, hb.1⟩

theorem handle_eq : m.handle = m.volName ++ "-" ++ (m.symID ++ ":" ++ m.remoteSymID) ++ "-" ++
    (m.devID ++ ":" ++ m.remoteDevID) := by
  simp [handle, metroHandle, String.append_assoc]

theorem splitRemote_pairs : splitRemote m.volName (m.symID ++ ":" ++ m.remoteSymID)
    (m.devID ++ ":" ++ m.remoteDevID) = .ok m.csiID := by
  rw [splitRemote, if_pos (contains_append ..), split_pair m.plainSym m.plainRemoteSym,
    split_pair m.plainDev m.plainRemoteDev]
  rfl

/-- **Round trip.**  The parser takes a handle apart into what it was built from. -/
theorem parseCsiID_handle : parseCsiID m.handle = .ok m.csiID := by
  have hc : len ":" = 1 := rfl
  have hs := m.serials
  -- The last component may be long, but the one before it has the length of two serial numbers.
  have hb : ¬ (len (m.devID ++ ":" ++ m.remoteDevID) > 5 ∧
      len (m.symID ++ ":" ++ m.remoteSymID) < 12) := by
    simp only [len_append]
    omega
  rw [handle_eq, parseCsiID_of_last_two m.named (dash_notMem_pair m.plainSym m.plainRemoteSym)
    (dash_notMem_pair m.plainDev m.plainRemoteDev) hb]
  exact m.splitRemote_pairs

end MetroLegs

end PowerMaxCsi.Service
