import PowerMaxCsi.Lib.Numerals
import PowerMaxCsi.Lib.Strings

/-!
# Device numbers and device ranges

`getDeviceRanges` of `service/deletion_worker.go` cuts a list of devices into runs of consecutive
numbers, `deviceRange.get` writes a range down and `deviceRange.getDeviceIDs` expands it.
`rangeNumbers` reads the text as the array does.
-/

namespace PowerMaxCsi.Service

open Numeral List String

structure SymDeviceID where
  deviceID : String
  intVal : Int
deriving DecidableEq, Repr, Inhabited

def getDeviceID (deviceID : String) : Except NumError SymDeviceID :=
  let trimmedDeviceID := Strings.trimPrefix deviceID "0"
  match parseInt 16 trimmedDeviceID with
  | (_, some err) => .error err
  | (output, none) => .ok { deviceID := deviceID, intVal := output }

def deviceIDErrorText (deviceID : String) (err : NumError) : String :=
  "strconv.ParseInt: parsing \"" ++ Strings.trimPrefix deviceID "0" ++ "\": " ++
    match err with
    | .invalid => "invalid syntax"
    | .outOfRange => "value out of range"

structure DeviceRange where
  (start stop : SymDeviceID)
deriving DecidableEq, Repr

/-- `strings.ToUpper(fmt.Sprintf("%05x", i))`. -/
def formatDeviceID (i : Int) : String :=
  if i < 0 then String.ofList ('-' :: formatHex 4 i.natAbs) else String.ofList (formatHex 5 i.toNat)

namespace DeviceRange

def empty : DeviceRange := ⟨⟨"", 0⟩, ⟨"", 0⟩⟩

def get (r : DeviceRange) : String :=
  if r.start.intVal = r.stop.intVal then r.start.deviceID
  else r.start.deviceID ++ "-" ++ r.stop.deviceID

def isDeviceIDInRange (r : DeviceRange) (device : SymDeviceID) : Bool :=
  device.intVal = r.start.intVal ∨ (device.intVal > r.start.intVal ∧ device.intVal ≤ r.stop.intVal)

def getDeviceIDs (r : DeviceRange) : List String :=
  (List.range (r.stop.intVal + 1 - r.start.intVal).toNat).map fun k : Nat =>
    formatDeviceID (r.start.intVal + k)

end DeviceRange

/-- The loop of `getDeviceRanges`: `start` and `stop` are `devices[start]` and `devices[end]`. -/
def deviceRangesFrom (start stop : SymDeviceID) : List SymDeviceID → List DeviceRange
  | [] => [⟨start, stop⟩]
  | d :: ds =>
    if d.intVal - stop.intVal = 1 then deviceRangesFrom start d ds
    else ⟨start, stop⟩ :: deviceRangesFrom d d ds

def getDeviceRanges : List SymDeviceID → List DeviceRange
  | [] => []
  | d :: ds => deviceRangesFrom d d ds

/-- The numbers, from the first to the second, that the text of a range stands for. -/
def rangeNumbers (text : String) : Option (Int × Int) :=
  match text.toList.splitOn '-' with
  | [s] =>
    match getDeviceID (String.ofList s) with
    | .ok d => some (d.intVal, d.intVal)
    | .error _ => none
  | [s, e] =>
    match getDeviceID (String.ofList s), getDeviceID (String.ofList e) with
    | .ok d, .ok d' => some (d.intVal, d'.intVal)
    | _, _ => none
  | _ => none

def FiveHex (deviceID : String) : Prop :=
  deviceID.toList.length = 5 ∧ UpperHex deviceID.toList

instance (deviceID : String) : Decidable (FiveHex deviceID) :=
  inferInstanceAs (Decidable (_ ∧ _))

def SymDeviceID.Valid (d : SymDeviceID) : Prop :=
  FiveHex d.deviceID ∧ getDeviceID d.deviceID = .ok d

theorem getDeviceID_of_fiveHex {deviceID : String} (h : FiveHex deviceID) :
    getDeviceID deviceID = .ok ⟨deviceID, hexValue deviceID.toList⟩ := by
  obtain ⟨hl, hh⟩ := h
  obtain ⟨c, cs, hcs⟩ := exists_cons_of_ne_nil (l := deviceID.toList) (by
    intro hnil
    simp [hnil] at hl)
  -- trimming one leading zero leaves digits that stand for the same number
  obtain ⟨t, ht, hh', hne, hl', hv⟩ : ∃ t, Strings.trimPrefix deviceID "0" = t ∧
      UpperHex t.toList ∧ t.toList ≠ [] ∧ t.toList.length ≤ 15 ∧
      hexValue t.toList = hexValue deviceID.toList := by
    refine ⟨_, rfl, ?_⟩
    rw [hcs, length_cons] at hl
    by_cases hz : c = '0'
    · subst hz
      have htr : (Strings.trimPrefix deviceID "0").toList = cs := by
        simp [Strings.trimPrefix, Strings.hasPrefix, hcs]
      rw [htr, hcs, hexValue_zero_cons]
      refine ⟨(hcs ▸ hh).of_cons.2, ?_, by omega, rfl⟩
      rintro rfl
      simp at hl
    · have htr : Strings.trimPrefix deviceID "0" = deviceID := by
        simp [Strings.trimPrefix, Strings.hasPrefix, hcs, Ne.symm hz]
      rw [htr]
      exact ⟨hh, by simp [hcs], by rw [hcs, length_cons]; omega, rfl⟩
  simp [getDeviceID, ht, parseInt_of_upperHex hh' hne hl', hv]

namespace SymDeviceID.Valid

variable {d d' : SymDeviceID} (h : d.Valid)

include h

theorem intVal_eq : d.intVal = hexValue d.deviceID.toList := by
  have hok : Except.ok d = Except.ok _ := h.2.symm.trans (getDeviceID_of_fiveHex h.1)
  rw [Except.ok.inj hok]

theorem format_eq : formatDeviceID d.intVal = d.deviceID := by
  have hne : d.deviceID.toList ≠ [] := by
    intro hnil
    have := h.1.1
    simp [hnil] at this
  have hf := formatHex_value h.1.2 hne
  rw [h.1.1] at hf
  rw [formatDeviceID, h.intVal_eq, if_neg (by omega), Int.toNat_natCast, hf, ofList_toList]

theorem nonneg : 0 ≤ d.intVal := by
  rw [h.intVal_eq]
  exact Int.natCast_nonneg _

theorem eq_of_intVal_eq (h' : d'.Valid) (heq : d.intVal = d'.intVal) : d = d' := by
  have hid : d.deviceID = d'.deviceID := by rw [← h.format_eq, ← h'.format_eq, heq]
  cases d
  simp_all

theorem dash_notMem : '-' ∉ d.deviceID.toList := fun hmem =>
  (upperHexDigits_spec _ (h.1.2 _ hmem)).2.2.2.2 rfl

omit h

end SymDeviceID.Valid

variable {d : SymDeviceID}

theorem formatDeviceID_eq_iff (h : d.Valid) {i : Int} (hi : 0 ≤ i) :
    formatDeviceID i = d.deviceID ↔ i = d.intVal := by
  constructor
  · intro heq
    have hc : formatHex 5 i.toNat = d.deviceID.toList := by
      rw [← heq, formatDeviceID, if_neg (by omega), toList_ofList]
    rw [h.intVal_eq, ← hc, hexValue_formatHex]
    omega
  · rintro rfl
    exact h.format_eq

variable {r : DeviceRange}

theorem rangeNumbers_get (hs : r.start.Valid) (hst : r.stop.Valid) :
    rangeNumbers r.get = some (r.start.intVal, r.stop.intVal) := by
  have hda : ∀ {d : SymDeviceID}, d.Valid → ∀ c ∈ d.deviceID.toList, (c == '-') = false := by
    intro d hd c hc
    rw [beq_eq_false_iff_ne]
    rintro rfl
    exact hd.dash_notMem hc
  by_cases heq : r.start.intVal = r.stop.intVal
  · have hsp : r.get.toList.splitOn '-' = [r.start.deviceID.toList] := by
      rw [DeviceRange.get, if_pos heq]
      exact splitOnP_eq_singleton (hda hs)
    simp [rangeNumbers, hsp, hs.2, heq]
  · have hsp : r.get.toList.splitOn '-' = [r.start.deviceID.toList, r.stop.deviceID.toList] := by
      have ht : r.get.toList = r.start.deviceID.toList ++ '-' :: r.stop.deviceID.toList := by
        simp [DeviceRange.get, heq]
      rw [ht, List.splitOn, splitOnP_append_cons_of_forall_mem (hda hs) _ (by simp),
        splitOnP_eq_singleton (hda hst)]
    simp [rangeNumbers, hsp, hs.2, hst.2]

theorem mem_getDeviceIDs (hs : r.start.Valid) (hd : d.Valid) :
    d.deviceID ∈ r.getDeviceIDs ↔ r.start.intVal ≤ d.intVal ∧ d.intVal ≤ r.stop.intVal := by
  have hp := hs.nonneg
  simp only [DeviceRange.getDeviceIDs, mem_map, mem_range]
  constructor
  · rintro ⟨k, hk, hf⟩
    rw [formatDeviceID_eq_iff hd (by omega)] at hf
    omega
  · rintro ⟨hlo, hhi⟩
    refine ⟨(d.intVal - r.start.intVal).toNat, by omega, ?_⟩
    rw [formatDeviceID_eq_iff hd (by omega)]
    omega

def Filled (devices : List SymDeviceID) (lo hi : Int) : Prop :=
  ∀ n, lo ≤ n → n ≤ hi → ∃ d ∈ devices, d.intVal = n

/-- A range of consecutive devices, all of them from the list. -/
structure DeviceRange.Within (r : DeviceRange) (devices : List SymDeviceID) : Prop where
  start_mem : r.start ∈ devices
  stop_mem : r.stop ∈ devices
  le : r.start.intVal ≤ r.stop.intVal
  filled : Filled devices r.start.intVal r.stop.intVal

variable {devices : List SymDeviceID}

theorem within_singleton (hd : d ∈ devices) : DeviceRange.Within ⟨d, d⟩ devices :=
  ⟨hd, hd, le_rfl, fun _ hlo hhi => ⟨d, hd, le_antisymm hlo hhi⟩⟩

variable {start stop : SymDeviceID}

theorem DeviceRange.Within.snoc (h : DeviceRange.Within ⟨start, stop⟩ devices)
    (hd : d ∈ devices) (hne : d.intVal - stop.intVal = 1) :
    DeviceRange.Within ⟨start, d⟩ devices where
  start_mem := h.start_mem
  stop_mem := hd
  le := by
    have := h.le
    dsimp only at this ⊢
    omega
  filled n hlo hhi := by
    by_cases hn : n ≤ stop.intVal
    · exact h.filled n hlo hn
    · exact ⟨d, hd, by dsimp only at hhi; omega⟩

theorem within_of_mem_deviceRangesFrom {ds : List SymDeviceID}
    (h : DeviceRange.Within ⟨start, stop⟩ devices) (hds : ∀ d ∈ ds, d ∈ devices)
    (hr : r ∈ deviceRangesFrom start stop ds) : r.Within devices := by
  induction ds generalizing start stop with
  | nil =>
    rw [deviceRangesFrom, mem_singleton] at hr
    exact hr ▸ h
  | cons d ds ih =>
    have hd : d ∈ devices := hds d (by simp)
    have hre : ∀ d ∈ ds, d ∈ devices := fun d' hd' => hds d' (by simp [hd'])
    rw [deviceRangesFrom] at hr
    split at hr
    case isTrue hn => exact ih (h.snoc hd hn) hre hr
    case isFalse =>
      rcases mem_cons.mp hr with rfl | hr
      · exact h
      · exact ih (within_singleton hd) hre hr

theorem within_of_mem_getDeviceRanges (hr : r ∈ getDeviceRanges devices) : r.Within devices := by
  cases devices with
  | nil => simp [getDeviceRanges] at hr
  | cons d ds =>
    exact within_of_mem_deviceRangesFrom (within_singleton (by simp)) (by simp +contextual) hr

theorem isDeviceIDInRange_iff (hle : r.start.intVal ≤ r.stop.intVal) (d : SymDeviceID) :
    r.isDeviceIDInRange d = true ↔ r.start.intVal ≤ d.intVal ∧ d.intVal ≤ r.stop.intVal := by
  simp only [DeviceRange.isDeviceIDInRange, decide_eq_true_eq]
  omega

/-- The devices of the current run are in the first range, the others in a later one. -/
theorem exists_mem_deviceRangesFrom (ds : List SymDeviceID) (hle : start.intVal ≤ stop.intVal) :
    (∀ d : SymDeviceID, start.intVal ≤ d.intVal → d.intVal ≤ stop.intVal →
      ∃ r ∈ deviceRangesFrom start stop ds, r.isDeviceIDInRange d = true) ∧
    ∀ d ∈ ds, ∃ r ∈ deviceRangesFrom start stop ds, r.isDeviceIDInRange d = true := by
  induction ds generalizing start stop with
  | nil =>
    refine ⟨fun d hlo hhi => ⟨⟨start, stop⟩, by simp [deviceRangesFrom], ?_⟩, by simp⟩
    exact (isDeviceIDInRange_iff hle d).mpr ⟨hlo, hhi⟩
  | cons d₀ ds ih =>
    rw [deviceRangesFrom]
    split
    case isTrue hn =>
      obtain ⟨hru, hl⟩ := ih (show start.intVal ≤ d₀.intVal by omega)
      refine ⟨fun d hlo hhi => hru d hlo (by omega), fun d hd => ?_⟩
      rcases mem_cons.mp hd with rfl | hd
      · exact hru d (by omega) le_rfl
      · exact hl d hd
    case isFalse =>
      obtain ⟨hru, hl⟩ := ih (le_refl d₀.intVal)
      refine ⟨fun d hlo hhi => ⟨⟨start, stop⟩, by simp, ?_⟩, fun d hd => ?_⟩
      · exact (isDeviceIDInRange_iff hle d).mpr ⟨hlo, hhi⟩
      · obtain ⟨r, hr, hin⟩ : ∃ r ∈ deviceRangesFrom d₀ d₀ ds, r.isDeviceIDInRange d = true := by
          rcases mem_cons.mp hd with rfl | hd
          · exact hru d le_rfl le_rfl
          · exact hl d hd
        exact ⟨r, mem_cons_of_mem _ hr, hin⟩

theorem exists_mem_getDeviceRanges (hd : d ∈ devices) :
    ∃ r ∈ getDeviceRanges devices, r.isDeviceIDInRange d = true := by
  cases devices with
  | nil => simp at hd
  | cons d₀ ds =>
    obtain ⟨hr, hl⟩ := exists_mem_deviceRangesFrom ds (le_refl d₀.intVal)
    rcases mem_cons.mp hd with rfl | hd
    · exact hr d le_rfl le_rfl
    · exact hl d hd

/-- Ranges in increasing order that are made of the devices, with a gap on either side of each. -/
structure Partition (devices : List SymDeviceID) (ranges : List DeviceRange) : Prop where
  proper : ∀ r ∈ ranges, r.start.intVal ≤ r.stop.intVal
  ordered : ranges.Pairwise fun r r' => r.stop.intVal < r'.start.intVal
  covers : ∀ n, (∃ d ∈ devices, d.intVal = n) ↔
    ∃ r ∈ ranges, r.start.intVal ≤ n ∧ n ≤ r.stop.intVal
  maximal : ∀ r ∈ ranges, ∀ d ∈ devices,
    d.intVal ≠ r.start.intVal - 1 ∧ d.intVal ≠ r.stop.intVal + 1
  unique : ∀ d ∈ devices, ∃! r, r ∈ ranges ∧ r.isDeviceIDInRange d = true

/-- A run ends before a number that is left out, and the next one starts behind it. -/
theorem deviceRangesFrom_separated {ds : List SymDeviceID} (hle : start.intVal ≤ stop.intVal)
    (hs : (stop :: ds).Pairwise fun d d' => d.intVal < d'.intVal) :
    ((deviceRangesFrom start stop ds).Pairwise fun r r' => r.stop.intVal + 1 < r'.start.intVal) ∧
      ∀ r ∈ deviceRangesFrom start stop ds, start.intVal ≤ r.start.intVal := by
  induction ds generalizing start stop with
  | nil => simp [deviceRangesFrom]
  | cons d ds ih =>
    obtain ⟨hlt, hs⟩ := pairwise_cons.mp hs
    have hd := hlt d mem_cons_self
    rw [deviceRangesFrom]
    split
    case isTrue => exact ih (by omega) hs
    case isFalse hn =>
      obtain ⟨hp, hb⟩ := ih le_rfl hs
      refine ⟨pairwise_cons.mpr ⟨fun r hr => ?_, hp⟩, fun r hr => ?_⟩
      · have := hb r hr
        dsimp only
        omega
      · rcases mem_cons.mp hr with rfl | hr
        · exact le_rfl
        · have := hb r hr
          omega

def DeviceRange.Apart (r r' : DeviceRange) : Prop :=
  r.stop.intVal + 1 < r'.start.intVal ∨ r'.stop.intVal + 1 < r.start.intVal

instance : Std.Symm DeviceRange.Apart := ⟨fun _ _ => Or.symm⟩

/-- A range that has a number in or next to another one is that one. -/
theorem eq_of_near {ranges : List DeviceRange} {r' : DeviceRange} {n : Int}
    (hs : ranges.Pairwise fun r r' => r.stop.intVal + 1 < r'.start.intVal) (hr : r ∈ ranges)
    (hr' : r' ∈ ranges) (hlo : r'.start.intVal ≤ n) (hhi : n ≤ r'.stop.intVal)
    (hlo' : r.start.intVal - 1 ≤ n) (hhi' : n ≤ r.stop.intVal + 1) : r' = r := by
  by_contra hne
  rcases (hs.imp (S := DeviceRange.Apart) Or.inl).forall hr' hr hne with h | h <;> omega

/-- **Ranges.**  The devices of an increasing list are cut into the longest runs. -/
theorem getDeviceRanges_partition (devices : List SymDeviceID)
    (hs : devices.Pairwise fun d d' => d.intVal < d'.intVal) :
    Partition devices (getDeviceRanges devices) := by
  have hw (r) (hr : r ∈ getDeviceRanges devices) := within_of_mem_getDeviceRanges hr
  have hsep : (getDeviceRanges devices).Pairwise fun r r' =>
      r.stop.intVal + 1 < r'.start.intVal := by
    cases devices with
    | nil => exact Pairwise.nil
    | cons d ds => exact (deviceRangesFrom_separated le_rfl hs).1
  refine ⟨fun r hr => (hw r hr).le, hsep.imp (by omega), fun n => ⟨?_, ?_⟩, ?_, ?_⟩
  · rintro ⟨d, hd, rfl⟩
    obtain ⟨r, hr, hin⟩ := exists_mem_getDeviceRanges hd
    exact ⟨r, hr, (isDeviceIDInRange_iff (hw r hr).le d).mp hin⟩
  · rintro ⟨r, hr, hlo, hhi⟩
    exact (hw r hr).filled n hlo hhi
  · intro r hr d hd
    obtain ⟨r', hr', hin⟩ := exists_mem_getDeviceRanges hd
    rw [isDeviceIDInRange_iff (hw r' hr').le] at hin
    have hle := (hw r hr).le
    constructor <;> intro he <;>
      obtain rfl := eq_of_near hsep hr hr' hin.1 hin.2 (by omega) (by omega) <;> omega
  · intro d hd
    obtain ⟨r, hr, hin⟩ := exists_mem_getDeviceRanges hd
    refine ⟨r, ⟨hr, hin⟩, ?_⟩
    rintro r' ⟨hr', hin'⟩
    rw [isDeviceIDInRange_iff (hw r hr).le] at hin
    rw [isDeviceIDInRange_iff (hw r' hr').le] at hin'
    exact eq_of_near hsep hr hr' hin'.1 hin'.2 (by omega) (by omega)

theorem getDeviceRanges_partition_two :
    Partition [⟨"00011", 17⟩, ⟨"00012", 18⟩, ⟨"00014", 20⟩]
      (getDeviceRanges [⟨"00011", 17⟩, ⟨"00012", 18⟩, ⟨"00014", 20⟩]) :=
  getDeviceRanges_partition _ (by decide)

end PowerMaxCsi.Service
