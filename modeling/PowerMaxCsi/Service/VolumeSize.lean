import PowerMaxCsi.Lib.MachineInt
import PowerMaxCsi.Service.Pmax

/-!
# The size of a volume

`validateVolSize` of `service/controller.go` and `computeRequiredCylinders` of
`service/volume_creator.go`, written over the way in which results are stored.  The capacities of a
pool are floating-point numbers in the source.  Here they are rational numbers, and every operation
on them is followed by a rounding `round`, of which nothing is assumed: the free capacity is what the
driver computes, not what exact arithmetic gives.
-/

namespace PowerMaxCsi.Service

open MachineInt

def cylinderSizeInBytes : Int := 1966080

def defaultVolumeSizeBytes : Int := 1073741824

def minVolumeSizeBytes : Int := 51118080

def maxVolumeSizeBytes : Int := 70368745881600

structure CapacityRange where
  (requiredBytes limitBytes : Int)
deriving DecidableEq, Repr

/-- `types.SrpCap`, or the provisioned part of `types.FbaCap` or `types.CkdCap`. -/
structure PoolCapacity where
  (usableTotInTB usableUsedInTB : Rat)
deriving DecidableEq, Repr

structure StoragePool where
  (srpCap fbaCap ckdCap : Option PoolCapacity)
deriving DecidableEq, Repr

def getRequiredBytes (cr : Option CapacityRange) : Int := (cr.map (·.requiredBytes)).getD 0

def getLimitBytes (cr : Option CapacityRange) : Int := (cr.map (·.limitBytes)).getD 0

def getStoragePoolCapacities (storagePoolID : String) (pool : Except PmaxError StoragePool) :
    Except GrpcError (List PoolCapacity) :=
  match pool with
  | .error err => .error ⟨.internal, "Could not retrieve StoragePool " ++ storagePoolID ++
      ". Error(" ++ err.text ++ ")"⟩
  | .ok pool =>
    match pool.srpCap with
    | some srp => .ok [srp]
    | none =>
      if pool.fbaCap.isSome ∨ pool.ckdCap.isSome then
        .ok (pool.fbaCap.toList ++ pool.ckdCap.toList)
      else .error ⟨.internal, "all capacities for StoragePool '" ++ storagePoolID ++ "' are empty"⟩

/-- The sum of the capacities, converted from TB to GB.  That of a single one takes no addition. -/
def sumInGB (round : Rat → Rat) : List Rat → Rat
  | [] => 0
  | inTB :: rest => rest.foldl (fun sum inTB => round (sum + round (inTB * 1024))) (round (inTB * 1024))

def remainingCapInGB (round : Rat → Rat) (capacities : List PoolCapacity) : Rat :=
  round (sumInGB round (capacities.map (·.usableTotInTB)) -
    sumInGB round (capacities.map (·.usableUsedInTB)))

/-- The conversion of a floating-point number to an integer, which cuts off. -/
def truncate (x : Rat) : Int := x.num.tdiv x.den

def badCapacity (before : String) (first : Int) (between : String) (second : Int)
    (behind : String) : GrpcError :=
  ⟨.outOfRange, "bad capacity: " ++ before ++ toString first ++ between ++ toString second ++ behind⟩

section

variable {m : Type → Type} [Monad m] (store : Int → m Int) (round : Rat → Rat)

def remainingBytes (capacities : List PoolCapacity) : m Int := do
  let kilo ← store (truncate (remainingCapInGB round capacities) * 1024)
  let mega ← store (kilo * 1024)
  store (mega * 1024)

/-- `maxAvailBytes` of `validateVolSize`; the pool is looked up only if both IDs are given. -/
def maxAvailable (symmetrixID storagePoolID : String) (pool : Except PmaxError StoragePool) :
    m (Except GrpcError Int) :=
  if symmetrixID ≠ "" ∧ storagePoolID ≠ "" then
    match getStoragePoolCapacities storagePoolID pool with
    | .error err => pure (.error err)
    | .ok capacities => do return .ok (← remainingBytes store round capacities)
  else pure (.ok maxVolumeSizeBytes)

def cylindersFor (minSizeBytes : Int) : m Int := do
  let minNumberOfCylinders ← store (minSizeBytes.tdiv cylinderSizeInBytes)
  let rest ← store (minSizeBytes.tmod cylinderSizeInBytes)
  if rest > 0 then store (minNumberOfCylinders + 1) else pure minNumberOfCylinders

def sizeWithin (minSizeBytes maxSizeBytes maxAvailBytes : Int) : m (Except GrpcError Int) :=
  let maxSizeBytes := if maxSizeBytes = 0 then maxAvailBytes else maxSizeBytes
  if maxSizeBytes > maxAvailBytes then
    pure (.error (badCapacity "requested maximum size " maxSizeBytes
      " bytes is greater than the maximum available capacity " maxAvailBytes " bytes"))
  else if minSizeBytes > maxAvailBytes then
    pure (.error (badCapacity "requested minimum size " minSizeBytes
      " bytes is greater than the maximum available capacity " maxAvailBytes " bytes"))
  else
    let minSizeBytes := if minSizeBytes < minVolumeSizeBytes then minVolumeSizeBytes else minSizeBytes
    if maxSizeBytes < minSizeBytes then
      pure (.error (badCapacity "requested maximum size " maxSizeBytes
        " bytes is less than the requested minimum size " minSizeBytes " bytes"))
    else do
      let numOfCylinders ← cylindersFor store minSizeBytes
      let sizeInBytes ← store (numOfCylinders * cylinderSizeInBytes)
      if sizeInBytes > maxSizeBytes then
        pure (.error (badCapacity "size " sizeInBytes " bytes exceeds limit size " maxSizeBytes
          " bytes"))
      else pure (.ok numOfCylinders)

def validateVolSize (cr : Option CapacityRange) (symmetrixID storagePoolID : String)
    (pool : Except PmaxError StoragePool) : m (Except GrpcError Int) :=
  let minSizeBytes := getRequiredBytes cr
  let maxSizeBytes := getLimitBytes cr
  if minSizeBytes < 0 ∨ maxSizeBytes < 0 then
    pure (.error (badCapacity "requested volume size " minSizeBytes " bytes and limit size "
      maxSizeBytes " bytes must not be negative"))
  else do
    let minSizeBytes := if minSizeBytes = 0 then defaultVolumeSizeBytes else minSizeBytes
    match ← maxAvailable store round symmetrixID storagePoolID pool with
    | .error err => pure (.error err)
    | .ok maxAvailBytes => sizeWithin store minSizeBytes maxSizeBytes maxAvailBytes

def computeRequiredCylinders (cr : Option CapacityRange) : m (Except GrpcError Int) :=
  let minSizeBytes := getRequiredBytes cr
  let maxSizeBytes := getLimitBytes cr
  if minSizeBytes < 0 ∨ maxSizeBytes < 0 then
    pure (.error (badCapacity "requested volume size bytes " minSizeBytes " and limit size bytes "
      maxSizeBytes " must not be negative"))
  else do
    let minSizeBytes := if minSizeBytes = 0 then defaultVolumeSizeBytes else minSizeBytes
    let minSizeBytes := if minSizeBytes < minVolumeSizeBytes then minVolumeSizeBytes else minSizeBytes
    let numOfCylinders ← cylindersFor store minSizeBytes
    let sizeInBytes ← store (numOfCylinders * cylinderSizeInBytes)
    if maxSizeBytes > 0 ∧ sizeInBytes > maxSizeBytes then
      pure (.error (badCapacity "size in bytes " sizeInBytes " exceeds limit size bytes "
        maxSizeBytes ""))
    else pure (.ok numOfCylinders)

end

/-- The available capacity, as the driver computes it. -/
def availableBytes (round : Rat → Rat) (symmetrixID storagePoolID : String)
    (pool : Except PmaxError StoragePool) : Except GrpcError Int :=
  if symmetrixID ≠ "" ∧ storagePoolID ≠ "" then
    (getStoragePoolCapacities storagePoolID pool).map fun capacities =>
      truncate (remainingCapInGB round capacities) * 2 ^ 30
  else .ok maxVolumeSizeBytes

def neededBytes (requiredBytes : Int) : Int :=
  max (if requiredBytes = 0 then defaultVolumeSizeBytes else requiredBytes) minVolumeSizeBytes

def cylinders (minSizeBytes : Int) : Int :=
  (minSizeBytes + (cylinderSizeInBytes - 1)) / cylinderSizeInBytes

theorem cylinders_spec (minSizeBytes : Int) :
    minSizeBytes ≤ cylinders minSizeBytes * cylinderSizeInBytes ∧
      cylinders minSizeBytes * cylinderSizeInBytes < minSizeBytes + cylinderSizeInBytes := by
  simp only [cylinders, cylinderSizeInBytes]
  omega

theorem cylinders_le {minSizeBytes n : Int} (h : minSizeBytes ≤ n * cylinderSizeInBytes) :
    cylinders minSizeBytes ≤ n := by
  have hlt := (cylinders_spec minSizeBytes).2
  simp only [cylinderSizeInBytes] at h hlt
  omega

section

variable {m : Type → Type} [Monad m] [LawfulMonad m] {store : Int → m Int} {round : Rat → Rat}
  {minSizeBytes : Int}

theorem cylindersFor_eq (hs : Faithful store) (hp : 0 ≤ minSizeBytes)
    (hm : minSizeBytes ≤ 2 ^ 62) : cylindersFor store minSizeBytes = pure (cylinders minSizeBytes) := by
  simp only [cylindersFor, cylinders, cylinderSizeInBytes]
  rw [Int.tdiv_eq_ediv_of_nonneg hp, Int.tmod_eq_emod_of_nonneg hp,
    hs _ (by simp only [InRange]; omega), pure_bind, hs _ (by simp only [InRange]; omega),
    pure_bind]
  split
  case isTrue hr =>
    rw [hs _ (by simp only [InRange]; omega)]
    congr 1
    omega
  case isFalse hr =>
    congr 1
    omega

theorem inRange_cylinders (hp : 0 ≤ minSizeBytes) (hm : minSizeBytes ≤ 2 ^ 62) :
    InRange (cylinders minSizeBytes * cylinderSizeInBytes) := by
  obtain ⟨hge, hlt⟩ := cylinders_spec minSizeBytes
  simp only [InRange, cylinderSizeInBytes] at hge hlt ⊢
  omega

theorem remainingBytes_eq (hs : Faithful store) {capacities : List PoolCapacity}
    (hr : InRange (truncate (remainingCapInGB round capacities) * 2 ^ 30)) :
    remainingBytes store round capacities =
      pure (truncate (remainingCapInGB round capacities) * 2 ^ 30) := by
  simp only [InRange] at hr
  rw [remainingBytes, hs _ (by simp only [InRange]; omega), pure_bind,
    hs _ (by simp only [InRange]; omega), pure_bind, hs _ (by simp only [InRange]; omega)]
  congr 1
  omega

theorem maxAvailable_eq (hs : Faithful store) {symmetrixID storagePoolID : String}
    {pool : Except PmaxError StoragePool} {avail : Int}
    (ha : availableBytes round symmetrixID storagePoolID pool = .ok avail) (hr : InRange avail) :
    maxAvailable store round symmetrixID storagePoolID pool = pure (.ok avail) := by
  unfold availableBytes at ha
  unfold maxAvailable
  split
  case isTrue hask =>
    rw [if_pos hask] at ha
    split
    case h_1 err he =>
      rw [he] at ha
      cases ha
    case h_2 capacities hc =>
      rw [hc] at ha
      cases ha
      rw [remainingBytes_eq hs hr, pure_bind]
  case isFalse hn =>
    rw [if_neg hn] at ha
    cases ha
    rfl

/-- The cylinders that are needed fit into the limit, 0 for none, and what is available. -/
def SizeFits (minSizeBytes maxSizeBytes maxAvailBytes : Int) : Prop :=
  let size := cylinders (max minSizeBytes minVolumeSizeBytes) * cylinderSizeInBytes
  maxSizeBytes ≤ maxAvailBytes ∧ size ≤ maxAvailBytes ∧ (maxSizeBytes ≠ 0 → size ≤ maxSizeBytes)

theorem raised_eq (minSizeBytes : Int) :
    (if minSizeBytes < minVolumeSizeBytes then minVolumeSizeBytes else minSizeBytes) =
      max minSizeBytes minVolumeSizeBytes := by
  rw [max_def]
  split <;> split <;> omega

theorem limit_cases (maxSizeBytes maxAvailBytes : Int) :
    ∃ bound, (if maxSizeBytes = 0 then maxAvailBytes else maxSizeBytes) = bound ∧
      (maxSizeBytes = 0 ∧ bound = maxAvailBytes ∨ maxSizeBytes ≠ 0 ∧ bound = maxSizeBytes) := by
  refine ⟨_, rfl, ?_⟩
  split
  case isTrue hz => exact .inl ⟨hz, rfl⟩
  case isFalse hne => exact .inr ⟨hne, rfl⟩

theorem sizeWithin_of_fits (hs : Faithful store)
    {maxSizeBytes maxAvailBytes : Int} (hm : maxAvailBytes ≤ 2 ^ 62)
    (hf : SizeFits minSizeBytes maxSizeBytes maxAvailBytes) :
    sizeWithin store minSizeBytes maxSizeBytes maxAvailBytes =
      pure (.ok (cylinders (max minSizeBytes minVolumeSizeBytes))) := by
  obtain ⟨hl, ha, hsi⟩ := hf
  have hn := (cylinders_spec (max minSizeBytes minVolumeSizeBytes)).1
  have hp : 0 ≤ max minSizeBytes minVolumeSizeBytes := le_max_of_le_right (by decide)
  simp only [sizeWithin, raised_eq]
  rw [if_neg (by omega), if_neg (by omega), if_neg (by omega),
    cylindersFor_eq hs hp (by omega), pure_bind,
    hs _ (inRange_cylinders hp (by omega)), pure_bind, if_neg (by omega)]

theorem fits_of_sizeWithin (hs : Faithful store) (minSizeBytes : Int)
    {maxSizeBytes maxAvailBytes : Int} (hm : maxAvailBytes ≤ 2 ^ 62) (hl : 0 ≤ maxSizeBytes) :
    SizeFits minSizeBytes maxSizeBytes maxAvailBytes ∨
      ∃ err, sizeWithin store minSizeBytes maxSizeBytes maxAvailBytes = pure (.error err) := by
  have hp : 0 ≤ max minSizeBytes minVolumeSizeBytes := le_max_of_le_right (by decide)
  obtain ⟨bound, hb, hc⟩ := limit_cases maxSizeBytes maxAvailBytes
  simp only [sizeWithin, raised_eq, hb]
  split
  case isTrue => exact .inr ⟨_, rfl⟩
  case isFalse hle =>
    split
    case isTrue => exact .inr ⟨_, rfl⟩
    case isFalse hmi =>
      split
      case isTrue => exact .inr ⟨_, rfl⟩
      case isFalse hn =>
        rw [cylindersFor_eq hs hp (by omega), pure_bind,
          hs _ (inRange_cylinders hp (by omega)), pure_bind]
        split
        case isTrue => exact .inr ⟨_, rfl⟩
        case isFalse hsi => exact .inl ⟨by omega, by omega, by omega⟩

section

variable {cr : Option CapacityRange} {symmetrixID storagePoolID : String}
  {pool : Except PmaxError StoragePool} {avail : Int}

def requestedBytes (cr : Option CapacityRange) : Int :=
  if getRequiredBytes cr = 0 then defaultVolumeSizeBytes else getRequiredBytes cr

theorem validateVolSize_eq (hs : Faithful store) (hre : 0 ≤ getRequiredBytes cr)
    (hl : 0 ≤ getLimitBytes cr)
    (ha : availableBytes round symmetrixID storagePoolID pool = .ok avail) (hr : InRange avail) :
    validateVolSize store round cr symmetrixID storagePoolID pool =
      sizeWithin store (requestedBytes cr) (getLimitBytes cr) avail := by
  simp only [validateVolSize]
  rw [if_neg (by omega), maxAvailable_eq hs ha hr, pure_bind]
  rfl

theorem computeRequiredCylinders_of_fits (hs : Faithful store)
    (hr : 0 ≤ getRequiredBytes cr) (hl : 0 ≤ getLimitBytes cr) (hm : avail ≤ 2 ^ 62)
    (hf : SizeFits (requestedBytes cr) (getLimitBytes cr) avail) :
    computeRequiredCylinders store cr = pure (.ok (cylinders (neededBytes (getRequiredBytes cr)))) := by
  obtain ⟨-, ha, hsi⟩ := hf
  have hn := (cylinders_spec (max (requestedBytes cr) minVolumeSizeBytes)).1
  have hp : 0 ≤ max (requestedBytes cr) minVolumeSizeBytes := le_max_of_le_right (by decide)
  have hc : computeRequiredCylinders store cr = (do
      let n ← cylindersFor store (max (requestedBytes cr) minVolumeSizeBytes)
      let sizeInBytes ← store (n * cylinderSizeInBytes)
      if getLimitBytes cr > 0 ∧ sizeInBytes > getLimitBytes cr then
        pure (.error (badCapacity "size in bytes " sizeInBytes " exceeds limit size bytes "
          (getLimitBytes cr) ""))
      else pure (.ok n)) := by
    simp only [computeRequiredCylinders, raised_eq]
    rw [if_neg (by omega)]
    rfl
  rw [hc, cylindersFor_eq hs hp (by omega), pure_bind,
    hs _ (inRange_cylinders hp (by omega)), pure_bind, if_neg (by omega)]
  rfl

end

end

/-- **The size of a volume** is the least number of cylinders for what is needed, within the limit
and the capacity; nothing overflows, and `computeRequiredCylinders` agrees. -/
theorem validateVolSize_least {round : Rat → Rat} {cr : Option CapacityRange}
    {symmetrixID storagePoolID : String} {pool : Except PmaxError StoragePool} {avail n : Int}
    (hr : 0 ≤ getRequiredBytes cr) (hl : 0 ≤ getLimitBytes cr)
    (ha : availableBytes round symmetrixID storagePoolID pool = .ok avail) (hra : InRange avail)
    (hm : avail ≤ 2 ^ 62)
    (hok : (validateVolSize wrapping round cr symmetrixID storagePoolID pool).run = .ok n) :
    neededBytes (getRequiredBytes cr) ≤ n * cylinderSizeInBytes ∧
      (∀ k, neededBytes (getRequiredBytes cr) ≤ k * cylinderSizeInBytes → n ≤ k) ∧
      (0 < getLimitBytes cr → n * cylinderSizeInBytes ≤ getLimitBytes cr) ∧
      n * cylinderSizeInBytes ≤ avail ∧
      validateVolSize checked round cr symmetrixID storagePoolID pool = some (.ok n) ∧
      (computeRequiredCylinders wrapping cr).run = .ok n ∧
      computeRequiredCylinders checked cr = some (.ok n) := by
  rw [validateVolSize_eq faithful_wrapping hr hl ha hra] at hok
  obtain hf | ⟨err, he⟩ := fits_of_sizeWithin faithful_wrapping (requestedBytes cr) hm hl
  case inr =>
    rw [he] at hok
    cases hok
  have hn : cylinders (neededBytes (getRequiredBytes cr)) = n := by
    rw [sizeWithin_of_fits faithful_wrapping hm hf] at hok
    exact Except.ok.inj hok
  refine ⟨?_, ?_, ?_, ?_, ?_, ?_, ?_⟩
  · exact hn ▸ (cylinders_spec _).1
  · exact fun k hk => hn ▸ cylinders_le hk
  · exact fun hp => hn ▸ hf.2.2 hp.ne'
  · exact hn ▸ hf.2.1
  · rw [validateVolSize_eq faithful_checked hr hl ha hra,
      sizeWithin_of_fits faithful_checked hm hf, ← hn]
    rfl
  · rw [computeRequiredCylinders_of_fits faithful_wrapping hr hl hm hf, hn]
    rfl
  · rw [computeRequiredCylinders_of_fits faithful_checked hr hl hm hf, hn]
    rfl

/-- To multiples of an eighth, as for a floating-point format of few bits. -/
def eighths (x : Rat) : Rat := mkRat (x * 8 + 1 / 2).floor 8

/-- One byte more than a gibibyte, in a pool with half a tebibyte left after rounding. -/
theorem validateVolSize_least_gibibyte :
    neededBytes 1073741825 ≤ 547 * cylinderSizeInBytes ∧
      (∀ k, neededBytes 1073741825 ≤ k * cylinderSizeInBytes → 547 ≤ k) ∧
      (0 < (2147483648 : Int) → 547 * cylinderSizeInBytes ≤ 2147483648) ∧
      547 * cylinderSizeInBytes ≤ 549755813888 ∧
      validateVolSize checked eighths (some ⟨1073741825, 2147483648⟩) "000197900046" "SRP_1"
        (.ok ⟨some ⟨72 / 100, 22 / 100⟩, none, none⟩) = some (.ok 547) ∧
      (computeRequiredCylinders wrapping (some ⟨1073741825, 2147483648⟩)).run = .ok 547 ∧
      computeRequiredCylinders checked (some ⟨1073741825, 2147483648⟩) = some (.ok 547) := by
  have ha : availableBytes eighths "000197900046" "SRP_1"
      (.ok ⟨some ⟨72 / 100, 22 / 100⟩, none, none⟩) = .ok 549755813888 := by decide +kernel
  have hok : (validateVolSize wrapping eighths (some ⟨1073741825, 2147483648⟩) "000197900046" "SRP_1"
      (.ok ⟨some ⟨72 / 100, 22 / 100⟩, none, none⟩)).run = .ok 547 := by decide +kernel
  exact validateVolSize_least (by decide) (by decide) ha (by decide) (by decide) hok

end PowerMaxCsi.Service
