import PowerMaxCsi.Lib.GoMap
import PowerMaxCsi.Lib.Strings

/-!
# Mounts of devices

`buildDeviceToMountMap` of `service/space_reclamation.go` keeps one mount of each device, a private
one if there is any.  `norm` is `normalizeDevicePath`, which resolves links.
-/

namespace PowerMaxCsi.Service.Reclamation

open Strings

structure Mount where
  (device path : String)

def isPodMount (path : String) : Bool := contains path "/var/lib/kubelet/pods/"

def isPrivateMount (path : String) : Bool :=
  contains path "/var/lib/kubelet/plugins/powermax.emc.dell.com/disks/"

variable (norm : String → String)

def addMount (deviceToMount : GoMap String String) (mnt : Mount) : GoMap String String :=
  if !isPodMount mnt.path ∧ !isPrivateMount mnt.path then deviceToMount
  else
    let normalizedDevice := norm mnt.device
    match deviceToMount.lookup normalizedDevice with
    | none => deviceToMount.insert normalizedDevice mnt.path
    | some currentPath =>
      if isPrivateMount mnt.path ∧ !isPrivateMount currentPath then
        deviceToMount.insert normalizedDevice mnt.path
      else deviceToMount

def buildDeviceToMountMap (mounts : Except String (List Mount)) :
    Except String (GoMap String String) :=
  match mounts with
  | .error err => .error ("failed to get mounts: " ++ err)
  | .ok mounts => .ok (mounts.foldl (addMount norm) ∅)

def Mount.Of (d : String) (mnt : Mount) : Prop :=
  norm mnt.device = d ∧ (isPodMount mnt.path ∨ isPrivateMount mnt.path)

def Mount.over (mnt : Mount) : Option String → String
  | none => mnt.path
  | some currentPath =>
    if isPrivateMount mnt.path ∧ !isPrivateMount currentPath then mnt.path else currentPath

/-- What is kept of a device after a list of mounts. -/
structure Keeps (mounts : List Mount) (d : String) (kept : Option String) : Prop where
  found : kept = none → ∀ mnt ∈ mounts, ¬ mnt.Of norm d
  own : ∀ p, kept = some p → ∃ mnt ∈ mounts, mnt.Of norm d ∧ mnt.path = p
  prefers : ∀ p, kept = some p → ∀ mnt ∈ mounts, mnt.Of norm d →
    isPrivateMount mnt.path → isPrivateMount p

variable {norm} {mounts : List Mount} {m : GoMap String String} {d : String} {mnt : Mount}

theorem lookup_addMount_of_not (h : ¬ mnt.Of norm d) :
    (addMount norm m mnt).lookup d = m.lookup d := by
  unfold addMount
  split
  · rfl
  · next hc =>
    have hne : d ≠ norm mnt.device := by
      rintro rfl
      simp [Mount.Of] at h hc
      simp [h] at hc
    dsimp only
    split
    · exact AList.lookup_insert_ne hne
    · split
      · exact AList.lookup_insert_ne hne
      · rfl

theorem lookup_addMount (h : mnt.Of norm d) :
    (addMount norm m mnt).lookup d = some (mnt.over (m.lookup d)) := by
  obtain ⟨rfl, hm⟩ := h
  unfold addMount
  rw [if_neg (by simpa using fun hp => hm.resolve_left (by simp [hp]))]
  dsimp only
  cases hl : m.lookup (norm mnt.device) with
  | none => exact AList.lookup_insert _
  | some currentPath =>
    dsimp only [Mount.over]
    split
    · exact AList.lookup_insert _
    · exact hl

theorem Keeps.skip {kept : Option String} (h : Keeps norm mounts d kept) (hm : ¬ mnt.Of norm d) :
    Keeps norm (mounts ++ [mnt]) d kept := by
  obtain ⟨hf, ho, hp⟩ := h
  constructor <;> grind

theorem Keeps.take {kept : Option String} (h : Keeps norm mounts d kept) (hm : mnt.Of norm d) :
    Keeps norm (mounts ++ [mnt]) d (some (mnt.over kept)) := by
  obtain ⟨hf, ho, hp⟩ := h
  cases kept with
  | none => constructor <;> grind [Mount.over]
  | some currentPath => constructor <;> grind [Mount.over]

theorem keeps_foldl (norm : String → String) (mounts : List Mount) (d : String) :
    Keeps norm mounts d ((mounts.foldl (addMount norm) ∅).lookup d) := by
  induction mounts using List.reverseRecOn with
  | nil => exact ⟨fun _ => nofun, nofun, nofun⟩
  | append_singleton mounts mnt ih =>
    rw [List.foldl_append, List.foldl_cons, List.foldl_nil]
    by_cases hm : mnt.Of norm d
    · rw [lookup_addMount hm]
      exact ih.take hm
    · rw [lookup_addMount_of_not hm]
      exact ih.skip hm

/-- **Mounts.**  Every device with a mount for a pod or a private one is mapped to one, a private
one if it has any. -/
theorem buildDeviceToMountMap_spec (norm : String → String) (mounts : List Mount) :
    ∃ m, buildDeviceToMountMap norm (.ok mounts) = .ok m ∧ ∀ d,
      ((m.lookup d).isSome ↔ ∃ mnt ∈ mounts, mnt.Of norm d) ∧
      ∀ p, m.lookup d = some p →
        (∃ mnt ∈ mounts, mnt.Of norm d ∧ mnt.path = p) ∧
        ((∃ mnt ∈ mounts, mnt.Of norm d ∧ isPrivateMount mnt.path) →
          ∃ mnt ∈ mounts, mnt.Of norm d ∧ isPrivateMount mnt.path ∧ mnt.path = p) := by
  refine ⟨_, rfl, fun d => ?_⟩
  obtain ⟨hf, ho, hp⟩ := keeps_foldl norm mounts d
  refine ⟨⟨fun h => ?_, ?_⟩, fun p hl => ⟨ho p hl, ?_⟩⟩
  · obtain ⟨p, hl⟩ := Option.isSome_iff_exists.mp h
    obtain ⟨mnt, hmem, hm, -⟩ := ho p hl
    exact ⟨mnt, hmem, hm⟩
  · rintro ⟨mnt, hmem, hm⟩
    rw [Option.isSome_iff_ne_none]
    exact fun hn => hf hn mnt hmem hm
  · rintro ⟨mnt, hmem, hm, hpr⟩
    obtain ⟨mnt', hmem', hm', rfl⟩ := ho p hl
    exact ⟨mnt', hmem', hm', hp _ hl mnt hmem hm hpr, rfl⟩

end PowerMaxCsi.Service.Reclamation
