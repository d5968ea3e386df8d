import PowerMaxCsi.Addons.VolumeGroup

/-!
# Listing volume groups

`ListVolumeGroups` of `service/csiaddons_volumegroup.go`: the storage groups of CSI-Addons on the
managed arrays, all of them or in pages.  A token is the offset of a page, in decimal digits.
-/

namespace PowerMaxCsi.Addons

open Service Strings List

/-- What the arrays answer as long as nothing changes; `none` for an error or nothing. -/
structure ArrayContent where
  hasClient : String → Bool
  /-- What is listed for the prefix of CSI-Addons, in any order. -/
  storageGroupIDs : String → Option (List String)
  volumeIDs : String → String → Option (List String)

namespace ArrayContent

variable (content : ArrayContent) (managedArrays : List String)

/-- The storage groups that are listed; an array without a client or a list is skipped. -/
def listed (symID : String) : List String :=
  if content.hasClient symID then (content.storageGroupIDs symID).getD [] else []

def volumeGroup (symID sgName : String) : Option VolumeGroup :=
  (parseCSIAddonsSGName sgName).map fun parsed =>
    { volumeGroupID := encodeVolumeGroupID ⟨symID, sgName, parsed.1⟩
      storageGroup := sgName
      sourceArrayID := symID
      rdfGroupNumber := parsed.1
      replicationMode := parsed.2
      remoteSystem := ""
      volumes := ((content.volumeIDs symID sgName).getD []).map fun devID => symID ++ "-" ++ devID }

def entries : List VolumeGroup :=
  managedArrays.flatMap fun symID =>
    ((content.listed symID).mergeSort (· ≤ ·)).filterMap (content.volumeGroup symID)

end ArrayContent

structure ListVolumeGroupsResponse where
  entries : List VolumeGroup
  nextToken : String
deriving DecidableEq, Repr

def startOf (startingToken : String) (total : Nat) : Option Nat :=
  let digits := match startingToken.toList with
    | '+' :: cs | '-' :: cs => cs
    | cs => cs
  let i := Numeral.atoi startingToken
  if startingToken = "" then some 0
  else if digits = [] ∨ !digits.all Char.isDigit ∨ i < 0 ∨ i > total then none
  else some i.toNat

def pageFrom (entries : List VolumeGroup) (maxEntries : Int) (start : Nat) :
    ListVolumeGroupsResponse :=
  if maxEntries > 0 ∧ start + maxEntries < entries.length then
    ⟨(entries.drop start).take maxEntries.toNat, (start + maxEntries.toNat).repr⟩
  else ⟨entries.drop start, ""⟩

def listVolumeGroups (content : ArrayContent) (managedArrays : List String) (maxEntries : Int)
    (startingToken : String) : Except GrpcError ListVolumeGroupsResponse :=
  if maxEntries < 0 then
    .error ⟨.invalidArgument, "ListVolumeGroups: max_entries cannot be negative"⟩
  else
    let entries := content.entries managedArrays
    match startOf startingToken entries.length with
    | none => .error ⟨.aborted, "ListVolumeGroups: invalid starting_token " ++ quoted startingToken⟩
    | some start => .ok (pageFrom entries maxEntries start)

/-- The pages that a caller gets who follows the tokens, at most `fuel` of them. -/
def followTokens (list : String → Except GrpcError ListVolumeGroupsResponse) :
    Nat → String → Option (List (List VolumeGroup))
  | 0, _ => none
  | fuel + 1, token =>
    match list token with
    | .error _ => none
    | .ok page =>
      if page.nextToken = "" then some [page.entries]
      else (followTokens list fuel page.nextToken).map (page.entries :: ·)

theorem repr_ne_empty (n : Nat) : n.repr ≠ "" :=
  fun h => Numeral.toList_repr_ne_nil n (congrArg String.toList h)

theorem startOf_repr {n total : Nat} (h : n ≤ total) : startOf n.repr total = some n := by
  have hd {c : Char} (hc : c ∈ n.repr.toList) : c.isDigit = true := Numeral.isDigit_of_mem_repr hc
  simp only [startOf, Numeral.atoi_repr, if_neg (repr_ne_empty n)]
  split
  case h_1 heq => exact absurd (hd (heq ▸ mem_cons_self)) (by decide)
  case h_2 heq => exact absurd (hd (heq ▸ mem_cons_self)) (by decide)
  case h_3 =>
    have hne := Numeral.toList_repr_ne_nil n
    simp_all

variable {content : ArrayContent} {managedArrays : List String} {maxEntries : Int}

/-- **The pages from an offset on.** -/
theorem followTokens_pages (hm : 0 < maxEntries) {fuel start : Nat} {token : String}
    (hle : start ≤ (content.entries managedArrays).length)
    (hf : (content.entries managedArrays).length - start < fuel)
    (hs : startOf token (content.entries managedArrays).length = some start) :
    ∃ pages, followTokens (listVolumeGroups content managedArrays maxEntries) fuel token =
        some pages ∧
      pages.flatten = (content.entries managedArrays).drop start ∧
      ∀ page ∈ pages, page.length ≤ maxEntries := by
  induction fuel generalizing start token with
  | zero => omega
  | succ fuel ih =>
    simp only [followTokens, listVolumeGroups, hs, if_neg hm.not_gt]
    by_cases hmore : start + maxEntries < (content.entries managedArrays).length
    · have hpa : pageFrom (content.entries managedArrays) maxEntries start = ⟨_, _⟩ :=
        if_pos ⟨hm, hmore⟩
      obtain ⟨pages, hp, hfl, hlen⟩ := ih (by omega) (by omega)
        (startOf_repr (n := start + maxEntries.toNat) (by omega))
      simp only [hpa, repr_ne_empty, if_false, hp]
      refine ⟨_, rfl, ?_, ?_⟩
      · rw [flatten_cons, hfl, ← drop_drop, take_append_drop]
      · refine forall_mem_cons.mpr ⟨?_, hlen⟩
        rw [length_take]
        omega
    · have hpa : pageFrom (content.entries managedArrays) maxEntries start = ⟨_, _⟩ :=
        if_neg fun h => hmore h.2
      simp only [hpa, if_true]
      refine ⟨_, rfl, flatten_singleton, ?_⟩
      rw [forall_mem_singleton, length_drop]
      omega

def VolumeGroup.key (vg : VolumeGroup) : String × String := (vg.sourceArrayID, vg.storageGroup)

theorem entries_perm : ((content.entries managedArrays).map VolumeGroup.key).Perm
    (managedArrays.flatMap fun symID =>
      ((content.listed symID).filter (parseCSIAddonsSGName · |>.isSome)).map (symID, ·)) := by
  unfold ArrayContent.entries
  rw [map_flatMap]
  refine Perm.flatMap_left _ fun symID _ => ?_
  refine (((mergeSort_perm _ _).filterMap _).map _).trans (.of_eq ?_)
  induction content.listed symID with
  | nil => rfl
  | cons sg sgs ih =>
    cases h : parseCSIAddonsSGName sg with
    | none => simpa [ArrayContent.volumeGroup, h] using ih
    | some parsed => simpa [ArrayContent.volumeGroup, VolumeGroup.key, h] using ih

/-- **Listing in pages.**  A caller who follows the tokens gets to the last page; the pages are the
unpaginated listing, none longer than asked for. -/
theorem pages_of_listVolumeGroups (content : ArrayContent) (managedArrays : List String)
    (maxEntries : Int) (hm : 0 < maxEntries) :
    ∃ fuel pages,
      followTokens (listVolumeGroups content managedArrays maxEntries) fuel "" = some pages ∧
      listVolumeGroups content managedArrays 0 "" = .ok ⟨pages.flatten, ""⟩ ∧
      (∀ page ∈ pages, page.length ≤ maxEntries) ∧
      (pages.flatten.map VolumeGroup.key).Perm (managedArrays.flatMap fun symID =>
        ((content.listed symID).filter (parseCSIAddonsSGName · |>.isSome)).map (symID, ·)) := by
  have hs : startOf "" (content.entries managedArrays).length = some 0 := rfl
  obtain ⟨pages, hp, hfl, hlen⟩ := followTokens_pages hm (Nat.zero_le _) (Nat.lt_succ_self _) hs
  rw [drop_zero] at hfl
  refine ⟨_, pages, hp, ?_, hlen, hfl ▸ entries_perm⟩
  rw [hfl]
  rfl

def twoGroups : ArrayContent where
  hasClient _ := true
  storageGroupIDs _ :=
    some ["csi-rep-sg-addons-vg-ns2-13-ASYNC", "csi-rep-sg-addons-vg-ns1-13-ASYNC"]
  volumeIDs _ _ := some ["011AB"]

theorem pages_of_listVolumeGroups_twoGroups : ∃ pages : List (List VolumeGroup),
    listVolumeGroups twoGroups ["000120000548"] 0 "" = .ok ⟨pages.flatten, ""⟩ ∧
      ∀ page ∈ pages, page.length ≤ (1 : Int) := by
  obtain ⟨-, pages, -, hall, hlen, -⟩ :=
    pages_of_listVolumeGroups twoGroups ["000120000548"] 1 (by decide)
  exact ⟨pages, hall, hlen⟩

end PowerMaxCsi.Addons
