import PowerMaxCsi.Lib.Numerals
import PowerMaxCsi.Lib.Strings

/-!
# Overflow storage groups

`getDynamicSG` of `service/controller.go`.  A group `base` that is full is followed by `base--1`,
`base--2` and so on.  `chooseSG` is the function after the array has answered; `chooseSGWithin` runs
its last loop for a number of rounds.  `Chosen` says which group is right.
-/

namespace PowerMaxCsi.Service

open Strings List Nat String

structure SGVolumeCount where
  id : String
  volumeCount : Int
deriving DecidableEq, Repr

/-- The pattern `^base--\d+$`. -/
def isOverflowOf (baseSGName id : String) : Bool :=
  let digits := (trimPrefix id (baseSGName ++ "--")).toList
  hasPrefix id (baseSGName ++ "--") && digits ≠ [] && digits.all Char.isDigit

def isMatch (baseSGName id : String) : Bool :=
  id = baseSGName || (baseSGName ≠ "" && isOverflowOf baseSGName id)

def proposedName (baseSGName : String) : Nat → String
  | 0 => baseSGName
  | suffixIndex + 1 => baseSGName ++ "--" ++ toString (suffixIndex + 1)

theorem proposedName_injective (baseSGName : String) :
    Function.Injective (proposedName baseSGName) := by
  have longer (k : Nat) : proposedName baseSGName (k + 1) ≠ baseSGName := by
    intro h
    have hl := congrArg len h
    simp only [proposedName, len_append] at hl
    have : len "--" = 2 := rfl
    omega
  intro i j h
  cases i with
  | zero =>
    cases j with
    | zero => rfl
    | succ j => exact absurd h.symm (longer j)
  | succ i =>
    cases j with
    | zero => exact absurd h (longer i)
    | succ j =>
      exact Numeral.repr_injective ((String.append_right_inj _).mp h)

theorem exists_free (baseSGName : String) (taken : List String) :
    ∃ k, proposedName baseSGName k ∉ taken := by
  by_contra! h
  have hf : (Set.range (proposedName baseSGName)).Finite :=
    (finite_toSet taken).subset fun _ ⟨k, hk⟩ => hk ▸ h k
  exact Set.infinite_range_of_injective (proposedName_injective baseSGName) hf

/-- The group with the fewest volumes, and their number; no name if all of them are full. -/
def bestSG (sgVolumeLimit : Int) (groups : List SGVolumeCount) : String × Int :=
  groups.foldl (fun best sg => if sg.volumeCount < best.2 then (sg.id, sg.volumeCount) else best)
    ("", sgVolumeLimit)

/-- The name that `getDynamicSG` answers, and whether the group is still to be created. -/
def chooseSG (sgVolumeLimit : Int) (baseSGName : String) (storageGroups : List SGVolumeCount) :
    String × Bool :=
  let sgCounts := storageGroups.filter fun sg => isMatch baseSGName sg.id
  let best := (bestSG sgVolumeLimit sgCounts).1
  if sgCounts = [] then (baseSGName, true)
  else if best ≠ "" then (best, false)
  else (proposedName baseSGName (Nat.find (exists_free baseSGName (sgCounts.map (·.id)))), true)

/-- The last loop of `getDynamicSG`, for so many rounds; `none` if it is not over by then. -/
def proposeFrom (baseSGName : String) (taken : List String) : Nat → Nat → Option String
  | 0, _ => none
  | rounds + 1, suffixIndex =>
    if proposedName baseSGName suffixIndex ∈ taken then
      proposeFrom baseSGName taken rounds (suffixIndex + 1)
    else some (proposedName baseSGName suffixIndex)

def chooseSGWithin (rounds : Nat) (sgVolumeLimit : Int) (baseSGName : String)
    (storageGroups : List SGVolumeCount) : Option (String × Bool) :=
  let sgCounts := storageGroups.filter fun sg => isMatch baseSGName sg.id
  let best := (bestSG sgVolumeLimit sgCounts).1
  if sgCounts = [] then some (baseSGName, true)
  else if best ≠ "" then some (best, false)
  else (proposeFrom baseSGName (sgCounts.map (·.id)) rounds 0).map fun name => (name, true)

section

variable {baseSGName : String} {taken : List String} {rounds : Nat}

theorem proposeFrom_eq {k start : Nat} (hf : proposedName baseSGName k ∉ taken)
    (hs : start ≤ k) (hb : ∀ j, start ≤ j → j < k → proposedName baseSGName j ∈ taken)
    (hr : k < start + rounds) :
    proposeFrom baseSGName taken rounds start = some (proposedName baseSGName k) := by
  induction rounds generalizing start with
  | zero => omega
  | succ rounds ih =>
    rw [proposeFrom]
    rcases eq_or_lt_of_le hs with rfl | hlt
    · rw [if_neg hf]
    · rw [if_pos (hb start le_rfl hlt)]
      exact ih hlt (fun j hj => hb j (by omega)) (by omega)

theorem find_free_le (baseSGName : String) (taken : List String) :
    Nat.find (exists_free baseSGName taken) ≤ taken.length := by
  by_contra! hlt
  have hn : ((List.range (taken.length + 1)).map (proposedName baseSGName)).Nodup :=
    nodup_range.map (proposedName_injective baseSGName)
  have hs : (List.range (taken.length + 1)).map (proposedName baseSGName) ⊆ taken := by
    intro name hna
    obtain ⟨j, hj, rfl⟩ := mem_map.mp hna
    have hj' : j < Nat.find (exists_free baseSGName taken) :=
      lt_of_lt_of_le (mem_range.mp hj) hlt
    exact not_not.mp (Nat.find_min (exists_free baseSGName taken) hj')
  have hle := (subperm_of_subset hn hs).length_le
  rw [List.length_map, List.length_range] at hle
  omega

theorem proposeFrom_find (hr : taken.length < rounds) :
    proposeFrom baseSGName taken rounds 0 =
      some (proposedName baseSGName (Nat.find (exists_free baseSGName taken))) := by
  refine proposeFrom_eq (Nat.find_spec (exists_free baseSGName taken)) (Nat.zero_le _)
    (fun j _ hj => not_not.mp (Nat.find_min (exists_free baseSGName taken) hj)) ?_
  have hle := find_free_le baseSGName taken
  omega

theorem chooseSGWithin_eq (sgVolumeLimit : Int) (baseSGName : String)
    (storageGroups : List SGVolumeCount) (hr : storageGroups.length < rounds) :
    chooseSGWithin rounds sgVolumeLimit baseSGName storageGroups =
      some (chooseSG sgVolumeLimit baseSGName storageGroups) := by
  have hs : ((storageGroups.filter fun sg => isMatch baseSGName sg.id).map (·.id)).length <
      rounds := by
    rw [List.length_map]
    exact lt_of_le_of_lt (length_filter_le ..) hr
  simp only [chooseSGWithin, chooseSG]
  rw [proposeFrom_find hs]
  split
  · rfl
  · split
    · rfl
    · rfl

end

/-- The group is the base one, or follows it: its name goes on with dashes and digits. -/
def Follows (baseSGName id : String) : Prop :=
  id = baseSGName ∨ ∃ digits : List Char, digits ≠ [] ∧ (∀ c ∈ digits, c.isDigit = true) ∧
    id = baseSGName ++ "--" ++ String.ofList digits

/-- A group with the fewest volumes if there is room in it, and otherwise the first free name. -/
inductive Chosen (sgVolumeLimit : Int) (baseSGName : String) (storageGroups : List SGVolumeCount) :
    String × Bool → Prop where
  | existing {sg : SGVolumeCount} : sg ∈ storageGroups → Follows baseSGName sg.id →
      sg.volumeCount < sgVolumeLimit →
      (∀ sg' ∈ storageGroups, Follows baseSGName sg'.id → sg.volumeCount ≤ sg'.volumeCount) →
      Chosen sgVolumeLimit baseSGName storageGroups (sg.id, false)
  | proposed {k : Nat} : (∀ sg ∈ storageGroups, Follows baseSGName sg.id →
        sgVolumeLimit ≤ sg.volumeCount) →
      proposedName baseSGName k ∉ storageGroups.map (·.id) →
      (∀ j < k, proposedName baseSGName j ∈ storageGroups.map (·.id)) →
      Chosen sgVolumeLimit baseSGName storageGroups (proposedName baseSGName k, true)

section

variable {sgVolumeLimit : Int} {baseSGName : String}

theorem isOverflowOf_iff {id : String} : isOverflowOf baseSGName id = true ↔
    ∃ digits : List Char, digits ≠ [] ∧ (∀ c ∈ digits, c.isDigit = true) ∧
      id = baseSGName ++ "--" ++ String.ofList digits := by
  simp only [isOverflowOf, Bool.and_eq_true, decide_eq_true_eq, all_eq_true]
  constructor
  · rintro ⟨⟨hs, hne⟩, hd⟩
    obtain ⟨rest, hr⟩ := List.isPrefixOf_iff_prefix.mp hs
    rw [trimPrefix, if_pos hs, toList_ofList, ← hr, drop_left] at hne hd
    refine ⟨rest, hne, hd, ?_⟩
    rw [← toList_inj, toList_append, toList_ofList, hr]
  · rintro ⟨digits, hne, hd, rfl⟩
    have ht : (baseSGName ++ "--" ++ String.ofList digits).toList =
        (baseSGName ++ "--").toList ++ digits := by
      simp
    have hs : hasPrefix (baseSGName ++ "--" ++ String.ofList digits) (baseSGName ++ "--") =
        true := by
      rw [hasPrefix, List.isPrefixOf_iff_prefix, ht]
      exact prefix_append _ _
    rw [trimPrefix, if_pos hs, ht, drop_left, toList_ofList]
    exact ⟨⟨hs, hne⟩, hd⟩

theorem isMatch_iff (hb : baseSGName ≠ "") {id : String} :
    isMatch baseSGName id = true ↔ Follows baseSGName id := by
  simp [isMatch, Follows, isOverflowOf_iff, hb]

theorem follows_proposedName (baseSGName : String) (k : Nat) :
    Follows baseSGName (proposedName baseSGName k) := by
  cases k with
  | zero => exact .inl rfl
  | succ k =>
    refine .inr ⟨(k + 1).repr.toList, ?_, ?_, ?_⟩
    · rw [toList_repr]
      exact toDigits_ne_nil
    · exact fun c hc => Numeral.isDigit_of_mem_repr hc
    · rw [ofList_toList]
      rfl

theorem bestSG_foldl (groups : List SGVolumeCount) (best : String × Int) :
    let result := groups.foldl (fun best sg =>
      if sg.volumeCount < best.2 then (sg.id, sg.volumeCount) else best) best
    result.2 ≤ best.2 ∧ (∀ sg ∈ groups, result.2 ≤ sg.volumeCount) ∧
      (result = best ∨ ∃ sg ∈ groups, result = (sg.id, sg.volumeCount) ∧
        sg.volumeCount < best.2) := by
  induction groups generalizing best with
  | nil => exact ⟨le_rfl, fun sg hsg => absurd hsg not_mem_nil, .inl rfl⟩
  | cons sg groups ih =>
    simp only [foldl_cons]
    split
    case isTrue hlt =>
      obtain ⟨hle, ha, hc⟩ := ih (sg.id, sg.volumeCount)
      refine ⟨hle.trans hlt.le, ?_, ?_⟩
      · rintro sg' (_ | ⟨_, hsg'⟩)
        · exact hle
        · exact ha sg' hsg'
      · rcases hc with heq | ⟨sg', hsg', heq, hlt'⟩
        · exact .inr ⟨sg, mem_cons_self, heq, hlt⟩
        · exact .inr ⟨sg', mem_cons_of_mem _ hsg', heq, hlt'.trans hlt⟩
    case isFalse hge =>
      obtain ⟨hle, ha, hc⟩ := ih best
      refine ⟨hle, ?_, ?_⟩
      · rintro sg' (_ | ⟨_, hsg'⟩)
        · exact hle.trans (not_lt.mp hge)
        · exact ha sg' hsg'
      · rcases hc with heq | ⟨sg', hsg', heq, hlt'⟩
        · exact .inl heq
        · exact .inr ⟨sg', mem_cons_of_mem _ hsg', heq, hlt'⟩

/-- A name that is kept has room and the fewest volumes; if none is kept, all are full. -/
theorem bestSG_spec (sgVolumeLimit : Int) {groups : List SGVolumeCount}
    (hn : ∀ sg ∈ groups, sg.id ≠ "") :
    ((bestSG sgVolumeLimit groups).1 ≠ "" → ∃ sg ∈ groups,
      (bestSG sgVolumeLimit groups).1 = sg.id ∧ sg.volumeCount < sgVolumeLimit ∧
        ∀ sg' ∈ groups, sg.volumeCount ≤ sg'.volumeCount) ∧
      ((bestSG sgVolumeLimit groups).1 = "" → ∀ sg ∈ groups, sgVolumeLimit ≤ sg.volumeCount) := by
  obtain ⟨-, ha, heq | ⟨sg, hsg, heq, hlt⟩⟩ := bestSG_foldl groups ("", sgVolumeLimit)
  · have hb : bestSG sgVolumeLimit groups = ("", sgVolumeLimit) := heq
    refine ⟨fun hne => absurd (congrArg Prod.fst hb) hne, fun _ sg hsg => ?_⟩
    have hle := ha sg hsg
    rwa [heq] at hle
  · have hb : bestSG sgVolumeLimit groups = (sg.id, sg.volumeCount) := heq
    refine ⟨fun _ => ⟨sg, hsg, congrArg Prod.fst hb, hlt, fun sg' hsg' => ?_⟩, fun he => ?_⟩
    · have hle := ha sg' hsg'
      rwa [heq] at hle
    · rw [hb] at he
      exact absurd he (hn sg hsg)

theorem chosen_chooseSG (hb : baseSGName ≠ "") (storageGroups : List SGVolumeCount) :
    Chosen sgVolumeLimit baseSGName storageGroups
      (chooseSG sgVolumeLimit baseSGName storageGroups) := by
  have hmem (sg : SGVolumeCount) : sg ∈ storageGroups.filter (fun sg => isMatch baseSGName sg.id) ↔
      sg ∈ storageGroups ∧ Follows baseSGName sg.id := by
    rw [mem_filter, isMatch_iff hb]
  -- a name that is proposed is in the list exactly if it is among the groups that are counted
  have hl (k : Nat) : proposedName baseSGName k ∈
      (storageGroups.filter fun sg => isMatch baseSGName sg.id).map (·.id) ↔
        proposedName baseSGName k ∈ storageGroups.map (·.id) := by
    simp only [mem_map, hmem]
    constructor
    · rintro ⟨sg, ⟨hsg, -⟩, heq⟩
      exact ⟨sg, hsg, heq⟩
    · rintro ⟨sg, hsg, heq⟩
      exact ⟨sg, ⟨hsg, heq ▸ follows_proposedName baseSGName k⟩, heq⟩
  have hna : ∀ sg ∈ storageGroups.filter (fun sg => isMatch baseSGName sg.id), sg.id ≠ "" := by
    intro sg hsg he
    rcases ((hmem sg).mp hsg).2 with heq | ⟨digits, -, -, heq⟩
    · exact hb (heq.symm.trans he)
    · have hle := congrArg len (heq.symm.trans he)
      simp only [len_append] at hle
      have : len "--" = 2 := rfl
      have : len "" = 0 := rfl
      omega
  obtain ⟨hk, hfu⟩ := bestSG_spec sgVolumeLimit hna
  rw [chooseSG]
  split
  case isTrue hn =>
    refine .proposed (k := 0) (fun sg hsg hf => ?_) ?_ (fun j hj => absurd hj (not_lt_zero j))
    · have hin := (hmem sg).mpr ⟨hsg, hf⟩
      rw [hn] at hin
      exact absurd hin not_mem_nil
    · rw [← hl, hn]
      exact not_mem_nil
  case isFalse hs =>
    split
    case isTrue hne =>
      obtain ⟨sg, hsg, heq, hlt, hm⟩ := hk hne
      obtain ⟨hin, hf⟩ := (hmem sg).mp hsg
      rw [heq]
      exact .existing hin hf hlt fun sg' hsg' hf' => hm sg' ((hmem sg').mpr ⟨hsg', hf'⟩)
    case isFalse he =>
      refine .proposed (fun sg hsg hf => hfu (not_not.mp he) sg
        ((hmem sg).mpr ⟨hsg, hf⟩)) ?_ fun j hj => ?_
      · rw [← hl]
        exact Nat.find_spec (exists_free baseSGName _)
      · rw [← hl]
        exact not_not.mp (Nat.find_min (exists_free baseSGName _) hj)

end

end PowerMaxCsi.Service
