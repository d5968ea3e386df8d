import PowerMaxCsi.Service.Replication

/-!
# Finding the protected storage group of a volume

`GetRDFInfoFromSGID` reads the RDF group and the mode off the end of the name;
`GetProtectedStorageGroupID` looks for them anywhere in it.
-/

namespace PowerMaxCsi.Service

open Strings List

theorem exists_last_dash {s : String} (h : '-' ∈ s.toList) :
    ∃ front last, s = front ++ "-" ++ last ∧ '-' ∉ last.toList := by
  obtain ⟨last, front, hs, hl⟩ := eq_append_cons_of_mem (mem_reverse.mpr h)
  refine ⟨.ofList front.reverse, .ofList last.reverse, ?_, by simpa using hl⟩
  apply String.ext
  rw [← reverse_reverse s.toList, hs]
  simp

theorem exists_last_component {s : String} (h : 1 < (split s '-').length) :
    ∃ front last, s = front ++ "-" ++ last ∧ '-' ∉ last.toList ∧
      split s '-' = split front '-' ++ [last] := by
  have hd : '-' ∈ s.toList := by
    by_contra hd
    rw [split_of_notMem hd] at h
    exact absurd h (lt_irrefl 1)
  obtain ⟨front, last, rfl, hl⟩ := exists_last_dash hd
  exact ⟨front, last, rfl, hl, split_dash_last front hl⟩

/-- `GetRDFInfoFromSGID` finds the number and the mode. -/
def Decodes (sg rdfGno repMode : String) : Prop :=
  ∃ ns, getRDFInfoFromSGID sg = .ok (ns, rdfGno, repMode)

/-- The name ends with the number and the mode, behind at least three more components. -/
structure Names (sg rdfGno repMode : String) : Prop where
  replicated : contains sg csiRepSGPrefix = true
  ends : ∃ front, sg = front ++ "-" ++ rdfGno ++ "-" ++ repMode ∧ 3 ≤ (split front '-').length
  rdfGno : '-' ∉ rdfGno.toList
  repMode : '-' ∉ repMode.toList

section

variable {sg rdfGno repMode : String}

theorem decodes_append {front no mode : String} (hno : '-' ∉ no.toList) (hm : '-' ∉ mode.toList)
    (hr : contains (front ++ "-" ++ no ++ "-" ++ mode) csiRepSGPrefix = true)
    (hf : 3 ≤ (split front '-').length) :
    Decodes (front ++ "-" ++ no ++ "-" ++ mode) rdfGno repMode ↔ no = rdfGno ∧ mode = repMode := by
  have hl : ¬ (split front '-').length + 2 < 5 := by omega
  simp [Decodes, getRDFInfoFromSGID, split_dash_last _ hm, split_dash_last _ hno, hr, hl]

theorem decodes_iff : Decodes sg rdfGno repMode ↔ Names sg rdfGno repMode := by
  constructor
  · rintro ⟨ns, hns⟩
    have hfo : ¬ ((split sg '-').length < 5 ∨ (!contains sg csiRepSGPrefix) = true) := by
      intro hb
      rw [getRDFInfoFromSGID, if_pos hb] at hns
      cases hns
    simp only [not_or, Bool.not_eq_true', Bool.not_eq_false] at hfo
    obtain ⟨hl, hr⟩ := hfo
    obtain ⟨front', mode, rfl, hm, hs⟩ := exists_last_component (s := sg) (by omega)
    rw [hs, length_append, length_singleton] at hl
    obtain ⟨front, no, rfl, hno, hs'⟩ := exists_last_component (s := front') (by omega)
    rw [hs', length_append, length_singleton] at hl
    have hf : 3 ≤ (split front '-').length := by omega
    obtain ⟨rfl, rfl⟩ := (decodes_append hno hm hr hf).mp ⟨ns, hns⟩
    exact ⟨hr, ⟨front, rfl, hf⟩, hno, hm⟩
  · rintro ⟨hr, ⟨front, rfl, hf⟩, hno, hm⟩
    exact (decodes_append hno hm hr hf).mpr ⟨rfl, rfl⟩

/-- `GetProtectedStorageGroupID` looks for a name of the driver with the number and the mode in
it. -/
def mentions (rdfGno repMode sg : String) : Bool :=
  contains sg "csi-" && contains sg (rdfGno ++ "-" ++ repMode)

theorem Names.mentions (h : Names sg rdfGno repMode) : mentions rdfGno repMode sg = true := by
  have hc : contains sg "csi-" = true := contains_trans h.replicated (by decide)
  obtain ⟨front, rfl, -⟩ := h.ends
  have he := contains_append (front ++ "-") (rdfGno ++ "-" ++ repMode) ""
  rw [String.append_empty, ← String.append_assoc, ← String.append_assoc] at he
  rw [Service.mentions, hc, he]
  rfl

theorem ne_empty_of_mentions (h : mentions rdfGno repMode sg = true) : sg ≠ "" := by
  rintro rfl
  cases h

end

variable (sgs : List String) (rdfGno repMode : String)

/-- A group that is found is of the RDF group and the mode, and one is found if there is one. -/
structure FindsProtected : Prop where
  sound : getProtectedStorageGroupID sgs (rdfGno ++ "-" ++ repMode) ≠ "" →
    Decodes (getProtectedStorageGroupID sgs (rdfGno ++ "-" ++ repMode)) rdfGno repMode
  complete : (∃ sg ∈ sgs, Decodes sg rdfGno repMode) →
    getProtectedStorageGroupID sgs (rdfGno ++ "-" ++ repMode) ≠ ""

/-- The first name of the list that mentions the number and the mode ends with them. -/
def FirstNames : Prop :=
  ∀ before sg after, sgs = before ++ sg :: after → mentions rdfGno repMode sg = true →
    (∀ other ∈ before, mentions rdfGno repMode other = false) → Names sg rdfGno repMode

/-- **The storage group that is found.**  The look-up agrees with the decoder exactly if the first
name that mentions number and mode ends with them. -/
theorem findsProtected_iff : FindsProtected sgs rdfGno repMode ↔ FirstNames sgs rdfGno repMode := by
  have hg : getProtectedStorageGroupID sgs (rdfGno ++ "-" ++ repMode) =
      (sgs.find? (mentions rdfGno repMode)).getD "" := rfl
  constructor
  · rintro ⟨hs, -⟩ before sg after hsgs hsg hb
    have hf : sgs.find? (mentions rdfGno repMode) = some sg :=
      List.find?_eq_some_iff_append.mpr ⟨hsg, before, after, hsgs, by simpa using hb⟩
    rw [hg, hf] at hs
    exact decodes_iff.mp (hs (ne_empty_of_mentions hsg))
  · intro hfi
    cases hf : sgs.find? (mentions rdfGno repMode) with
    | some sg =>
      obtain ⟨hsg, before, after, hsgs, hb⟩ := List.find?_eq_some_iff_append.mp hf
      rw [hf] at hg
      refine ⟨fun _ => hg ▸ decodes_iff.mpr ?_, fun _ => hg ▸ ne_empty_of_mentions hsg⟩
      exact hfi before sg after hsgs hsg (by simpa using hb)
    | none =>
      rw [hf] at hg
      refine ⟨fun hne => absurd hg hne, ?_⟩
      rintro ⟨sg, hmem, hsg⟩
      exact absurd (decodes_iff.mp hsg).mentions (List.find?_eq_none.mp hf sg hmem)

/-- The storage group of RDF group 113 is taken for one of RDF group 13. -/
theorem other_rdfGroup_found : ¬ FindsProtected ["csi-rep-sg-ns1-113-ASYNC"] "13" "ASYNC" := by
  rintro ⟨hs, -⟩
  have hf : getProtectedStorageGroupID ["csi-rep-sg-ns1-113-ASYNC"] "13-ASYNC" =
      "csi-rep-sg-ns1-113-ASYNC" := by decide
  have hi : getRDFInfoFromSGID "csi-rep-sg-ns1-113-ASYNC" = .ok ("ns1", "113", "ASYNC") := by
    decide
  obtain ⟨ns, hns⟩ := hs (by decide)
  change getRDFInfoFromSGID (getProtectedStorageGroupID _ "13-ASYNC") = _ at hns
  rw [hf, hi] at hns
  simp at hns

theorem getRDFInfoFromSGID_of_split (mid : List String) {sg n mode : String}
    (hc : contains sg csiRepSGPrefix = true)
    (hs : split sg '-' = ["csi", "rep", "sg"] ++ mid ++ [n, mode]) :
    getRDFInfoFromSGID sg = .ok (join mid "-", n, mode) := by
  have hj : join [] "-" = "" := rfl
  cases mid <;> simp [getRDFInfoFromSGID, hc, hs, hj]

theorem getRDFInfoFromSGID_built (ns : String) {n mode : String} (hn : '-' ∉ n.toList)
    (hm : '-' ∉ mode.toList) : getRDFInfoFromSGID (buildProtectionGroupID ns n mode) =
      .ok (if mode = metro then "" else ns, n, mode) := by
  have hp : csiRepSGPrefix = "csi-rep-sg" ++ "-" := by decide
  have hs : split "csi-rep-sg" '-' = ["csi", "rep", "sg"] := by decide
  have hc (t : String) : contains (csiRepSGPrefix ++ t) csiRepSGPrefix = true := by
    rw [contains_iff, String.toList_append]
    exact (prefix_append ..).isInfix
  unfold buildProtectionGroupID
  split
  case isTrue =>
    refine getRDFInfoFromSGID_of_split [] ?_ ?_
    · rw [String.append_assoc, String.append_assoc]
      exact hc _
    · rw [split_dash_last _ hm, hp, split_dash_last _ hn, hs]
      rfl
  case isFalse =>
    refine (getRDFInfoFromSGID_of_split (split ns '-') ?_ ?_).trans
      (congrArg (fun ns => Except.ok (ns, n, mode)) (join_split ns '-'))
    · simp only [String.append_assoc]
      exact hc _
    · rw [split_dash_last _ hm, split_dash_last _ hn, hp, split_dash, hs]
      simp

/-- **Protection groups.**  The decoder gives back what a name was built from; a Metro name has no
namespace. -/
theorem getRDFInfoFromSGID_buildProtectionGroupID (ns n mode : String) (hn : '-' ∉ n.toList)
    (hm : '-' ∉ mode.toList) :
    getRDFInfoFromSGID (buildProtectionGroupID ns n mode) =
        .ok (if mode = metro then "" else ns, n, mode) ∧
      ∀ ns' n' mode' : String, '-' ∉ n'.toList → '-' ∉ mode'.toList →
        buildProtectionGroupID ns n mode = buildProtectionGroupID ns' n' mode' →
          n = n' ∧ mode = mode' ∧ (mode ≠ metro → ns = ns') := by
  have hd := getRDFInfoFromSGID_built ns hn hm
  refine ⟨hd, fun ns' n' mode' hn' hm' h => ?_⟩
  rw [h, getRDFInfoFromSGID_built ns' hn' hm'] at hd
  simp only [Except.ok.injEq, Prod.mk.injEq] at hd
  obtain ⟨hns, rfl, rfl⟩ := hd
  refine ⟨rfl, rfl, fun hne => ?_⟩
  rw [if_neg hne, if_neg hne] at hns
  exact hns.symm

theorem getRDFInfoFromSGID_shop : getRDFInfoFromSGID (buildProtectionGroupID "my-shop" "13" "ASYNC") =
    .ok ("my-shop", "13", "ASYNC") :=
  (getRDFInfoFromSGID_buildProtectionGroupID "my-shop" "13" "ASYNC" (by decide) (by decide)).1

end PowerMaxCsi.Service
