import Mathlib.Data.Prod.Lex
import PowerMaxCsi.Capacity.Selection
import PowerMaxCsi.Lib.Outcomes

/-!
# The array that is selected

`selectArray` returns the least candidate by utilization, in-flight counter and ID that is available
and not full; a candidate that is alone is taken as it is.
-/

namespace PowerMaxCsi.Capacity

open Service (GrpcError)
open Prog List ArrayCandidate

variable {U : Type} [LinearOrder U] [Zero U] {cfg : SelectionConfig U} {cache : CapacityCache U}

/-! ## What a selection goes by -/

def Eligible (cfg : SelectionConfig U) (cache : CapacityCache U) (id : String) : Prop :=
  (cache.snapshot id).available = true ∧
    (0 < cfg.capacityThresholdFull →
      (cache.snapshot id).utilizationPercent < cfg.capacityThresholdFull)

omit [LinearOrder U] in
def load (cache : CapacityCache U) (id : String) : U ×ₗ ℤ ×ₗ String :=
  toLex ((cache.snapshot id).utilizationPercent, toLex ((cache.snapshot id).inFlight.toInt, id))

structure LeastLoaded (cfg : SelectionConfig U) (cache : CapacityCache U) (candidates : List String)
    (id : String) : Prop where
  mem : id ∈ candidates
  eligible : Eligible cfg cache id
  least : ∀ other ∈ candidates, Eligible cfg cache other → load cache id ≤ load cache other

variable {candidates : List String} {id : String} {a : ArrayCandidate U}

theorem LeastLoaded.unique {id' : String} (h : LeastLoaded cfg cache candidates id)
    (h' : LeastLoaded cfg cache candidates id') : id = id' := by
  have heq : load cache id = load cache id' :=
    le_antisymm (h.least id' h'.mem h'.eligible) (h'.least id h.mem h.eligible)
  exact congrArg (fun k => (ofLex (ofLex k).2).2) heq

/-- The answers to the calls of a selection, for a cache that does not change. -/
def reading (cfg : SelectionConfig U) (cache : CapacityCache U) :
    (c : CapacityCall) → Set (CapacityAnswer U c)
  | .rangeStorageArrays => {ids | ids.Perm cfg.storageArrays.keys}
  | .snapshot id => {cache.snapshot id}
  | _ => Set.univ

def ArrayCandidate.key (a : ArrayCandidate U) : U ×ₗ ℤ ×ₗ String :=
  toLex (a.utilizationPercent, toLex (a.inFlight.toInt, a.id))

omit [Zero U] in
theorem ArrayCandidate.less_iff {b : ArrayCandidate U} : a.less b = true ↔ a.key < b.key := by
  unfold less key
  rw [Prod.Lex.toLex_lt_toLex, Prod.Lex.toLex_lt_toLex, ← Int32.lt_iff_toInt_lt, Int32.toInt_inj]
  by_cases hu : a.utilizationPercent = b.utilizationPercent
  · by_cases hi : a.inFlight = b.inFlight
    · simp [hu, hi]
    · simp [hu, hi]
  · simp [hu]

omit [Zero U] in
theorem ArrayCandidate.not_less_iff {b : ArrayCandidate U} : ¬ b.less a ↔ a.key ≤ b.key := by
  rw [less_iff, not_lt]

def snapshotsOf (cache : CapacityCache U) (candidates : List String) : List (String × Snapshot U) :=
  candidates.map fun id => (id, cache.snapshot id)

theorem usable_iff : cfg.usable (cache.snapshot id) = true ↔ Eligible cfg cache id := by
  unfold SelectionConfig.usable Eligible
  simp only [Bool.and_eq_true, Bool.not_eq_true', Bool.and_eq_false_iff, decide_eq_false_iff_not,
    not_le]
  exact and_congr_right fun _ => imp_iff_not_or.symm

theorem mem_available :
    a ∈ available cfg (snapshotsOf cache candidates) ↔
      ∃ id ∈ candidates, Eligible cfg cache id ∧
        a = ⟨id, (cache.snapshot id).utilizationPercent, (cache.snapshot id).inFlight⟩ := by
  unfold available snapshotsOf
  simp only [mem_map, mem_filter]
  constructor
  · rintro ⟨_, ⟨⟨id, hid, rfl⟩, hu⟩, rfl⟩
    exact ⟨id, hid, usable_iff.mp hu, rfl⟩
  · rintro ⟨id, hid, he, rfl⟩
    exact ⟨_, ⟨⟨id, hid, rfl⟩, usable_iff.mpr he⟩, rfl⟩

omit [Zero U] in
theorem key_le_of_insertionSort {candidates rest : List (ArrayCandidate U)}
    {first : ArrayCandidate U}
    (h : candidates.insertionSort (fun a b => ¬ b.less a) = first :: rest) :
    ∀ a ∈ candidates, first.key ≤ a.key := by
  have : Std.Total fun a b : ArrayCandidate U => ¬ b.less a :=
    ⟨fun a b => by simpa only [not_less_iff] using le_total a.key b.key⟩
  have : IsTrans (ArrayCandidate U) fun a b => ¬ b.less a :=
    ⟨fun a b c => by simpa only [not_less_iff] using le_trans⟩
  have hs := pairwise_insertionSort (fun a b : ArrayCandidate U => ¬ b.less a) candidates
  rw [h, pairwise_cons] at hs
  intro a ha
  rw [← mem_insertionSort fun a b => ¬ b.less a, h, mem_cons] at ha
  rcases ha with rfl | ha
  · exact le_rfl
  · exact not_less_iff.mp (hs.1 a ha)

theorem selectFrom_cases (cfg : SelectionConfig U) (cache : CapacityCache U) (zone : String)
    (candidates : List String) :
    (∃ id, selectFrom cfg zone (snapshotsOf cache candidates) = .ok id ∧
      LeastLoaded cfg cache candidates id) ∨ selectFrom cfg zone (snapshotsOf cache candidates) =
        .error (allArraysUnavailableError zone candidates.length) ∧
      ∀ id ∈ candidates, ¬ Eligible cfg cache id := by
  unfold selectFrom
  split
  case h_1 hs =>
    refine .inr ⟨by rw [snapshotsOf, length_map], fun id hid he => ?_⟩
    have hmem := mem_available.mpr ⟨id, hid, he, rfl⟩
    rw [← mem_insertionSort fun a b => ¬ b.less a, hs] at hmem
    cases hmem
  case h_2 selected rest hs =>
    have hmem : selected ∈ available cfg (snapshotsOf cache candidates) := by
      rw [← mem_insertionSort fun a b => ¬ b.less a, hs]
      exact mem_cons_self
    obtain ⟨id, hid, he, rfl⟩ := mem_available.mp hmem
    refine .inl ⟨id, rfl, hid, he, fun other ho he' => ?_⟩
    exact key_le_of_insertionSort hs _ (mem_available.mpr ⟨other, ho, he', rfl⟩)

theorem selectFrom_eq_ok_iff {zone : String} :
    selectFrom cfg zone (snapshotsOf cache candidates) = .ok id ↔
      LeastLoaded cfg cache candidates id := by
  rcases selectFrom_cases cfg cache zone candidates with ⟨id', hs, hl⟩ | ⟨hs, hn⟩
  · rw [hs]
    constructor
    · intro h
      exact Except.ok.inj h ▸ hl
    · intro h
      rw [hl.unique h]
  · rw [hs]
    exact iff_of_false (fun h => by cases h) fun h => hn id h.mem h.eligible

omit [LinearOrder U] in
theorem outcomes_takeSnapshots (candidates : List String) :
    outcomes (reading cfg cache) (takeSnapshots candidates) = {snapshotsOf cache candidates} := by
  induction candidates with
  | nil => rfl
  | cons id rest ih =>
    have hr : outcomes (reading cfg cache)
        ((takeSnapshots rest).bind fun more => ret ((id, cache.snapshot id) :: more)) =
        {snapshotsOf cache (id :: rest)} := by
      ext snapshots
      rw [mem_outcomes_bind, ih]
      constructor
      · rintro ⟨_, rfl, rfl⟩
        rfl
      · rintro rfl
        exact ⟨_, rfl, rfl⟩
    ext snapshots
    rw [← hr]
    constructor
    · rintro ⟨_, rfl, hs⟩
      exact hs
    · intro hs
      exact ⟨_, rfl, hs⟩

theorem outcomes_selectArray (hc : cfg.capCache = true) (zone : String) (hne : candidates ≠ []) :
    outcomes (reading cfg cache) (selectArray cfg zone candidates) =
      {selectFrom cfg zone (snapshotsOf cache candidates)} := by
  cases candidates with
  | nil => exact absurd rfl hne
  | cons first rest =>
    unfold selectArray
    simp only [hc, Bool.not_true, Bool.false_eq_true, if_false]
    ext r
    rw [bind_eq, mem_outcomes_bind, outcomes_takeSnapshots]
    constructor
    · rintro ⟨_, rfl, rfl⟩
      rfl
    · rintro rfl
      exact ⟨_, rfl, rfl⟩

/-- `selectArray` returns the least loaded candidate, the same for all lists with the same
candidates, and fails exactly if none is eligible. -/
theorem selectArray_leastLoaded (cfg : SelectionConfig U) (cache : CapacityCache U)
    (hc : cfg.capCache = true) (zone : String) (candidates : List String) (hne : candidates ≠ []) :
    ∃ r, outcomes (reading cfg cache) (selectArray cfg zone candidates) = {r} ∧
      (∀ id, r = .ok id ↔ LeastLoaded cfg cache candidates id) ∧
      ((∃ err, r = .error err) ↔ ∀ id ∈ candidates, ¬ Eligible cfg cache id) ∧
      ∀ candidates', (∀ id, id ∈ candidates' ↔ id ∈ candidates) →
        ∃ r', outcomes (reading cfg cache) (selectArray cfg zone candidates') = {r'} ∧
          ∀ id, r' = .ok id ↔ r = .ok id := by
  refine ⟨_, outcomes_selectArray hc zone hne, fun id => selectFrom_eq_ok_iff, ?_,
    fun candidates' hs => ?_⟩
  · rcases selectFrom_cases cfg cache zone candidates with
      ⟨id, hse, hl⟩ | ⟨hse, hn⟩
    · rw [hse]
      refine iff_of_false (fun ⟨err, h⟩ => by cases h) fun hn => ?_
      exact hn id hl.mem hl.eligible
    · exact iff_of_true ⟨_, hse⟩ hn
  · have hne' : candidates' ≠ [] := by
      obtain ⟨id, hid⟩ := exists_mem_of_ne_nil candidates hne
      exact ne_nil_of_mem ((hs id).mpr hid)
    refine ⟨_, outcomes_selectArray hc zone hne', fun id => ?_⟩
    rw [selectFrom_eq_ok_iff, selectFrom_eq_ok_iff]
    constructor
    · rintro ⟨hmem, he, hl⟩
      exact ⟨(hs id).mp hmem, he, fun other h => hl other ((hs other).mpr h)⟩
    · rintro ⟨hmem, he, hl⟩
      exact ⟨(hs id).mpr hmem, he, fun other h => hl other ((hs other).mp h)⟩

namespace ZoneA

def config : SelectionConfig ℕ :=
  let labels : GoMap String String := AList.singleton "topology.kubernetes.io/zone" "zone-a"
  ⟨true, 100, (AList.singleton "000120000548" labels).insert "000120000549" labels⟩

def polled : CapacityCache ℕ :=
  (CapacityCache.newCapacityCache.recordPollSuccess "000120000548" 40 0).recordPollSuccess
    "000120000549" 30 0

theorem selectArray_emptier :
    outcomes (reading config polled) (selectArray config "zone-a" ["000120000548", "000120000549"]) =
      {.ok "000120000549"} := by
  obtain ⟨r, hr, hok, -⟩ := selectArray_leastLoaded config polled rfl "zone-a"
    ["000120000548", "000120000549"] (cons_ne_nil _ _)
  have hl : LeastLoaded config polled ["000120000548", "000120000549"] "000120000549" := by
    refine ⟨by decide, ⟨rfl, by decide⟩, fun other ho _ => ?_⟩
    simp only [mem_cons, not_mem_nil, or_false] at ho
    rcases ho with rfl | rfl
    · decide +kernel
    · exact le_rfl
  rw [hr, (hok _).mpr hl]

end ZoneA

def MatchedBy (cfg : SelectionConfig U) (topologies : List Topology) : Set String :=
  {id | ∃ topology ∈ topologies, cfg.matches topology id = true}

def Matching (cfg : SelectionConfig U) : Option TopologyRequirement → Set String
  | none => ∅
  | some requirement =>
    {id | id ∈ MatchedBy cfg requirement.preferred ∨
      (∀ other, other ∉ MatchedBy cfg requirement.preferred) ∧
        id ∈ MatchedBy cfg requirement.requisite}

section

omit [LinearOrder U] [Zero U]

theorem mem_keys_of_matches {topology : Topology}
    (h : cfg.matches topology id = true) : id ∈ cfg.storageArrays.keys := by
  unfold SelectionConfig.matches at h
  split at h
  · cases h
  case h_2 labels hl =>
    rw [← AList.mem_keys, ← AList.lookup_isSome, hl]
    rfl

variable [Zero U] {topologies : List Topology} {candidates : List String}

theorem mem_outcomes_checkTopologyRequirements_cons {topology : Topology} :
    candidates ∈ outcomes (reading cfg cache)
        (checkTopologyRequirements cfg (topology :: topologies)) ↔
      ∃ ids : List String, ids.Perm cfg.storageArrays.keys ∧
        ∃ rest ∈ outcomes (reading cfg cache) (checkTopologyRequirements cfg topologies),
          candidates = ids.filter (cfg.matches topology) ++ rest := by
  constructor
  · rintro ⟨ids, hi, h⟩
    obtain ⟨rest, hr, rfl⟩ := (mem_outcomes_bind (p := checkTopologyRequirements cfg topologies)
      (f := fun rest => ret (ids.filter (cfg.matches topology) ++ rest))).mp h
    exact ⟨ids, hi, rest, hr, rfl⟩
  · rintro ⟨ids, hi, rest, hr, rfl⟩
    refine ⟨ids, hi, (mem_outcomes_bind (p := checkTopologyRequirements cfg topologies)
      (f := fun rest => ret (ids.filter (cfg.matches topology) ++ rest))).mpr ?_⟩
    exact ⟨rest, hr, rfl⟩

theorem mem_iff_matchedBy
    (h : candidates ∈ outcomes (reading cfg cache) (checkTopologyRequirements cfg topologies))
    (id : String) : id ∈ candidates ↔ id ∈ MatchedBy cfg topologies := by
  induction topologies generalizing candidates with
  | nil =>
    obtain rfl : candidates = [] := h
    exact iff_of_false not_mem_nil fun ⟨_, h, _⟩ => not_mem_nil h
  | cons topology topologies ih =>
    obtain ⟨ids, hi, rest, hr, rfl⟩ := mem_outcomes_checkTopologyRequirements_cons.mp h
    rw [mem_append, mem_filter, ih hr, hi.mem_iff]
    constructor
    · rintro (⟨-, hm⟩ | ⟨other, ho, hm⟩)
      · exact ⟨topology, mem_cons_self, hm⟩
      · exact ⟨other, mem_cons_of_mem _ ho, hm⟩
    · rintro ⟨other, ho, hm⟩
      rcases mem_cons.mp ho with rfl | ho
      · exact .inl ⟨mem_keys_of_matches hm, hm⟩
      · exact .inr ⟨other, ho, hm⟩

variable (cfg cache topologies) in
theorem exists_outcome_checkTopologyRequirements :
    ∃ candidates, candidates ∈
      outcomes (reading cfg cache) (checkTopologyRequirements cfg topologies) := by
  induction topologies with
  | nil => exact ⟨[], rfl⟩
  | cons topology topologies ih =>
    obtain ⟨rest, hr⟩ := ih
    exact ⟨_, mem_outcomes_checkTopologyRequirements_cons.mpr ⟨_, Perm.refl _, rest, hr, rfl⟩⟩

variable {requirement : TopologyRequirement}

theorem mem_outcomes_matchingArrays :
    candidates ∈ outcomes (reading cfg cache) (matchingArrays cfg requirement) ↔
      (candidates ≠ [] ∧ candidates ∈ outcomes (reading cfg cache)
        (checkTopologyRequirements cfg requirement.preferred)) ∨
      ([] ∈ outcomes (reading cfg cache) (checkTopologyRequirements cfg requirement.preferred) ∧
        candidates ∈ outcomes (reading cfg cache)
          (checkTopologyRequirements cfg requirement.requisite)) := by
  unfold matchingArrays
  rw [bind_eq, mem_outcomes_bind]
  constructor
  · rintro ⟨preferred, hp, h⟩
    cases preferred with
    | nil => exact .inr ⟨hp, h⟩
    | cons first rest =>
      obtain rfl : candidates = first :: rest := h
      exact .inl ⟨cons_ne_nil _ _, hp⟩
  · rintro (⟨hne, h⟩ | ⟨hnil, h⟩)
    · refine ⟨candidates, h, ?_⟩
      cases candidates with
      | nil => exact absurd rfl hne
      | cons => exact rfl
    · exact ⟨[], hnil, h⟩

theorem mem_iff_matching
    (h : candidates ∈ outcomes (reading cfg cache) (matchingArrays cfg requirement)) (id : String) :
    id ∈ candidates ↔ id ∈ Matching cfg (some requirement) := by
  rcases mem_outcomes_matchingArrays.mp h with ⟨hne, hp⟩ | ⟨hnil, hr⟩
  · obtain ⟨first, hf⟩ := exists_mem_of_ne_nil candidates hne
    rw [mem_iff_matchedBy hp]
    constructor
    · exact .inl
    · rintro (hid | ⟨hn, -⟩)
      · exact hid
      · exact absurd ((mem_iff_matchedBy hp first).mp hf) (hn first)
  · have hn : ∀ other, other ∉ MatchedBy cfg requirement.preferred := fun other ho =>
      not_mem_nil ((mem_iff_matchedBy hnil other).mpr ho)
    rw [mem_iff_matchedBy hr]
    constructor
    · intro hid
      exact .inr ⟨hn, hid⟩
    · rintro (hid | ⟨-, hid⟩)
      · exact absurd hid (hn id)
      · exact hid

variable (cfg cache requirement) in
theorem exists_outcome_matchingArrays :
    ∃ candidates, candidates ∈ outcomes (reading cfg cache) (matchingArrays cfg requirement) := by
  obtain ⟨preferred, hp⟩ :=
    exists_outcome_checkTopologyRequirements cfg cache requirement.preferred
  obtain ⟨requisite, hr⟩ :=
    exists_outcome_checkTopologyRequirements cfg cache requirement.requisite
  cases preferred with
  | nil => exact ⟨requisite, mem_outcomes_matchingArrays.mpr (.inr ⟨hp, hr⟩)⟩
  | cons => exact ⟨_, mem_outcomes_matchingArrays.mpr (.inl ⟨cons_ne_nil _ _, hp⟩)⟩

end

def selectMatching (cfg : SelectionConfig U) (cache : CapacityCache U) (zone : String) :
    List String → Except GrpcError String
  | [] => .error noSuitableArrayErr
  | [candidate] => .ok candidate
  | candidates => selectFrom cfg zone (snapshotsOf cache candidates)

/-- The results are the selections among the arrays that match, in any order and repetition. -/
theorem mem_outcomes_selectArrayFromTopologyRequirement (hca : cfg.capCache = true)
    {requirement : Option TopologyRequirement} {r : Except GrpcError String} :
    r ∈ outcomes (reading cfg cache) (selectArrayFromTopologyRequirement cfg requirement) ↔
      (requirement = none ∧ r = .error noSuitableArrayErr) ∨
      ∃ req, requirement = some req ∧
        ∃ candidates ∈ outcomes (reading cfg cache) (matchingArrays cfg req),
          r = selectMatching cfg cache (zoneFromTopologyRequirement req) candidates := by
  unfold selectArrayFromTopologyRequirement
  cases requirement with
  | none => simp
  | some req =>
    have hn : MatchedBy cfg req.preferred = ∅ → MatchedBy cfg req.requisite = ∅ →
        (r = .error noSuitableArrayErr ↔
          ∃ candidates ∈ outcomes (reading cfg cache) (matchingArrays cfg req),
            r = selectMatching cfg cache (zoneFromTopologyRequirement req) candidates) := by
      intro hp hr
      have he : ∀ candidates ∈ outcomes (reading cfg cache) (matchingArrays cfg req),
          candidates = [] := by
        intro candidates hc
        refine eq_nil_iff_forall_not_mem.mpr fun id hid => ?_
        rcases (mem_iff_matching hc id).mp hid with hid | ⟨-, hid⟩
        · rw [hp] at hid
          exact hid
        · rw [hr] at hid
          exact hid
      constructor
      · rintro rfl
        obtain ⟨candidates, hc⟩ := exists_outcome_matchingArrays cfg cache req
        exact ⟨candidates, hc, by rw [he candidates hc]; rfl⟩
      · rintro ⟨candidates, hc, rfl⟩
        rw [he candidates hc]
        rfl
    simp only [reduceCtorEq, false_and, false_or, Option.some.injEq, exists_eq_left']
    split
    case isTrue hl =>
      obtain ⟨hr, hp⟩ := Bool.and_eq_true_iff.mp hl
      rw [List.isEmpty_iff] at hr hp
      refine hn ?_ ?_
      · simp [MatchedBy, hp]
      · simp [MatchedBy, hr]
    case isFalse =>
      split
      case isTrue ha =>
        have hm : ∀ topologies, MatchedBy cfg topologies = ∅ := by
          intro topologies
          refine Set.eq_empty_of_forall_notMem fun id ⟨topology, _, hma⟩ => ?_
          have hk := mem_keys_of_matches hma
          rw [AList.keys, List.keys, isEmpty_iff.mp ha] at hk
          exact not_mem_nil hk
        exact hn (hm _) (hm _)
      case isFalse =>
        rw [bind_eq, mem_outcomes_bind]
        refine exists_congr fun candidates => and_congr_right fun _ => ?_
        rcases candidates with _ | ⟨first, _ | ⟨second, rest⟩⟩
        · exact Iff.rfl
        · exact Iff.rfl
        · rw [outcomes_selectArray hca _ (cons_ne_nil _ _)]
          exact Iff.rfl

/-- An eligible array is returned, and the set of the arrays that match decides which one. -/
def SelectsBySet (cfg : SelectionConfig U) (cache : CapacityCache U)
    (requirement : Option TopologyRequirement) : Prop :=
  (∀ id, .ok id ∈ outcomes (reading cfg cache) (selectArrayFromTopologyRequirement cfg requirement) →
    Eligible cfg cache id) ∧
  ∀ requirement', Matching cfg requirement' = Matching cfg requirement →
    ∀ r ∈ outcomes (reading cfg cache) (selectArrayFromTopologyRequirement cfg requirement),
    ∀ r' ∈ outcomes (reading cfg cache) (selectArrayFromTopologyRequirement cfg requirement'),
      r.toOption = r'.toOption

theorem selectMatching_eq_ok_iff {zone : String}
    (hs : ∀ id, (∀ other, other ∈ candidates ↔ other = id) → Eligible cfg cache id) :
    selectMatching cfg cache zone candidates = .ok id ↔ LeastLoaded cfg cache candidates id := by
  rcases candidates with _ | ⟨first, _ | ⟨second, rest⟩⟩
  · exact iff_of_false (fun h => by cases h) fun h => not_mem_nil h.mem
  · have hf : Eligible cfg cache first := hs first fun other => mem_singleton
    constructor
    · intro h
      obtain rfl := Except.ok.inj h
      exact ⟨mem_cons_self, hf, fun other ho _ => (mem_singleton.mp ho) ▸ le_rfl⟩
    · intro h
      rw [mem_singleton.mp h.mem]
      rfl
  · exact selectFrom_eq_ok_iff

/-- Unless a single array that is not eligible matches, the set tells what is returned. -/
theorem eq_ok_iff_of_mem_outcomes (hcac : cfg.capCache = true)
    {requirement : Option TopologyRequirement}
    (hs : ∀ id, Matching cfg requirement = {id} → Eligible cfg cache id)
    {r : Except GrpcError String}
    (hr : r ∈ outcomes (reading cfg cache) (selectArrayFromTopologyRequirement cfg requirement))
    (id : String) :
    r = .ok id ↔ id ∈ Matching cfg requirement ∧ Eligible cfg cache id ∧
      ∀ other ∈ Matching cfg requirement, Eligible cfg cache other →
        load cache id ≤ load cache other := by
  rcases (mem_outcomes_selectArrayFromTopologyRequirement hcac).mp hr with
    ⟨rfl, rfl⟩ | ⟨req, rfl, candidates, hc, rfl⟩
  · exact iff_of_false (fun h => by cases h) fun h => h.1
  · have hmem := mem_iff_matching hc
    rw [selectMatching_eq_ok_iff fun single hca => hs single ?_]
    · constructor
      · rintro ⟨hid, he, hl⟩
        exact ⟨(hmem id).mp hid, he, fun other h => hl other ((hmem other).mpr h)⟩
      · rintro ⟨hid, he, hl⟩
        exact ⟨(hmem id).mpr hid, he, fun other h => hl other ((hmem other).mp h)⟩
    · ext other
      rw [← hmem, hca, Set.mem_singleton_iff]

theorem ok_mem_outcomes_of_single (hc : cfg.capCache = true) {topology : Topology}
    (hid : ∀ other, cfg.matches topology other = true ↔ other = id) :
    .ok id ∈ outcomes (reading cfg cache)
      (selectArrayFromTopologyRequirement cfg (some ⟨[topology], []⟩)) := by
  refine (mem_outcomes_selectArrayFromTopologyRequirement hc).mpr (.inr ⟨_, rfl, [id], ?_, rfl⟩)
  have hf : cfg.storageArrays.keys.filter (cfg.matches topology) = [id] := by
    have hn := cfg.storageArrays.keys_nodup.filter (cfg.matches topology)
    refine perm_singleton.mp ((perm_ext_iff_of_nodup hn (nodup_singleton id)).mpr fun other => ?_)
    rw [mem_filter, hid, mem_singleton]
    constructor
    · exact And.right
    · intro ho
      exact ⟨mem_keys_of_matches ((hid other).mpr ho), ho⟩
  refine mem_outcomes_matchingArrays.mpr (.inl ⟨cons_ne_nil _ _, ?_⟩)
  refine mem_outcomes_checkTopologyRequirements_cons.mpr ⟨_, Perm.refl _, [], rfl, ?_⟩
  rw [hf, append_nil]

/-- The selection is by the set of the arrays that match exactly if this is not a single array that
is not eligible. -/
theorem selectsBySet_iff (cfg : SelectionConfig U) (cache : CapacityCache U)
    (hc : cfg.capCache = true) (requirement : Option TopologyRequirement) :
    SelectsBySet cfg cache requirement ↔
      ∀ id, Matching cfg requirement = {id} → Eligible cfg cache id := by
  constructor
  · rintro ⟨he, hse⟩ id hid
    have hmem : id ∈ Matching cfg requirement := hid ▸ rfl
    cases requirement with
    | none => exact hmem.elim
    | some req =>
      -- one topology that the array matches, alone
      obtain ⟨topology, hm, hsu⟩ : ∃ topology, cfg.matches topology id = true ∧
          ∀ other, cfg.matches topology other = true → other ∈ Matching cfg (some req) := by
        rcases hmem with ⟨topology, hin, hm⟩ | ⟨hn, topology, hin, hm⟩
        · exact ⟨topology, hm, fun other h => .inl ⟨topology, hin, h⟩⟩
        · exact ⟨topology, hm, fun other h => .inr ⟨hn, topology, hin, h⟩⟩
      have hs : ∀ other, cfg.matches topology other = true ↔ other = id := by
        intro other
        constructor
        · intro h
          have hot := hsu other h
          rw [hid] at hot
          exact hot
        · rintro rfl
          exact hm
      have hsa : Matching cfg (some ⟨[topology], []⟩) = Matching cfg (some req) := by
        rw [hid]
        ext other
        simp only [Matching, MatchedBy, Set.mem_ofPred_eq, mem_singleton, exists_eq_left, hs,
          Set.mem_singleton_iff, not_mem_nil, false_and, exists_false, and_false, or_false]
      obtain ⟨candidates, hca⟩ := exists_outcome_matchingArrays cfg cache req
      have hr := (mem_outcomes_selectArrayFromTopologyRequirement hc).mpr
        (.inr ⟨req, rfl, candidates, hca, rfl⟩)
      have ho := hse _ hsa _ hr _ (ok_mem_outcomes_of_single hc hs)
      refine he id ?_
      generalize selectMatching cfg cache _ candidates = r at hr ho
      cases r with
      | error err => cases ho
      | ok id' =>
        obtain rfl : id' = id := Option.some.inj ho
        exact hr
  · intro hs
    have hok := @eq_ok_iff_of_mem_outcomes U _ _ cfg cache hc
    refine ⟨fun id hid => ((hok hs hid id).mp rfl).2.1, fun requirement' hsa r hr r' hr' => ?_⟩
    have hi : ∀ id, r = .ok id ↔ r' = .ok id := by
      intro id
      rw [hok hs hr id, hok (fun id hid => hs id (hsa ▸ hid)) hr' id, hsa]
    cases r with
    | error err =>
      cases r' with
      | error err' => rfl
      | ok id => cases (hi id).mpr rfl
    | ok id => rw [(hi id).mp rfl]

namespace ZoneA

def requirement : TopologyRequirement :=
  ⟨[AList.singleton "topology.kubernetes.io/zone" "zone-a"], []⟩

theorem selectsBySet_two : SelectsBySet config polled (some requirement) := by
  refine (selectsBySet_iff config polled rfl (some requirement)).mpr fun id hid => ?_
  have hf : "000120000548" ∈ Matching config (some requirement) :=
    .inl ⟨_, mem_cons_self, by decide +kernel⟩
  have hs : "000120000549" ∈ Matching config (some requirement) :=
    .inl ⟨_, mem_cons_self, by decide +kernel⟩
  rw [hid] at hf hs
  exact absurd (hf.trans hs.symm) (by decide)

def down : CapacityCache ℕ := CapacityCache.newCapacityCache.invalidate "000120000548"

def alone : SelectionConfig ℕ :=
  ⟨true, 100, AList.singleton "000120000548"
    (AList.singleton "topology.kubernetes.io/zone" "zone-a")⟩

/-- An array that is down is returned if it alone matches. -/
theorem alone_down : ¬ ∀ (cfg : SelectionConfig ℕ) (cache : CapacityCache ℕ)
    (requirement : Option TopologyRequirement), cfg.capCache = true →
    SelectsBySet cfg cache requirement := by
  intro hal
  obtain ⟨he, -⟩ := hal alone down (some requirement) rfl
  have hm : ∀ other,
      alone.matches (AList.singleton "topology.kubernetes.io/zone" "zone-a") other = true ↔
        other = "000120000548" := by
    intro other
    constructor
    · intro h
      exact mem_singleton.mp (mem_keys_of_matches h)
    · rintro rfl
      decide +kernel
  obtain ⟨ha, -⟩ := he _ (ok_mem_outcomes_of_single rfl hm)
  exact absurd ha (by decide +kernel)

end ZoneA

end PowerMaxCsi.Capacity
