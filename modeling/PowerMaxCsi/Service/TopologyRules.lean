import Mathlib.Data.List.Basic
import PowerMaxCsi.Lib.Strings

/-!
# Topology rules

`readNodesRules` turns the rules for the nodes into texts and `checkIfArrayProtocolValid` looks for
one of them in the text of an array and a protocol.
-/

namespace PowerMaxCsi.Service.Topology

open Strings List

structure NodeConfig where
  nodeName : String
  rules : List String

/-- Part of a rule; the wildcard is found everywhere. -/
def keyPart (s : String) : String := if s = "*" then "" else s

/-- The texts for a rule; `none` if it is skipped. -/
def ruleKeys (rule : String) : Option (List String) :=
  match split rule ':' with
  | array :: hws :: _ =>
    some ((split hws '/').map fun typ => keyPart array ++ "." ++ toLower (keyPart typ))
  | _ => none

abbrev TopologyKeys := String → Option (List String)

/-- The loop over the rules of a node, with `arrayToConTyp`. -/
def addRules (nodeName : String) : List String → TopologyKeys × List String → TopologyKeys
  | [], (keys, _) => keys
  | rule :: rest, (keys, arrayToConTyp) =>
    match ruleKeys rule with
    | none => addRules nodeName rest (keys, arrayToConTyp)
    | some ks => addRules nodeName rest
        (Function.update keys nodeName (some (arrayToConTyp ++ ks)), arrayToConTyp ++ ks)

def readNodesRules (connections : List NodeConfig) : TopologyKeys :=
  connections.foldl (fun keys c => addRules c.nodeName c.rules (keys, [])) fun _ => none

def checkIfKeyIsIncludedOrNot (rulesList : List String) (key : String) : Bool :=
  rulesList.any (Strings.contains key ·)

def keysFor (keys : TopologyKeys) (nodeName : String) : Option (List String) :=
  keys nodeName <|> keys "*"

def checkIfArrayProtocolValid (isTopologyControlEnabled : Bool) (allowed denied : TopologyKeys)
    (nodeName array protocol : String) : Bool :=
  let key := array ++ "." ++ protocol
  !isTopologyControlEnabled ||
    ((keysFor allowed nodeName).all (checkIfKeyIsIncludedOrNot · key) &&
      !(keysFor denied nodeName).any (checkIfKeyIsIncludedOrNot · key))

/-- A rule `array:protocol/protocol/...`. -/
structure Rule where
  array : String
  protocols : List String
  nonempty : protocols ≠ []
  plain : ∀ s ∈ array :: protocols, ':' ∉ s.toList ∧ '/' ∉ s.toList

def protocolsText : List String → String
  | [] => ""
  | [p] => p
  | p :: q :: ps => p ++ String.ofList ['/'] ++ protocolsText (q :: ps)

def Rule.text (r : Rule) : String := r.array ++ String.ofList [':'] ++ protocolsText r.protocols

structure NodeRules where
  nodeName : String
  rules : List Rule

def NodeRules.config (c : NodeRules) : NodeConfig := ⟨c.nodeName, c.rules.map Rule.text⟩

def Rule.Covers (r : Rule) (array protocol : String) : Prop :=
  (r.array = "*" ∨ r.array = array) ∧ ∃ p ∈ r.protocols, p = "*" ∨ equalFold p protocol = true

def entriesOf (cs : List NodeRules) (nodeName : String) : List NodeRules :=
  cs.filter fun c => c.nodeName = nodeName ∧ c.rules ≠ []

def rulesOf (cs : List NodeRules) (nodeName : String) : List Rule :=
  (entriesOf cs nodeName).flatMap (·.rules)

def applicable (cs : List NodeRules) (nodeName : String) : List Rule :=
  if rulesOf cs nodeName = [] then rulesOf cs "*" else rulesOf cs nodeName

/-- A rule that applies to the node covers the pair. -/
def Covered (cs : List NodeRules) (nodeName array protocol : String) : Prop :=
  ∃ r ∈ applicable cs nodeName, r.Covers array protocol

/-- The allow rules that apply, if any, include one for the pair, and the deny rules do not. -/
def Permits (allowed denied : List NodeRules) (nodeName array protocol : String) : Prop :=
  (applicable allowed nodeName = [] ∨ Covered allowed nodeName array protocol) ∧
    ¬ Covered denied nodeName array protocol

/-- The check, with topology control and the maps of both lists. -/
def checked (allowed denied : List NodeRules) (nodeName array protocol : String) : Bool :=
  checkIfArrayProtocolValid true (readNodesRules (allowed.map NodeRules.config))
    (readNodesRules (denied.map NodeRules.config)) nodeName array protocol

/-- The rules that are looked at: those of the last entry for the node, or else for `*`. -/
def counted (cs : List NodeRules) (nodeName : String) : List Rule :=
  ((entriesOf cs nodeName).getLast? <|> (entriesOf cs "*").getLast?).elim [] (·.rules)

/-- The rule is met by the text: its array is an end of the array and one of its protocols, in lower
case, a beginning of the protocol. -/
def Rule.Matches (r : Rule) (array protocol : String) : Prop :=
  (r.array = "*" ∨ r.array.toList <:+ array.toList) ∧
    ∃ p ∈ r.protocols, p = "*" ∨ (toLower p).toList <+: protocol.toList

def Found (cs : List NodeRules) (nodeName array protocol : String) : Prop :=
  ∃ r ∈ counted cs nodeName, r.Matches array protocol

/-- A rule covers the pair, in an entry that a later one has replaced. -/
def Lost (cs : List NodeRules) (nodeName array protocol : String) : Prop :=
  Covered cs nodeName array protocol ∧ ¬ Found cs nodeName array protocol

/-- No rule covers the pair, but one is met by parts of it. -/
def Stray (cs : List NodeRules) (nodeName array protocol : String) : Prop :=
  Found cs nodeName array protocol ∧ ¬ Covered cs nodeName array protocol

/-- Lost and stray rules do not matter: an allow rule only where the pair is denied anyway, and a
deny rule only where it is not allowed. -/
structure Harmless (allowed denied : List NodeRules) (nodeName array protocol : String) : Prop where
  lost : Lost allowed nodeName array protocol → Covered denied nodeName array protocol
  stray : Stray allowed nodeName array protocol → Found denied nodeName array protocol
  denied : ¬ Lost allowed nodeName array protocol → ¬ Stray allowed nodeName array protocol →
    applicable allowed nodeName = [] ∨ Covered allowed nodeName array protocol →
    ¬ Lost denied nodeName array protocol ∧ ¬ Stray denied nodeName array protocol

def Rule.keys (r : Rule) : List String :=
  r.protocols.map fun p => keyPart r.array ++ "." ++ toLower (keyPart p)

theorem split_protocolsText {ps : List String} (hne : ps ≠ []) (h : ∀ p ∈ ps, '/' ∉ p.toList) :
    split (protocolsText ps) '/' = ps := by
  induction ps with
  | nil => exact absurd rfl hne
  | cons p ps ih =>
    cases ps with
    | nil => exact split_of_notMem (h p mem_cons_self)
    | cons q ps =>
      rw [protocolsText, split_append, split_of_notMem (h p mem_cons_self),
        ih (by simp) fun p' hp => h p' (mem_cons_of_mem _ hp), singleton_append]

theorem notMem_protocolsText {ps : List String} {c : Char} (hc : c ≠ '/')
    (h : ∀ p ∈ ps, c ∉ p.toList) : c ∉ (protocolsText ps).toList := by
  induction ps with
  | nil => simp [protocolsText]
  | cons p ps ih =>
    cases ps with
    | nil => exact h p mem_cons_self
    | cons q ps =>
      have := ih fun p' hp => h p' (mem_cons_of_mem _ hp)
      simp_all [protocolsText]

theorem ruleKeys_text (r : Rule) : ruleKeys r.text = some r.keys := by
  have hp := fun s hs => (r.plain s hs).1
  rw [ruleKeys, Rule.text, split_append, split_of_notMem (hp _ mem_cons_self), split_of_notMem
    (notMem_protocolsText (by decide) fun p hm => hp p (mem_cons_of_mem _ hm))]
  simp only [singleton_append]
  rw [split_protocolsText r.nonempty fun p hm => (r.plain p (mem_cons_of_mem _ hm)).2]
  rfl

variable {array protocol : String} (ha : '.' ∉ array.toList) (hp : '.' ∉ protocol.toList)

include ha hp

theorem contains_key {a p : String} :
    Strings.contains (array ++ "." ++ protocol) (a ++ "." ++ p) = true ↔
      a.toList <:+ array.toList ∧ p.toList <+: protocol.toList := by
  rw [contains_iff]
  simp only [String.toList_append]
  constructor
  · rintro ⟨s, t, h⟩
    have h : array.toList ++ '.' :: protocol.toList =
        (s ++ a.toList) ++ '.' :: (p.toList ++ t) := by
      simpa using h.symm
    obtain ⟨hs, -, ht⟩ := (append_cons_inj_of_notMem ha hp).mp h
    exact ⟨⟨s, hs.symm⟩, ⟨t, ht.symm⟩⟩
  · rintro ⟨⟨s, hs⟩, ⟨t, ht⟩⟩
    exact ⟨s, t, by simp [← hs, ← ht]⟩

theorem any_keys_iff {r : Rule} :
    (∃ k ∈ r.keys, Strings.contains (array ++ "." ++ protocol) k = true) ↔
      r.Matches array protocol := by
  have harr : (keyPart r.array).toList <:+ array.toList ↔
      r.array = "*" ∨ r.array.toList <:+ array.toList := by
    unfold keyPart
    split
    case isTrue h => simp [h]
    case isFalse h => simp [h]
  have hpro (p : String) : (toLower (keyPart p)).toList <+: protocol.toList ↔
      p = "*" ∨ (toLower p).toList <+: protocol.toList := by
    unfold keyPart
    split
    case isTrue h => simp [h, toLower]
    case isFalse h => simp [h]
  simp only [Rule.keys, mem_map, exists_exists_and_eq_and, contains_key ha hp, harr, hpro,
    Rule.Matches]
  grind

omit ha hp

theorem addRules_text (n : String) (rules : List Rule) (keys : TopologyKeys) (acc : List String) :
    addRules n (rules.map Rule.text) (keys, acc) = if rules = [] then keys
      else Function.update keys n (some (acc ++ rules.flatMap Rule.keys)) := by
  induction rules generalizing keys acc with
  | nil => rfl
  | cons r rules ih =>
    simp only [map_cons, addRules, ruleKeys_text, ih]
    split
    case isTrue h => simp [h]
    case isFalse h => simp

/-- The last entry of a node with rules counts. -/
theorem readNodesRules_eq (cs : List NodeRules) (n : String) :
    readNodesRules (cs.map NodeRules.config) n =
      (entriesOf cs n).getLast?.map (·.rules.flatMap Rule.keys) := by
  unfold entriesOf
  induction cs using reverseRecOn with
  | nil => rfl
  | append_singleton cs c ih =>
    rw [readNodesRules, map_append, map_singleton, foldl_concat, ← readNodesRules, filter_append]
    simp only [NodeRules.config, addRules_text, nil_append]
    by_cases hr : c.rules = []
    · simp [hr, ih]
    · by_cases hn : c.nodeName = n
      · simp [hr, hn]
      · simp [hr, hn, Function.update_of_ne (Ne.symm hn), ih]

theorem ne_nil_of_mem_entriesOf {cs : List NodeRules} {n : String} {c : NodeRules}
    (hc : c ∈ entriesOf cs n) : c.rules ≠ [] := by
  simp only [entriesOf, mem_filter, decide_eq_true_eq] at hc
  exact hc.2.2

/-- What is looked up for a node. -/
theorem keysFor_eq (cs : List NodeRules) (n : String) :
    keysFor (readNodesRules (cs.map NodeRules.config)) n =
      if counted cs n = [] then none else some ((counted cs n).flatMap Rule.keys) := by
  have hne : ∀ c, (entriesOf cs n).getLast? = some c ∨ (entriesOf cs "*").getLast? = some c →
      c.rules ≠ [] :=
    fun c hc => hc.elim (fun h => ne_nil_of_mem_entriesOf (mem_of_getLast? h))
      fun h => ne_nil_of_mem_entriesOf (mem_of_getLast? h)
  rw [keysFor, readNodesRules_eq, readNodesRules_eq, counted]
  revert hne
  generalize (entriesOf cs n).getLast? = own
  generalize (entriesOf cs "*").getLast? = any
  intro hne
  cases own with
  | some c => simp [hne c (.inl rfl)]
  | none =>
    cases any with
    | some c => simp [hne c (.inr rfl)]
    | none => rfl

theorem counted_eq_nil {cs : List NodeRules} {n : String} :
    counted cs n = [] ↔ applicable cs n = [] := by
  rw [applicable, counted]
  rcases List.eq_nil_or_concat (entriesOf cs n) with hn | ⟨own, c, hn⟩
  · rcases List.eq_nil_or_concat (entriesOf cs "*") with hs | ⟨any, c, hs⟩
    · simp [hn, hs, rulesOf]
    · have hc : c ∈ entriesOf cs "*" := by simp [hs]
      simp [hn, hs, rulesOf, ne_nil_of_mem_entriesOf hc]
  · have hc : c ∈ entriesOf cs n := by simp [hn]
    simp [hn, rulesOf, ne_nil_of_mem_entriesOf hc]

theorem checked_iff {allowed denied : List NodeRules} {nodeName : String}
    (ha : '.' ∉ array.toList) (hp : '.' ∉ protocol.toList) :
    checked allowed denied nodeName array protocol = true ↔
      (applicable allowed nodeName = [] ∨ Found allowed nodeName array protocol) ∧
        ¬ Found denied nodeName array protocol := by
  have hinc (cs : List NodeRules) : checkIfKeyIsIncludedOrNot ((counted cs nodeName).flatMap
      Rule.keys) (array ++ "." ++ protocol) = true ↔ Found cs nodeName array protocol := by
    simp only [checkIfKeyIsIncludedOrNot, any_eq_true, mem_flatMap, Found, ← any_keys_iff ha hp]
    grind
  rw [checked, checkIfArrayProtocolValid, keysFor_eq, keysFor_eq, ← counted_eq_nil, ← hinc allowed,
    ← hinc denied]
  by_cases he : counted allowed nodeName = [] <;> by_cases hd : counted denied nodeName = [] <;>
    simp [he, hd, checkIfKeyIsIncludedOrNot]

/-- **Rules.**  The check is right exactly if lost and stray rules do not matter. -/
theorem valid_iff_harmless {allowed denied : List NodeRules} {nodeName array protocol : String}
    (ha : '.' ∉ array.toList) (hp : '.' ∉ protocol.toList) :
    (checked allowed denied nodeName array protocol = true ↔
      Permits allowed denied nodeName array protocol) ↔
    Harmless allowed denied nodeName array protocol := by
  have hnil : Found allowed nodeName array protocol → applicable allowed nodeName ≠ [] := by
    rintro ⟨r, hr, -⟩ hn
    rw [counted_eq_nil.mpr hn] at hr
    cases hr
  have hcov : Covered allowed nodeName array protocol → applicable allowed nodeName ≠ [] := by
    rintro ⟨r, hr, -⟩ hn
    rw [hn] at hr
    cases hr
  rw [checked_iff ha hp, Permits]
  constructor
  · intro h
    constructor <;> (simp only [Lost, Stray]; tauto)
  · rintro ⟨hl, hs, hd⟩
    simp only [Lost, Stray] at hl hs hd
    tauto

instance {r : Rule} : Decidable (r.Covers array protocol) := by unfold Rule.Covers; infer_instance

instance {r : Rule} : Decidable (r.Matches array protocol) := by unfold Rule.Matches; infer_instance

instance {cs : List NodeRules} {nodeName : String} :
    Decidable (Covered cs nodeName array protocol) := by unfold Covered; infer_instance

instance {cs : List NodeRules} {nodeName : String} :
    Decidable (Found cs nodeName array protocol) := by unfold Found; infer_instance

def fcEntry (nodeName array : String)
    (h : ∀ s ∈ [array, "fc"], ':' ∉ s.toList ∧ '/' ∉ s.toList) : NodeRules :=
  ⟨nodeName, [⟨array, ["fc"], by decide, h⟩]⟩

/-- Node 1 has an entry of its own, so that it does not matter that one of the two for `*` is lost. -/
theorem valid_own : checked [fcEntry "node-1" "000120000548" (by decide)]
    [fcEntry "*" "*" (by decide), fcEntry "*" "548" (by decide),
      fcEntry "node-1" "000120000549" (by decide)] "node-1" "000120000548" "fc" = true ∧
    Permits [fcEntry "node-1" "000120000548" (by decide)]
    [fcEntry "*" "*" (by decide), fcEntry "*" "548" (by decide),
      fcEntry "node-1" "000120000549" (by decide)] "node-1" "000120000548" "fc" := by
  have hp : Permits [fcEntry "node-1" "000120000548" (by decide)]
      [fcEntry "*" "*" (by decide), fcEntry "*" "548" (by decide),
        fcEntry "node-1" "000120000549" (by decide)] "node-1" "000120000548" "fc" :=
    ⟨by decide, by decide⟩
  exact ⟨((valid_iff_harmless (by decide) (by decide)).mpr
    ⟨by unfold Lost; decide, by unfold Stray; decide, by unfold Lost Stray; decide⟩).mpr hp, hp⟩

/-- The end of the ID of an array is taken for it. -/
theorem denied_by_suffix : ¬ ∀ allowed denied nodeName array protocol, '.' ∉ array.toList →
    '.' ∉ protocol.toList → toLower protocol = protocol →
    (checked allowed denied nodeName array protocol = true ↔
      Permits allowed denied nodeName array protocol) := by
  intro h
  have hs := h [] [fcEntry "node-1" "548" (by decide)] "node-1" "000120000548" "fc" (by decide)
    (by decide) (by decide)
  have hc : checked [] [fcEntry "node-1" "548" (by decide)] "node-1" "000120000548" "fc" = false := by
    decide
  rw [hc] at hs
  exact absurd (hs.mpr ⟨by decide, by decide⟩) (by decide)

end PowerMaxCsi.Service.Topology
