import PowerMaxCsi.Service.VolumePublisher

/-!
# From the publish context to the targets

`updatePublishContext` writes the identifiers of the ports, each with a comma, and cuts the text
every 128 characters; `NodeStageVolume` puts the pieces together and `getArrayTargets` splits the
text at the commas.
-/

namespace PowerMaxCsi.Service

open Prog Strings List

/-- `publishContext[key]`, with whether there is an entry. -/
def contextValue (publishContext : PublishContext) (key : String) : Option String :=
  publishContext.reverse.lookup key

def contextKey (isLocal : Bool) (name : String) : String := if isLocal then name else "REMOTE_" ++ name

/-- `fmt.Sprintf("%s_%d", PortIdentifiers, i)`, or with `RemotePortIdentifiers`. -/
def portIdentifierKey (isLocal : Bool) (i : Nat) : String :=
  contextKey isLocal "PORT_IDENTIFIERS" ++ "_" ++ toString i

/-- The part of `NodeStageVolume` that puts the identifiers of the ports together. -/
def targetIdentifiers (isLocal : Bool) (publishContext : PublishContext) : String :=
  match contextValue publishContext (contextKey isLocal "PORT_IDENTIFIER_KEYS") with
  | some count =>
    (List.range (Numeral.atoi count).toNat).foldl (fun targetIdentifiers i => targetIdentifiers ++
      (contextValue publishContext (portIdentifierKey isLocal (i + 1))).getD "") ""
  | none => (contextValue publishContext (contextKey isLocal "PORT_IDENTIFIERS")).getD ""

structure TargetInfo where
  (target portal : String)
deriving DecidableEq, Repr

inductive TargetCall where
  | getAndConfigureArrayNVMeTCPTargets (arrayTargets : List String) (symID : String)
  | getAndConfigureArrayISCSITargets (arrayTargets : List String) (symID : String)
deriving DecidableEq, Repr

/-- The targets of an array; of one for Fibre Channel its WWPN. -/
structure ArrayTargets where
  iscsiTargets : List TargetInfo
  fcTargets : List String
  nvmeTargets : List TargetInfo
  (isFC isNVMeTCP : Bool)
deriving DecidableEq, Repr

/-- The targets that `getArrayTargets` splits the text into; `none` if it fails to parse it. -/
def splitTargets (targetIdentifiers : String) : Option (List String) :=
  let arrayTargets := split targetIdentifiers ','
  if arrayTargets.length = 1 ∧ arrayTargets.head? = some targetIdentifiers then none
  else if arrayTargets.length > 1 then some arrayTargets.dropLast
  else none

def getArrayTargets (targetIdentifiers symID : String) :
    Prog TargetCall (fun _ => List TargetInfo) ArrayTargets :=
  match splitTargets targetIdentifiers with
  | none => return ⟨[], [], [], false, false⟩
  | some arrayTargets => do
    let fcTargets := (arrayTargets.filter (hasPrefix · "0x")).map (trimPrefix · "0x")
    let isFC := arrayTargets.any (hasPrefix · "0x")
    if arrayTargets.any (hasPrefix · "nqn") then
      let nvmeTargets ← ask (.getAndConfigureArrayNVMeTCPTargets arrayTargets symID)
      return ⟨[], fcTargets, nvmeTargets, isFC, true⟩
    else if isFC then return ⟨[], fcTargets, [], true, false⟩
    else
      let iscsiTargets ← ask (.getAndConfigureArrayISCSITargets arrayTargets symID)
      return ⟨iscsiTargets, fcTargets, [], false, false⟩

section

variable {isLocal : Bool} {context : PublishContext} {portIdentifiers lunid : String}

theorem portIdentifierKey_injective (isLocal : Bool) :
    Function.Injective (portIdentifierKey isLocal) := by
  intro i j h
  exact Numeral.repr_injective ((String.append_right_inj _).mp h)

theorem hasPrefix_portIdentifierKey (isLocal : Bool) (i : Nat) :
    hasPrefix (portIdentifierKey isLocal i) (contextKey isLocal "PORT_IDENTIFIERS_") = true := by
  rw [hasPrefix, List.isPrefixOf_iff_prefix]
  cases isLocal <;> exact ⟨i.repr.toList, by simp [portIdentifierKey, contextKey]⟩

theorem portIdentifierKey_ne {isLocal : Bool} {key : String}
    (hk : hasPrefix key (contextKey isLocal "PORT_IDENTIFIERS_") = false) (i : Nat) :
    portIdentifierKey isLocal i ≠ key := by
  rintro rfl
  rw [hasPrefix_portIdentifierKey] at hk
  exact Bool.noConfusion hk

def chunkEntries (isLocal : Bool) (portIdentifiers : String) (n : Nat) : PublishContext :=
  (List.range n).map fun i =>
    (portIdentifierKey isLocal (i + 1), chunk portIdentifiers maxPortIdentifierLength i)

def keyCount (portIdentifiers : String) : Nat := len portIdentifiers / maxPortIdentifierLength + 1

theorem contextEntries_eq (isLocal : Bool) (portIdentifiers lunid : String) :
    contextEntries isLocal portIdentifiers lunid =
      chunkEntries isLocal portIdentifiers (keyCount portIdentifiers) ++
        [(contextKey isLocal "PORT_IDENTIFIER_KEYS", toString (keyCount portIdentifiers)),
          (contextKey isLocal "LUN_ADDRESS", lunid)] := rfl

theorem contextValue_append_self (context : PublishContext) (key value : String) :
    contextValue (context ++ [(key, value)]) key = some value := by
  rw [contextValue, reverse_append, reverse_singleton, singleton_append, lookup_cons_self]

theorem contextValue_append_of_ne {key key' value : String} (hne : key ≠ key') :
    contextValue (context ++ [(key', value)]) key = contextValue context key := by
  have hb : (key == key') = false := beq_eq_false_iff_ne.mpr hne
  rw [contextValue, reverse_append, reverse_singleton, singleton_append, lookup_cons, hb]
  rfl

theorem contextValue_chunkEntries {i n : Nat} (hi : i < n) :
    contextValue (context ++ chunkEntries isLocal portIdentifiers n)
      (portIdentifierKey isLocal (i + 1)) =
        some (chunk portIdentifiers maxPortIdentifierLength i) := by
  induction n with
  | zero => exact absurd hi (Nat.not_lt_zero i)
  | succ n ih =>
    rw [chunkEntries, range_succ, map_append, ← append_assoc]
    rcases Nat.lt_succ_iff_lt_or_eq.mp hi with hlt | rfl
    · have hne : portIdentifierKey isLocal (i + 1) ≠ portIdentifierKey isLocal (n + 1) := by
        intro heq
        have hin := portIdentifierKey_injective isLocal heq
        omega
      exact (contextValue_append_of_ne hne).trans (ih hlt)
    · exact contextValue_append_self ..

theorem contextValue_chunk (lunid : String) {i : Nat} (hi : i < keyCount portIdentifiers) :
    contextValue (context ++ contextEntries isLocal portIdentifiers lunid)
      (portIdentifierKey isLocal (i + 1)) =
        some (chunk portIdentifiers maxPortIdentifierLength i) := by
  have hl : hasPrefix (contextKey isLocal "LUN_ADDRESS")
      (contextKey isLocal "PORT_IDENTIFIERS_") = false := by
    cases isLocal <;> decide
  have hc : hasPrefix (contextKey isLocal "PORT_IDENTIFIER_KEYS")
      (contextKey isLocal "PORT_IDENTIFIERS_") = false := by
    cases isLocal <;> decide
  rw [contextEntries_eq, ← append_assoc, append_cons,
    contextValue_append_of_ne (portIdentifierKey_ne hl _),
    contextValue_append_of_ne (portIdentifierKey_ne hc _)]
  exact contextValue_chunkEntries hi

theorem contextValue_keyCount (context : PublishContext) (isLocal : Bool)
    (portIdentifiers lunid : String) :
    contextValue (context ++ contextEntries isLocal portIdentifiers lunid)
      (contextKey isLocal "PORT_IDENTIFIER_KEYS") = some (toString (keyCount portIdentifiers)) := by
  have hne : contextKey isLocal "PORT_IDENTIFIER_KEYS" ≠ contextKey isLocal "LUN_ADDRESS" := by
    cases isLocal <;> decide
  rw [contextEntries_eq, ← append_assoc, append_cons,
    contextValue_append_of_ne hne, contextValue_append_self]

theorem targetIdentifiers_contextEntries (context : PublishContext) (isLocal : Bool)
    (portIdentifiers lunid : String) :
    targetIdentifiers isLocal (context ++ contextEntries isLocal portIdentifiers lunid) =
      portIdentifiers := by
  have hco : (Numeral.atoi (toString (keyCount portIdentifiers))).toNat =
      keyCount portIdentifiers := by
    rw [Nat.toString_eq_repr, Numeral.atoi_repr, Int.toNat_natCast]
  have hc : (List.range (keyCount portIdentifiers)).foldl (fun text i => text ++
      (contextValue (context ++ contextEntries isLocal portIdentifiers lunid)
        (portIdentifierKey isLocal (i + 1))).getD "") "" =
      (List.range (keyCount portIdentifiers)).foldl (fun text i => text ++
        chunk portIdentifiers maxPortIdentifierLength i) "" := by
    refine foldl_ext _ _ _ fun text i hi => ?_
    rw [contextValue_chunk lunid (mem_range.mp hi), Option.getD_some]
  have hw : len portIdentifiers ≤ keyCount portIdentifiers * maxPortIdentifierLength := by
    have hlt := Nat.lt_div_mul_add (a := len portIdentifiers) (b := maxPortIdentifierLength)
      (by decide)
    rw [keyCount, Nat.succ_mul]
    exact hlt.le
  rw [targetIdentifiers, contextValue_keyCount]
  dsimp only
  rw [hco, hc, foldl_chunk, cut_of_len_le hw]

end

theorem splitTargets_terminated {ids : List String} (hne : ids ≠ [])
    (hp : ∀ id ∈ ids, ',' ∉ id.toList) : splitTargets (terminated ',' ids) = some ids := by
  have hm : (ids ++ [""]).length > 1 := by
    have hpo := length_pos_iff.mpr hne
    rw [length_append, length_singleton]
    omega
  rw [splitTargets, split_terminated hp, if_neg fun h => hm.ne' h.1, if_pos hm, dropLast_concat]

def identifierOf : Entry PubCall PubAnswer → Option String
  | ⟨.getPortIdentifier _ _, .ok portIdentifier⟩ => some portIdentifier
  | _ => none

def identifiers (h : History PubCall PubAnswer) : List String := h.filterMap identifierOf

def PubCall.Other : PubCall → Prop
  | .getPortIdentifier _ _ => False
  | _ => True

section

variable {h : History PubCall PubAnswer} {symID maskingViewID devID reqID : String}

theorem identifiers_concat (h : History PubCall PubAnswer) (e : Entry PubCall PubAnswer) :
    identifiers (h ++ [e]) = identifiers h ++ (identifierOf e).toList := by
  rw [identifiers, filterMap_append, filterMap_cons]
  cases identifierOf e with
  | none => rfl
  | some id => rfl

theorem safe_of_other {α : Type} {p : PubProg α} (hp : Calls PubCall.Other p)
    (hn : identifiers h = []) : Safe (fun _ _ => True) (fun h' _ => identifiers h' = []) h p := by
  refine Safe.of_calls hn hp fun h c hc hn => ⟨trivial, fun r => ?_⟩
  rw [identifiers_concat, hn]
  cases c <;> first | rfl | exact hc.elim

theorem portIdentifiersOf_safe (symID : String) (dirPorts : List String) :
    Safe (fun _ _ => True) (fun h' text => text = terminated ',' (identifiers h')) h
      (portIdentifiersOf symID dirPorts (terminated ',' (identifiers h))) := by
  induction dirPorts generalizing h with
  | nil => rfl
  | cons dirPortKey dirPorts ih =>
    refine ⟨trivial, ?_⟩
    rintro (err | portIdentifier)
    · have hs : identifiers (h ++ [⟨.getPortIdentifier symID dirPortKey, .error err⟩]) =
          identifiers h := (identifiers_concat h _).trans (append_nil _)
      have hr := ih (h := h ++ [⟨.getPortIdentifier symID dirPortKey, .error err⟩])
      rwa [hs] at hr
    · have hm : identifiers
          (h ++ [⟨.getPortIdentifier symID dirPortKey, .ok portIdentifier⟩]) =
            identifiers h ++ [portIdentifier] := identifiers_concat h _
      have hr := ih (h := h ++ [⟨.getPortIdentifier symID dirPortKey, .ok portIdentifier⟩])
      rw [hm, terminated_append] at hr
      exact hr

def Written (context : PublishContext) (isLocal : Bool) (h : History PubCall PubAnswer)
    (r : Except Failure PublishContext) : Prop :=
  ∀ context', r = .ok context' → identifiers h ≠ [] ∧ ∃ lunid,
    context' = context ++ contextEntries isLocal (terminated ',' (identifiers h)) lunid

theorem written_error {context : PublishContext} {isLocal : Bool} {failure : Failure} :
    Written context isLocal h (.error failure) := by
  intro context' heq
  cases heq

theorem finishPublishContext_safe (context : PublishContext) (isLocal : Bool) (lunid : String)
    (dirPorts : List String) (hn : identifiers h = []) :
    Safe (fun _ _ => True) (Written context isLocal) h
      (finishPublishContext context symID maskingViewID isLocal lunid dirPorts) := by
  have hl := portIdentifiersOf_safe (h := h) symID dirPorts
  rw [hn] at hl
  refine hl.bind ?_
  rintro h' text - rfl
  split
  case isTrue he => exact written_error
  case isFalse hs =>
    intro context' heq
    cases heq
    refine ⟨fun hnil => hs ?_, lunid, rfl⟩
    rw [hnil]
    rfl

theorem fetchConnections_other (rounds : Nat) :
    Calls PubCall.Other (fetchConnections symID maskingViewID devID reqID rounds) := by
  induction rounds with
  | zero => trivial
  | succ rounds ih =>
    refine ⟨trivial, ?_⟩
    rintro (lockErr | lockNum)
    · trivial
    refine ⟨trivial, fun answer => ⟨trivial, fun _ => ?_⟩⟩
    cases answer with
    | ok connections => trivial
    | error err => exact ih

theorem portsOfView_other (dirPorts : List String) :
    Calls PubCall.Other (portsOfView symID maskingViewID dirPorts) := by
  refine ⟨trivial, ?_⟩
  rintro (err | _ | view)
  · trivial
  · trivial
  refine ⟨trivial, ?_⟩
  rintro (err | ports)
  · trivial
  · exact Calls.ite trivial trivial

theorem updatePublishContext_safe (cfg : PublishConfig) (context : PublishContext)
    (connections : List MaskingViewConnection) (isLocal : Bool) :
    Safe (fun _ _ => True) (Written context isLocal) []
      (updatePublishContext cfg context symID maskingViewID devID reqID connections isLocal) := by
  have hf : Calls PubCall.Other (enoughConnections symID maskingViewID devID reqID connections) :=
    Calls.ite trivial (fetchConnections_other 2)
  refine (safe_of_other hf rfl).bind ?_
  rintro h (failure | connections) - hn
  · exact written_error
  simp only [pure_eq]
  split
  · exact written_error
  · split
    · exact finishPublishContext_safe context isLocal _ _ hn
    · split
      · refine (safe_of_other (portsOfView_other _) hn).bind ?_
        rintro h' (failure | ⟨lunid, dirPorts⟩) - hn'
        · exact written_error
        · exact finishPublishContext_safe context isLocal lunid dirPorts hn'
      · exact written_error

end

/-- **The targets of the node.**  It reads off the context the identifiers that the array gave for
the ports, in order, if none has a comma; no chunk is longer than 128 characters. -/
theorem targets_of_updatePublishContext (cfg : PublishConfig) (context : PublishContext)
    (symID maskingViewID devID reqID : String) (connections : List MaskingViewConnection)
    (isLocal : Bool) {h : History PubCall PubAnswer} {context' : PublishContext}
    (he : Exec (updatePublishContext cfg context symID maskingViewID devID reqID connections
      isLocal) h (.ok context'))
    (hp : ∀ id ∈ identifiers h, ',' ∉ id.toList) :
    splitTargets (targetIdentifiers isLocal context') = some (identifiers h) ∧
      ∃ n, contextValue context' (contextKey isLocal "PORT_IDENTIFIER_KEYS") = some (toString n) ∧
        ∀ i < n, ∃ text, contextValue context' (portIdentifierKey isLocal (i + 1)) = some text ∧
          len text ≤ maxPortIdentifierLength := by
  obtain ⟨hne, lunid, rfl⟩ := (updatePublishContext_safe cfg context connections isLocal).exec he
    context' rfl
  refine ⟨?_, _, contextValue_keyCount .., fun i hi => ⟨_, contextValue_chunk lunid hi, ?_⟩⟩
  · rw [targetIdentifiers_contextEntries]
    exact splitTargets_terminated hne hp
  · exact len_chunk_le ..

namespace ThreePorts

def iqn (port : String) : String := "iqn.1992-04.com.emc:600009700bcbb70e328701740000000" ++ port

def connections : List MaskingViewConnection :=
  [⟨"00B17", "1", "SE-1E:4"⟩, ⟨"00B17", "1", "SE-2E:4"⟩, ⟨"00B17", "1", "SE-3E:4"⟩]

def answered : History PubCall PubAnswer :=
  [⟨.getPortIdentifier "000197900046" "SE-1E:4", .ok (iqn "1")⟩,
    ⟨.getPortIdentifier "000197900046" "SE-2E:4", .ok (iqn "2")⟩,
    ⟨.getPortIdentifier "000197900046" "SE-3E:4", .ok (iqn "3")⟩]

def context : PublishContext :=
  [("DEVICE_WWN", "60000970000197900046533030423137")] ++
    contextEntries true (terminated ',' [iqn "1", iqn "2", iqn "3"]) "1"

theorem context_returned :
    Exec (updatePublishContext ⟨"ABC", "", "ISCSI", false, false, ""⟩
      [("DEVICE_WWN", "60000970000197900046533030423137")] "000197900046" "csi-mv-ABC-node1"
      "00B17" "1" connections true) answered (.ok context) :=
  exec_of_follow (by decide +kernel)

/-- The third identifier is cut in two: it begins in the first chunk and ends in the second. -/
theorem targets_found :
    contextValue context "PORT_IDENTIFIER_KEYS" = some "2" ∧
      splitTargets (targetIdentifiers true context) = some [iqn "1", iqn "2", iqn "3"] ∧
      ∃ n, contextValue context (contextKey true "PORT_IDENTIFIER_KEYS") = some (toString n) ∧
        ∀ i < n, ∃ text, contextValue context (portIdentifierKey true (i + 1)) = some text ∧
          len text ≤ maxPortIdentifierLength :=
  ⟨by decide +kernel,
    targets_of_updatePublishContext _ _ _ _ _ _ _ _ context_returned (by decide +kernel)⟩

end ThreePorts

end PowerMaxCsi.Service
