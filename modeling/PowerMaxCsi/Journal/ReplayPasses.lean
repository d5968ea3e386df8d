import PowerMaxCsi.Journal.ReconciliationSafety

/-!
# The passes of a replay

What the callback of `ReconcileDeferredOperations` gets, whatever is answered.  `retryLoop_safe` is
the rule for the two loops.
-/

namespace PowerMaxCsi.Journal

open Prog List Option

abbrev ReplayHistory := History ReconcileCall ReconcileAnswer

/-- A look at the context, or what the callback has returned for which operation. -/
abbrev Mark := Option (DeferredOperation × Option ReconcileError)

def mark : Entry ReconcileCall ReconcileAnswer → Option Mark
  | ⟨.ctxDone, _⟩ => some none
  | ⟨.reconcileFunc op, err⟩ => some (some (op, err))
  | _ => none

abbrev tokensOf (ops : List DeferredOperation) : List String := ops.map (·.idempotencyToken)

def marks (h : ReplayHistory) : List Mark := h.filterMap mark

@[simp] theorem marks_append (h t : ReplayHistory) : marks (h ++ t) = marks h ++ marks t :=
  filterMap_append

@[simp] theorem marks_ctxDone {done : Option String} : marks [⟨.ctxDone, done⟩] = [none] := rfl

def listed (h : ReplayHistory) : Option (List DeferredOperation) :=
  h.findSome? fun e => match e with
    | ⟨.journal (.list _), .ok resources⟩ => some (pendingOps resources)
    | _ => none

/-- Everything may be answered, but what is sorted is sorted, and the fuel is enough. -/
def Admits (fuel : Nat) : (c : ReconcileCall) → ReconcileAnswer c → Prop
  | .sort ops, sorted => maxReconciliationRetries * ops.length < fuel ∧ sorted.Perm ops ∧
      sorted.Pairwise fun op op' => op.submissionTime ≤ op'.submissionTime
  | _, _ => True

def Replays (fuel : Nat) (h : ReplayHistory) (c : ReconcileCall) (r : ReconcileAnswer c)
    (h' : ReplayHistory) : Prop :=
  Admits fuel c r ∧ h' = h ++ [⟨c, r⟩]

def JournalCall.returns : JournalCall → Prop
  | .loops => False
  | _ => True

/-- The calls that are allowed when the callback may only get what `P` says. -/
def Permits (P : ReplayHistory → DeferredOperation → Prop) (h : ReplayHistory) :
    ReconcileCall → Prop
  | .journal c => c.returns
  | .reconcileFunc op => P h op
  | _ => True

section

variable {fuel : Nat} {j : JournalConfig} {token : String} {op : DeferredOperation}
  {h h' : ReplayHistory} {P : ReplayHistory → DeferredOperation → Prop} {r : Replayed}

theorem updateOperation_calls {change : DeferredOperation → DeferredOperation} :
    Calls JournalCall.returns (updateOperation j token change) := by
  refine ⟨trivial, fun _ => ⟨trivial, fun operations => ?_⟩⟩
  simp only [ret_bind]
  split
  · exact ⟨trivial, fun _ => trivial⟩
  · refine ⟨trivial, fun _ => Calls.bind (p := crdUpdate j _) ?_ fun _ => ⟨trivial, fun _ => trivial⟩⟩
    refine Calls.bind (p := getPowerMaxResource j _) ?_ ?_
    · exact ⟨trivial, fun answer => by cases answer <;> trivial⟩
    · rintro (_ | _ | _)
      · trivial
      · trivial
      · refine ⟨trivial, ?_⟩
        rintro (_ | _)
        · trivial
        · exact ⟨trivial, fun answer => by cases answer <;> trivial⟩

theorem removeDeferredOperation_calls :
    Calls JournalCall.returns (removeDeferredOperation j token) := by
  refine ⟨trivial, fun _ => ⟨trivial, fun operations => ?_⟩⟩
  simp only [ret_bind]
  split
  · exact ⟨trivial, fun _ => trivial⟩
  · refine Calls.bind (Calls.bind ⟨trivial, fun answer => by cases answer <;> trivial⟩ ?_) ?_
    · rintro (_ | _ | _)
      · trivial
      · trivial
      · exact ⟨trivial, fun answer => by cases answer <;> trivial⟩
    · rintro (_ | _)
      · exact ⟨trivial, fun _ => ⟨trivial, fun _ => trivial⟩⟩
      · exact ⟨trivial, fun _ => trivial⟩

theorem journal_safe {α : Type} {p : JournalProg α} (hp : Calls JournalCall.returns p) :
    SafeIn (Replays fuel) (Permits P)
      (fun h' a => ∃ t, h' = h ++ t ∧ marks t = [] ∧ Exec (Rcl.journal p) t a) h
      (Rcl.journal p) := by
  induction p generalizing h with
  | ret a => exact ⟨[], by simp, rfl, .ret⟩
  | call c k ih =>
    refine ⟨hp.1, ?_⟩
    rintro r h₁ ⟨-, rfl⟩
    refine (ih r (hp.2 r)).mono ?_
    rintro h' a ⟨t, rfl, hm, he⟩
    exact ⟨⟨.journal c, r⟩ :: t, by simp, by simpa [marks, mark] using hm, .call he⟩

/-- After a nil of the callback, the operation could not be removed. -/
def RemovalFailed (j : JournalConfig) (h : ReplayHistory) : Prop :=
  ∃ op h₁ h₂ err, ⟨.reconcileFunc op, none⟩ :: h₁ ++ h₂ <:+ h ∧
    Exec (Rcl.journal (removeDeferredOperation j op.idempotencyToken)) h₁ (some err)

theorem RemovalFailed.of_grown (hf : RemovalFailed j h) (hh : h <+: h') : RemovalFailed j h' := by
  obtain ⟨op, h₁, h₂, err, ⟨h₀, rfl⟩, he⟩ := hf
  obtain ⟨t, rfl⟩ := hh
  exact ⟨op, h₁, h₂ ++ t, err, ⟨h₀, by simp⟩, he⟩

/-- What one operation of a pass can do, by what the callback returns. -/
inductive Tried (j : JournalConfig) (op : DeferredOperation) (h h' : ReplayHistory) :
    Replayed → Prop where
  | exhausted {err : ReconcileError} : marks h' = marks h →
      Tried j op h h' ⟨none, false, ⟨op.idempotencyToken, false, some err, false, true⟩⟩
  | cancelled {err : ReconcileError} : marks h' = marks h →
      Tried j op h h' ⟨some op, false, .failed op.idempotencyToken err⟩
  | unsafeState {err : ReconcileError} : op.retryCount < maxReconciliationRetries →
      err.isUnsafeRDFState = true → marks h' = marks h ++ [some (op, some err)] →
      Tried j op h h' ⟨none, false, ⟨op.idempotencyToken, false, some err, true, false⟩⟩
  | again {err : ReconcileError} : op.retryCount < maxReconciliationRetries →
      err.isUnsafeRDFState = false → marks h' = marks h ++ [some (op, some err)] →
      Tried j op h h' ⟨some { op with retryCount := op.retryCount + 1, lastError := err.text },
        true, .failed op.idempotencyToken err⟩
  | kept {err : String} : marks h' = marks h ++ [some (op, none)] → RemovalFailed j h' →
      Tried j op h h' ⟨some op, false, .failed op.idempotencyToken ⟨false, err⟩⟩
  | removed : marks h' = marks h ++ [some (op, none)] →
      Tried j op h h' ⟨none, false, ⟨op.idempotencyToken, true, none, false, false⟩⟩

theorem callReconcileFunc_safe {q : ReplayHistory} (hq : marks q = [])
    (hr : op.retryCount < maxReconciliationRetries) (hP : P (h ++ q) op) :
    SafeIn (Replays fuel) (Permits P) (fun h' r => h <+: h' ∧ Tried j op h h' r) (h ++ q)
      (callReconcileFunc j op) := by
  refine ⟨hP, ?_⟩
  rintro err h₁ ⟨-, rfl⟩
  have hm {t : ReplayHistory} (ht : marks t = []) :
      marks (h ++ q ++ [⟨.reconcileFunc op, err⟩] ++ t) = marks h ++ [some (op, err)] := by
    simp only [marks_append, hq, ht, append_nil]
    rfl
  have hg (t : ReplayHistory) : h <+: h ++ q ++ [⟨.reconcileFunc op, err⟩] ++ t := by
    rw [append_assoc, append_assoc]
    exact prefix_append _ _
  rcases err with _ | err
  · refine (journal_safe removeDeferredOperation_calls).bind ?_
    rintro _ (_ | err) ⟨t, rfl, ht, he⟩
    · exact ⟨hg t, .removed (hm ht)⟩
    · exact ⟨hg t, .kept (hm ht) ⟨op, t, [], err, ⟨h ++ q, by simp⟩, he⟩⟩
  · refine .ite (fun hu => ?_) fun hu => ?_
    · refine (journal_safe updateOperation_calls).bind ?_
      rintro _ _ ⟨t, rfl, ht, -⟩
      exact ⟨hg t, .unsafeState hr hu (hm ht)⟩
    · refine (journal_safe updateOperation_calls).bind ?_
      rintro _ _ ⟨t, rfl, ht, -⟩
      exact ⟨hg t, .again hr (by simpa using hu) (hm ht)⟩

theorem replay_safe (hP : op.retryCount < maxReconciliationRetries →
      ∀ q, marks q = [] → P (h ++ q) op) :
    SafeIn (Replays fuel) (Permits P) (fun h' r => h <+: h' ∧ Tried j op h h' r) h
      (replay j op) := by
  refine .ite (fun _ => ?_) fun hr => ?_
  · refine (journal_safe updateOperation_calls).bind ?_
    rintro _ _ ⟨t, rfl, ht, -⟩
    exact ⟨prefix_append _ _, .exhausted (by simp [ht])⟩
  · rw [not_le] at hr
    refine .ite (fun _ => ?_) fun _ => ?_
    · refine ⟨trivial, ?_⟩
      rintro base _ ⟨-, rfl⟩
      refine ⟨trivial, ?_⟩
      rintro done _ ⟨-, rfl⟩
      rw [append_assoc]
      rcases done with _ | err
      · exact callReconcileFunc_safe rfl hr (hP hr _ rfl)
      · exact ⟨prefix_append _ _, .cancelled (by simp [marks, mark])⟩
    · have hc : SafeIn (Replays fuel) (Permits P) _ (h ++ []) (callReconcileFunc j op) :=
        callReconcileFunc_safe rfl hr (hP hr [] rfl)
      rwa [append_nil] at hc

theorem Tried.tries (ht : Tried j op h h' r) :
    sumTriesLeft r.next.toList + r.retryNeeded.toNat ≤ triesLeft op := by
  cases ht <;> simp only [sumTriesLeft, triesLeft, Option.toList, map_cons, map_nil,
    sum_cons, sum_nil, Bool.toNat_true, Bool.toNat_false] <;> omega

end

section

variable {fuel : Nat} {j : JournalConfig} {P : ReplayHistory → DeferredOperation → Prop}
  {post : ReplayHistory → List ReconciliationResult → Prop}
  {I : ReplayHistory → List DeferredOperation → Pass → Prop} {h : ReplayHistory}

/-- What holds before the operations that are left of a pass. -/
structure LoopInvariant (j : JournalConfig) (P : ReplayHistory → DeferredOperation → Prop)
    (post : ReplayHistory → List ReconciliationResult → Prop)
    (I : ReplayHistory → List DeferredOperation → Pass → Prop) : Prop where
  permits {h op ops pass} : I h (op :: ops) pass → op.retryCount < maxReconciliationRetries →
    ∀ q, marks q = [] → P (h ++ q) op
  add {h h' op ops pass r} : I h (op :: ops) pass → h <+: h' → Tried j op h h' r →
    I h' ops (pass.add r)
  nextPass {h pass} : I h [] pass → pass.retryNeeded = true → ∀ done,
    I (h ++ [⟨.ctxDone, done⟩]) pass.nextPending ⟨[], false, pass.results⟩
  ended {h pass} : I h [] pass → pass.retryNeeded = false → post h pass.results
  empty {h results} : I (h ++ [⟨.ctxDone, none⟩]) [] ⟨[], false, results⟩ → post h results
  cancelled {h ops results} (err : ReconcileError) : I h ops ⟨[], false, results⟩ →
    post h (results ++ ops.map fun op => .failed op.idempotencyToken err)

theorem replayAll_safe (hI : LoopInvariant j P post I) {ops : List DeferredOperation} {pass : Pass}
    (hp : I h ops pass) :
    SafeIn (Replays fuel) (Permits P) (fun h' pass' => I h' [] pass' ∧
      sumTriesLeft pass'.nextPending + pass'.retryNeeded.toNat ≤
        sumTriesLeft (pass.nextPending ++ ops) + pass.retryNeeded.toNat) h
      (replayAll j ops pass) := by
  induction ops generalizing pass h with
  | nil => exact ⟨hp, by rw [append_nil]⟩
  | cons op ops ih =>
    refine (replay_safe (hI.permits hp)).bind fun h₁ r ⟨hg, htr⟩ => ?_
    refine (ih (hI.add hp hg htr)).mono fun h₂ pass' ⟨hp', ht'⟩ => ⟨hp', ?_⟩
    have ht := htr.tries
    have hf : (pass.retryNeeded || r.retryNeeded).toNat ≤
        pass.retryNeeded.toNat + r.retryNeeded.toNat := by
      cases pass.retryNeeded <;> cases r.retryNeeded <;> decide
    simp only [Pass.add, sumTriesLeft, map_append, sum_append, map_cons, sum_cons] at ht ht' ⊢
    omega

theorem retryLoop_safe (hI : LoopInvariant j P post I) {n : Nat}
    {pendingOps : List DeferredOperation} {results : List ReconciliationResult}
    (hs : ∀ done, I (h ++ [⟨.ctxDone, done⟩]) pendingOps ⟨[], false, results⟩)
    (hn : sumTriesLeft pendingOps < n) :
    SafeIn (Replays fuel) (Permits P) post h (retryLoop j n pendingOps results) := by
  induction n generalizing pendingOps results h with
  | zero => exact absurd hn (Nat.not_lt_zero _)
  | succ n ih =>
    refine .ite (fun hnil => ?_) fun _ => ?_
    · subst hnil
      exact hI.empty (hs none)
    · refine ⟨trivial, ?_⟩
      rintro (_ | err) _ ⟨-, rfl⟩
      · dsimp only
        refine (replayAll_safe hI (hs none)).bind ?_
        rintro h₁ pass ⟨hp, ht⟩
        refine .ite (fun hr => ?_) fun hr => ?_
        · refine ih (hI.nextPass hp hr) ?_
          simp only [hr, nil_append, Bool.toNat_true, Bool.toNat_false] at ht
          omega
        · exact hI.ended hp (by simpa using hr)
      · exact hI.cancelled ⟨false, err⟩ (hs (some err))

theorem reconcileDeferredOperations_safe {arrayID : String}
    {I : List DeferredOperation → ReplayHistory → List DeferredOperation → Pass → Prop}
    (he : ∀ h results, listed h = none → post h results)
    (hn : ∀ h, listed h = some [] → marks h = [] → post h [])
    (hI : ∀ ops, LoopInvariant j P post (I ops))
    (hs : ∀ h ops sorted done, listed h = some ops → marks h = [] →
      Admits fuel (.sort ops) sorted → I ops (h ++ [⟨.ctxDone, done⟩]) sorted ⟨[], false, []⟩) :
    SafeIn (Replays fuel) (Permits P) post [] (reconcileDeferredOperations j fuel arrayID) := by
  refine ⟨trivial, ?_⟩
  rintro (err | resources) _ ⟨-, rfl⟩
  · exact he _ _ rfl
  · refine .ite (fun hnil => hn _ (congrArg some hnil) rfl) fun _ => ?_
    refine ⟨trivial, ?_⟩
    rintro sorted _ ⟨ha, rfl⟩
    refine retryLoop_safe (hI _) (fun done => hs _ _ sorted done rfl rfl ha) ?_
    have hl := sumTriesLeft_le sorted
    rw [ha.2.1.length_eq] at hl
    exact lt_of_le_of_lt hl ha.1

end

/-! ## The replay ends, in order -/

section

variable {j : JournalConfig} {fuel : Nat} {op : DeferredOperation} {h h' : ReplayHistory}
  {ops : List DeferredOperation} {results : List ReconciliationResult}
  {ms : List Mark} {token : String} {r : Replayed}

/-- The operations that the callback has got since the context was looked at. -/
def inPass (ms : List Mark) : List DeferredOperation :=
  ms.foldl (fun ops m => match m with
    | none => []
    | some (op, _) => ops ++ [op]) []

@[simp] theorem inPass_ctxDone : inPass (ms ++ [none]) = [] := by
  simp [inPass]

@[simp] theorem inPass_callback {err : Option ReconcileError} :
    inPass (ms ++ [some (op, err)]) = inPass ms ++ [op] := by
  simp [inPass]

def failures (ms : List Mark) (token : String) : Nat :=
  ms.countP fun m => m.any fun x => x.1.idempotencyToken = token && x.2.isSome

/-- The tries that the operations with the token have left. -/
def triesOf (token : String) (ops : List DeferredOperation) : Nat :=
  sumTriesLeft (ops.filter (·.idempotencyToken = token))

@[simp] theorem triesOf_append {ops' : List DeferredOperation} :
    triesOf token (ops ++ ops') = triesOf token ops + triesOf token ops' := by
  simp [triesOf, sumTriesLeft]

structure InOrder (ops₀ : List DeferredOperation) (h : ReplayHistory)
    (ops : List DeferredOperation) (pass : Pass) : Prop where
  listed : listed h = some ops₀
  sorted : ((pass.nextPending ++ ops).map (·.submissionTime)).Pairwise (· ≤ ·)
  later : ∀ op ∈ inPass (marks h), ∀ op' ∈ ops, op.submissionTime ≤ op'.submissionTime
  tries : ∀ token, failures (marks h) token + triesOf token (pass.nextPending ++ ops) ≤
    maxReconciliationRetries * ops₀.countP (·.idempotencyToken = token)

theorem Tried.failures (ht : Tried j op h h' r) (token : String) :
    failures (marks h') token + triesOf token r.next.toList ≤
      failures (marks h) token + triesOf token [op] := by
  by_cases hid : op.idempotencyToken = token <;>
    cases ht <;> rename_i hm <;> simp [*, Journal.failures, triesOf, sumTriesLeft, triesLeft] <;>
    omega

theorem Tried.inPass (ht : Tried j op h h' r) {op' : DeferredOperation}
    (hop : op' ∈ inPass (marks h')) : op' ∈ inPass (marks h) ∨ op' = op := by
  cases ht <;> simp_all

theorem listed_of_grown (hl : Journal.listed h = some ops) (hh : h <+: h') :
    Journal.listed h' = some ops := by
  obtain ⟨t, rfl⟩ := hh
  rw [Journal.listed, List.findSome?_append] at *
  rw [hl, some_or]

theorem Tried.sublist {β : Type} {f : DeferredOperation → β}
    (hf : ∀ op n e, f { op with retryCount := n, lastError := e } = f op) (ht : Tried j op h h' r)
    {pass : Pass} :
    (((pass.add r).nextPending ++ ops).map f).Sublist ((pass.nextPending ++ op :: ops).map f) := by
  cases ht <;> simp [Pass.add, hf]

/-- The callback has got nothing in this pass that was submitted later, nor failed too often. -/
def Timely (h : ReplayHistory) (op : DeferredOperation) : Prop :=
  (∀ op' ∈ inPass (marks h), op'.submissionTime ≤ op.submissionTime) ∧
    ∀ ops, listed h = some ops → failures (marks h) op.idempotencyToken <
      maxReconciliationRetries * ops.countP (·.idempotencyToken = op.idempotencyToken)

theorem inOrder_invariant (ops₀ : List DeferredOperation) :
    LoopInvariant j Timely (fun _ _ => True) (InOrder ops₀) where
  permits {h op ops pass} hI hr q hq := by
    have hm : marks (h ++ q) = marks h := by simp [hq]
    refine ⟨fun op' hop => hI.later op' (hm ▸ hop) op (mem_cons_self ..), fun ops hl => ?_⟩
    obtain rfl := some.inj (hl.symm.trans (listed_of_grown hI.listed (prefix_append _ _)))
    have ht := hI.tries op.idempotencyToken
    rw [triesOf_append, ← singleton_append, triesOf_append] at ht
    have hop : 0 < triesOf op.idempotencyToken [op] := by
      simp [triesOf, sumTriesLeft, triesLeft]
      omega
    rw [hm]
    omega
  add {h h' op ops pass r} hI hh ht := by
    refine ⟨listed_of_grown hI.listed hh, hI.sorted.sublist (ht.sublist fun _ _ _ => rfl), ?_, ?_⟩
    · intro op' hop op'' hop'
      rcases ht.inPass hop with hop | rfl
      · exact hI.later op' hop op'' (mem_cons_of_mem _ hop')
      · have hs := hI.sorted
        rw [map_append, pairwise_append, map_cons, pairwise_cons] at hs
        exact hs.2.1.1 _ (mem_map_of_mem hop')
    · intro token
      have hf := ht.failures token
      have ht := hI.tries token
      rw [triesOf_append, ← singleton_append, triesOf_append] at ht
      simp only [Pass.add, triesOf_append]
      omega
  nextPass {h pass} hI _ done := by
    refine ⟨listed_of_grown hI.listed (prefix_append _ _), ?_, by simp, fun token => ?_⟩
    · have hs := hI.sorted
      rwa [append_nil] at hs
    · have ht := hI.tries token
      simpa [Journal.failures] using ht
  ended _ _ := trivial
  empty _ := trivial
  cancelled _ _ := trivial

/-- A replay never runs out of fuel.  In each pass the callback gets the operations in the order of
their submission, and it fails at most ten times for each. -/
theorem replay_ends_in_order (j : JournalConfig) (fuel : Nat) (arrayID : String)
    (h : ReplayHistory) (c : ReconcileCall)
    (hc : CanIssue (Replays fuel) [] (reconcileDeferredOperations j fuel arrayID) h c) :
    c ≠ .journal .loops ∧ ∀ op, c = .reconcileFunc op → Timely h op := by
  have hsa : SafeIn (Replays fuel) (Permits Timely) (fun _ _ => True) []
      (reconcileDeferredOperations j fuel arrayID) := by
    refine reconcileDeferredOperations_safe (fun _ _ _ => trivial) (fun _ _ _ => trivial)
      inOrder_invariant fun h ops sorted done hl hm ⟨_, hp, hs⟩ => ?_
    refine ⟨listed_of_grown hl (prefix_append _ _), ?_, by simp, ?_⟩
    · exact pairwise_map.mpr hs
    · intro token
      have ht := sumTriesLeft_le (sorted.filter (·.idempotencyToken = token))
      rw [← countP_eq_length_filter, hp.countP_eq] at ht
      simpa [hm, Journal.failures, triesOf] using ht
  have hpe := hsa.canIssue hc
  refine ⟨?_, ?_⟩
  · rintro rfl
    exact hpe
  · rintro op rfl
    exact hpe

section

variable {α : Type} {p : ReconcileProg α} (hh : ∀ e ∈ h, Admits fuel e.1 e.2)

include hh

theorem consistent_replays (h₀ : ReplayHistory) : Consistent (Replays fuel) h₀ h (h₀ ++ h) := by
  induction h generalizing h₀ with
  | nil => simpa using Consistent.nil
  | cons e h ih =>
    rw [forall_mem_cons] at hh
    refine .cons ⟨hh.1, rfl⟩ ?_
    simpa using ih hh.2 (h₀ ++ [e])

theorem canIssue_of_follow {c : ReconcileCall} (hn : (p.follow h).bind next = some c) :
    CanIssue (Replays fuel) [] p h c :=
  ⟨h, consistent_replays hh [], issues_of_follow hn⟩

theorem canReturn_of_follow {a : α} (hr : (p.follow h).bind result = some a) :
    CanReturn (Replays fuel) [] p h a :=
  ⟨h, consistent_replays hh [], exec_of_follow hr⟩

end

def laterOp : DeferredOperation := { cleanupOp with idempotencyToken := "u", submissionTime := 1 }

def timeout : ReconcileError := ⟨false, "timeout"⟩

def retriedOp : DeferredOperation := { cleanupOp with retryCount := 1, lastError := "timeout" }

def begins (ops : List DeferredOperation) : ReplayHistory :=
  [⟨.journal (.list ⟨"csi-powermax", "", "000120000548"⟩), .ok (ops.map crdOpToUnstructured)⟩,
    ⟨.sort ops, ops⟩, ⟨.ctxDone, none⟩]

/-- The operation is completed and removed. -/
def completes (op : DeferredOperation) : ReplayHistory :=
  [⟨.reconcileFunc op, none⟩, ⟨.journal (.lock 0), ()⟩, ⟨.journal (.operations 0), [op]⟩,
    ⟨.journal (.get op.idempotencyToken), .ok (crdOpToUnstructured op)⟩,
    ⟨.journal (.delete op.idempotencyToken), .ok ()⟩, ⟨.journal (.setOperations 0 []), ()⟩,
    ⟨.journal (.unlock 0 none), ()⟩]

/-- What the callback returns cannot be recorded, as the slice does not have the operation. -/
def unrecorded (op : DeferredOperation) (err : Option ReconcileError) : ReplayHistory :=
  [⟨.reconcileFunc op, err⟩, ⟨.journal (.lock 0), ()⟩, ⟨.journal (.operations 0), []⟩,
    ⟨.journal (.unlock 0 none), ()⟩]

def secondPass : ReplayHistory :=
  [⟨.ctxDone, none⟩, ⟨.getReconciliationBackoff, 0⟩, ⟨.after 0, none⟩]

/-- The first of two operations fails, and comes again in the second pass. -/
theorem replay_ends_in_order_retriedOp : ∃ h,
    CanIssue (Replays 21) [] (reconcileDeferredOperations podJournal 21 "000120000548") h
      (.reconcileFunc retriedOp) ∧ Timely h retriedOp := by
  have hc : CanIssue (Replays 21) [] (reconcileDeferredOperations podJournal 21 "000120000548")
      (begins [cleanupOp, laterOp] ++ unrecorded cleanupOp timeout ++ completes laterOp ++ secondPass)
      (.reconcileFunc retriedOp) := by
    refine canIssue_of_follow ?_ (by decide +kernel)
    simp [begins, unrecorded, completes, secondPass, Admits, cleanupOp, laterOp,
      maxReconciliationRetries]
  exact ⟨_, hc, (replay_ends_in_order _ _ _ _ _ hc).2 retriedOp rfl⟩

/-! ## What is completed is not replayed -/

theorem Tried.completed (ht : Tried j op h h' r) {op' : DeferredOperation}
    (hop : some (op', none) ∈ marks h') :
    some (op', none) ∈ marks h ∨ op' = op ∧ (r.next = none ∨ RemovalFailed j h') := by
  cases ht <;> simp_all

def Uncompleted (j : JournalConfig) (ops₀ : List DeferredOperation) (h : ReplayHistory)
    (ops : List DeferredOperation) (pass : Pass) : Prop :=
  listed h = some ops₀ ∧ ((tokensOf ops₀).Nodup → ¬ RemovalFailed j h →
    (tokensOf (pass.nextPending ++ ops)).Nodup ∧
    ∀ op, some (op, none) ∈ marks h → op.idempotencyToken ∉ tokensOf (pass.nextPending ++ ops))

def NotAgain (j : JournalConfig) (h : ReplayHistory) (op : DeferredOperation) : Prop :=
  (∀ ops, listed h = some ops → (tokensOf ops).Nodup) → ¬ RemovalFailed j h →
    ∀ op', some (op', none) ∈ marks h → op'.idempotencyToken ≠ op.idempotencyToken

theorem uncompleted_invariant (ops₀ : List DeferredOperation) :
    LoopInvariant j (NotAgain j) (fun _ _ => True) (Uncompleted j ops₀) where
  permits {h op ops pass} hI _ q hq hn hr op' hop heq := by
    have hm : marks (h ++ q) = marks h := by simp [hq]
    have hh : h <+: h ++ q := prefix_append _ _
    refine (hI.2 (hn _ (listed_of_grown hI.1 hh)) fun hf => hr (hf.of_grown hh)).2 op' (hm ▸ hop) ?_
    simp [heq]
  add {h h' op ops pass r} hI hh ht := by
    refine ⟨listed_of_grown hI.1 hh, fun hn hr => ?_⟩
    obtain ⟨hd, hl⟩ := hI.2 hn fun hf => hr (hf.of_grown hh)
    have hs : (tokensOf ((pass.add r).nextPending ++ ops)).Sublist
        (tokensOf (pass.nextPending ++ op :: ops)) := ht.sublist fun _ _ _ => rfl
    refine ⟨hd.sublist hs, fun op' hop => ?_⟩
    rcases ht.completed hop with hop | ⟨rfl, hne | hf⟩
    · exact fun hmem => hl op' hop (hs.subset hmem)
    · rw [tokensOf, map_append, map_cons, nodup_middle, nodup_cons] at hd
      simpa [Pass.add, hne] using hd.1
    · exact absurd hf hr
  nextPass {h pass} hI _ done := by
    have hh : h <+: h ++ [⟨.ctxDone, done⟩] := prefix_append _ _
    refine ⟨listed_of_grown hI.1 hh, fun hn hr => ?_⟩
    simpa using hI.2 hn fun hf => hr (hf.of_grown hh)
  ended _ _ := trivial
  empty _ := trivial
  cancelled _ _ := trivial

/-- If all completed operations can be removed, the callback never gets one again for which it has
returned nil. -/
theorem never_again_after_nil (j : JournalConfig) (fuel : Nat) (arrayID : String)
    (h : ReplayHistory) (op op' : DeferredOperation)
    (hc : CanIssue (Replays fuel) [] (reconcileDeferredOperations j fuel arrayID) h
      (.reconcileFunc op))
    (hn : ∀ ops, listed h = some ops → (tokensOf ops).Nodup)
    (hr : ¬ RemovalFailed j h) (hop : some (op', none) ∈ marks h) :
    op'.idempotencyToken ≠ op.idempotencyToken := by
  have hs : SafeIn (Replays fuel) (Permits (NotAgain j)) (fun _ _ => True) []
      (reconcileDeferredOperations j fuel arrayID) := by
    refine reconcileDeferredOperations_safe (fun _ _ _ => trivial) (fun _ _ _ => trivial)
      uncompleted_invariant fun h ops sorted done hl hm ⟨_, hp, _⟩ => ?_
    refine ⟨listed_of_grown hl (prefix_append _ _), fun hn _ => ⟨?_, by simp [hm]⟩⟩
    exact (hp.map _).nodup_iff.mpr hn
  exact hs.canIssue hc hn hr op' hop

/-- The first operation is completed and removed, and the second comes. -/
theorem never_again_after_nil_laterOp : ∃ h,
    CanIssue (Replays 21) [] (reconcileDeferredOperations podJournal 21 "000120000548") h
      (.reconcileFunc laterOp) ∧ some (cleanupOp, none) ∈ marks h ∧
      cleanupOp.idempotencyToken ≠ laterOp.idempotencyToken := by
  have hc : CanIssue (Replays 21) [] (reconcileDeferredOperations podJournal 21 "000120000548")
      (begins [cleanupOp, laterOp] ++ completes cleanupOp) (.reconcileFunc laterOp) := by
    refine canIssue_of_follow ?_ (by decide +kernel)
    simp [begins, completes, Admits, cleanupOp, laterOp, maxReconciliationRetries]
  have hm : some (cleanupOp, none) ∈ marks (begins [cleanupOp, laterOp] ++ completes cleanupOp) := by
    simp [begins, completes, marks, mark]
  refine ⟨_, hc, hm, never_again_after_nil _ _ _ _ _ _ hc ?_ ?_ hm⟩
  · rintro ops ⟨⟩
    decide
  · rintro ⟨op, h₁, h₂, err, hs, he⟩
    simp [begins, completes, suffix_cons_iff] at hs
    obtain ⟨rfl, hs⟩ := hs
    have hno : some err = none := he.eq_of_append
      (by exact .call <| .call <| .call <| .call <| .call <| .call .ret)
      (hs.trans (append_nil _).symm)
    cases hno

/-- The removal of the first operation fails, and the second asks for another pass. -/
theorem again_after_nil : ¬ ∀ j fuel arrayID h op op',
    CanIssue (Replays fuel) [] (reconcileDeferredOperations j fuel arrayID) h (.reconcileFunc op) →
    (∀ ops, listed h = some ops → (tokensOf ops).Nodup) →
    some (op', none) ∈ marks h → op'.idempotencyToken ≠ op.idempotencyToken := by
  intro ha
  have hc : CanIssue (Replays 21) [] (reconcileDeferredOperations podJournal 21 "000120000548")
      (begins [cleanupOp, laterOp] ++ unrecorded cleanupOp none ++ unrecorded laterOp timeout ++
        [⟨.ctxDone, none⟩]) (.reconcileFunc cleanupOp) := by
    refine canIssue_of_follow ?_ (by decide +kernel)
    simp [begins, unrecorded, Admits, cleanupOp, laterOp, maxReconciliationRetries]
  refine ha _ _ _ _ _ cleanupOp hc ?_ ?_ rfl
  · rintro ops ⟨⟩
    decide
  · simp [begins, unrecorded, marks, mark]

/-- `failed + unsafeCount + maxRetryCount` of `triggerReconciliation`; a failure if positive. -/
def notSucceeded (results : List ReconciliationResult) : Nat :=
  results.countP fun result => !result.success

/-- The operation is reported as completed, which nothing follows. -/
def Reconciled (results : List ReconciliationResult) (token : String) : Prop :=
  ∃ result ∈ results, result.token = token ∧ result.success = true

/-- One result for each operation, and a failure exactly if one has not been reconciled. -/
def OneResultEach (ops : List DeferredOperation) (results : List ReconciliationResult) : Prop :=
  (results.map (·.token)).Perm (tokensOf ops) ∧
    (0 < notSucceeded results ↔ ∃ op ∈ ops, ¬ Reconciled results op.idempotencyToken)

theorem oneResultEach_of_perm (hn : (tokensOf ops).Nodup)
    (hp : (results.map (·.token)).Perm (tokensOf ops)) : OneResultEach ops results := by
  refine ⟨hp, ?_⟩
  rw [notSucceeded, countP_pos_iff]
  constructor
  · rintro ⟨result, hmem, hr⟩
    obtain ⟨op, hop, heq⟩ := List.mem_map.mp (hp.subset (mem_map_of_mem hmem))
    refine ⟨op, hop, fun ⟨result', hmem', ht, hs⟩ => ?_⟩
    obtain rfl := inj_on_of_nodup_map (hp.nodup_iff.mpr hn) hmem hmem' (heq.symm.trans ht.symm)
    simp [hs] at hr
  · rintro ⟨op, hop, hr⟩
    obtain ⟨result, hmem, ht⟩ := List.mem_map.mp (hp.symm.subset (mem_map_of_mem hop))
    exact ⟨result, hmem, by simpa using fun hs => hr ⟨result, hmem, ht, hs⟩⟩

def Retried (ms : List Mark) : Prop :=
  ∃ op err, some (op, some err) ∈ ms ∧ err.isUnsafeRDFState = false

theorem Tried.retried (ht : Tried j op h h' r) :
    Retried (marks h') ↔ Retried (marks h) ∨ r.retryNeeded = true := by
  cases ht <;> simp_all [Retried, or_and_right, exists_or]

theorem Tried.result (ht : Tried j op h h' r) : r.result.token = op.idempotencyToken ∧
    (r.retryNeeded = true → tokensOf r.next.toList = [op.idempotencyToken]) := by
  cases ht <;> simp [ReconciliationResult.failed]

def due (ops : List DeferredOperation) (pass : Pass) : List String :=
  pass.results.map (·.token) ++ tokensOf ops ++
    if pass.retryNeeded then tokensOf pass.nextPending else []

/-- One result is due for each operation, until one is tried again. -/
def DueOnce (ops₀ : List DeferredOperation) (h : ReplayHistory) (ops : List DeferredOperation)
    (pass : Pass) : Prop :=
  listed h = some ops₀ ∧
  (¬ Retried (marks h) → pass.retryNeeded = false ∧ (due ops pass).Perm (tokensOf ops₀)) ∧
  (Retried (marks h) → ∃ token, 2 ≤ (due ops pass).count token)

def Reports (h : ReplayHistory) (results : List ReconciliationResult) : Prop :=
  ∀ ops, listed h = some ops → (tokensOf ops).Nodup →
    (OneResultEach ops results ↔ ¬ Retried (marks h))

theorem DueOnce.reports {ops₀ : List DeferredOperation} {pass : Pass}
    (hI : DueOnce ops₀ h ops pass) (hd : due ops pass = results.map (·.token)) :
    Reports h results := by
  intro ops' hl hn
  obtain rfl := some.inj (hl.symm.trans hI.1)
  rw [DueOnce, hd] at hI
  constructor
  · rintro ⟨hp, -⟩ hr
    obtain ⟨token, ht⟩ := hI.2.2 hr
    rw [hp.count_eq] at ht
    have := nodup_iff_count_le_one.mp hn token
    omega
  · exact fun hr => oneResultEach_of_perm hn (hI.2.1 hr).2

theorem dueOnce_invariant (ops₀ : List DeferredOperation) :
    LoopInvariant j (fun _ _ => True) Reports (DueOnce ops₀) where
  permits _ _ _ _ := trivial
  add {h h' op ops pass r} hI hh ht := by
    refine ⟨listed_of_grown hI.1 hh, fun hr => ?_, fun hr => ?_⟩
    · rw [ht.retried, not_or] at hr
      obtain ⟨hf, hp⟩ := hI.2.1 hr.1
      simpa [Pass.add, due, hf, hr.2, ht.result.1] using hp
    · cases hn : r.retryNeeded with
      | true =>
        refine ⟨op.idempotencyToken, ?_⟩
        simp [Pass.add, due, hn, ht.result.1, ht.result.2 hn]
        omega
      | false =>
        obtain ⟨token, hc⟩ := hI.2.2 ((ht.retried.mp hr).resolve_right (by simp [hn]))
        refine ⟨token, hc.trans ?_⟩
        simp only [due, Pass.add, hn, Bool.or_false]
        split <;> simp [ht.result.1, count_cons]
  nextPass {h pass} hI hr done := by
    refine ⟨listed_of_grown hI.1 (prefix_append _ _), fun hn => ?_, fun hn => ?_⟩
    · have hf := (hI.2.1 (by simpa [Retried] using hn)).1
      simp [hr] at hf
    · simpa [due, hr] using hI.2.2 (by simpa [Retried] using hn)
  ended hI hr := hI.reports (by simp [due, hr])
  empty {h results} hI ops hl hn := by
    have hr : Reports _ results := hI.reports (by simp [due])
    simpa [Retried] using hr ops (listed_of_grown hl (prefix_append _ _)) hn
  cancelled err hI := hI.reports (by simp [due, ReconciliationResult.failed])

/-- There is one result for each operation exactly if the callback has not failed in a way that asks
for another try. -/
theorem oneResultEach_iff (j : JournalConfig) (fuel : Nat) (arrayID : String) (h : ReplayHistory)
    (ops : List DeferredOperation) (results : List ReconciliationResult)
    (hc : CanReturn (Replays fuel) [] (reconcileDeferredOperations j fuel arrayID) h results)
    (hl : listed h = some ops) (hn : (tokensOf ops).Nodup) :
    OneResultEach ops results ↔
      ∀ op err, some (op, some err) ∈ marks h → err.isUnsafeRDFState = true := by
  have hs : SafeIn (Replays fuel) (Permits fun _ _ => True) Reports []
      (reconcileDeferredOperations j fuel arrayID) := by
    refine reconcileDeferredOperations_safe (fun _ _ hno ops hl => ?_) (fun h hl hm ops hl' _ => ?_)
      dueOnce_invariant fun h ops sorted done hl hm ⟨_, hp, _⟩ => ?_
    · cases hno.symm.trans hl
    · obtain rfl := some.inj (hl.symm.trans hl')
      refine iff_of_true (oneResultEach_of_perm nodup_nil (Perm.refl _)) ?_
      simp [Retried, hm]
    · refine ⟨listed_of_grown hl (prefix_append _ _), fun _ => ⟨rfl, ?_⟩, ?_⟩
      · simpa [due] using hp.map _
      · simp [Retried, hm]
  refine (hs.canReturn hc ops hl hn).trans ?_
  simp [Retried]

def unsafeState : ReconcileError := ⟨true, "unsafe RDF state"⟩

/-- One operation is completed, and the other one ended by its state. -/
theorem oneResultEach_two : OneResultEach [cleanupOp, laterOp]
    [⟨"t", true, none, false, false⟩, ⟨"u", false, some unsafeState, true, false⟩] := by
  have hc : CanReturn (Replays 21) [] (reconcileDeferredOperations podJournal 21 "000120000548")
      (begins [cleanupOp, laterOp] ++ completes cleanupOp ++ unrecorded laterOp unsafeState)
      [⟨"t", true, none, false, false⟩, ⟨"u", false, some unsafeState, true, false⟩] := by
    refine canReturn_of_follow ?_ (by decide +kernel)
    simp [begins, completes, unrecorded, Admits, cleanupOp, laterOp, maxReconciliationRetries]
  refine (oneResultEach_iff _ _ _ _ [cleanupOp, laterOp] _ hc rfl (by decide)).mpr ?_
  simp [begins, completes, unrecorded, marks, mark, unsafeState]

/-- The callback fails once: a failure and a success are among the results. -/
theorem two_results : ¬ ∀ j fuel arrayID h ops results,
    CanReturn (Replays fuel) [] (reconcileDeferredOperations j fuel arrayID) h results →
    listed h = some ops → (tokensOf ops).Nodup → OneResultEach ops results := by
  intro ha
  have hc : CanReturn (Replays 11) [] (reconcileDeferredOperations podJournal 11 "000120000548")
      (begins [cleanupOp] ++ unrecorded cleanupOp timeout ++ secondPass ++ completes retriedOp)
      [.failed "t" timeout, ⟨"t", true, none, false, false⟩] := by
    refine canReturn_of_follow ?_ (by decide +kernel)
    simp [begins, unrecorded, secondPass, completes, Admits, maxReconciliationRetries]
  have hp := (ha _ _ _ _ [cleanupOp] _ hc rfl (nodup_singleton _)).1
  exact absurd hp.length_eq (by decide)

end
end PowerMaxCsi.Journal
