import Mathlib.Algebra.GroupWithZero.Nat
import Mathlib.Data.Set.Basic
import PowerMaxCsi.Journal.Reconciliation
import PowerMaxCsi.Journal.SingleReplica

/-!
# What a replay leaves in the cluster

`ReconcileDeferredOperations` reads the operations from the cluster, but removes and ends them by
the slice of the replica.  The sum of the tries that are left is the fuel of the retry loop.
-/

namespace PowerMaxCsi.Journal

open Prog List Option Nat Bool

/-! ## The world of a replay -/

@[ext] structure ReplayWorld where
  cluster : Cluster
  replayed : List (String × Option ReconcileError)

/-- The context is not cancelled, the cluster answers, and the callback returns what it likes. -/
def ReplayWorld.answers (w : ReplayWorld) :
    (c : ReconcileCall) → ReconcileAnswer c → ReplayWorld → Prop
  | .journal c, answer, w' => Serves 0 w.cluster c answer w'.cluster ∧ w'.replayed = w.replayed
  | .sort ops, sorted, w' =>
    (sorted.Perm ops ∧ sorted.Pairwise fun op op' => op.submissionTime ≤ op'.submissionTime) ∧
      w' = w
  | .ctxDone, done, w' => done = none ∧ w' = w
  | .getReconciliationBackoff, _, w' => w' = w
  | .after _, done, w' => done = none ∧ w' = w
  | .reconcileFunc op, err, w' =>
    w' = { w with replayed := w.replayed ++ [(op.idempotencyToken, err)] }

open ReplayWorld

theorem journal_returns {α : Type} {post : Cluster → α → Prop} {p : JournalProg α}
    {w : ReplayWorld} {cluster : Cluster} (hc : w.cluster = cluster)
    (hp : Returns (Serves 0) post cluster p) :
    Returns answers (fun w' a => post w'.cluster a ∧ w'.replayed = w.replayed) w
      (Rcl.journal p) := by
  subst hc
  refine Returns.through cluster replayed ?_ ?_ hp
  · intro w c answer w₁ hs
    exact ⟨answer, ⟨w₁, w.replayed⟩, hs, rfl⟩
  · intro w c answer w' ha
    exact ha

/-! ## What is to be done for an operation -/

inductive Conclusion where
  | completed
  /-- The callback found an unsafe state, or the operation was tried too often. -/
  | terminal
deriving DecidableEq, Repr

/-- The replay of the operation has ended, and how. -/
def Concluded (replayed : List (String × Option ReconcileError))
    (results : List ReconciliationResult) (token : String) : Conclusion → Prop
  | .completed => (token, none) ∈ replayed
  | .terminal => (∃ err, err.isUnsafeRDFState = true ∧ (token, some err) ∈ replayed) ∨
      ∃ result ∈ results, result.token = token ∧ result.maxRetries = true

def Done (store : Store) (token : String) : Conclusion → Prop
  | .completed => ∀ resource ∈ store, resource.name ≠ token
  | .terminal => ∃ resource ∈ store, resource.name = token ∧ resource.op.status = .terminal

def Settled (w : ReplayWorld) (results : List ReconciliationResult) : Prop :=
  ∀ token how, Concluded w.replayed results token how → Done w.cluster.store token how

theorem Edit.done {r : Nat} {token token' : String} {w w' : Cluster} (h : Edit r token w w')
    (hne : token' ≠ token) {how : Conclusion} (hd : Done w.store token' how) :
    Done w'.store token' how := by
  cases how with
  | completed =>
    rintro resource hmem rfl
    exact hd resource ((h.others resource hne).mp hmem) rfl
  | terminal =>
    obtain ⟨resource, hmem, rfl, hs⟩ := hd
    exact ⟨resource, (h.others resource hne).mpr hmem, rfl, hs⟩

section

variable (j : JournalConfig) (start : Store) (known : String → Prop)
  (listed : List DeferredOperation)

/-- A replay in which the tokens in `todo` may still be replayed; for those not in the slice the
cluster is as at the start. -/
structure Progress (todo : Set String) (results : List ReconciliationResult) (w : ReplayWorld) :
    Prop where
  free : (w.cluster.replicas j.replica).mutex = none
  owned : ∀ token ∈ todo, ∃ resource ∈ w.cluster.store, resource.name = token ∧
    ownsResource j resource = true
  slice : ∀ token ∈ todo, w.cluster.InSlice j.replica token ↔ known token
  kept : ∀ resource ∈ start, ¬ known resource.name → resource ∈ w.cluster.store
  done : ∀ token how, Concluded w.replayed results token how → known token →
    Done w.cluster.store token how ∧ token ∉ todo
  todo_listed : ∀ token ∈ todo, token ∈ listed.map (·.idempotencyToken)
  concluded_listed : ∀ token how, Concluded w.replayed results token how →
    token ∈ listed.map (·.idempotencyToken)
  all : ∀ op ∈ listed, op.idempotencyToken ∈ todo ∨
    ∃ how, Concluded w.replayed results op.idempotencyToken how

variable {j start known listed} {todo todo' : Set String} {token : String}
  {results results' : List ReconciliationResult} {w w' : ReplayWorld}

theorem Progress.edit (h : Progress j start known listed todo results w) (hto : token ∈ todo)
    (he : Edit j.replica token w.cluster w'.cluster)
    (ht : ∀ token', token' ≠ token → (token' ∈ todo' ↔ token' ∈ todo))
    (ha : token ∈ todo' → (∃ resource ∈ w'.cluster.store, resource.name = token ∧
      ownsResource j resource = true) ∧
      (w'.cluster.InSlice j.replica token ↔ w.cluster.InSlice j.replica token))
    (hold : ∀ token' how, Concluded w.replayed results token' how →
      Concluded w'.replayed results' token' how)
    (hnew : ∀ token' how, Concluded w'.replayed results' token' how →
      Concluded w.replayed results token' how ∨ token' = token ∧
        (known token → Done w'.cluster.store token how ∧ token ∉ todo'))
    (hen : token ∉ todo' → ∃ how, Concluded w'.replayed results' token how) :
    Progress j start known listed todo' results' w' where
  free := he.free
  owned token' ht' := by
    by_cases hne : token' = token
    · subst hne
      exact (ha ht').1
    · obtain ⟨resource, hmem, rfl, ho⟩ := h.owned token' ((ht token' hne).mp ht')
      exact ⟨resource, (he.others resource hne).mpr hmem, rfl, ho⟩
  slice token' ht' := by
    by_cases hne : token' = token
    · subst hne
      exact (ha ht').2.trans (h.slice token' hto)
    · exact (he.slice token' hne).trans (h.slice token' ((ht token' hne).mp ht'))
  kept resource hmem hu := by
    have hke := h.kept resource hmem hu
    by_cases hne : resource.name = token
    · have hs := mt (h.slice token hto).mp (hne ▸ hu)
      rwa [(he.unknown hs).1]
    · exact (he.others resource hne).mpr hke
  done token' how hc hk := by
    rcases hnew token' how hc with hc | ⟨rfl, hd⟩
    · obtain ⟨hd, hn⟩ := h.done token' how hc hk
      have hne : token' ≠ token := fun heq => hn (heq ▸ hto)
      exact ⟨he.done hne hd, fun hin => hn ((ht token' hne).mp hin)⟩
    · exact hd hk
  todo_listed token' ht' := by
    by_cases hne : token' = token
    · exact h.todo_listed token' (hne ▸ hto)
    · exact h.todo_listed token' ((ht token' hne).mp ht')
  concluded_listed token' how hc := by
    rcases hnew token' how hc with hc | ⟨rfl, -⟩
    · exact h.concluded_listed token' how hc
    · exact h.todo_listed token' hto
  all op hop := by
    rcases h.all op hop with hin | ⟨how, hc⟩
    · by_cases hne : op.idempotencyToken = token
      · by_cases hin' : token ∈ todo'
        · exact .inl (hne ▸ hin')
        · exact .inr (hne ▸ hen hin')
      · exact .inl ((ht _ hne).mpr hin)
    · exact .inr ⟨how, hold _ how hc⟩

def conclusion : Option ReconcileError → Option Conclusion
  | none => some .completed
  | some err => if err.isUnsafeRDFState then some .terminal else none

variable {result : ReconciliationResult}
  {replayed : List (String × Option ReconcileError)} {token' : String} {how : Conclusion}

theorem concluded_snoc {err : Option ReconcileError} (hm : result.maxRetries = false) :
    Concluded (replayed ++ [(token, err)]) (results ++ [result]) token' how ↔
      Concluded replayed results token' how ∨ token' = token ∧ conclusion err = some how := by
  cases how with
  | completed => rcases err with _ | err <;> simp [Concluded, conclusion]
  | terminal =>
    simp only [Concluded, mem_append, mem_singleton, Prod.mk.injEq]
    constructor
    · rintro (⟨e, he, hmem | ⟨rfl, rfl⟩⟩ | ⟨result', hmem | rfl, hr⟩)
      · exact .inl (.inl ⟨e, he, hmem⟩)
      · exact .inr ⟨rfl, if_pos he⟩
      · exact .inl (.inr ⟨result', hmem, hr⟩)
      · simp [hm] at hr
    · rintro ((⟨e, he, hmem⟩ | ⟨result', hmem, hr⟩) | ⟨rfl, hen⟩)
      · exact .inl ⟨e, he, .inl hmem⟩
      · exact .inr ⟨result', .inl hmem, hr⟩
      · rcases err with _ | e
        · simp [conclusion] at hen
        · exact .inl ⟨e, by simpa [conclusion] using hen, .inr ⟨rfl, rfl⟩⟩

theorem concluded_snoc_max (hm : result.maxRetries = true) :
    Concluded replayed (results ++ [result]) token' how ↔
      Concluded replayed results token' how ∨
        token' = result.token ∧ some Conclusion.terminal = some how := by
  cases how with
  | completed => simp [Concluded]
  | terminal =>
    simp only [Concluded, mem_append, mem_singleton]
    constructor
    · rintro (h | ⟨result', hmem | rfl, ht, hr⟩)
      · exact .inl (.inl h)
      · exact .inl (.inr ⟨result', hmem, ht, hr⟩)
      · exact .inr ⟨ht.symm, trivial⟩
    · rintro ((h | ⟨result', hmem, hr⟩) | ⟨rfl, -⟩)
      · exact .inl h
      · exact .inr ⟨result', .inl hmem, hr⟩
      · exact .inr ⟨result, .inr rfl, rfl, hm⟩

def triesLeft (op : DeferredOperation) : Nat := maxReconciliationRetries - op.retryCount

structure ReplayStep (j : JournalConfig) (start : Store) (known : String → Prop)
    (listed : List DeferredOperation) (todo : Set String) (results : List ReconciliationResult)
    (w : ReplayWorld) (op : DeferredOperation) (w' : ReplayWorld) (replayed : Replayed) : Prop where
  token : ∀ op' ∈ replayed.next, op'.idempotencyToken = op.idempotencyToken
  tries : (replayed.next.toList.map triesLeft).sum + replayed.retryNeeded.toNat ≤ triesLeft op
  keeps : ∀ token how, Concluded w.replayed results token how →
    Concluded w'.replayed (results ++ [replayed.result]) token how
  ended : replayed.retryNeeded = false →
    ∃ how, Concluded w'.replayed (results ++ [replayed.result]) op.idempotencyToken how
  progress : Progress j start known listed
    {token ∈ todo | token = op.idempotencyToken → replayed.next.isSome}
    (results ++ [replayed.result]) w'

variable {op : DeferredOperation} (h : Progress j start known listed todo results w)

include h

theorem Progress.replayStep (ht : op.idempotencyToken ∈ todo)
    (hed : Edit j.replica op.idempotencyToken w.cluster w'.cluster) {replayed : Replayed}
    (ends : Option Conclusion)
    (hco : ∀ token' how, Concluded w'.replayed (results ++ [replayed.result]) token' how ↔
      Concluded w.replayed results token' how ∨ token' = op.idempotencyToken ∧ ends = some how)
    (hen : replayed.retryNeeded = false → ends ≠ none)
    (hd : ∀ how ∈ ends, known op.idempotencyToken →
      Done w'.cluster.store op.idempotencyToken how ∧ replayed.next = none)
    (hnon : replayed.next = none → replayed.retryNeeded = false)
    (hs : ∀ op' ∈ replayed.next, op'.idempotencyToken = op.idempotencyToken ∧
      (∃ resource ∈ w'.cluster.store, resource.name = op.idempotencyToken ∧
        ownsResource j resource = true) ∧
      (w'.cluster.InSlice j.replica op.idempotencyToken ↔
        w.cluster.InSlice j.replica op.idempotencyToken))
    (htr : (replayed.next.toList.map triesLeft).sum + replayed.retryNeeded.toNat ≤ triesLeft op) :
    ReplayStep j start known listed todo results w op w' replayed := by
  have he (hr : replayed.retryNeeded = false) :
      ∃ how, Concluded w'.replayed (results ++ [replayed.result]) op.idempotencyToken how := by
    obtain ⟨how, hh⟩ := ne_none_iff_exists'.mp (hen hr)
    exact ⟨how, (hco _ how).mpr (.inr ⟨rfl, hh⟩)⟩
  have hk (token' : String) (how : Conclusion)
      (hc : Concluded w.replayed results token' how) :
      Concluded w'.replayed (results ++ [replayed.result]) token' how :=
    (hco token' how).mpr (.inl hc)
  refine ⟨fun op' hop' => (hs op' hop').1, htr, hk, he, ?_⟩
  refine h.edit ht hed ?_ ?_ hk ?_ ?_
  · intro token' hne
    exact ⟨fun hin => hin.1, fun hin => ⟨hin, fun heq => absurd heq hne⟩⟩
  · rintro ⟨-, hin⟩
    obtain ⟨op', hop'⟩ := isSome_iff_exists.mp (hin rfl)
    exact (hs op' hop').2
  · intro token' how hc
    rcases (hco token' how).mp hc with hc | ⟨rfl, hh⟩
    · exact .inl hc
    · refine .inr ⟨rfl, fun hkn => ?_⟩
      obtain ⟨hd, hn⟩ := hd how hh hkn
      exact ⟨hd, fun hin => by simpa [hn] using hin.2 rfl⟩
  · intro hno
    refine he (hnon ?_)
    by_contra hn
    exact hno ⟨ht, fun _ => isSome_iff_ne_none.mpr hn⟩

theorem Progress.finishStep (ht : op.idempotencyToken ∈ todo)
    (he : Edit j.replica op.idempotencyToken w.cluster w'.cluster) (how : Conclusion)
    (hc : ∀ token' how', Concluded w'.replayed (results ++ [result]) token' how' ↔
      Concluded w.replayed results token' how' ∨
        token' = op.idempotencyToken ∧ some how = some how')
    (hd : known op.idempotencyToken → Done w'.cluster.store op.idempotencyToken how) :
    ReplayStep j start known listed todo results w op w' ⟨none, false, result⟩ := by
  refine h.replayStep ht he (some how) hc (by simp) ?_ (fun _ => rfl) (by simp) (by simp)
  intro how' hh' hk
  cases hh'
  exact ⟨hd hk, rfl⟩

variable {w₁ : ReplayWorld} (ht : token ∈ todo) (hc : w₁.cluster = w.cluster)

include ht hc

theorem Progress.markTerminal :
    Returns answers (fun w' _ => (Edit j.replica token w.cluster w'.cluster ∧
      (known token → Done w'.cluster.store token .terminal)) ∧ w'.replayed = w₁.replayed) w₁
      (Rcl.journal (updateDeferredOperationStatus j token .terminal)) := by
  obtain ⟨resource, hmem, hn, ho⟩ := h.owned token ht
  refine (journal_returns hc
    (updateOperation_returns h.free hmem hn ho (keepsKey_status .terminal))).mono ?_
  rintro w' _ ⟨⟨he, -, hp⟩, hr⟩
  refine ⟨⟨he, fun hk => ?_⟩, hr⟩
  obtain ⟨op, rfl, hmem'⟩ := hp ((h.slice token ht).mpr hk)
  exact ⟨_, hmem', rfl, rfl⟩

theorem Progress.countRetry (retryCount : Nat) (lastError : String) :
    Returns answers (fun w' _ => (Edit j.replica token w.cluster w'.cluster ∧
      (∃ resource ∈ w'.cluster.store, resource.name = token ∧ ownsResource j resource = true) ∧
      (w'.cluster.InSlice j.replica token ↔ w.cluster.InSlice j.replica token)) ∧
      w'.replayed = w₁.replayed) w₁
      (Rcl.journal (updateDeferredOperation j token retryCount lastError)) := by
  obtain ⟨resource, hmem, hn, ho⟩ := h.owned token ht
  refine (journal_returns hc (updateOperation_returns h.free hmem hn ho
    (keepsKey_retried retryCount lastError))).mono ?_
  rintro w' _ ⟨⟨he, hs, hp⟩, hr⟩
  refine ⟨⟨he, ?_, hs⟩, hr⟩
  by_cases hin : w.cluster.InSlice j.replica token
  · obtain ⟨op, rfl, hmem'⟩ := hp hin
    exact ⟨_, hmem', rfl, ho⟩
  · rw [(he.unknown hin).1]
    exact ⟨resource, hmem, hn, ho⟩

theorem Progress.remove :
    Returns answers (fun w' result => (Edit j.replica token w.cluster w'.cluster ∧
      (result = none ↔ known token) ∧ (known token → Done w'.cluster.store token .completed)) ∧
      w'.replayed = w₁.replayed) w₁
      (Rcl.journal (removeDeferredOperation j token)) := by
  obtain ⟨resource, hmem, hn, ho⟩ := h.owned token ht
  refine (journal_returns hc (removeDeferredOperation_returns h.free hmem hn ho)).mono ?_
  rintro w' result ⟨⟨he, hre, hr⟩, hrep⟩
  rw [h.slice token ht] at hre hr
  exact ⟨⟨he, hre, hr⟩, hrep⟩

omit ht hc

theorem callReconcileFunc_returns (ht : op.idempotencyToken ∈ todo)
    (hret : op.retryCount < maxReconciliationRetries) :
    Returns answers (ReplayStep j start known listed todo results w op) w
      (callReconcileFunc j op) := by
  refine ⟨⟨none, _, rfl⟩, ?_⟩
  rintro (_ | err) w₁ rfl
  · refine (h.remove ht (by rfl)).bind ?_
    rintro w₂ (_ | err) ⟨⟨he, hres, hre⟩, hr⟩
    · refine h.finishStep ht he .completed (fun token' how => ?_) hre
      rw [hr]
      exact concluded_snoc rfl
    · -- the token is not in the slice: the operation stays among the pending ones
      have hu : ¬ known op.idempotencyToken := by simpa using hres
      have hs := mt (h.slice _ ht).mp hu
      obtain ⟨hst, hs'⟩ := he.unknown hs
      refine h.replayStep ht he (some .completed) (fun token' how => ?_) (by simp)
        (fun _ _ hk => absurd hk hu) (by simp) ?_ (by simp)
      · rw [hr]
        exact concluded_snoc rfl
      · rintro _ ⟨⟩
        rw [hst]
        exact ⟨rfl, h.owned _ ht, iff_of_false hs' hs⟩
  · refine .ite (fun hun => ?_) fun hsa => ?_
    · have hen : conclusion (some err) = some .terminal := if_pos hun
      refine (h.markTerminal ht (by rfl)).bind ?_
      rintro w₂ _ ⟨⟨he, hte⟩, hr⟩
      refine h.finishStep ht he .terminal (fun token' how => ?_) hte
      rw [hr, ← hen]
      exact concluded_snoc rfl
    · have hen : conclusion (some err) = none := if_neg hsa
      refine (h.countRetry ht (by rfl) _ _).bind ?_
      rintro w₂ _ ⟨⟨he, ho, hs⟩, hr⟩
      refine h.replayStep ht he none (fun token' how => ?_) (by simp) (by simp) (by simp) ?_ ?_
      · rw [hr, ← hen]
        exact concluded_snoc rfl
      · rintro _ ⟨⟩
        exact ⟨rfl, ho, hs⟩
      · simp only [triesLeft, Option.toList, map_cons, map_nil, sum_cons, sum_nil, toNat_true]
        omega

theorem replay_returns (ht : op.idempotencyToken ∈ todo) :
    Returns answers (ReplayStep j start known listed todo results w op) w
      (replay j op) := by
  refine .ite (fun _ => ?_) fun hr => ?_
  · refine (h.markTerminal ht rfl).bind ?_
    rintro w₁ _ ⟨⟨he, hte⟩, hre⟩
    refine h.finishStep ht he .terminal (fun token' how => ?_) hte
    rw [hre]
    exact concluded_snoc_max rfl
  · rw [not_le] at hr
    split
    · refine ⟨⟨0, w, rfl⟩, ?_⟩
      rintro base _ rfl
      refine Returns.call (r := (none : Option String)) (fun _ _ => Iff.rfl) ?_
      exact callReconcileFunc_returns h ht hr
    · exact callReconcileFunc_returns h ht hr

omit h

def tokens (ops : List DeferredOperation) : Set String :=
  {token | token ∈ ops.map (·.idempotencyToken)}

variable {ops : List DeferredOperation}

theorem mem_tokens : token ∈ tokens ops ↔ ∃ op ∈ ops, op.idempotencyToken = token := by
  simp [tokens]

def sumTriesLeft (ops : List DeferredOperation) : Nat := (ops.map triesLeft).sum

structure InPass (j : JournalConfig) (start : Store) (known : String → Prop)
    (listed ops : List DeferredOperation) (pass : Pass) (w : ReplayWorld) : Prop where
  nodup : ((pass.nextPending ++ ops).map (·.idempotencyToken)).Nodup
  progress : Progress j start known listed (tokens (pass.nextPending ++ ops)) pass.results w
  ended : pass.retryNeeded = false → ∀ op ∈ pass.nextPending,
    ∃ how, Concluded w.replayed pass.results op.idempotencyToken how

theorem tokens_replayed {next : List DeferredOperation}
    (hn : ((next ++ op :: ops).map (·.idempotencyToken)).Nodup) {again : Option DeferredOperation}
    (ha : ∀ op' ∈ again, op'.idempotencyToken = op.idempotencyToken) :
    {token ∈ tokens (next ++ op :: ops) | token = op.idempotencyToken → again.isSome} =
      tokens (next ++ again.toList ++ ops) := by
  have hnew : op.idempotencyToken ∉ (next ++ ops).map (·.idempotencyToken) := by
    rw [(perm_middle.map DeferredOperation.idempotencyToken).nodup_iff] at hn
    exact (nodup_cons.mp hn).1
  ext token
  cases again with
  | none =>
    simp only [tokens, map_append, map_cons, mem_append, mem_cons, toList_none,
      append_nil] at hnew ⊢
    constructor
    · rintro ⟨hmem | rfl | hmem, hne⟩
      · exact .inl hmem
      · exact absurd (hne rfl) false_ne_true
      · exact .inr hmem
    · rintro (hmem | hmem)
      · exact ⟨.inl hmem, fun heq => absurd (.inl (heq ▸ hmem)) hnew⟩
      · exact ⟨.inr (.inr hmem), fun heq => absurd (.inr (heq ▸ hmem)) hnew⟩
  | some op' => simp [tokens, ha op' rfl]

theorem InPass.add {pass : Pass} {replayed : Replayed}
    (h : InPass j start known listed (op :: ops) pass w)
    (hs : ReplayStep j start known listed (tokens (pass.nextPending ++ op :: ops))
      pass.results w op w' replayed) :
    InPass j start known listed ops (pass.add replayed) w' where
  nodup := by
    have hno := h.nodup
    cases hn : replayed.next with
    | none =>
      refine hno.sublist (Sublist.map _ ?_)
      simp [Pass.add, hn]
    | some op' => simpa [Pass.add, hn, hs.token op' hn] using hno
  progress := by
    have hp := hs.progress
    rwa [tokens_replayed h.nodup hs.token] at hp
  ended hre op' hop' := by
    obtain ⟨hpa, hr⟩ := or_eq_false_iff.mp hre
    rcases mem_append.mp hop' with hop' | hop'
    · obtain ⟨how, hc⟩ := h.ended hpa op' hop'
      exact ⟨how, hs.keeps _ how hc⟩
    · rw [hs.token op' (mem_toList.mp hop')]
      exact hs.ended hr

theorem replayAll_returns {pass : Pass} (h : InPass j start known listed ops pass w) :
    Returns answers (fun w' pass' => InPass j start known listed [] pass' w' ∧
      sumTriesLeft pass'.nextPending + pass'.retryNeeded.toNat ≤
        sumTriesLeft (pass.nextPending ++ ops) + pass.retryNeeded.toNat) w
      (replayAll j ops pass) := by
  induction ops generalizing pass w with
  | nil => exact ⟨h, by rw [append_nil]⟩
  | cons op ops ih =>
    have hto : op.idempotencyToken ∈ tokens (pass.nextPending ++ op :: ops) := by
      exact mem_tokens.mpr ⟨op, by simp, rfl⟩
    refine (replay_returns h.progress hto).bind fun w₁ replayed hs => ?_
    refine (ih (h.add hs)).mono fun w₂ pass' ⟨hp', ht'⟩ => ⟨hp', ?_⟩
    have ht := hs.tries
    have hf : (pass.retryNeeded || replayed.retryNeeded).toNat ≤
        pass.retryNeeded.toNat + replayed.retryNeeded.toNat := by
      cases pass.retryNeeded <;> cases replayed.retryNeeded <;> decide
    simp only [Pass.add, sumTriesLeft, map_append, List.sum_append, map_cons, sum_cons] at ht' ⊢
    omega

def Ended (j : JournalConfig) (start : Store) (known : String → Prop)
    (listed : List DeferredOperation) (w : ReplayWorld) (results : List ReconciliationResult) :
    Prop :=
  (∃ todo, Progress j start known listed todo results w) ∧
    ∀ op ∈ listed, ∃ how, Concluded w.replayed results op.idempotencyToken how

theorem retryLoop_returns {fuel : Nat} {pendingOps : List DeferredOperation}
    (hn : (pendingOps.map (·.idempotencyToken)).Nodup)
    (h : Progress j start known listed (tokens pendingOps) results w)
    (hf : sumTriesLeft pendingOps < fuel) :
    Returns answers (Ended j start known listed) w
      (retryLoop j fuel pendingOps results) := by
  induction fuel generalizing pendingOps results w with
  | zero => exact absurd hf (not_lt_zero _)
  | succ fuel ih =>
    refine .ite (fun hnil => ?_) fun _ => ?_
    · subst hnil
      refine ⟨⟨_, h⟩, fun op hop => (h.all op hop).resolve_left ?_⟩
      simp [mem_tokens]
    · refine Returns.call (r := (none : Option String)) (fun _ _ => Iff.rfl) ?_
      have hpa : InPass j start known listed pendingOps ⟨[], false, results⟩ w :=
        ⟨hn, h, by simp⟩
      refine (replayAll_returns hpa).bind ?_
      rintro w₁ pass ⟨hpa₁, ht⟩
      have hp := hpa₁.progress
      have hn₁ := hpa₁.nodup
      rw [append_nil] at hp hn₁
      refine .ite (fun hr => ?_) fun hr => ?_
      · refine ih hn₁ hp ?_
        simp only [hr, nil_append, toNat_true, toNat_false] at ht
        omega
      · refine ⟨⟨_, hp⟩, fun op hop => ?_⟩
        rcases hp.all op hop with hin | hc
        · obtain ⟨op', hop', hto⟩ := mem_tokens.mp hin
          rw [← hto]
          exact hpa₁.ended (by simpa using hr) op' hop'
        · exact hc

theorem Ended.settled_iff (h : Ended j start known listed w results)
    (hl : ∀ op ∈ listed, ∃ resource ∈ start, resource.name = op.idempotencyToken ∧
      isPendingOperation resource.op.status = true) :
    Settled w results ↔ ∀ op ∈ listed, known op.idempotencyToken := by
  obtain ⟨⟨todo, hp⟩, he⟩ := h
  constructor
  · intro hs op hop
    by_contra hu
    obtain ⟨how, hc⟩ := he op hop
    obtain ⟨resource, hmem, hn, hpe⟩ := hl op hop
    -- the resource has not been touched
    have hk := hp.kept resource hmem (hn ▸ hu)
    have hd := hs _ how hc
    cases how with
    | completed => exact hd resource hk hn
    | terminal =>
      obtain ⟨resource', hmem', hn', hst⟩ := hd
      obtain rfl := Registry.eq_of_name_eq hmem' hk (hn'.trans hn.symm)
      simp [isPendingOperation, hst] at hpe
  · intro hkn token how hc
    obtain ⟨op, hop, rfl⟩ := List.mem_map.mp (hp.concluded_listed token how hc)
    exact (hp.done _ how hc (hkn op hop)).1

end

theorem ownsResource_of_selects {j : JournalConfig} {arrayID : String} {resource : Resource}
    (h : Selector.selects ⟨j.driverName, j.instanceUID, arrayID⟩ resource = true) :
    ownsResource j resource = true := by
  simp only [Selector.selects, decide_eq_true_eq] at h
  simp only [ownsResource, decide_eq_true_eq]
  exact ⟨h.1, h.2.1, h.2.2.1⟩

def Cluster.listed (w : Cluster) (j : JournalConfig) (arrayID : String) : List DeferredOperation :=
  pendingOps (w.selected ⟨j.driverName, j.instanceUID, arrayID⟩)

theorem progress_start {j : JournalConfig} {arrayID : String} {cluster : Cluster}
    (hf : (cluster.replicas j.replica).mutex = none) {ops : List DeferredOperation}
    (hp : ops.Perm (cluster.listed j arrayID)) :
    Progress j cluster.store (cluster.InSlice j.replica) (cluster.listed j arrayID) (tokens ops) []
      ⟨cluster, []⟩ := by
  have hc {token : String} {how : Conclusion} : ¬ Concluded [] [] token how := by
    cases how <;> simp [Concluded]
  refine ⟨hf, fun token ht => ?_, fun _ _ => Iff.rfl, fun _ hmem _ => hmem,
    fun _ _ h => absurd h hc, fun token ht => ?_, fun _ _ h => absurd h hc,
    fun op hop => .inl ?_⟩
  · obtain ⟨op, hop, rfl⟩ := mem_tokens.mp ht
    obtain ⟨resource, hmem, hs, -, rfl⟩ :=
      Cluster.mem_pendingOps_selected.mp (hp.mem_iff.mp hop)
    exact ⟨resource, hmem, rfl, ownsResource_of_selects hs⟩
  · obtain ⟨op, hop, rfl⟩ := mem_tokens.mp ht
    exact mem_map_of_mem (hp.mem_iff.mp hop)
  · exact mem_tokens.mpr ⟨op, hp.mem_iff.mpr hop, rfl⟩

theorem sumTriesLeft_le (ops : List DeferredOperation) :
    sumTriesLeft ops ≤ maxReconciliationRetries * ops.length := by
  induction ops with
  | nil => exact zero_le _
  | cons op ops ih =>
    have hop : triesLeft op ≤ maxReconciliationRetries := sub_le _ _
    rw [sumTriesLeft, map_cons, sum_cons, length_cons, add_comm]
    exact Nat.add_le_add ih hop

theorem exists_sorted (ops : List DeferredOperation) : ∃ sorted : List DeferredOperation,
    sorted.Perm ops ∧ sorted.Pairwise fun op op' => op.submissionTime ≤ op'.submissionTime := by
  refine ⟨ops.mergeSort (·.submissionTime ≤ ·.submissionTime), mergeSort_perm _ _, ?_⟩
  have hs : (ops.mergeSort (·.submissionTime ≤ ·.submissionTime)).Pairwise
      fun op op' => decide (op.submissionTime ≤ op'.submissionTime) = true :=
    pairwise_mergeSort (fun _ _ _ => by simpa using le_trans)
      (fun _ _ => by simpa using le_total _ _) ops
  simpa using hs

/-- A replay leaves in the cluster what it has concluded exactly if the tokens of all operations
that it has read are in the slice. -/
theorem settled_iff_inSlice (j : JournalConfig) (cluster : Cluster) (arrayID : String) (fuel : Nat)
    (hf : (cluster.replicas j.replica).mutex = none)
    (hfu : maxReconciliationRetries * (cluster.listed j arrayID).length < fuel) :
    Returns ReplayWorld.answers
      (fun w' results => Settled w' results ↔
        ∀ op ∈ cluster.listed j arrayID, cluster.InSlice j.replica op.idempotencyToken)
      ⟨cluster, []⟩ (reconcileDeferredOperations j fuel arrayID) := by
  have hl : ∀ op ∈ cluster.listed j arrayID, ∃ resource ∈ cluster.store,
      resource.name = op.idempotencyToken ∧ isPendingOperation resource.op.status = true := by
    intro op hop
    obtain ⟨resource, hmem, -, hp, rfl⟩ := Cluster.mem_pendingOps_selected.mp hop
    exact ⟨resource, hmem, rfl, hp⟩
  refine (journal_returns rfl (getDeferredOperations_returns j arrayID)).bind ?_
  rintro w₁ _ ⟨⟨hc, ops, rfl, ho⟩, hr⟩
  obtain rfl : w₁ = ⟨cluster, []⟩ := ReplayWorld.ext hc hr
  dsimp only
  split
  case isTrue hnil =>
    subst hnil
    have he : Ended j cluster.store (cluster.InSlice j.replica) (cluster.listed j arrayID)
        ⟨cluster, []⟩ [] := by
      refine ⟨⟨_, progress_start hf ho⟩, fun op hop => ?_⟩
      exact absurd (ho.mem_iff.mpr hop) not_mem_nil
    exact he.settled_iff hl
  case isFalse =>
    refine ⟨?_, ?_⟩
    · exact ⟨_, _, ⟨exists_sorted ops |>.choose_spec, rfl⟩⟩
    · rintro pendingOps _ ⟨⟨hpe, -⟩, rfl⟩
      have hp := hpe.trans ho
      refine Returns.mono (retryLoop_returns ?_ (progress_start hf hp) ?_)
        fun w' results he => he.settled_iff hl
      · rw [(hp.map _).nodup_iff]
        exact cluster.nodup_pendingOps_selected _
      · refine lt_of_le_of_lt (sumTriesLeft_le pendingOps) ?_
        rwa [hp.length_eq]

def cleanupOp : DeferredOperation :=
  ⟨"t", .deviceCleanup, "vol-1", "000120000548", "12", 0, 0, "", "csi-powermax", "", .pending⟩

def podJournal : JournalConfig := ⟨0, "pod-0", "csi-powermax", "", 100⟩

def oneResource (operations : List DeferredOperation) : Cluster where
  store := ⟨[crdOpToUnstructured cleanupOp], by decide⟩
  lease := none
  revision := 0
  clock := 0
  replicas _ := ⟨operations, none⟩
  jobs _ := none

theorem settled_oneResource :
    Returns ReplayWorld.answers Settled ⟨oneResource [cleanupOp], []⟩
      (reconcileDeferredOperations podJournal 11 "000120000548") := by
  refine (settled_iff_inSlice podJournal (oneResource [cleanupOp]) "000120000548" 11 rfl
    (by decide)).mono fun w' results hi => hi.mpr ?_
  intro op hop
  exact ⟨op, hop, rfl⟩

/-- Another replica has created the operation: the callback returns nil, and the resource
stays. -/
theorem otherReplica_unsettled : ¬ ∀ j cluster arrayID fuel,
    (cluster.replicas j.replica).mutex = none →
    maxReconciliationRetries * (cluster.listed j arrayID).length < fuel →
    Returns ReplayWorld.answers Settled ⟨cluster, []⟩
      (reconcileDeferredOperations j fuel arrayID) := by
  intro ha
  have hl := ha podJournal (oneResource []) "000120000548" 11 rfl (by decide)
  have hso := hl.2 (.ok [crdOpToUnstructured cleanupOp]) ⟨oneResource [], []⟩ ⟨rfl, rfl⟩
  have hc := hso.2 [cleanupOp] _ ⟨⟨Perm.refl _, pairwise_singleton _ _⟩, rfl⟩
  have hf := hc.2 none _ ⟨rfl, rfl⟩
  have hlo := hf.2 none _ rfl
  have hre := hlo.2 () ⟨_, _⟩ ⟨rfl, rfl⟩
  have hu := hre.2 [] ⟨_, _⟩ ⟨rfl, rfl⟩
  have hs : Settled _ _ := hu.2 () ⟨_, _⟩ ⟨rfl, rfl⟩
  have hr := hs "t" .completed (mem_singleton.mpr rfl)
  exact hr (crdOpToUnstructured cleanupOp) (mem_singleton.mpr rfl) rfl

end PowerMaxCsi.Journal
