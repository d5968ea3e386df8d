import PowerMaxCsi.Journal.Cluster
import PowerMaxCsi.Lib.World

/-!
# The methods of a journal when nothing else runs

`UpdateDeferredOperation`, `UpdateDeferredOperationStatus` and `RemoveDeferredOperation` from start
to end.  If the token is not in the slice they change nothing and fail: `Edit.unknown`.
-/

namespace PowerMaxCsi.Journal

open Prog List Cluster

def Serves (i : Nat) (w : Cluster) (c : JournalCall) (r : JournalAnswer c) (w' : Cluster) : Prop :=
  w.serve i c r = some w'

def Cluster.At (r : Nat) (store : Store) (operations : List DeferredOperation)
    (mutex : Option Nat) (w : Cluster) : Prop :=
  w.store = store ∧ w.replicas r = ⟨operations, mutex⟩

section

variable {i r : Nat} {store : Store} {operations : List DeferredOperation} {mutex : Option Nat}
  {w : Cluster} {α : Type} {post : Cluster → α → Prop}

theorem replica_returns {c : JournalCall} {operations' : List DeferredOperation}
    {mutex' : Option Nat} {k : JournalAnswer c → JournalProg α} (answer : JournalAnswer c)
    (hw : w.store = store) (hs : ∀ answer' w', w.serve i c answer' = some w' ↔
      answer' = answer ∧ w' = w.setReplica r ⟨operations', mutex'⟩)
    (hk : ∀ w', w'.At r store operations' mutex' → Returns (Serves i) post w' (k answer)) :
    Returns (Serves i) post w (.call c k) := by
  refine Returns.call hs (hk _ ⟨hw, ?_⟩)
  rw [setReplica_replicas, if_pos rfl]

theorem setOperations_returns {operations' : List DeferredOperation}
    (hw : w.At r store operations mutex) {k : Unit → JournalProg α}
    (hk : ∀ w', w'.At r store operations' mutex → Returns (Serves i) post w' (k ())) :
    Returns (Serves i) post w (.call (.setOperations r operations') k) := by
  refine replica_returns () hw.1 (fun _ w' => ?_) hk
  simp [serve, hw.2, eq_comm]

theorem unlock_returns {created : Option (DeferredOperation × String)}
    (hw : w.At r store operations mutex) {k : Unit → JournalProg α}
    (hk : ∀ w', w'.At r store operations none → Returns (Serves i) post w' (k ())) :
    Returns (Serves i) post w (.call (.unlock r created) k) := by
  refine replica_returns () hw.1 (fun _ w' => ?_) hk
  simp [serve, hw.2, eq_comm]

theorem locked_returns (hw : w.At r store operations none)
    {f : List DeferredOperation → JournalProg α}
    (hf : ∀ w', w'.At r store operations (some i) → Returns (Serves i) post w' (f operations)) :
    Returns (Serves i) post w (do
      Jrnl.lock r
      let operations ← Jrnl.operations r
      f operations) := by
  refine replica_returns () hw.1 (fun _ w' => ?_)
    fun w₁ (hw₁ : w₁.At r store operations (some i)) => ?_
  · simp [serve, hw.2, eq_comm]
  · refine Returns.call (fun answer w' => ?_) (hf w₁ hw₁)
    simp [Serves, serve, hw₁.2, eq_comm]

theorem getDeferredOperations_returns (j : JournalConfig) (arrayID : String) :
    Returns (Serves i) (fun w' result => w' = w ∧ ∃ ops, result = .ok ops ∧
      ops.Perm (pendingOps (w.selected ⟨j.driverName, j.instanceUID, arrayID⟩))) w
      (getDeferredOperations j arrayID) := by
  refine ⟨⟨.ok _, w, if_pos (Perm.refl _)⟩, ?_⟩
  rintro (err | resources) w' hs
  · simp [Serves, serve] at hs
  · obtain ⟨hp, hs⟩ := Option.ite_none_right_eq_some.mp hs
    exact ⟨(Option.some.inj hs).symm, _, rfl, (hp.map _).filter _⟩

variable {resource : Resource} {j : JournalConfig}
  (hw : w.At r store operations mutex) (hmem : resource ∈ store) (ho : ownsResource j resource = true)

include hw hmem ho

theorem getPowerMaxResource_returns :
    Returns (Serves i) (fun w' result => result = .ok (some resource) ∧
      w'.At r store operations mutex) w (getPowerMaxResource j resource.name) := by
  have hmem' : resource ∈ w.store := by rwa [hw.1]
  refine Returns.call (fun answer w' => serve_get_iff hmem' rfl) ⟨?_, hw⟩
  rw [if_pos ho]

theorem crdUpdate_returns {op : DeferredOperation} (hn : resource.name = op.idempotencyToken) :
    Returns (Serves i) (fun w' result => result = none ∧
      w'.At r (Store.patch store op) operations mutex) w (crdUpdate j op) := by
  have hg := getPowerMaxResource_returns (i := i) hw hmem ho
  rw [hn] at hg
  refine hg.bind ?_
  rintro w₁ _ ⟨rfl, hs₁, hr₁⟩
  have hmem₁ : resource ∈ w₁.store := by rwa [hs₁]
  refine Returns.call (fun answer w' => serve_patch_iff hmem₁ hn) ?_
  -- the resource is still there for the patch of its status
  have hp : (Store.patch w₁.store op).get op.idempotencyToken =
      some { resource with op := op } := Registry.get_eq_some.mpr ⟨mem_patch hmem₁ hn, rfl⟩
  have hat : { w₁ with store := Store.patch w₁.store op }.At r (Store.patch store op) operations
      mutex := ⟨by rw [hs₁], hr₁⟩
  refine Returns.call (r := Except.ok ()) (fun answer w' => ?_) ⟨rfl, hat⟩
  simp only [Serves, serve, hp]
  rcases answer with err | _ <;> simp [eq_comm]

theorem crdDelete_returns :
    Returns (Serves i) (fun w' result => result = none ∧
      w'.At r (store.erase resource.name) operations mutex) w (crdDelete j resource.name) := by
  refine (getPowerMaxResource_returns hw hmem ho).bind ?_
  rintro w₁ _ ⟨rfl, hs₁, hr₁⟩
  have hmem₁ : resource ∈ w₁.store := by rwa [hs₁]
  refine Returns.call (fun answer w' => serve_delete_iff hmem₁ rfl) ⟨rfl, ?_, hr₁⟩
  exact congrArg (Registry.erase · resource.name) hs₁

end

def Cluster.InSlice (w : Cluster) (r : Nat) (token : String) : Prop :=
  ∃ op ∈ (w.replicas r).operations, op.idempotencyToken = token

/-- At most the operation with the token has changed, and nothing if it was not in the slice. -/
structure Edit (r : Nat) (token : String) (w w' : Cluster) : Prop where
  free : (w'.replicas r).mutex = none
  others : ∀ resource, resource.name ≠ token → (resource ∈ w'.store ↔ resource ∈ w.store)
  slice : ∀ token', token' ≠ token → (w'.InSlice r token' ↔ w.InSlice r token')
  unknown : ¬ w.InSlice r token → w'.store = w.store ∧ ¬ w'.InSlice r token

section

variable {i : Nat} {j : JournalConfig} {w : Cluster} {token : String} {r : Nat}

theorem Cluster.exists_at (hf : (w.replicas r).mutex = none) :
    ∃ operations, w.At r w.store operations none :=
  ⟨(w.replicas r).operations, rfl, by rw [← hf]⟩

variable {operations : List DeferredOperation}

theorem Cluster.At.inSlice {store : Store} {mutex : Option Nat}
    (hw : w.At r store operations mutex) :
    w.InSlice r token ↔ token ∈ operations.map (·.idempotencyToken) := by
  rw [InSlice, hw.2, mem_map]

theorem find?_token_eq_none :
    operations.find? (·.idempotencyToken = token) = none ↔
      token ∉ operations.map (·.idempotencyToken) := by
  simp

theorem Edit.refl {w' : Cluster} (hw : w.At r w.store operations none)
    (hw' : w'.At r w.store operations none) :
    Edit r token w w' where
  free := by rw [hw'.2]
  others _ _ := by rw [hw'.1]
  slice _ _ := by rw [hw.inSlice, hw'.inSlice]
  unknown h := ⟨hw'.1, by rwa [hw'.inSlice, ← hw.inSlice]⟩

variable {resource : Resource}

theorem mem_patch_of_ne {store : Store} {op : DeferredOperation}
    (hne : resource.name ≠ op.idempotencyToken) :
    resource ∈ Store.patch store op ↔ resource ∈ store := by
  refine Registry.mem_modify.trans ?_
  constructor
  · rintro ⟨resource', hmem, heq⟩
    split at heq
    case isTrue =>
      subst heq
      exact absurd rfl hne
    case isFalse => exact heq ▸ hmem
  · intro hmem
    exact ⟨resource, hmem, if_neg hne⟩

variable (hfr : (w.replicas j.replica).mutex = none) (hmem : resource ∈ w.store)
  (hn : resource.name = token) (ho : ownsResource j resource = true)

include hfr hmem hn ho

theorem updateOperation_returns {change : DeferredOperation → DeferredOperation}
    (hc : KeepsKey change) :
    Returns (Serves i) (fun w' _ => Edit j.replica token w w' ∧
      (w'.InSlice j.replica token ↔ w.InSlice j.replica token) ∧
      (w.InSlice j.replica token → ∃ op, op.idempotencyToken = token ∧
        { resource with op := change op } ∈ w'.store)) w
      (updateOperation j token change) := by
  obtain ⟨operations, hw⟩ := exists_at hfr
  refine locked_returns hw fun w₁ hw₁ => ?_
  cases hf : operations.find? fun op => op.idempotencyToken = token with
  | none =>
    have hu : ¬ w.InSlice j.replica token := by
      rwa [hw.inSlice, ← find?_token_eq_none]
    refine unlock_returns hw₁ fun w₂ hw₂ => ?_
    refine ⟨.refl hw hw₂, by rw [hw.inSlice, hw₂.inSlice], fun h => absurd h hu⟩
  | some op =>
    obtain rfl : op.idempotencyToken = token := by simpa using List.find?_some hf
    have hk : w.InSlice j.replica op.idempotencyToken :=
      hw.inSlice.mpr (mem_map_of_mem (mem_of_find?_eq_some hf))
    have ht := (hc op).1
    have hn' := hn.trans ht.symm
    refine setOperations_returns hw₁ fun w₂ hw₂ => ?_
    refine (crdUpdate_returns hw₂ hmem ho hn').bind ?_
    rintro w₃ _ ⟨rfl, hw₃⟩
    refine unlock_returns hw₃ fun w₄ hw₄ => ?_
    refine ⟨⟨by rw [hw₄.2], fun resource' hne => ?_, fun token' _ => ?_, fun h => absurd hk h⟩,
      ?_, fun _ => ⟨op, rfl, ?_⟩⟩
    · rw [hw₄.1, mem_patch_of_ne (ht ▸ hne)]
    · rw [hw₄.inSlice, hw.inSlice, changeFirst_map hc]
    · rw [hw₄.inSlice, hw.inSlice, changeFirst_map hc]
    · rw [hw₄.1]
      exact mem_patch hmem hn'

theorem removeDeferredOperation_returns :
    Returns (Serves i) (fun w' result => Edit j.replica token w w' ∧
      (result = none ↔ w.InSlice j.replica token) ∧
      (w.InSlice j.replica token → ∀ resource' ∈ w'.store, resource'.name ≠ token)) w
      (removeDeferredOperation j token) := by
  obtain ⟨operations, hw⟩ := exists_at hfr
  refine locked_returns hw fun w₁ hw₁ => ?_
  cases hf : operations.find? fun op => op.idempotencyToken = token with
  | none =>
    have hu : ¬ w.InSlice j.replica token := by
      rwa [hw.inSlice, ← find?_token_eq_none]
    refine unlock_returns hw₁ fun w₂ hw₂ => ?_
    exact ⟨.refl hw hw₂, by simp [hu], fun h => absurd h hu⟩
  | some op =>
    obtain rfl : op.idempotencyToken = token := by simpa using List.find?_some hf
    have hk : w.InSlice j.replica op.idempotencyToken :=
      hw.inSlice.mpr (mem_map_of_mem (mem_of_find?_eq_some hf))
    have hd := crdDelete_returns (i := i) hw₁ hmem ho
    rw [hn] at hd
    refine hd.bind ?_
    rintro w₂ _ ⟨rfl, hw₂⟩
    refine setOperations_returns hw₂ fun w₃ hw₃ => ?_
    refine unlock_returns hw₃ fun w₄ hw₄ => ?_
    refine ⟨⟨by rw [hw₄.2], fun resource' hne => ?_, fun token' hne => ?_,
      fun h => absurd hk h⟩, by simp [hk], fun _ resource' hmem' => ?_⟩
    · rw [hw₄.1, Registry.mem_erase, and_iff_left hne]
    · rw [InSlice, InSlice, hw₄.2, hw.2]
      refine exists_congr fun op' => and_congr_left fun hop' => ?_
      exact mem_eraseP_of_neg (by simpa [hop'] using hne)
    · rw [hw₄.1, Registry.mem_erase] at hmem'
      exact hmem'.2

end

end PowerMaxCsi.Journal
