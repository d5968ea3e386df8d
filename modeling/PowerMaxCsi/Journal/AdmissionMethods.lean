import PowerMaxCsi.Journal.AdmissionContract

/-!
# The methods of a journal keep their contract

Each method locks the mutex, reads the slice and keeps it sound.  While it changes one operation in
the slice and then in the cluster, the others stay backed.
-/

namespace PowerMaxCsi.Journal

open Prog Cluster List

section

variable {cfg : Nat → JournalConfig} {n i r : Nat} {job : JournalJob}

variable (n i) in
structure Stable (I : Cluster → Prop) : Prop where
  rely : ∀ w w', I w → JournalRely n i w w' → I w'
  frame : ∀ w w', I w → w'.store = w.store → w'.replicas = w.replicas → w'.jobs = w.jobs → I w'

variable {I : Cluster → Prop}

theorem Stable.and {I' : Cluster → Prop} (h : Stable n i I) (h' : Stable n i I') :
    Stable n i fun w => I w ∧ I' w :=
  ⟨fun w w' hw hre => ⟨h.rely w w' hw.1 hre, h'.rely w w' hw.2 hre⟩,
    fun w w' hw hs hr hj => ⟨h.frame w w' hw.1 hs hr hj, h'.frame w w' hw.2 hs hr hj⟩⟩

variable {w' w : Cluster}

theorem Cluster.Holds.rely (h : w.Holds n i r job) (hr : JournalRely n i w w') :
    w'.Holds n i r job :=
  ⟨h.lt, by rw [hr.replicas r h.lt h.mutex, h.mutex], by rw [hr.jobs, h.jobs], h.replica⟩

theorem Cluster.Holds.frame (h : w.Holds n i r job)
    (hr : w'.replicas = w.replicas) (hj : w'.jobs = w.jobs) : w'.Holds n i r job :=
  ⟨h.lt, by rw [hr, h.mutex], by rw [hj, h.jobs], h.replica⟩

def Slice (n i r : Nat) (job : JournalJob) (operations : List DeferredOperation) (w : Cluster) :
    Prop :=
  w.Holds n i r job ∧ (w.replicas r).operations = operations

theorem stable_slice (operations : List DeferredOperation) :
    Stable n i (Slice n i r job operations) where
  rely w w' h hre := ⟨h.1.rely hre, by rw [hre.replicas r h.1.lt h.1.mutex, h.2]⟩
  frame w w' h _ hr hj := ⟨h.1.frame hr hj, by rw [hr, h.2]⟩

variable {operations : List DeferredOperation}

theorem Slice.set {operations' : List DeferredOperation} (hw : Slice n i r job operations w)
    (hs : w.serve i (.setOperations r operations') () = some w') :
    Slice n i r job operations' w' ∧ w'.store = w.store := by
  obtain ⟨⟨hlt, hm, hj, hr⟩, -⟩ := hw
  cases hs
  refine ⟨⟨⟨hlt, ?_, hj, hr⟩, ?_⟩, rfl⟩
  · rw [setReplica_replicas, if_pos rfl]
    exact hm
  · rw [setReplica_replicas, if_pos rfl]

variable {op : DeferredOperation}

/-- What is said of a resource in the slice is kept if it only needs that it survives. -/
theorem Stable.resource (hI : Stable n i I) (hsl : ∀ w, I w → Slice n i r job operations w)
    (hop : op ∈ operations) {P : Store → Prop}
    (hP : ∀ store store', P store → Survives store store' op.idempotencyToken → P store') :
    Stable n i fun w => I w ∧ P w.store where
  rely w w' h hre := by
    obtain ⟨hh, ho⟩ := hsl w h.1
    refine ⟨hI.rely w w' h.1 hre, hP _ _ h.2 ?_⟩
    exact hre.slice r hh.lt hh.mutex op (by rwa [ho])
  frame w w' h hs hr hj :=
    ⟨hI.frame w w' h.1 hs hr hj, by rw [hs]; exact h.2⟩

def BackedSlice (cfg : Nat → JournalConfig) (n i r : Nat) (job : JournalJob)
    (operations : List DeferredOperation) (except : DeferredOperation → Prop) (w : Cluster) :
    Prop :=
  Slice n i r job operations w ∧ ∀ op ∈ operations, ¬ except op → Backed (journal cfg r) w.store op

theorem stable_backedSlice (operations : List DeferredOperation)
    (except : DeferredOperation → Prop) :
    Stable n i (BackedSlice cfg n i r job operations except) where
  rely w w' h hre := by
    refine ⟨(stable_slice operations).rely w w' h.1 hre, fun op hop he => ?_⟩
    refine (h.2 op hop he).survives ?_
    exact hre.slice r h.1.1.lt h.1.1.mutex op (by rwa [h.1.2])
  frame w w' h hs hr hj :=
    ⟨(stable_slice operations).frame w w' h.1 hs hr hj, by rw [hs]; exact h.2⟩

def PendingAs (store : Store) (name : String → Prop) (key : OpKey) : Prop :=
  ∃ resource ∈ store, name resource.name ∧ resource.op.key = key ∧
    isPendingOperation resource.op.status = true

variable {store : Store}

theorem PendingAs.hasPending {name : String → Prop} {key : OpKey} (h : PendingAs store name key) :
    HasPending store key := by
  obtain ⟨resource, hmem, -, hk, hp⟩ := h
  exact ⟨resource, hmem, hk, hp⟩

theorem Stable.created (hI : Stable n i I) (hho : ∀ w, I w → w.Holds n i r job)
    (hc : job.creates = some op) (name : String → Prop) :
    Stable n i fun w => I w ∧ PendingAs w.store name op.key where
  rely w w' h hre := by
    obtain ⟨hw, resource, hmem, hn, hk, hp⟩ := h
    have hh := hho w hw
    have hs := hre.creates r hh.lt hh.mutex job hh.jobs op hc resource hmem hk
    obtain ⟨resource', hmem', hn', -, hk', hp'⟩ := hs resource hmem rfl
    exact ⟨hI.rely w w' hw hre, resource', hmem', hn'.symm ▸ hn, hk'.trans hk, hp' hp⟩
  frame w w' h hst hr hj :=
    ⟨hI.frame w w' h.1 hst hr hj, by rw [hst]; exact h.2⟩

variable {α : Type} {post : Cluster → α → Prop} {w : Cluster}

theorem safe_quiet (hI : Stable n i I) (hw : I w) {c : JournalCall} (hc : c.quiet = true)
    {k : JournalAnswer c → JournalProg α}
    (hk : ∀ answer w₁ w₂, I w₁ → w₁.serve i c answer = some w₂ → I w₂ →
      (journalContract cfg n i).Safe post w₂ (k answer)) :
    (journalContract cfg n i).Safe post w (.call c k) := by
  intro w₁ hre _
  have hw₁ := hI.rely w w₁ hw hre
  refine ⟨?_, fun answer w₂ ha => ?_⟩
  · cases c <;> trivial
  · obtain ⟨hs, hr, hj⟩ := serve_quiet ha.1 hc
    exact hk answer w₁ w₂ hw₁ ha.1 (hI.frame w₁ w₂ hw₁ hs hr hj)

theorem safe_quietCalls (hI : Stable n i I) (hw : I w) {p : JournalProg α}
    (hp : Calls (fun c => c.quiet = true) p) :
    (journalContract cfg n i).Safe (fun w' _ => I w') w p := by
  refine Contract.Safe.of_calls hw hp fun c w w₁ hc hw hre _ => ?_
  have hw₁ := hI.rely w w₁ hw hre
  refine ⟨?_, fun answer w₂ ha => ?_⟩
  · cases c <;> trivial
  · obtain ⟨hs, hr, hj⟩ := serve_quiet ha.1 hc
    exact hI.frame w₁ w₂ hw₁ hs hr hj

def SoundSlice (cfg : Nat → JournalConfig) (n i r : Nat) (job : JournalJob)
    (operations : List DeferredOperation) (w : Cluster) : Prop :=
  BackedSlice cfg n i r job operations (fun _ => False) w ∧
    (operations.map (·.idempotencyToken)).Nodup

theorem stable_soundSlice (operations : List DeferredOperation) :
    Stable n i (SoundSlice cfg n i r job operations) :=
  (stable_backedSlice operations _).and ⟨fun _ _ h _ => h, fun _ _ h _ _ _ => h⟩

theorem unlock_safe (hI : Stable n i I) (hw : I w) {created : Option (DeferredOperation × String)}
    (hs : ∀ w, I w → SoundSlice cfg n i r job operations w ∧
      ∀ result ∈ created, HasPending w.store result.1.key) {k : Unit → JournalProg α}
    (hk : ∀ w', (journalContract cfg n i).Safe post w' (k ())) :
    (journalContract cfg n i).Safe post w (.call (.unlock r created) k) := by
  intro w₁ hr _
  obtain ⟨⟨⟨⟨hh, ho⟩, hb⟩, hn⟩, hp⟩ := hs w₁ (hI.rely w w₁ hw hr)
  refine ⟨⟨⟨job, hh⟩, ⟨by rwa [ho], fun op hop => ?_⟩, hp⟩, fun _ w₂ _ => hk w₂⟩
  exact hb op (by rwa [← ho]) not_false

theorem locked_safe (hr : r < n) (hj : w.jobs i = some job) (hre : job.replica = r)
    {f : List DeferredOperation → JournalProg α}
    (hf : ∀ operations w', SoundSlice cfg n i r job operations w' →
      (journalContract cfg n i).Safe post w' (f operations)) :
    (journalContract cfg n i).Safe post w (do
      Jrnl.lock r
      let operations ← Jrnl.operations r
      f operations) := by
  intro w₁ hrel hi
  refine ⟨trivial, fun _ w₂ han => ?_⟩
  have hl : ∃ operations, SoundSlice cfg n i r job operations w₂ := by
    obtain ⟨hs, -⟩ := han
    obtain ⟨hfr, ⟨⟩⟩ := Option.ite_none_right_eq_some.mp hs
    obtain ⟨hn, hb⟩ := hi r hr hfr
    refine ⟨_, ⟨⟨⟨hr, ?_, hrel.jobs.trans hj, hre⟩, rfl⟩, ?_⟩, ?_⟩
    · rw [setReplica_replicas, if_pos rfl]
    · rw [setReplica_replicas, if_pos rfl]
      exact fun op hop _ => hb op hop
    · rwa [setReplica_replicas, if_pos rfl]
  obtain ⟨operations, hsl⟩ := hl
  refine safe_quiet (stable_soundSlice operations) hsl rfl ?_
  intro answer w₃ w₄ hw₃ hs hw₄
  obtain ⟨ha, hs⟩ := Option.ite_none_right_eq_some.mp hs
  obtain rfl : answer = operations := ha.trans hw₃.1.1.2
  exact hf answer w₄ hw₄

theorem awaitQueueLease_calls (j : JournalConfig) (fuel : Nat) :
    Calls (fun c => c.quiet = true) (awaitQueueLease j fuel) := by
  have ha : Calls (fun c => c.quiet = true) (acquireQueueLease j) := by
    refine ⟨rfl, fun now => ⟨rfl, ?_⟩⟩
    rintro (err | lease)
    · refine Calls.ite ⟨rfl, ?_⟩ trivial
      rintro (err | _) <;> trivial
    · refine Calls.ite trivial (Calls.ite trivial ⟨rfl, ?_⟩)
      rintro (err | _) <;> trivial
  induction fuel with
  | zero => exact ⟨rfl, fun r => r.elim⟩
  | succ fuel ih =>
    refine ha.bind ?_
    rintro (_ | err)
    · trivial
    · refine Calls.ite ⟨rfl, ?_⟩ trivial
      rintro (err | _)
      · trivial
      · exact ih

/-- The operation was looked for under the lease, and created if there was none. -/
def Admitted (cfg : Nat → JournalConfig) (n i r : Nat) (job : JournalJob)
    (operations : List DeferredOperation) (newOp : DeferredOperation) (w : Cluster) :
    Except String (Option String) → Prop
  | .error _ => SoundSlice cfg n i r job operations w
  | .ok (some _) => SoundSlice cfg n i r job operations w ∧
      PendingAs w.store (fun _ => True) newOp.key
  | .ok none => (SoundSlice cfg n i r job operations w ∧
      PendingAs w.store (· = newOp.idempotencyToken) newOp.key) ∧
      ∀ op ∈ operations, op.idempotencyToken ≠ newOp.idempotencyToken

variable {newOp : DeferredOperation}

theorem stable_admitted (hcr : job.creates = some op) (hk : newOp.key = op.key)
    (operations : List DeferredOperation) (result : Except String (Option String)) :
    Stable n i fun w => Admitted cfg n i r job operations newOp w result := by
  have hs : Stable n i (SoundSlice cfg n i r job operations) := stable_soundSlice operations
  have hc := hs.created (fun _ hw => hw.1.1.1) hcr
  simp only [← hk] at hc
  rcases result with err | _ | token
  · exact hs
  · exact (hc _).and ⟨fun _ _ h _ => h, fun _ _ h _ _ _ => h⟩
  · exact hc _

theorem pendingAs_of_list {selector : Selector} {resources : List Resource}
    (hs : w.serve i (.list selector) (.ok resources) = some w') {existing : DeferredOperation}
    (hmem : existing ∈ pendingOps resources) : PendingAs w.store (fun _ => True) existing.key := by
  obtain ⟨hop, hp⟩ := mem_filter.mp hmem
  obtain ⟨resource, hr, rfl⟩ := mem_map.mp hop
  have hpe := serve_list_ok hs
  have hi : resource ∈ w.store.items := mem_of_mem_filter (hpe.mem_iff.mp hr)
  exact ⟨resource, hi, trivial, rfl, hp⟩

variable (hw : SoundSlice cfg n i r job operations w) (hp : isPendingOperation newOp.status = true)

include hw hp

theorem SoundSlice.create (hst : w.store.insert (crdOpToUnstructured newOp) = some store) :
    Admitted cfg n i r job operations newOp { w with store := store } (.ok none) := by
  obtain ⟨⟨hs, hb⟩, hn⟩ := hw
  refine ⟨⟨⟨⟨⟨⟨hs.1.lt, hs.1.mutex, hs.1.jobs, hs.1.replica⟩, hs.2⟩,
    fun op hop he => (hb op hop he).survives (.insert hst)⟩, hn⟩, ?_⟩, ?_⟩
  · exact ⟨_, (Registry.mem_insert hst).mpr (.inr rfl), rfl, rfl, hp⟩
  · intro op hop
    obtain ⟨resource, hmem, hna, -⟩ := hb op hop not_false
    rw [← hna]
    exact Registry.name_ne_of_insert hst hmem

theorem createUnderLease_safe (limit : Int) :
    (journalContract cfg n i).Safe
      (fun w' result => Admitted cfg n i r job operations newOp w' result) w
      (createUnderLease (journal cfg r) limit newOp) := by
  refine safe_quiet (stable_soundSlice operations) hw rfl ?_
  rintro (err | resources) w₁ w₂ hw₁ hs hw₂
  · exact hw₂
  show Contract.Safe _ _ _ (ite ..)
  split
  · exact hw₂
  cases hf : (pendingOps resources).find? fun existing => existing.key = newOp.key with
  | some existing =>
    have hk : existing.key = newOp.key := by simpa using List.find?_some hf
    have hl := pendingAs_of_list hs (mem_of_find?_eq_some hf)
    rw [hk, ← (serve_quiet hs rfl).1] at hl
    exact ⟨hw₂, hl⟩
  | none =>
    intro w₃ hr _
    have hw₃ := (stable_soundSlice operations).rely w₂ w₃ hw₂ hr
    refine ⟨trivial, ?_⟩
    rintro (err | _) w₄ ⟨hs₄, -⟩
    · rw [serve_create_error hs₄]
      exact hw₃
    · obtain ⟨store, hst, rfl⟩ := serve_create_ok hs₄
      exact hw₃.create hp hst

theorem withQueueLease_safe (hc : job.creates = some op) (hk : newOp.key = op.key) (fuel : Nat)
    (limit : Int) :
    (journalContract cfg n i).Safe
      (fun w' result => Admitted cfg n i r job operations newOp w' result) w
      (withQueueLease (journal cfg r) fuel (createUnderLease (journal cfg r) limit newOp)) := by
  refine Contract.Safe.bind (safe_quietCalls (stable_soundSlice operations) hw
    (awaitQueueLease_calls (journal cfg r) fuel)) ?_
  rintro w₁ (_ | err) hw₁
  · refine (createUnderLease_safe hw₁ hp limit).bind fun w₂ result hw₂ => ?_
    refine safe_quiet (stable_admitted hc hk operations result) hw₂ rfl ?_
    exact fun _ _ _ _ _ hw₃ => hw₃
  · exact hw₁

omit hw hp

theorem Admitted.append (hw : Admitted cfg n i r job operations newOp w (.ok none))
    (hse : w.serve i (.setOperations r (operations ++ [newOp])) () = some w') :
    SoundSlice cfg n i r job (operations ++ [newOp]) w' ∧
      PendingAs w'.store (fun _ => True) newOp.key := by
  obtain ⟨⟨⟨⟨hs, hb⟩, hn⟩, resource, hmem, hna, hk, hp⟩, hne⟩ := hw
  obtain ⟨hs', hst⟩ := hs.set hse
  rw [← hst] at hmem hb
  refine ⟨⟨⟨hs', forall_mem_append.mpr ⟨hb, forall_mem_singleton.mpr fun _ => ?_⟩⟩, ?_⟩,
    resource, hmem, trivial, hk, hp⟩
  · exact ⟨resource, hmem, hna, hk, fun _ => hp, fun _ => hp⟩
  · rw [map_append]
    refine hn.append (nodup_singleton _) ?_
    simpa using hne

theorem createDeferredOperation_safe (hr : r < n) (hj : w.jobs i = some job)
    (hre : job.replica = r) (hc : job.creates = some op) (fuel : Nat) :
    (journalContract cfg n i).Safe (fun _ _ => True) w
      (createDeferredOperation (journal cfg r) fuel op) := by
  refine locked_safe hr hj hre fun operations w₁ hw₁ => ?_
  have hs : Stable n i (SoundSlice cfg n i r job operations) := stable_soundSlice operations
  have hcr (operations : List DeferredOperation) : Stable n i fun w =>
      SoundSlice cfg n i r job operations w ∧ PendingAs w.store (fun _ => True) op.key :=
    (stable_soundSlice operations).created (fun _ hw => hw.1.1.1) hc _
  cases hf : operations.find? fun existing =>
      isPendingOperation existing.status ∧ existing.key = op.key with
  | some existing =>
    have he : isPendingOperation existing.status = true ∧ existing.key = op.key := by
      simpa using List.find?_some hf
    refine unlock_safe hs hw₁ (fun w₂ hw₂ => ⟨hw₂, ?_⟩) fun _ => trivial
    obtain ⟨resource, hmem, -, hk, -, hp⟩ :=
      hw₂.1.2 existing (mem_of_find?_eq_some hf) not_false
    simpa using ⟨resource, hmem, hk.trans he.2, hp he.1⟩
  | none =>
    refine safe_quiet hs hw₁ rfl fun token _ w₂ _ _ hw₂ => ?_
    refine safe_quiet hs hw₂ rfl fun time _ w₃ _ _ hw₃ => ?_
    show Contract.Safe _ _ _ (Prog.bind (withQueueLease _ _ _) _)
    refine Contract.Safe.bind (withQueueLease_safe hw₃ (by rfl) hc (by rfl) fuel _) ?_
    rintro w₄ (err | _ | duplicateToken) hw₄
    · exact unlock_safe hs hw₄ (fun w₅ hw₅ => ⟨hw₅, by simp⟩) fun _ => trivial
    · intro w₅ hrel _
      have hw₅ := Stable.rely (stable_admitted hc (by rfl) operations (.ok none)) w₄ w₅ hw₄ hrel
      refine ⟨⟨job, hw₅.1.1.1.1.1⟩, fun _ w₆ ha => ?_⟩
      refine unlock_safe (hcr _) (hw₅.append ha.1) (fun w₇ hw₇ => ⟨hw₇.1, ?_⟩) fun _ => trivial
      simpa using hw₇.2.hasPending
    · refine unlock_safe (hcr operations) hw₄ (fun w₅ hw₅ => ⟨hw₅.1, ?_⟩) fun _ => trivial
      simpa using hw₅.2.hasPending

/-- The operation has a resource that the journal owns or not; one of another owner is
pending. -/
def Owned (j : JournalConfig) (op : DeferredOperation) (owned : Bool) (store : Store) : Prop :=
  ∃ resource ∈ store, resource.name = op.idempotencyToken ∧ resource.op.key = op.key ∧
    ownsResource j resource = owned ∧
    (owned = false → isPendingOperation resource.op.status = true)

theorem Owned.survives {j : JournalConfig} {owned : Bool} {store' : Store}
    (h : Owned j op owned store) (hs : Survives store store' op.idempotencyToken) :
    Owned j op owned store' := by
  obtain ⟨resource, hmem, hn, hk, ho, hp⟩ := h
  obtain ⟨resource', hmem', hn', ho', hk', hp'⟩ := hs resource hmem hn
  exact ⟨resource', hmem', hn', hk'.trans hk, (ho' j).trans ho, fun h => hp' (hp h)⟩

theorem Owned.backed {j : JournalConfig} (h : Owned j op false store) : Backed j store op := by
  obtain ⟨resource, hmem, hn, hk, -, hp⟩ := h
  exact ⟨resource, hmem, hn, hk, fun _ => hp rfl, fun _ => hp rfl⟩

theorem getPowerMaxResource_safe (hI : Stable n i I)
    (hk : ∀ w, I w → Known (journal cfg r) w.store op) (hw : I w) :
    (journalContract cfg n i).Safe
      (fun w' result => I w' ∧ ∃ found, result = .ok found ∧
        Owned (journal cfg r) op found.isSome w'.store) w
      (getPowerMaxResource (journal cfg r) op.idempotencyToken) := by
  refine safe_quiet hI hw rfl fun answer w₁ w₂ hw₁ hs hw₂ => ?_
  obtain ⟨resource, hmem, hn, hke, hf⟩ := hk w₁ hw₁
  obtain ⟨rfl, rfl⟩ := (serve_get_iff hmem hn).mp hs
  refine ⟨hw₂, _, rfl, resource, hmem, hn, hke, ?_⟩
  split
  case isTrue ho => exact ⟨ho, by simp⟩
  case isFalse ho =>
    rw [Bool.not_eq_true] at ho
    exact ⟨ho, fun _ => hf ho⟩

variable (hbs : BackedSlice cfg n i r job operations (·.idempotencyToken = op.idempotencyToken) w)
  (hno : (operations.map (·.idempotencyToken)).Nodup) (hop : op ∈ operations)

include hbs hno hop

theorem BackedSlice.sound (hb : Backed (journal cfg r) w.store op) :
    SoundSlice cfg n i r job operations w := by
  refine ⟨⟨hbs.1, fun op' hop' _ => ?_⟩, hno⟩
  by_cases ht : op'.idempotencyToken = op.idempotencyToken
  · rwa [inj_on_of_nodup_map hno hop' hop ht]
  · exact hbs.2 op' hop' ht

theorem BackedSlice.patch
    (hk : ∀ resource ∈ w.store, resource.name = op.idempotencyToken → resource.op.key = op.key)
    (ho : Owned (journal cfg r) op true w.store) :
    SoundSlice cfg n i r job operations { w with store := Store.patch w.store op } := by
  obtain ⟨⟨⟨hh, hops⟩, hb⟩, resource, hmem, hna, -, how, -⟩ := hbs, ho
  refine BackedSlice.sound ⟨⟨hh.frame rfl rfl, hops⟩, fun op' hop' hne => ?_⟩ hno hop ?_
  · exact (hb op' hop' hne).survives (.patch hk fun h => absurd h hne)
  · refine ⟨_, mem_patch hmem hna, rfl, rfl, ?_, id⟩
    intro hf
    exact absurd (hf.symm.trans how) Bool.false_ne_true

theorem crdUpdate_safe (hkn : Known (journal cfg r) w.store op) :
    (journalContract cfg n i).Safe (fun w' _ => SoundSlice cfg n i r job operations w') w
      (crdUpdate (journal cfg r) op) := by
  have hb : Stable n i (BackedSlice cfg n i r job operations
      (·.idempotencyToken = op.idempotencyToken)) := stable_backedSlice operations _
  have hI := hb.resource (fun _ h => h.1) hop
    (P := fun store => Known (journal cfg r) store op) fun _ _ h hs => h.survives hs
  refine (getPowerMaxResource_safe hI (fun w h => h.2) ⟨hbs, hkn⟩).bind ?_
  rintro w₁ _ ⟨⟨hw₁, -⟩, found, rfl, ho⟩
  cases found with
  | none => exact hw₁.sound hno hop ho.backed
  | some _ =>
    have hI' := hb.resource (fun _ h => h.1) hop
      (P := Owned (journal cfg r) op true) fun _ _ h hs => h.survives hs
    intro w₂ hr _
    obtain ⟨hw₂, ho₂⟩ := hI'.rely w₁ w₂ ⟨hw₁, ho⟩ hr
    obtain ⟨resource, hmem, hn, hke, -⟩ := id ho₂
    have hk : ∀ resource' ∈ w₂.store, resource'.name = op.idempotencyToken →
        resource'.op.key = op.key := by
      intro resource' hmem' hn'
      rw [Registry.eq_of_name_eq hmem' hmem (hn'.trans hn.symm), hke]
    refine ⟨⟨⟨r, job, hw₂.1.1⟩, hk⟩, fun _ w₃ ha => ?_⟩
    obtain ⟨rfl, rfl⟩ := (serve_patch_iff hmem hn).mp ha.1
    have hw₃ := hw₂.patch hno hop hk ho₂
    refine safe_quiet (stable_soundSlice operations) hw₃ rfl ?_
    rintro (err | _) _ w₄ _ _ hw₄ <;> exact hw₄

omit hbs hno hop

theorem updateOperation_safe {change : DeferredOperation → DeferredOperation}
    (hc : KeepsKey change) (hr : r < n) (hj : w.jobs i = some job)
    (hre : job.replica = r) (token : String) :
    (journalContract cfg n i).Safe (fun _ _ => True) w
      (updateOperation (journal cfg r) token change) := by
  refine locked_safe hr hj hre fun operations w₁ hw₁ => ?_
  have hs : Stable n i (SoundSlice cfg n i r job operations) := stable_soundSlice operations
  cases hf : operations.find? fun op => op.idempotencyToken = token with
  | none => exact unlock_safe hs hw₁ (fun _ hw => ⟨hw, by simp⟩) fun _ => trivial
  | some op =>
    obtain rfl : op.idempotencyToken = token := by simpa using List.find?_some hf
    intro w₂ hrel _
    obtain ⟨⟨hw₂, hb⟩, hno⟩ := hs.rely w₁ w₂ hw₁ hrel
    refine ⟨⟨job, hw₂.1⟩, fun _ w₃ ha => ?_⟩
    obtain ⟨hw₃, hst⟩ := hw₂.set ha.1
    have hop : change op ∈ changeFirst op.idempotencyToken change operations :=
      change_mem_changeFirst hf
    obtain ⟨ht, hk⟩ := hc op
    rw [← hst] at hb
    refine (crdUpdate_safe (r := r) ⟨hw₃, fun op' hop' hne => ?_⟩
      (by rwa [changeFirst_map hc]) hop ?_).bind fun w₄ _ hw₄ => ?_
    · rw [ht] at hne
      exact hb op' (mem_of_mem_changeFirst hc hop' hne) not_false
    · obtain ⟨resource, hmem, hn, hk', hfo⟩ :=
        (hb op (mem_of_find?_eq_some hf) not_false).known
      exact ⟨resource, hmem, hn.trans ht.symm, hk'.trans hk.symm, hfo⟩
    · exact unlock_safe (stable_soundSlice _) hw₄ (fun _ hw => ⟨hw, by simp⟩) fun _ => trivial

theorem crdDelete_safe (hop : op ∈ operations) (hw : SoundSlice cfg n i r job operations w) :
    (journalContract cfg n i).Safe (fun w' result =>
      if result = none then
        BackedSlice cfg n i r job operations (·.idempotencyToken = op.idempotencyToken) w'
      else SoundSlice cfg n i r job operations w') w
      (crdDelete (journal cfg r) op.idempotencyToken) := by
  have hs : Stable n i (SoundSlice cfg n i r job operations) := stable_soundSlice operations
  have hk (w : Cluster) (hw : SoundSlice cfg n i r job operations w) :
      Known (journal cfg r) w.store op := (hw.1.2 op hop not_false).known
  have he {w : Cluster} (hw : SoundSlice cfg n i r job operations w) :
      BackedSlice cfg n i r job operations (·.idempotencyToken = op.idempotencyToken) w :=
    ⟨hw.1.1, fun op' hop' _ => hw.1.2 op' hop' not_false⟩
  refine (getPowerMaxResource_safe hs hk hw).bind ?_
  rintro w₁ _ ⟨hw₁, found, rfl, -⟩
  cases found with
  | none => exact he hw₁
  | some _ =>
    intro w₂ hr _
    have hw₂ := hs.rely w₁ w₂ hw₁ hr
    obtain ⟨resource, hmem, hn, -⟩ := hk w₂ hw₂
    refine ⟨⟨r, job, hw₂.1.1.1⟩, fun _ w₃ ha => ?_⟩
    obtain ⟨rfl, rfl⟩ := (serve_delete_iff hmem hn).mp ha.1
    refine ⟨⟨hw₂.1.1.1.frame rfl rfl, hw₂.1.1.2⟩, fun op' hop' hne => ?_⟩
    exact (hw₂.1.2 op' hop' not_false).survives (.erase hne)

theorem removeDeferredOperation_safe (hr : r < n) (hj : w.jobs i = some job)
    (hre : job.replica = r) (token : String) :
    (journalContract cfg n i).Safe (fun _ _ => True) w
      (removeDeferredOperation (journal cfg r) token) := by
  refine locked_safe hr hj hre fun operations w₁ hw₁ => ?_
  have hs : Stable n i (SoundSlice cfg n i r job operations) := stable_soundSlice operations
  cases hf : operations.find? fun op => op.idempotencyToken = token with
  | none => exact unlock_safe hs hw₁ (fun _ hw => ⟨hw, by simp⟩) fun _ => trivial
  | some op =>
    obtain rfl : op.idempotencyToken = token := by simpa using List.find?_some hf
    refine (crdDelete_safe (mem_of_find?_eq_some hf) hw₁).bind ?_
    rintro w₂ (_ | err) hw₂
    · intro w₃ hrel _
      obtain ⟨hw₃, hb⟩ := (stable_backedSlice operations _).rely w₂ w₃ hw₂ hrel
      refine ⟨⟨job, hw₃.1⟩, fun _ w₄ ha => ?_⟩
      obtain ⟨hw₄, hst⟩ := hw₃.set ha.1
      refine unlock_safe (stable_soundSlice _) ⟨⟨hw₄, fun op' hop' _ => ?_⟩, ?_⟩
        (fun _ hw => ⟨hw, by simp⟩) fun _ => trivial
      · rw [hst]
        exact hb op' (mem_of_mem_eraseP hop') (token_ne_of_mem_eraseP hw₁.2 hop')
      · exact hw₁.2.sublist (eraseP_sublist.map _)
    · exact unlock_safe hs hw₂ (fun _ hw => ⟨hw, by simp⟩) fun _ => trivial

end

end PowerMaxCsi.Journal
