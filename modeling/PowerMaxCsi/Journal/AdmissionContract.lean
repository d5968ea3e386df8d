import PowerMaxCsi.Journal.Cluster

/-!
# What the methods of a journal rely on

`CreateDeferredOperation` answers from the slice of the replica first, so what is in the slice has
to be in the cluster: `Sound`.  Another replica breaks that by removing or ending an operation of
the slice (`NotShared` excludes it).
-/

namespace PowerMaxCsi.Journal

open Prog

/-- The resource with the name survives: with its owner and its key, and pending if it
was. -/
def Survives (store store' : Store) (name : String) : Prop :=
  ∀ resource ∈ store, resource.name = name → ∃ resource' ∈ store', resource'.name = name ∧
    (∀ j, ownsResource j resource' = ownsResource j resource) ∧
    resource'.op.key = resource.op.key ∧
    (isPendingOperation resource.op.status = true → isPendingOperation resource'.op.status = true)

namespace Survives

variable {store store' store'' : Store} {name : String}

theorem of_subset (h : ∀ resource ∈ store, resource ∈ store') : Survives store store' name :=
  fun resource hmem hn => ⟨resource, h resource hmem, hn, fun _ => rfl, rfl, id⟩

theorem refl (store : Store) (name : String) : Survives store store name :=
  of_subset fun _ => id

theorem trans (h : Survives store store' name) (h' : Survives store' store'' name) :
    Survives store store'' name := by
  intro resource hmem hn
  obtain ⟨resource', hmem', hn', ho, hk, hpe⟩ := h resource hmem hn
  obtain ⟨resource'', hmem'', hn'', ho', hk', hpe'⟩ := h' resource' hmem' hn'
  exact ⟨resource'', hmem'', hn'', fun j => (ho' j).trans (ho j), hk'.trans hk,
    fun hp => hpe' (hpe hp)⟩

theorem insert {resource : Resource} (h : store.insert resource = some store') :
    Survives store store' name :=
  of_subset fun _ hmem => (Registry.mem_insert h).mpr (.inl hmem)

theorem erase {token : String} (hne : name ≠ token) : Survives store (store.erase token) name := by
  intro resource hmem hn
  refine ⟨resource, Registry.mem_erase.mpr ⟨hmem, ?_⟩, hn, fun _ => rfl, rfl, id⟩
  rwa [hn]

theorem patch {op : DeferredOperation}
    (hk : ∀ resource ∈ store, resource.name = op.idempotencyToken → resource.op.key = op.key)
    (hp : name = op.idempotencyToken → isPendingOperation op.status = true) :
    Survives store (Store.patch store op) name := by
  intro resource hmem hn
  refine ⟨_, Registry.mem_modify.mpr ⟨resource, hmem, rfl⟩, ?_⟩
  split
  case isTrue hop =>
    exact ⟨hop.symm.trans hn, fun _ => rfl, (hk resource hmem hop).symm,
      fun _ => hp (hn.symm.trans hop)⟩
  case isFalse => exact ⟨hn, fun _ => rfl, rfl, id⟩

end Survives

def Known (j : JournalConfig) (store : Store) (op : DeferredOperation) : Prop :=
  ∃ resource ∈ store, resource.name = op.idempotencyToken ∧ resource.op.key = op.key ∧
    (ownsResource j resource = false → isPendingOperation resource.op.status = true)

/-- The operation has a resource, which is pending if the operation is. -/
def Backed (j : JournalConfig) (store : Store) (op : DeferredOperation) : Prop :=
  ∃ resource ∈ store, resource.name = op.idempotencyToken ∧ resource.op.key = op.key ∧
    (ownsResource j resource = false → isPendingOperation resource.op.status = true) ∧
    (isPendingOperation op.status = true → isPendingOperation resource.op.status = true)

def HasPending (store : Store) (key : OpKey) : Prop :=
  ∃ resource ∈ store, resource.op.key = key ∧ isPendingOperation resource.op.status = true

section

variable {j : JournalConfig} {store store' : Store} {op : DeferredOperation}

theorem Backed.known (h : Backed j store op) : Known j store op := by
  obtain ⟨resource, hmem, hn, hk, ho, -⟩ := h
  exact ⟨resource, hmem, hn, hk, ho⟩

theorem Backed.survives (h : Backed j store op)
    (hs : Survives store store' op.idempotencyToken) : Backed j store' op := by
  obtain ⟨resource, hmem, hn, hk, ho, hp⟩ := h
  obtain ⟨resource', hmem', hn', ho', hk', hp'⟩ := hs resource hmem hn
  exact ⟨resource', hmem', hn', hk'.trans hk, fun h => hp' (ho (ho' j ▸ h)), fun h => hp' (hp h)⟩

theorem Known.survives (h : Known j store op)
    (hs : Survives store store' op.idempotencyToken) : Known j store' op := by
  obtain ⟨resource, hmem, hn, hk, ho⟩ := h
  obtain ⟨resource', hmem', hn', ho', hk', hp'⟩ := hs resource hmem hn
  exact ⟨resource', hmem', hn', hk'.trans hk, fun h => hp' (ho (ho' j ▸ h))⟩

end

variable (cfg : Nat → JournalConfig) (n : Nat)

namespace Cluster

/-- The operations in the slice of a replica have distinct tokens and are backed. -/
def Sound (w : Cluster) (r : Nat) : Prop :=
  ((w.replicas r).operations.map (·.idempotencyToken)).Nodup ∧
    ∀ op ∈ (w.replicas r).operations, Backed (journal cfg r) w.store op

/-- The slices of the replicas whose mutex is free are sound. -/
def Inv (w : Cluster) : Prop := ∀ r < n, (w.replicas r).mutex = none → w.Sound cfg r

structure Holds (w : Cluster) (i r : Nat) (job : JournalJob) : Prop where
  lt : r < n
  mutex : (w.replicas r).mutex = some i
  jobs : w.jobs i = some job
  replica : job.replica = r

def OnlyIn (w : Cluster) (replica : Nat) (token : String) : Prop :=
  ∀ r < n, r ≠ replica → ∀ op ∈ (w.replicas r).operations, op.idempotencyToken ≠ token

/-- No `CreateDeferredOperation` in its critical part is for the key of the operation. -/
def NotCreated (w : Cluster) (token : String) : Prop :=
  ∀ r < n, ∀ i ∈ (w.replicas r).mutex, ∀ job ∈ w.jobs i, ∀ op ∈ job.creates,
    ∀ resource ∈ w.store.items, resource.name = token → resource.op.key ≠ op.key

def NotShared (w : Cluster) (i : Nat) (token : String) : Prop :=
  (∀ job ∈ w.jobs i, w.OnlyIn n job.replica token) ∧ w.NotCreated n token

instance (w : Cluster) (replica : Nat) (token : String) : Decidable (w.OnlyIn n replica token) :=
  Nat.decidableBallLT n _

instance (w : Cluster) (token : String) : Decidable (w.NotCreated n token) :=
  Nat.decidableBallLT n _

instance (w : Cluster) (i : Nat) (token : String) : Decidable (w.NotShared n i token) :=
  inferInstanceAs (Decidable (_ ∧ _))

end Cluster

def JournalCall.retires : JournalCall → Option String
  | .delete token => some token
  | .patch op => if isPendingOperation op.status then none else some op.idempotencyToken
  | _ => none

def RetiresAlone (w : Cluster) (i : Nat) (c : JournalCall) : Prop :=
  ∀ token ∈ c.retires, w.NotShared n i token

instance (w : Cluster) (i : Nat) (c : JournalCall) : Decidable (RetiresAlone n w i c) :=
  Option.decidableForallMem _

def JournalCall.quiet : JournalCall → Bool
  | .lock _ | .unlock _ _ | .setOperations _ _ | .create _ | .patch _ | .delete _ => false
  | _ => true

structure JournalRely (i : Nat) (w w' : Cluster) : Prop where
  jobs : w'.jobs i = w.jobs i
  replicas : ∀ r < n, (w.replicas r).mutex = some i → w'.replicas r = w.replicas r
  slice : ∀ r < n, (w.replicas r).mutex = some i → ∀ op ∈ (w.replicas r).operations,
    Survives w.store w'.store op.idempotencyToken
  creates : ∀ r < n, (w.replicas r).mutex = some i → ∀ job ∈ w.jobs i, ∀ op ∈ job.creates,
    ∀ resource ∈ w.store, resource.op.key = op.key → Survives w.store w'.store resource.name

def JournalIssue (i : Nat) (w : Cluster) : JournalCall → Prop
  | .unlock r created => (∃ job, w.Holds n i r job) ∧ w.Sound cfg r ∧
      ∀ result ∈ created, HasPending w.store result.1.key
  | .setOperations r _ => ∃ job, w.Holds n i r job
  | .patch op => (∃ r job, w.Holds n i r job) ∧
      ∀ resource ∈ w.store, resource.name = op.idempotencyToken → resource.op.key = op.key
  | .delete _ => ∃ r job, w.Holds n i r job
  | _ => True

def journalContract (i : Nat) : Contract JournalCall JournalAnswer Cluster where
  inv := Cluster.Inv cfg n
  rely _ := JournalRely n i
  answers w c r w' := w.serve i c r = some w' ∧ RetiresAlone n w i c
  issue := JournalIssue cfg n i
  rely_refl _ w := ⟨rfl, fun _ _ _ => rfl, fun _ _ _ _ _ => .refl _ _,
    fun _ _ _ _ _ _ _ _ _ _ => .refl _ _⟩
  rely_trans _ w w' w'' h h' := by
    refine ⟨h'.jobs.trans h.jobs, fun r hr hm => ?_, fun r hr hm op hop => ?_, ?_⟩
    · have hs := h.replicas r hr hm
      rw [← hs] at hm ⊢
      exact h'.replicas r hr hm
    · have hs := h.replicas r hr hm
      exact (h.slice r hr hm op hop).trans (h'.slice r hr (by rwa [hs]) op (by rwa [hs]))
    · intro r hr hm job hj op hop resource hmem hk
      have hs := h.replicas r hr hm
      have hsu := h.creates r hr hm job hj op hop resource hmem hk
      obtain ⟨resource', hmem', hn', -, hk', -⟩ := hsu resource hmem rfl
      refine hsu.trans ?_
      rw [← hn']
      exact h'.creates r hr (by rwa [hs]) job (by rwa [h.jobs]) op hop resource' hmem'
        (hk'.trans hk)

namespace Cluster

inductive Effect (w : Cluster) (i : Nat) : JournalCall → Cluster → Prop where
  | quiet {c : JournalCall} {w' : Cluster} : w'.store = w.store → w'.replicas = w.replicas →
      w'.jobs = w.jobs → Effect w i c w'
  | lock {r : Nat} : (w.replicas r).mutex = none →
      Effect w i (.lock r) (w.setReplica r { w.replicas r with mutex := some i })
  | unlock {r : Nat} {created : Option (DeferredOperation × String)} :
      Effect w i (.unlock r created) (w.setReplica r { w.replicas r with mutex := none })
  | setOperations {r : Nat} {operations : List DeferredOperation} :
      Effect w i (.setOperations r operations)
        (w.setReplica r { w.replicas r with operations := operations })
  | create {resource : Resource} {store : Store} : w.store.insert resource = some store →
      Effect w i (.create resource) { w with store := store }
  | patch {op : DeferredOperation} :
      Effect w i (.patch op) { w with store := Store.patch w.store op }
  | delete {token : String} : Effect w i (.delete token) { w with store := w.store.erase token }

variable {w w' : Cluster} {i : Nat} {c : JournalCall}

theorem serve_effect {r : JournalAnswer c} (h : w.serve i c r = some w') : w.Effect i c w' := by
  cases serve_act h with
  | none => exact .quiet rfl rfl rfl
  | lock hm => exact .lock hm
  | unlock => exact .unlock
  | setOperations => exact .setOperations
  | createLease => exact .quiet rfl rfl rfl
  | updateLease => exact .quiet rfl rfl rfl
  | deleteLease => exact .quiet rfl rfl rfl
  | create hs => exact .create hs
  | patch => exact .patch
  | delete => exact .delete

theorem serve_quiet {r : JournalAnswer c} (h : w.serve i c r = some w') (hc : c.quiet = true) :
    w'.store = w.store ∧ w'.replicas = w.replicas ∧ w'.jobs = w.jobs := by
  cases serve_effect h with
  | quiet hs hr hj => exact ⟨hs, hr, hj⟩
  | lock => cases hc
  | unlock => cases hc
  | setOperations => cases hc
  | create => cases hc
  | patch => cases hc
  | delete => cases hc

variable {cfg n} {r : Nat}

theorem NotShared.ne_of_mem {token : String} {r' : Nat} {job : JournalJob}
    {op : DeferredOperation} (h : w.NotShared n i token) (hh : w.Holds n i r job)
    (hr' : r' < n) (hne : r' ≠ r) (hop : op ∈ (w.replicas r').operations) :
    op.idempotencyToken ≠ token :=
  h.1 job hh.jobs r' hr' (by rwa [hh.replica]) op hop

variable (he : w.Effect i c w')

include he

theorem Effect.survives (hi : JournalIssue cfg n i w c) (hr : RetiresAlone n w i c) {name : String}
    (hn : ∀ r job token, w.Holds n i r job → w.NotShared n i token → name ≠ token) :
    Survives w.store w'.store name := by
  cases he with
  | quiet hs => rw [hs]; exact .refl _ _
  | lock => exact .refl _ _
  | unlock => exact .refl _ _
  | setOperations => exact .refl _ _
  | create hs => exact .insert hs
  | patch =>
    obtain ⟨⟨r, job, hh⟩, hk⟩ := hi
    refine .patch hk fun hop => ?_
    by_contra hp
    refine hn r job name hh (hr name ?_) rfl
    simp [JournalCall.retires, hp, hop]
  | @delete token =>
    obtain ⟨r, job, hh⟩ := hi
    exact .erase (hn r job token hh (hr token rfl))

theorem Effect.replicas_eq (his : JournalIssue cfg n i w c) {j : Nat} (hj : j ≠ i)
    (hm : (w.replicas r).mutex = some j) : w'.replicas r = w.replicas r := by
  have hne : ∀ r', (w.replicas r').mutex = some i → r ≠ r' := by
    rintro r' hi rfl
    exact hj (Option.some.inj (hm.symm.trans hi))
  cases he with
  | quiet _ hr => rw [hr]
  | @lock r' hf =>
    rw [setReplica_replicas, if_neg]
    rintro rfl
    simp [hf] at hm
  | unlock =>
    obtain ⟨⟨job, hh⟩, -⟩ := his
    rw [setReplica_replicas, if_neg (hne _ hh.mutex)]
  | setOperations =>
    obtain ⟨job, hh⟩ := his
    rw [setReplica_replicas, if_neg (hne _ hh.mutex)]
  | create => rfl
  | patch => rfl
  | delete => rfl

theorem Effect.jobs_eq : w'.jobs = w.jobs := by
  cases he with
  | quiet _ _ hj => exact hj
  | lock => rfl
  | unlock => rfl
  | setOperations => rfl
  | create => rfl
  | patch => rfl
  | delete => rfl

theorem Effect.rely (hi : JournalIssue cfg n i w c) (hre : RetiresAlone n w i c) {j : Nat}
    (hj : j ≠ i) : JournalRely n j w w' := by
  refine ⟨by rw [he.jobs_eq], fun r _ hm => he.replicas_eq hi hj hm, ?_, ?_⟩
  · intro r hr hm op hop
    refine he.survives hi hre fun r' job token hh hs => ?_
    refine hs.ne_of_mem hh hr ?_ hop
    rintro rfl
    exact hj (Option.some.inj (hm.symm.trans hh.mutex))
  · intro r hr hm job hjo op hop resource hmem hk
    refine he.survives hi hre ?_
    rintro r' job' _ - hs rfl
    exact hs.2 r hr j hm job hjo op hop resource hmem rfl hk

theorem Effect.operations_eq (hi : JournalIssue cfg n i w c) (hm : (w.replicas r).mutex = none) :
    (w'.replicas r).operations = (w.replicas r).operations := by
  cases he with
  | quiet _ hr => rw [hr]
  | lock =>
    rw [setReplica_replicas]
    split
    case isTrue h => rw [h]
    case isFalse => rfl
  | unlock =>
    rw [setReplica_replicas]
    split
    case isTrue h => rw [h]
    case isFalse => rfl
  | setOperations =>
    obtain ⟨job, hh⟩ := hi
    rw [setReplica_replicas, if_neg]
    rintro rfl
    simp [hh.mutex] at hm
  | create => rfl
  | patch => rfl
  | delete => rfl

theorem Effect.eq_unlock (hm : (w.replicas r).mutex ≠ none) (hf : (w'.replicas r).mutex = none) :
    ∃ created, c = .unlock r created ∧
      w' = w.setReplica r { w.replicas r with mutex := none } := by
  cases he with
  | quiet _ hr => exact absurd (hr ▸ hf) hm
  | lock =>
    rw [setReplica_replicas] at hf
    split at hf
    · simp at hf
    · exact absurd hf hm
  | @unlock r' created =>
    rw [setReplica_replicas] at hf
    split at hf
    case isTrue h =>
      subst h
      exact ⟨created, rfl, rfl⟩
    case isFalse => exact absurd hf hm
  | setOperations =>
    rw [setReplica_replicas] at hf
    split at hf
    case isTrue h => exact absurd (h ▸ hf) hm
    case isFalse => exact absurd hf hm
  | create => exact absurd hf hm
  | patch => exact absurd hf hm
  | delete => exact absurd hf hm

theorem Effect.inv (hin : w.Inv cfg n) (hi : JournalIssue cfg n i w c) (hre : RetiresAlone n w i c) :
    w'.Inv cfg n := by
  intro r hr hf
  by_cases hm : (w.replicas r).mutex = none
  · obtain ⟨hn, hb⟩ := hin r hr hm
    rw [Sound, he.operations_eq hi hm]
    refine ⟨hn, fun op hop => (hb op hop).survives ?_⟩
    refine he.survives hi hre fun r' job token hh hs => ?_
    refine hs.ne_of_mem hh hr ?_ hop
    rintro rfl
    simp [hh.mutex] at hm
  · obtain ⟨created, rfl, rfl⟩ := he.eq_unlock hm hf
    rw [Sound, setReplica_replicas, if_pos rfl]
    exact hi.2.1

omit he

end Cluster

end PowerMaxCsi.Journal
