import PowerMaxCsi.Proxy.Admission

/-!
# The order in which the lock server grants a resource

Requests that are not refused are granted in the order in which they came, and none is lost when an
entry is deleted to take over new limits.
-/

namespace PowerMaxCsi.Proxy

open Option

/-- As the callers of one resource see it: the channels that hold the lock, that were not refused,
and that were granted, oldest first. -/
structure LockServer where
  fifoLocks : LockTable
  (holders accepted granted : List Nat)

inductive LockEvent where
  | lock (waitChannel : Nat) (maxOutStanding maxActive : Int)
  | release (waitChannel : Nat)

def grants (answers : List Answer) : List Nat := (answers.filter (·.2)).map (·.1)

/-- The server takes requests for a resource; only who holds the lock releases it. -/
def lockServer (resourceID : String) : Machine LockServer LockEvent where
  init := ⟨fun _ => none, [], [], []⟩
  step s
    | .lock waitChannel maxOutStanding maxActive =>
      if 1 ≤ maxActive then
        (lockRequestHandler s.fifoLocks
          ⟨resourceID, false, waitChannel, maxOutStanding, maxActive⟩).map fun served =>
            ⟨served.1, s.holders ++ grants served.2,
              s.accepted ++ (if (waitChannel, false) ∈ served.2 then [] else [waitChannel]),
              s.granted ++ grants served.2⟩
      else none
    | .release waitChannel =>
      if waitChannel ∈ s.holders then
        (lockRequestHandler s.fifoLocks ⟨resourceID, true, waitChannel, 0, 0⟩).map fun served =>
          ⟨served.1, s.holders.erase waitChannel ++ grants served.2, s.accepted,
            s.granted ++ grants served.2⟩
      else none

def waiting (entry : Option LockProperties) : List Nat :=
  (entry.map LockProperties.waitChannel).getD []

/-- The entry counts the holders, requests wait only for a slot, and they are not too many. -/
def Serving (entry : Option LockProperties) (holders : Nat) : Prop :=
  EntryOk entry holders ∧
    ∀ p ∈ entry, 1 ≤ p.maxActive ∧ (p.waitChannel.length : Int) ≤ p.maxOutStanding

variable {p : LockProperties} {holders : Nat}

theorem Serving.queue (h : Serving (some p) holders) (request : LockRequest) :
    Serving (some (p.queue request).1) (holders + (grants (p.queue request).2).length) ∧
      grants (p.queue request).2 ++ (p.queue request).1.waitChannel =
        p.waitChannel ++
          if (request.waitChannel, false) ∈ (p.queue request).2 then []
          else [request.waitChannel] := by
  obtain ⟨⟨ha, hle, hf⟩, hl⟩ := h
  obtain ⟨hm, ho⟩ := hl p rfl
  rcases p.queue_cases request with ⟨hs, hq⟩ | ⟨hs, hr, hq⟩ | ⟨hs, hq⟩
  · have hn : p.waitChannel = [] := by
      by_contra hne
      exact absurd (hf hne) (by omega)
    rw [hq]
    simp [Serving, EntryOk, grants, hn] at ho ⊢
    omega
  · rw [hq]
    simp [Serving, EntryOk, grants]
    omega
  · rw [hq]
    simp [Serving, EntryOk, grants]
    exact ⟨⟨ha, hle, hf⟩, hm, ho⟩

theorem Serving.release (h : Serving (some p) (holders + 1)) :
    Serving (if p.handOver.1.active = 0 ∧ p.handOver.1.modified then none else some p.handOver.1)
        (holders + (grants p.handOver.2).length) ∧
      grants p.handOver.2 ++ waiting
        (if p.handOver.1.active = 0 ∧ p.handOver.1.modified then none else some p.handOver.1) =
          p.waitChannel := by
  obtain ⟨⟨ha, hle, hf⟩, hl⟩ := h
  obtain ⟨hm, ho⟩ := hl p rfl
  rcases p.handOver_cases with ⟨hfu, next, rest, hw, hov⟩ | ⟨hem, hov⟩
  · have hk : ¬ (p.active = 0 ∧ p.modified = true) := by omega
    simp [hov, hk, Serving, EntryOk, grants, waiting, hw] at ho ⊢
    omega
  · have hn : p.waitChannel = [] := by
      by_contra hne
      exact hne (hem (hf hne))
    rw [hov]
    split <;> simp [Serving, EntryOk, grants, waiting, hn] at * <;> omega

namespace LockServer

variable {resourceID : String} {s s' : LockServer} {e : LockEvent}

/-- Without an entry there is no holder, and requests are granted in the order in which they
came. -/
structure Orderly (resourceID : String) (s : LockServer) : Prop where
  serving : Serving (s.fifoLocks resourceID) s.holders.length
  order : s.granted ++ waiting (s.fifoLocks resourceID) = s.accepted

theorem Orderly.lockProps {request : LockRequest} (h : s.Orderly request.resourceID)
    (hm : 1 ≤ request.maxActive) (hp : Proxy.lockProps s.fifoLocks request = some p) :
    Serving (some p) s.holders.length ∧
      waiting (s.fifoLocks request.resourceID) = p.waitChannel := by
  have he : EntryOk (some p) _ := entryOk_lockProps h.serving.1 (by omega) hp
  unfold Proxy.lockProps at hp
  cases ht : s.fifoLocks request.resourceID with
  | some p' =>
    rw [ht] at hp
    cases hp
    exact ⟨⟨he, ht ▸ h.serving.2⟩, rfl⟩
  | none =>
    rw [ht] at hp
    obtain ⟨ho, hp⟩ := ite_none_left_eq_some.mp hp
    cases hp
    exact ⟨⟨he, by simpa using ⟨hm, Int.not_lt.mp ho⟩⟩, rfl⟩

theorem Orderly.step (h : s.Orderly resourceID)
    (hst : (lockServer resourceID).step s e = some s') : s'.Orderly resourceID := by
  have ho := h.order
  cases e with
  | lock waitChannel maxOutStanding maxActive =>
    obtain ⟨hm, hst⟩ := ite_none_right_eq_some.mp hst
    obtain ⟨_, hh, rfl⟩ := map_eq_some_iff.mp hst
    obtain ⟨p, hp, rfl⟩ := map_eq_some_iff.mp hh
    obtain ⟨hs, hw⟩ := h.lockProps hm hp
    obtain ⟨hq, hwq⟩ := hs.queue ⟨resourceID, false, waitChannel, maxOutStanding, maxActive⟩
    refine ⟨by simpa using hq, ?_⟩
    rw [hw] at ho
    simp [waiting, ← ho, hwq]
  | release waitChannel =>
    obtain ⟨hmem, hst⟩ := ite_none_right_eq_some.mp hst
    have hlen := List.length_erase_add_one hmem
    have hs := h.serving
    rw [← hlen] at hs
    cases ht : s.fifoLocks resourceID with
    | none =>
      rw [ht] at hs
      exact absurd hs.1 (Nat.succ_ne_zero _)
    | some p =>
      rw [ht] at hs ho
      obtain ⟨hr, hw⟩ := hs.release
      simp only [lockRequestHandler, Proxy.lockProps, ht, release_eq, map_some, if_true,
        some.injEq] at hst
      subst hst
      refine ⟨by simpa using hr, ?_⟩
      simp only [Function.update_self, List.append_assoc, hw]
      exact ho

/-- The server grants the requests for a resource in order, and loses none. -/
theorem orderly_of_run (resourceID : String) (events : List LockEvent) (s : LockServer)
    (hru : (lockServer resourceID).run (lockServer resourceID).init events = some s) :
    s.Orderly resourceID := by
  refine Machine.run_invariant _ (G := fun _ _ => True) (fun _ _ _ h _ hst => h.step hst) ?_
    (Machine.along_of_forall _ (fun _ _ _ => trivial) _) hru
  exact ⟨⟨rfl, by simp [lockServer]⟩, rfl⟩

theorem orderly_two : ∃ s, (lockServer "u-Read").run (lockServer "u-Read").init
    [.lock 0 1 1, .lock 1 2 1, .release 0, .release 1] = some s ∧ s.granted = [0, 1] ∧
      s.Orderly "u-Read" :=
  ⟨_, rfl, rfl, orderly_of_run "u-Read" [.lock 0 1 1, .lock 1 2 1, .release 0, .release 1] _ rfl⟩

end LockServer

end PowerMaxCsi.Proxy
