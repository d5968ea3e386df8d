import PowerMaxCsi.Service.LockRefinement

/-!
# What the lock manager guarantees, and when its handler finishes

With fresh lock numbers, unlock requests from holders only, and at most 100 waiting requests for a
resource, `LockState.Serves` holds.  The 101st blocks the handler for good.
-/

namespace PowerMaxCsi.Service

open Function List Option Nat FifoLock

namespace LockState

/-- A new request has a fresh lock number and finds fewer than 100 waiting requests; an unlock
request comes from a holder. -/
def Disciplined (s : LockState) : LockEvent → Prop
  | .requestLock res n => (n : Int) ∉ s.received.map Prod.snd ∧
      ((s.fifolocks res).elim 0 fun info => info.lockRequests.length) < lockRequestsCapacity
  | .releaseLock res n => (n : Int) ∈ s.holders res
  | .acquire _ | .cleanup _ => True

instance (s : LockState) : (e : LockEvent) → Decidable (s.Disciplined e)
  | .requestLock _ _ => inferInstanceAs (Decidable (_ ∧ _))
  | .releaseLock res n => inferInstanceAs (Decidable ((n : Int) ∈ s.holders res))
  | .acquire _ | .cleanup _ => .isTrue trivial

structure Serves (s : LockState) : Prop where
  one : ∀ res, (s.holders res).length ≤ 1
  order : ∀ res, numbersOf s.granted res <+: numbersOf s.received res
  next : ∀ res (n : Nat) info w rest, (n : Int) ∈ s.holders res → s.fifolocks res = some info →
    info.lockRequests = w :: rest →
    ∃ s', lockMachine.step s (.releaseLock res n) = some s' ∧
      s'.granted = s.granted ++ [(res, w.lockNumber)] ∧ s'.holders res = [w.lockNumber] ∧
      ∃ info', s'.fifolocks res = some info' ∧ info'.currentLockNumber = w.lockNumber ∧
        info'.lockRequests = rest
  cleanup : ∀ res info visited, s.fifolocks res = some info →
    s.holders res ≠ [] ∨ info.lockRequests ≠ [] →
    cleanupMapEntries s.fifolocks visited res = some info

/-- The state stands for ideal locks with at most 100 requests waiting for a resource. -/
structure Served (s : LockState) (a : IdealLocks) : Prop extends s.Refines a where
  released : ∀ res, numbersOf s.released res = (a res).released
  room : ∀ res, (a res).waiters.length ≤ lockRequestsCapacity

theorem holders_eq_filter (s : LockState) (res : String) :
    s.holders res =
      (numbersOf s.granted res).filter fun n => decide (n ∉ numbersOf s.released res) := by
  rw [numbersOf.eq_def s.granted, List.filter_map, List.filter_filter]
  refine congrArg (List.map Prod.snd) (filter_congr ?_)
  rintro ⟨r, n⟩ -
  by_cases hr : r = res
  · subst hr
    simp [mem_numbersOf]
  · simp [hr]

variable {s : LockState} {a : IdealLocks} (h : s.Served a)

include h

theorem Served.holders_eq (res : String) : s.holders res = (a res).holder.toList := by
  rw [holders_eq_filter, (h.lock res).granted, h.released res]
  exact granted_filter_notMem_released (received_nodup h.toRefines res)

variable {res : String}

theorem Served.mem_holders {n : Int} : n ∈ s.holders res ↔ (a res).holder = some n := by
  rw [h.holders_eq, mem_toList]

theorem Served.releaseLock {s' : LockState} {n : Nat} (hn : (a res).holder = some (n : Int))
    (hre : s'.released = s.released ++ [(res, (n : Int))])
    (hr : s'.Refines (idealStep a (.releaseLock res n))) :
    s'.Served (idealStep a (.releaseLock res n)) := by
  obtain ⟨hre', -, hw⟩ := unlock_of_holder hn
  refine ⟨hr, fun r => ?_, fun r => ?_⟩ <;> by_cases hr : r = res
  · subst hr
    simp only [idealStep, update_self]
    rw [hre, numbersOf_append_self, h.released r, hre']
  · simp only [idealStep, update_of_ne hr]
    rw [hre, numbersOf_append_ne _ hr, h.released r]
  · subst hr
    simp only [idealStep, update_self, hw, length_tail]
    exact Nat.le_trans (Nat.sub_le _ _) (h.room r)
  · simp only [idealStep, update_of_ne hr]
    exact h.room r

theorem Served.serves : s.Serves where
  one res := by
    rw [h.holders_eq]
    cases (a res).holder <;> simp
  order res := by
    rw [(h.lock res).granted, (h.lock res).received]
    exact (a res).granted_prefix_received
  next res n info w rest hn hf hq := by
    have hh := h.mem_holders.mp hn
    obtain ⟨s', hs, -, hre, hg, hf', hr⟩ :=
      h.toRefines.releaseLock_next hh hf hq
    refine ⟨s', lockMachine_step_ok hs, hg, ?_, _, hf', rfl, rfl⟩
    obtain ⟨info', hf₂, hw, -⟩ := h.toRefines.held hh
    obtain rfl : info = info' := some.inj (hf.symm.trans hf₂)
    have hhe : (idealStep a (.releaseLock res n) res).holder = some w.lockNumber := by
      simp [idealStep, (unlock_of_holder hh).2.1, ← hw, hq]
    rw [(h.releaseLock hh hre hr).holders_eq, hhe, toList_some]
  cleanup res info visited hf hu := by
    cases hh : (a res).holder with
    | some n => exact (h.toRefines.cleanup_held hh visited).trans hf
    | none =>
      rcases hu with hu | hu
      · exact absurd (by simp [h.holders_eq, hh]) hu
      · exact absurd (h.toRefines.idle hh hf).1 hu

theorem Served.room_requestLock (n : Nat)
    (hro : ((s.fifolocks res).elim 0 fun info => info.lockRequests.length) < lockRequestsCapacity)
    (r : String) : (idealStep a (.requestLock res n) r).waiters.length ≤ lockRequestsCapacity := by
  by_cases hr : r = res
  · subst hr
    simp only [idealStep, update_self]
    cases hh : (a r).holder with
    | none =>
      rw [(lock_of_free hh _).2]
      exact zero_le _
    | some m =>
      obtain ⟨info, hf, hw, -⟩ := h.toRefines.held hh
      rw [(lock_of_held hh _).2, ← hw, length_append, length_map]
      rw [hf] at hro
      exact hro
  · simp only [idealStep, update_of_ne hr]
    exact h.room r

theorem Served.step {e : LockEvent} (hG : s.Disciplined e) :
    ∃ s', s.step e = .ok s' ∧ s'.Served (idealStep a e) := by
  cases e with
  | requestLock res n =>
    have hro := h.room_requestLock n hG.2
    have hfr : s.Fresh (.requestLock res n) := hG.1
    obtain ⟨s', hs, -, hre, hr⟩ := h.toRefines.step hfr hro
    refine ⟨s', hs, hr, fun r => ?_, hro⟩
    simp only [hre, LockEvent.releases, append_nil, h.released r]
    by_cases hr : r = res
    · subst hr
      simp [idealStep]
    · simp [idealStep, hr]
  | releaseLock res n =>
    have hh := h.mem_holders.mp hG
    obtain ⟨info, hf, hw, -⟩ := h.toRefines.held hh
    cases hq : info.lockRequests with
    | nil =>
      rw [hq] at hw
      obtain ⟨s', hs, -, hre, hr⟩ := h.toRefines.releaseLock_last hh hw.symm
      exact ⟨s', hs, h.releaseLock hh hre hr⟩
    | cons w rest =>
      obtain ⟨s', hs, -, hre, -, -, hr⟩ := h.toRefines.releaseLock_next hh hf hq
      exact ⟨s', hs, h.releaseLock hh hre hr⟩
  | acquire ch => exact ⟨_, rfl, h.toRefines.acquire ch, h.released, h.room⟩
  | cleanup visited => exact ⟨_, rfl, h.toRefines.cleanup visited, h.released, h.room⟩

omit h

theorem served_init : lockMachine.init.Served fun _ => .free :=
  ⟨refines_init, fun _ => rfl, fun _ => zero_le _⟩

end LockState

/-- **The lock manager.**  Along a disciplined run every request is finished, with the
guarantees. -/
theorem lockManager_serves (es : List LockEvent)
    (hG : lockMachine.Along LockState.Disciplined lockMachine.init es) :
    ∃ s, lockMachine.run lockMachine.init es = some s ∧ s.Serves := by
  obtain ⟨s, hr, a, hs⟩ := lockMachine.run_progress (I := fun s => ∃ a, s.Served a)
    (fun s e ⟨a, hs⟩ hG => by
      obtain ⟨s', hst, hs'⟩ := hs.step hG
      exact ⟨s', lockMachine_step_ok hst, _, hs'⟩)
    ⟨_, LockState.served_init⟩ hG
  exact ⟨s, hr, hs.serves⟩

/-- Two requests for a resource, a cleanup pass, and the first one gives it back. -/
theorem lockManager_serves_two :
    ∃ s, lockMachine.run lockMachine.init [.requestLock "r" 7, .requestLock "r" 5,
        .cleanup ["r"], .acquire 0, .releaseLock "r" 7] = some s ∧ s.Serves :=
  lockManager_serves _ (by decide)

def lockRequests (es : List LockEvent) : List (String × Int) := es.flatMap LockEvent.requests

def idealLocks (es : List LockEvent) : IdealLocks := es.foldl idealStep fun _ => .free

/-- A list of events never makes more than 100 requests wait for one resource. -/
def NeverOverfull (a : IdealLocks) (es : List LockEvent) : Prop :=
  ∀ pre, pre <+: es → ∀ res, (pre.foldl idealStep a res).waiters.length ≤ lockRequestsCapacity

variable {a : IdealLocks} {es : List LockEvent}
  (ha : ∀ res, (a res).waiters.length ≤ lockRequestsCapacity)

include ha

theorem neverOverfull_cons {e : LockEvent} :
    NeverOverfull a (e :: es) ↔
      (∀ res, (idealStep a e res).waiters.length ≤ lockRequestsCapacity) ∧
        NeverOverfull (idealStep a e) es := by
  constructor
  · intro h
    exact ⟨h [e] (by simp), fun pre hp => h (e :: pre) (by simpa using hp)⟩
  · rintro ⟨-, h⟩ pre hp
    rcases prefix_cons_iff.mp hp with rfl | ⟨pre, rfl, hp'⟩
    · exact ha
    · exact h pre hp'

/-- The handler finishes requests with fresh numbers exactly if no more than 100 ever wait. -/
theorem LockState.Refines.run_iff {s : LockState} (h : s.Refines a)
    (hf : ((s.received ++ lockRequests es).map Prod.snd).Nodup) :
    (∃ t, lockMachine.run s es = some t) ↔ NeverOverfull a es := by
  induction es generalizing s a with
  | nil => exact ⟨fun _ pre hp => prefix_nil.mp hp ▸ ha, fun _ => ⟨s, rfl⟩⟩
  | cons e es ih =>
    have he : s.Fresh e := by
      cases e with
      | requestLock res n =>
        rw [lockRequests, flatMap_cons, ← append_assoc, map_append] at hf
        have := hf.of_append_left
        rw [LockEvent.requests, map_append] at this
        exact fun hmem => disjoint_of_nodup_append this hmem (by simp)
      | _ => trivial
    rw [neverOverfull_cons ha]
    by_cases hro : ∀ res, (idealStep a e res).waiters.length ≤ lockRequestsCapacity
    · obtain ⟨s', hs, hre, -, hr⟩ := h.step he hro
      rw [lockMachine.run_cons, lockMachine_step_ok hs, bind_some, ih hro hr (by
        rwa [hre, append_assoc])]
      exact ⟨fun hes => ⟨hro, hes⟩, fun hes => hes.2⟩
    · simp only [hro]
      obtain ⟨res, hres⟩ := not_forall.mp hro
      rw [Nat.not_le] at hres
      simp [lockMachine_step_error (h.step_stuck he ha hres)]

omit ha

/-- **When the handler finishes.**  Exactly if never more than 100 requests for one resource have
been received and not yet granted. -/
theorem handler_finishes_iff (es : List LockEvent) (hf : ((lockRequests es).map Prod.snd).Nodup) :
    (∃ s, lockMachine.run lockMachine.init es = some s) ↔
      ∀ pre, pre <+: es → ∀ res, (idealLocks pre res).waiters.length ≤ lockRequestsCapacity :=
  LockState.refines_init.run_iff (fun _ => zero_le _) (by simpa [lockMachine] using hf)

theorem handler_finishes_two :
    ((∃ s, lockMachine.run lockMachine.init [.requestLock "r" 7, .requestLock "r" 5] = some s) ↔
      ∀ pre, pre <+: [.requestLock "r" 7, .requestLock "r" 5] →
        ∀ res, (idealLocks pre res).waiters.length ≤ lockRequestsCapacity) :=
  handler_finishes_iff _ (by decide)

def requestsFor (res : String) (k : Nat) : List LockEvent :=
  (List.range k).map (.requestLock res)

theorem requestsFor_succ (res : String) (k : Nat) :
    requestsFor res (k + 1) = requestsFor res k ++ [.requestLock res k] := by
  simp [requestsFor, range_succ]

theorem idealLocks_requestsFor (res : String) (k : Nat) :
    ((idealLocks (requestsFor res k) res).holder = none ↔ k = 0) ∧
      (idealLocks (requestsFor res k) res).waiters.length = k - 1 ∧
      ∀ r, r ≠ res → (idealLocks (requestsFor res k) r).waiters = [] := by
  induction k with
  | zero => exact ⟨⟨fun _ => rfl, fun _ => rfl⟩, rfl, fun _ _ => rfl⟩
  | succ k ih =>
    obtain ⟨hh, hl, ho⟩ := ih
    have hs : idealLocks (requestsFor res (k + 1)) =
        idealStep (idealLocks (requestsFor res k)) (.requestLock res k) := by
      simp [idealLocks, requestsFor_succ]
    rw [hs]
    refine ⟨by simp [idealStep, lock], ?_, fun r hr => ?_⟩
    · simp only [idealStep, update_self, lock]
      split
      case isTrue hf => simp [hh.mp hf]
      case isFalse hhe =>
        rw [length_append, length_singleton]
        have : k ≠ 0 := fun hk => hhe (hh.mpr hk)
        omega
    · simp [idealStep, update_of_ne hr, ho r hr]

variable {k : Nat}

theorem idealLocks_requestsFor_le (res : String) (hk : k ≤ lockRequestsCapacity + 1) (r : String) :
    (idealLocks (requestsFor res k) r).waiters.length ≤ lockRequestsCapacity := by
  obtain ⟨-, hl, ho⟩ := idealLocks_requestsFor res k
  by_cases hr : r = res
  · subst hr
    omega
  · simp [ho r hr]

theorem fresh_of_numbers {s : LockState}
    (h : s.received.map Prod.snd = (List.range k).map Nat.cast) (res : String) :
    s.Fresh (.requestLock res k) := by
  simp only [LockState.Fresh, h, List.mem_map, mem_range]
  omega

theorem run_requestsFor (res : String) (hk : k ≤ lockRequestsCapacity + 1) :
    ∃ s, lockMachine.run lockMachine.init (requestsFor res k) = some s ∧
      s.Refines (idealLocks (requestsFor res k)) ∧
      s.received.map Prod.snd = (List.range k).map Nat.cast := by
  induction k with
  | zero => exact ⟨_, rfl, LockState.refines_init, rfl⟩
  | succ k ih =>
    obtain ⟨s, hru, hre, hn⟩ := ih (by omega)
    have hi : idealLocks (requestsFor res (k + 1)) =
        idealStep (idealLocks (requestsFor res k)) (.requestLock res k) := by
      simp [idealLocks, requestsFor_succ]
    obtain ⟨s', hs, hr, -, hre'⟩ := hre.step (fresh_of_numbers hn res)
      (hi ▸ idealLocks_requestsFor_le res hk)
    refine ⟨s', ?_, hi ▸ hre', ?_⟩
    · rw [requestsFor_succ, lockMachine.run_append, hru]
      simp [lockMachine_step_ok hs]
    · simp [hr, LockEvent.requests, hn, range_succ]

/-- The 102nd request blocks: one number holds the resource, 100 wait, and no later request is
taken. -/
theorem requestsFor_blocks :
    ((lockRequests (requestsFor "r" 102)).map Prod.snd).Nodup ∧
    ∃ s, lockMachine.run lockMachine.init (requestsFor "r" 101) = some s ∧
      s.step (.requestLock "r" 101) = .error .lockRequestsFull ∧
      ∀ es, lockMachine.run lockMachine.init (requestsFor "r" 102 ++ es) = none := by
  obtain ⟨s, hr, hre, hn⟩ := run_requestsFor "r" (k := 101) (by decide)
  have hf : lockRequestsCapacity <
      (idealStep (idealLocks (requestsFor "r" 101)) (.requestLock "r" 101) "r").waiters.length := by
    have hi : idealStep (idealLocks (requestsFor "r" 101)) (.requestLock "r" 101) =
        idealLocks (requestsFor "r" 102) := by
      simp [idealLocks, requestsFor_succ "r" 101]
    rw [hi, (idealLocks_requestsFor "r" 102).2.1]
    decide
  have hs := hre.step_stuck (fresh_of_numbers hn "r") (idealLocks_requestsFor_le "r" (by decide)) hf
  refine ⟨by decide, s, hr, hs, fun es => ?_⟩
  rw [requestsFor_succ "r" 101, append_assoc, lockMachine.run_append, hr]
  simp [lockMachine_step_error hs]

end PowerMaxCsi.Service
