import Mathlib.Data.List.Nodup

/-!
# An unbounded first-in, first-out lock

The tickets that ever asked for the lock are one list, cut in three: those that are through with it,
the holder, and those that wait.  The field `idle` rules out the lost wake-up.
-/

universe u v

/-- A lock, with the history of its tickets. -/
@[ext]
structure FifoLock (κ : Type u) where
  released : List κ
  holder : Option κ
  waiters : List κ
  idle : holder = none → waiters = []

namespace FifoLock

open List

variable {κ : Type u} {ι : Type v}

def free : FifoLock κ where
  released := []
  holder := none
  waiters := []
  idle _ := rfl

def granted (l : FifoLock κ) : List κ := l.released ++ l.holder.toList

def received (l : FifoLock κ) : List κ := l.granted ++ l.waiters

def lock (l : FifoLock κ) (n : κ) : FifoLock κ where
  released := l.released
  holder := some (l.holder.getD n)
  waiters := if l.holder = none then [] else l.waiters ++ [n]
  idle h := by simp at h

/-- Ticket `n` gives the lock back; without effect if it does not hold it. -/
def unlock [DecidableEq κ] (l : FifoLock κ) (n : κ) : FifoLock κ :=
  if l.holder = some n then
    { released := l.released ++ [n]
      holder := l.waiters.head?
      waiters := l.waiters.tail
      idle := fun h => by simp [List.head?_eq_none_iff.mp h] }
  else l

@[simp] theorem free_holder : (free : FifoLock κ).holder = none := rfl
@[simp] theorem free_waiters : (free : FifoLock κ).waiters = [] := rfl
@[simp] theorem free_granted : (free : FifoLock κ).granted = [] := rfl
@[simp] theorem free_received : (free : FifoLock κ).received = [] := rfl

variable {l : FifoLock κ} {n : κ}

theorem lock_of_free (h : l.holder = none) (n : κ) :
    (l.lock n).holder = some n ∧ (l.lock n).waiters = [] := by
  simp [lock, h]

theorem lock_of_held {m : κ} (h : l.holder = some m) (n : κ) :
    (l.lock n).holder = some m ∧ (l.lock n).waiters = l.waiters ++ [n] := by
  simp [lock, h]

@[simp] theorem lock_released (l : FifoLock κ) (n : κ) : (l.lock n).released = l.released := rfl

@[simp] theorem lock_received (l : FifoLock κ) (n : κ) :
    (l.lock n).received = l.received ++ [n] := by
  cases h : l.holder with
  | none => simp [received, granted, lock, h, l.idle h]
  | some m => simp [received, granted, lock, h]

section

variable [DecidableEq κ]

theorem unlock_of_ne (h : l.holder ≠ some n) : l.unlock n = l :=
  if_neg h

theorem unlock_of_holder (h : l.holder = some n) :
    (l.unlock n).released = l.released ++ [n] ∧ (l.unlock n).holder = l.waiters.head? ∧
      (l.unlock n).waiters = l.waiters.tail := by
  simp [unlock, h]

theorem unlock_granted (h : l.holder = some n) :
    (l.unlock n).granted = l.granted ++ l.waiters.head?.toList := by
  obtain ⟨hr, hh, -⟩ := unlock_of_holder h
  simp [granted, hr, hh, h]

@[simp] theorem unlock_received (l : FifoLock κ) (n : κ) : (l.unlock n).received = l.received := by
  by_cases h : l.holder = some n
  · obtain ⟨hr, hh, hw⟩ := unlock_of_holder h
    simp only [received, granted, hr, hh, hw, h]
    cases l.waiters <;> simp
  · rw [unlock_of_ne h]

end

theorem granted_prefix_received (l : FifoLock κ) : l.granted <+: l.received :=
  prefix_append _ _

theorem mem_received_of_holder (h : l.holder = some n) : n ∈ l.received := by
  simp [received, granted, h]

theorem holder_notMem_released (hn : l.received.Nodup) (h : l.holder = some n) :
    n ∉ l.released := by
  have hg : l.granted.Nodup := hn.sublist l.granted_prefix_received.sublist
  rw [granted, h] at hg
  exact fun hmem => disjoint_of_nodup_append hg hmem (by simp)

theorem granted_filter_notMem_released [DecidableEq κ] (hno : l.received.Nodup) :
    l.granted.filter (fun n => decide (n ∉ l.released)) = l.holder.toList := by
  have hr : l.released.filter (fun n => decide (n ∉ l.released)) = [] :=
    filter_eq_nil_iff.mpr fun n hn => by simp [hn]
  rw [granted, filter_append, hr, nil_append, filter_eq_self]
  intro n hn
  simpa using holder_notMem_released hno (by simpa using hn)

theorem waiters_nodup (hn : l.received.Nodup) : l.waiters.Nodup :=
  hn.sublist (sublist_append_right _ _)

theorem holder_notMem_waiters (hn : l.received.Nodup) (h : l.holder = some n) :
    n ∉ l.waiters := fun hmem =>
  disjoint_of_nodup_append hn (by simp [granted, h]) hmem

end FifoLock
