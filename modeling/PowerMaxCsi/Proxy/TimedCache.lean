import PowerMaxCsi.Lib.Machine

/-!
# The cache of the iterators

`csireverseproxy/pkg/cache/cache.go`.  `Set` starts a timer that deletes by key, and a second `Set`
of the key leaves the first timer running.
-/

namespace PowerMaxCsi.Proxy

open Function

structure CleanupTimer where
  id : Nat
  key : String
  due : Nat
deriving DecidableEq, Repr

structure CacheData (α : Type) where
  value : α
  cleanupTimer : CleanupTimer

/-- The cache with its timers, and what was set last for each key, and when. -/
structure TimedCache (α : Type) where
  clock : Nat
  store : String → Option (CacheData α)
  started : Nat
  timers : List CleanupTimer
  /-- The timers that have fired and whose callback has not run. -/
  fired : List CleanupTimer
  latest : String → Option (α × Nat)

inductive CacheEvent (α : Type) where
  | passTime (duration : Nat)
  | set (key : String) (value : α)
  | remove (key : String)
  | fire (timer : CleanupTimer)
  | cleanupCallback (timer : CleanupTimer)

namespace TimedCache

variable {α : Type} {ttl : Nat} {s s' : TimedCache α} {e : CacheEvent α}

def get (s : TimedCache α) (key : String) : Option α := (s.store key).map CacheData.value

/-- A value that was set is found until its time is over. -/
def KeepsValues (ttl : Nat) (s : TimedCache α) : Prop :=
  ∀ key value time, s.latest key = some (value, time) → s.clock < time + ttl →
    s.get key = some value

def SetAlone (s : TimedCache α) : CacheEvent α → Prop
  | .set key _ => ∀ timer, timer ∈ s.timers ∨ timer ∈ s.fired → timer.key ≠ key
  | _ => True

instance (s : TimedCache α) (e : CacheEvent α) : Decidable (SetAlone s e) :=
  match e with
  | .set key _ => decidable_of_iff (∀ timer ∈ s.timers ++ s.fired, timer.key ≠ key)
      (by simp [SetAlone])
  | .passTime _ | .remove _ | .fire _ | .cleanupCallback _ => instDecidableTrue

/-- A timer fires on its own; its callback runs later and deletes whatever the key then has. -/
def machine (α : Type) (ttl : Nat) : Machine (TimedCache α) (CacheEvent α) where
  init := ⟨0, fun _ => none, 0, [], [], fun _ => none⟩
  step s
    | .passTime duration => some { s with clock := s.clock + duration }
    | .set key value =>
      let timer := ⟨s.started, key, s.clock + ttl⟩
      some { s with
        store := update s.store key (some ⟨value, timer⟩)
        started := s.started + 1
        timers := timer :: s.timers
        latest := update s.latest key (some (value, s.clock)) }
    | .remove key => some { s with
        store := update s.store key none
        -- `Stop` has no effect on a timer that has fired
        timers := s.timers.filter fun timer => (s.store key).all (·.cleanupTimer ≠ timer)
        latest := update s.latest key none }
    | .fire timer =>
      if timer ∈ s.timers ∧ timer.due ≤ s.clock then
        some { s with timers := s.timers.erase timer, fired := timer :: s.fired }
      else none
    | .cleanupCallback timer =>
      if timer ∈ s.fired then
        some { s with store := update s.store timer.key none, fired := s.fired.erase timer }
      else none

structure Inv (ttl : Nat) (s : TimedCache α) : Prop where
  due : ∀ timer ∈ s.fired, timer.due ≤ s.clock
  late : ∀ timer, timer ∈ s.timers ∨ timer ∈ s.fired → ∀ value time,
    s.latest timer.key = some (value, time) → time + ttl ≤ timer.due
  keeps : s.KeepsValues ttl

theorem Inv.step (h : s.Inv ttl) (ha : SetAlone s e) (hst : (machine α ttl).step s e = some s') :
    s'.Inv ttl := by
  obtain ⟨hd, hl, hk⟩ := h
  cases e with
  | passTime duration =>
    cases hst
    refine ⟨fun timer hf => Nat.le_add_right_of_le (hd timer hf), hl, ?_⟩
    intro key value time hla hlt
    exact hk key value time hla (Nat.lt_of_le_of_lt (Nat.le_add_right ..) hlt)
  | set key value =>
    cases hst
    refine ⟨hd, ?_, ?_⟩
    · grind [SetAlone, update_apply]
    · grind [KeepsValues, get, update_apply]
  | remove key =>
    cases hst
    refine ⟨hd, ?_, ?_⟩
    · grind [update_apply]
    · grind [KeepsValues, get, update_apply]
  | fire timer =>
    obtain ⟨⟨hm, hc⟩, hst⟩ := Option.ite_none_right_eq_some.mp hst
    cases hst
    refine ⟨?_, ?_, hk⟩
    · grind
    · grind [List.mem_of_mem_erase]
  | cleanupCallback timer =>
    obtain ⟨hf, hst⟩ := Option.ite_none_right_eq_some.mp hst
    cases hst
    refine ⟨fun timer' hf' => hd timer' (List.mem_of_mem_erase hf'), fun timer' hm => ?_, ?_⟩
    · exact hl timer' (hm.imp_right List.mem_of_mem_erase)
    · intro key value time hla hlt
      -- a timer that has fired is not that of a value whose time is not over
      have hne : key ≠ timer.key := by
        rintro rfl
        have hle := Nat.le_trans (hl timer (.inr hf) value time hla) (hd timer hf)
        exact absurd hlt (Nat.not_lt.mpr hle)
      simpa [get, update_of_ne hne] using hk key value time hla hlt

/-- If no timer of a key is left when it is set, every value is found until its time is over. -/
theorem keepsValues_of_setAlone (α : Type) (ttl : Nat) (events : List (CacheEvent α))
    (s : TimedCache α) (ha : (machine α ttl).Along SetAlone (machine α ttl).init events)
    (hru : (machine α ttl).run (machine α ttl).init events = some s) : s.KeepsValues ttl := by
  refine Inv.keeps (Machine.run_invariant _ (fun _ _ _ h ha hst => h.step ha hst) ?_ ha hru)
  exact ⟨by simp [machine], by simp [machine], by simp [machine, KeepsValues]⟩

def setAgain : List (CacheEvent Nat) :=
  [.set "1" 7, .passTime 2, .fire ⟨0, "1", 2⟩, .cleanupCallback ⟨0, "1", 2⟩, .set "1" 8, .passTime 1]

/-- The key is set again after its timer has run, and has the second value. -/
theorem keepsValues_setAgain : ∃ s, (machine Nat 2).run (machine Nat 2).init setAgain = some s ∧
    s.clock = 3 ∧ s.get "1" = some 8 := by
  refine ⟨_, rfl, rfl, ?_⟩
  have hk := keepsValues_of_setAlone Nat 2 setAgain _ (by decide) rfl
  exact hk "1" 8 2 rfl (by decide)

/-- The timer of the first value deletes the second. -/
theorem deleted_early : ¬ ∀ (α : Type) ttl events s,
    (machine α ttl).run (machine α ttl).init events = some s → s.KeepsValues ttl := by
  intro ha
  have hk := ha Nat 2 [.set "1" 7, .passTime 1, .set "1" 8, .passTime 1, .fire ⟨0, "1", 2⟩,
    .cleanupCallback ⟨0, "1", 2⟩] _ rfl "1" 8 1 rfl (by decide)
  exact absurd hk (by decide)

end TimedCache
end PowerMaxCsi.Proxy
