import Mathlib.Algebra.GroupWithZero.Nat
import Mathlib.Data.List.Nodup

/-!
# Waiting lists

`ahead key x l` are the waiting entries up to the one with key `x`.  `load_lt`: if in a round no
cost grows, nobody starts to wait, and the first entry becomes cheaper or stops, their costs get
less.
-/

namespace WaitingList

open List

variable {α κ : Type} (waits : α → Bool) (key : α → κ)

def Waits (x : κ) (l : List α) : Prop := ∃ a ∈ l, waits a = true ∧ key a = x

/-- Nobody starts to wait, and no cost of one who waits grows. -/
def Settles (cost cost' : α → ℕ) (a a' : α) : Prop :=
  key a' = key a ∧ (waits a' = true → waits a = true ∧ cost' a' ≤ cost a)

/-- The first entry that waits becomes cheaper or stops waiting. -/
def FirstSettles (cost cost' : α → ℕ) : List α → List α → Prop
  | a :: l, a' :: l' =>
    if waits a then waits a' = true → cost' a' < cost a
    else FirstSettles cost cost' l l'
  | _, _ => True

section

variable {waits key} {x : κ} {a : α} {l l' : List α} {cost cost' : α → ℕ}

theorem waits_cons_of_not (ha : ¬ (waits a = true ∧ key a = x)) :
    Waits waits key x (a :: l) ↔ Waits waits key x l := by
  simp [Waits, ha]

theorem map_key_of_settles (h : List.Forall₂ (Settles waits key cost cost') l l') :
    l'.map key = l.map key := by
  induction h with
  | nil => rfl
  | cons ha _ ih => rw [map_cons, map_cons, ha.1, ih]

theorem key_ne_of_waits {a : α} (hn : ((a :: l).map key).Nodup)
    (hk : l'.map key = l.map key) (hx : Waits waits key x l') : key a ≠ x := by
  rintro rfl
  obtain ⟨b, hb, -, hke⟩ := hx
  rw [map_cons, nodup_cons] at hn
  refine hn.1 ?_
  rw [← hk, ← hke]
  exact mem_map_of_mem hb

end

variable [DecidableEq κ]

instance (x : κ) (l : List α) : Decidable (Waits waits key x l) :=
  inferInstanceAs (Decidable (∃ a ∈ l, waits a = true ∧ key a = x))

def ahead (x : κ) : List α → List α
  | [] => []
  | a :: l =>
    if waits a then if key a = x then [a] else a :: ahead x l
    else ahead x l

def load (cost : α → ℕ) (x : κ) (l : List α) : ℕ := (ahead waits key x l).foldr (fun a n => cost a + n) 0

variable {waits key} {x : κ} {l l' : List α} {cost cost' : α → ℕ}

theorem ahead_filter (l : List α) : ahead waits key x (l.filter waits) = ahead waits key x l := by
  induction l with
  | nil => rfl
  | cons a l ih =>
    by_cases ha : waits a = true
    · simp [ahead, ha, ih]
    · simp [ahead, ha, ih]

theorem ahead_append (hx : Waits waits key x l) (r : List α) :
    ahead waits key x (l ++ r) = ahead waits key x l := by
  induction l with
  | nil =>
    obtain ⟨a, ha, -⟩ := hx
    cases ha
  | cons a l ih =>
    by_cases ha : waits a = true ∧ key a = x
    · simp [ahead, ha]
    · have hr := ih ((waits_cons_of_not ha).mp hx)
      rw [cons_append, ahead, ahead, hr]

theorem ahead_eq_of_extends (hx : Waits waits key x l)
    (he : l.filter waits <+: l'.filter waits) : ahead waits key x l' = ahead waits key x l := by
  obtain ⟨r, hr⟩ := he
  have hx' : Waits waits key x (l.filter waits) := by
    obtain ⟨a, ha, hw, hk⟩ := hx
    exact ⟨a, mem_filter.mpr ⟨ha, hw⟩, hw, hk⟩
  rw [← ahead_filter l', ← hr, ahead_append hx', ahead_filter]

theorem load_cons (a : α) : load waits key cost x (a :: l) =
    if waits a then if key a = x then cost a else cost a + load waits key cost x l
    else load waits key cost x l := by
  unfold load
  rw [ahead]
  split
  · split <;> rfl
  · rfl

variable (h : List.Forall₂ (Settles waits key cost cost') l l') (hn : (l.map key).Nodup)
  (hx : Waits waits key x l')

include h hn hx

theorem load_le : load waits key cost' x l' ≤ load waits key cost x l := by
  induction h with
  | nil => exact Nat.le_refl _
  | @cons a a' l l' ha hl ih =>
    have hr (hx' : Waits waits key x l') := ih (nodup_cons.mp hn).2 hx'
    rw [load_cons, load_cons, ha.1]
    by_cases hw' : waits a' = true
    · obtain ⟨hw, hc⟩ := ha.2 hw'
      rw [if_pos hw']
      split
      · exact hc
      case isFalse hne =>
        exact Nat.add_le_add hc (hr ((waits_cons_of_not fun h => hne (ha.1 ▸ h.2)).mp hx))
    · have hx' := (waits_cons_of_not fun h => hw' h.1).mp hx
      have hle := hr hx'
      rw [if_neg hw', if_neg (key_ne_of_waits hn (map_key_of_settles hl) hx')]
      split
      · omega
      · exact hle

/-- **One round.**  While an entry waits, the load on it gets less. -/
theorem load_lt (hp : ∀ a, waits a = true → 0 < cost a) (hf : FirstSettles waits cost cost' l l') :
    load waits key cost' x l' < load waits key cost x l := by
  induction h with
  | nil =>
    obtain ⟨a, ha, -⟩ := hx
    cases ha
  | @cons a a' l l' ha hl ih =>
    have hn' : (l.map key).Nodup := (nodup_cons.mp hn).2
    rw [load_cons, load_cons, ha.1]
    rw [FirstSettles] at hf
    by_cases hw' : waits a' = true
    · have hw := (ha.2 hw').1
      rw [if_pos hw] at hf
      rw [if_pos hw']
      split
      · exact hf hw'
      case isFalse hne =>
        exact Nat.add_lt_add_of_lt_of_le (hf hw')
          (load_le hl hn' ((waits_cons_of_not fun h => hne (ha.1 ▸ h.2)).mp hx))
    · have hx' := (waits_cons_of_not fun h => hw' h.1).mp hx
      rw [if_neg hw', if_neg (key_ne_of_waits hn (map_key_of_settles hl) hx')]
      split
      case isTrue hw =>
        have hle := load_le hl hn' hx'
        have hc := hp a hw
        omega
      case isFalse hw =>
        rw [if_neg hw] at hf
        exact ih hn' hx' hf

omit h hn hx

theorem load_le_of_cost_le {bound : α → ℕ} (hc : ∀ a, cost a ≤ bound a) :
    load waits key cost x l ≤ ((ahead waits key x l).map bound).sum := by
  unfold load
  induction ahead waits key x l with
  | nil => exact Nat.zero_le _
  | cons a l ih =>
    rw [foldr_cons, map_cons, sum_cons]
    exact Nat.add_le_add (hc a) ih

end WaitingList
