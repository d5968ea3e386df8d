import Mathlib.Data.List.AList

/-!
# Go maps

A Go map is an association list with distinct keys.  A `range` loop whose body changes nothing but
the value that it visits is `mapValues`; other loops are given the order of the keys.
-/

abbrev GoMap (κ α : Type) := AList fun _ : κ => α

namespace GoMap

open List AList

variable {κ α : Type} {m : GoMap κ α} {k : κ} {order : List κ}

def mapValues (f : α → α) (m : GoMap κ α) : GoMap κ α where
  entries := m.entries.map (.map id fun _ => f)
  nodupKeys := m.nodupKeys.map₂ (fun _ => f) m.entries

@[simp] theorem lookup_mapValues [DecidableEq κ] (f : α → α) (m : GoMap κ α) (k : κ) :
    (mapValues f m).lookup k = (m.lookup k).map f :=
  dlookup_map₂ k

@[simp] theorem lookup_singleton [DecidableEq κ] (k : κ) (a : α) :
    AList.lookup k (AList.singleton k a : GoMap κ α) = some a := by
  rw [← insert_empty, lookup_insert]

theorem forall_lookup_insert [DecidableEq κ] {a : α} {P : κ → α → Prop} (ha : P k a)
    (h : ∀ k' b, m.lookup k' = some b → P k' b) (k' : κ) (b : α)
    (hl : (m.insert k a).lookup k' = some b) : P k' b := by
  by_cases hk : k' = k
  · subst hk
    rw [lookup_insert] at hl
    exact Option.some.inj hl ▸ ha
  · rw [lookup_insert_ne hk] at hl
    exact h k' b hl

def Range (m : GoMap κ α) (order : List κ) : Prop := order.Perm m.keys

theorem Range.mem_iff [DecidableEq κ] (h : m.Range order) :
    k ∈ order ↔ ∃ a, m.lookup k = some a := by
  rw [List.Perm.mem_iff h, ← AList.mem_keys, ← AList.lookup_isSome, Option.isSome_iff_exists]

theorem Range.not_mem_iff [DecidableEq κ] (h : m.Range order) : k ∉ order ↔ m.lookup k = none := by
  rw [h.mem_iff, Option.eq_none_iff_forall_ne_some, not_exists]

theorem Range.nodup (h : m.Range order) : order.Nodup :=
  h.nodup_iff.mpr m.keys_nodup

section

variable [DecidableEq κ] {f : GoMap κ α → κ → GoMap κ α}
  (ho : ∀ m k k', k' ≠ k → (f m k).lookup k' = m.lookup k') {order : List κ} {k : κ}
  (m : GoMap κ α)

include ho

theorem lookup_foldl_of_not_mem (hk : k ∉ order) : (order.foldl f m).lookup k = m.lookup k := by
  induction order generalizing m with
  | nil => rfl
  | cons first rest ih =>
    obtain ⟨hf, hr⟩ := not_or.mp (mt mem_cons.mpr hk)
    rw [foldl_cons, ih _ hr, ho m first k hf]

theorem lookup_foldl_of_mem (hn : order.Nodup) (hk : k ∈ order) {g : Option α → Option α}
    (how : ∀ m, (f m k).lookup k = g (m.lookup k)) :
    (order.foldl f m).lookup k = g (m.lookup k) := by
  induction order generalizing m with
  | nil => cases hk
  | cons first rest ih =>
    obtain ⟨hf, hr⟩ := nodup_cons.mp hn
    rw [foldl_cons]
    rcases mem_cons.mp hk with rfl | hk
    · rw [lookup_foldl_of_not_mem ho _ hf, how]
    · have hne : k ≠ first := fun heq => hf (heq ▸ hk)
      rw [ih _ hr hk, ho m first k hne]

theorem lookup_foldl_range {β : Type} {m₀ : GoMap κ β} (hr : m₀.Range order)
    {g : β → Option α → Option α}
    (how : ∀ b m, m₀.lookup k = some b → (f m k).lookup k = g b (m.lookup k)) :
    (order.foldl f m).lookup k = (m₀.lookup k).elim (m.lookup k) (g · (m.lookup k)) := by
  cases h : m₀.lookup k with
  | none => exact lookup_foldl_of_not_mem ho m (hr.not_mem_iff.mpr h)
  | some b =>
    exact lookup_foldl_of_mem ho m hr.nodup (hr.mem_iff.mpr ⟨b, h⟩) fun m => how b m h

end

end GoMap
