import Mathlib.Data.List.Nodup

/-!
# Registries of named objects

A list in which no two objects have the same name.  `mem_insert`, `mem_modify` and `mem_erase` say
which objects are there after a change.
-/

structure Registry (α : Type) (name : α → String) where
  items : List α
  nodup : (items.map name).Nodup

namespace Registry

variable {α : Type} {name : α → String}

instance : Membership α (Registry α name) := ⟨fun s a => a ∈ s.items⟩

def get (s : Registry α name) (n : String) : Option α := s.items.find? (name · = n)

def insert (s : Registry α name) (a : α) : Option (Registry α name) :=
  if h : name a ∈ s.items.map name then none
  else some ⟨s.items ++ [a], by
    rw [List.map_append]
    exact List.Nodup.append s.nodup (List.nodup_singleton _) (by simpa using h)⟩

def modify (s : Registry α name) (n : String) (f : α → α) (hf : ∀ a, name a = n → name (f a) = n) :
    Registry α name :=
  ⟨s.items.map fun a => if name a = n then f a else a, by
    have hm : (s.items.map fun a => if name a = n then f a else a).map name =
        s.items.map name := by
      rw [List.map_map]
      refine List.map_congr_left fun a _ => ?_
      simp only [Function.comp_apply]
      split
      case isTrue h => rw [hf a h, h]
      case isFalse => rfl
    rw [hm]
    exact s.nodup⟩

def erase (s : Registry α name) (n : String) : Registry α name :=
  ⟨s.items.filter (name · ≠ n), s.nodup.sublist (List.filter_sublist.map name)⟩

variable {s s' : Registry α name} {a : α} {n : String}

theorem mem_def : a ∈ s ↔ a ∈ s.items := Iff.rfl

theorem eq_of_name_eq {b : α} (ha : a ∈ s) (hb : b ∈ s) (h : name a = name b) : a = b :=
  List.inj_on_of_nodup_map s.nodup ha hb h

theorem get_eq_some : s.get n = some a ↔ a ∈ s ∧ name a = n := by
  constructor
  · intro h
    exact ⟨List.mem_of_find?_eq_some h, by simpa using List.find?_some h⟩
  · rintro ⟨hmem, rfl⟩
    obtain ⟨b, hb⟩ : ∃ b, s.get (name a) = some b :=
      Option.isSome_iff_exists.mp (List.find?_isSome.mpr ⟨a, hmem, by simp⟩)
    rw [hb, eq_of_name_eq (List.mem_of_find?_eq_some hb) hmem (by simpa using List.find?_some hb)]

variable (h : s.insert a = some s')

include h

theorem items_insert : s'.items = s.items ++ [a] := by
  unfold insert at h
  split at h
  · simp at h
  · cases h
    rfl

theorem mem_insert {b : α} : b ∈ s' ↔ b ∈ s ∨ b = a := by
  simp [mem_def, items_insert h]

theorem name_ne_of_insert {b : α} (hb : b ∈ s) : name b ≠ name a := by
  unfold insert at h
  split at h
  · simp at h
  case isFalse hn =>
    intro heq
    exact hn (heq ▸ List.mem_map_of_mem hb)

omit h

theorem mem_modify {f : α → α} {hf : ∀ a, name a = n → name (f a) = n} {b : α} :
    b ∈ s.modify n f hf ↔ ∃ a ∈ s, (if name a = n then f a else a) = b := by
  simp [modify, mem_def]

theorem mem_erase : a ∈ s.erase n ↔ a ∈ s ∧ name a ≠ n := by
  simp [erase, mem_def]

end Registry
