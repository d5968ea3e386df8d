import Mathlib.Data.Set.Insert
import PowerMaxCsi.Lib.Prog

/-!
# The outcomes of a program

The results that a program can have if the call `c` can always get the answers in `env c`.
`mem_outcomes_bind` is the rule of composition, `mem_outcomes_iff` says which executions they
come from.
-/

namespace Prog

variable {C : Type} {R : C → Type} {α β : Type}

def outcomes (env : (c : C) → Set (R c)) : Prog C R α → Set α
  | ret a => {a}
  | call c k => {a | ∃ r ∈ env c, a ∈ outcomes env (k r)}

variable {env : (c : C) → Set (R c)} {p : Prog C R α}

@[simp] theorem mem_outcomes_ret {a b : α} : b ∈ outcomes env (ret a : Prog C R α) ↔ b = a := Iff.rfl

@[simp] theorem mem_outcomes_call {c : C} {k : R c → Prog C R α} {a : α} :
    a ∈ outcomes env (call c k) ↔ ∃ r ∈ env c, a ∈ outcomes env (k r) := Iff.rfl

theorem mem_outcomes_bind {f : α → Prog C R β} {b : β} :
    b ∈ outcomes env (p.bind f) ↔ ∃ a ∈ outcomes env p, b ∈ outcomes env (f a) := by
  induction p with
  | ret a =>
    constructor
    · intro hb
      exact ⟨a, rfl, hb⟩
    · rintro ⟨_, rfl, hb⟩
      exact hb
  | call c k ih =>
    constructor
    · rintro ⟨r, hr, hb⟩
      obtain ⟨a, ha, hb⟩ := (ih r).mp hb
      exact ⟨a, ⟨r, hr, ha⟩, hb⟩
    · rintro ⟨a, ⟨r, hr, ha⟩, hb⟩
      exact ⟨r, hr, (ih r).mpr ⟨a, ha, hb⟩⟩

theorem outcomes_bind_congr {f g : α → Prog C R β}
    (h : ∀ a ∈ outcomes env p, outcomes env (f a) = outcomes env (g a)) :
    outcomes env (p.bind f) = outcomes env (p.bind g) := by
  ext b
  rw [mem_outcomes_bind, mem_outcomes_bind]
  constructor
  · rintro ⟨a, ha, hb⟩
    exact ⟨a, ha, h a ha ▸ hb⟩
  · rintro ⟨a, ha, hb⟩
    exact ⟨a, ha, (h a ha).symm ▸ hb⟩

theorem outcomes_eq_singleton {P : C → Prop} (hp : Calls P p) (ho : ∀ c, P c → ∃ r, env c = {r}) :
    ∃ a, outcomes env p = {a} := by
  induction p with
  | ret a => exact ⟨a, rfl⟩
  | call c k ih =>
    obtain ⟨r, hr⟩ := ho c hp.1
    obtain ⟨a, ha⟩ := ih r (hp.2 r)
    refine ⟨a, ?_⟩
    ext b
    rw [mem_outcomes_call, hr]
    simp only [Set.mem_singleton_iff, exists_eq_left, ha]

/-- The outcomes are the results of the executions with answers of the environment. -/
theorem mem_outcomes_iff {a : α} :
    a ∈ outcomes env p ↔ ∃ h, Exec p h a ∧ ∀ e ∈ h, e.2 ∈ env e.1 := by
  constructor
  · intro ha
    induction p with
    | ret b =>
      obtain rfl : a = b := ha
      exact ⟨[], .ret, fun e he => absurd he List.not_mem_nil⟩
    | call c k ih =>
      obtain ⟨r, hr, ha⟩ := ha
      obtain ⟨h, hex, hen⟩ := ih r ha
      refine ⟨⟨c, r⟩ :: h, .call hex, fun e he => ?_⟩
      rcases List.mem_cons.mp he with rfl | he
      · exact hr
      · exact hen e he
  · rintro ⟨h, hex, hen⟩
    induction hex with
    | ret => exact rfl
    | call _ ih =>
      exact ⟨_, hen _ List.mem_cons_self, ih fun e he => hen e (List.mem_cons_of_mem _ he)⟩

end Prog
