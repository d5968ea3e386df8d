import Mathlib.Data.List.Basic

/-!
# Calls that share one execution

A group of `golang.org/x/sync/singleflight`.  An execution, a *flight*, has a number and never loses
its result, so that one can say later which calls have shared it.
-/

/-- The flights of a group so far, with their results, and those in progress by key. -/
structure Singleflight (κ ρ : Type) where
  pending : κ → Option Nat
  results : List (Option ρ)

namespace Singleflight

variable {κ ρ : Type}

/-- The part of a call in a flight. -/
inductive Role where
  | lead (flight : Nat)
  | join (flight : Nat)
deriving DecidableEq, Repr

def Role.flight : Role → Nat
  | .lead flight => flight
  | .join flight => flight

def empty : Singleflight κ ρ := ⟨fun _ => none, []⟩

variable [DecidableEq κ]

/-- A call with the key takes part in the flight that is in progress, or starts one. -/
def enter (g : Singleflight κ ρ) (key : κ) : Role × Singleflight κ ρ :=
  match g.pending key with
  | some flight => (.join flight, g)
  | none => (.lead g.results.length,
      ⟨Function.update g.pending key (some g.results.length), g.results ++ [none]⟩)

def finish (g : Singleflight κ ρ) (key : κ) (flight : Nat) (result : ρ) : Singleflight κ ρ :=
  ⟨Function.update g.pending key none, g.results.set flight (some result)⟩

def result (g : Singleflight κ ρ) (flight : Nat) : Option ρ := g.results.getD flight none

variable {g g' : Singleflight κ ρ} {key : κ} {flight : Nat}

theorem enter_cases {role : Role} (h : g.enter key = (role, g')) :
    (∃ flight, g.pending key = some flight ∧ role = .join flight ∧ g' = g) ∨
      role = .lead g.results.length ∧ g'.results = g.results ++ [none] := by
  unfold enter at h
  split at h
  case h_1 flight hp =>
    obtain ⟨rfl, rfl⟩ := Prod.mk.inj h
    exact .inl ⟨flight, hp, rfl, rfl⟩
  case h_2 =>
    obtain ⟨rfl, rfl⟩ := Prod.mk.inj h
    exact .inr ⟨rfl, rfl⟩

theorem result_finish_self {result : ρ} (h : flight < g.results.length) :
    (g.finish key flight result).result flight = some result := by
  simp [finish, Singleflight.result, h]

theorem result_finish_of_ne {flight' : Nat} {result : ρ} (h : flight' ≠ flight) :
    (g.finish key flight result).result flight' = g.result flight' := by
  simp [finish, Singleflight.result, List.getElem?_set_ne (Ne.symm h)]

theorem length_finish (result : ρ) :
    (g.finish key flight result).results.length = g.results.length := List.length_set

omit [DecidableEq κ] in
theorem result_append (h : g'.results = g.results ++ [none]) (flight : Nat) :
    g'.result flight = g.result flight := by
  simp only [Singleflight.result, h, List.getD_eq_getElem?_getD]
  rcases Nat.lt_trichotomy flight g.results.length with hlt | rfl | hgt
  · rw [List.getElem?_append_left hlt]
  · simp
  · have hl : (g.results ++ [none]).length ≤ flight := by
      rw [List.length_append]
      exact hgt
    rw [List.getElem?_eq_none hl, List.getElem?_eq_none (Nat.le_of_lt hgt)]

end Singleflight
