import Mathlib.Data.List.Basic

/-!
# Guarded transition systems and their runs

`step s e` is the next state when the event `e` is enabled in `s`.  `M.run s es` replays `es`, and
`M.Along G s es` says that every step of the replay meets `G`.  `Machine.run_invariant` is the
induction rule.
-/

universe u v

structure Machine (σ : Type u) (ε : Type v) where
  init : σ
  step : σ → ε → Option σ

namespace Machine

open Option

variable {σ : Type u} {ε : Type v} (M : Machine σ ε)

/-- Replay a list of events; `none` as soon as one of them is not enabled. -/
def run : σ → List ε → Option σ
  | s, [] => some s
  | s, e :: es => (M.step s e).bind fun s' => run s' es

/-- Every step that replaying `es` from `s` takes meets `G`. -/
def Along (G : σ → ε → Prop) : σ → List ε → Prop
  | _, [] => True
  | s, e :: es => G s e ∧ ∀ s', M.step s e = some s' → Along G s' es

/-- A side condition that can be checked on each step can be checked along a run. -/
instance decidableAlong (G : σ → ε → Prop) [∀ s e, Decidable (G s e)] :
    ∀ s es, Decidable (M.Along G s es)
  | _, [] => .isTrue trivial
  | s, e :: es =>
    have : ∀ s', Decidable (M.Along G s' es) := fun s' => decidableAlong G s' es
    have : Decidable (∀ s' ∈ M.step s e, M.Along G s' es) := Option.decidableForallMem _
    inferInstanceAs (Decidable (G s e ∧ ∀ s' ∈ M.step s e, M.Along G s' es))

@[simp] theorem run_nil (s : σ) : M.run s [] = some s := rfl

@[simp] theorem run_cons (s : σ) (e : ε) (es : List ε) :
    M.run s (e :: es) = (M.step s e).bind fun s' => M.run s' es := rfl

@[simp] theorem along_nil (G : σ → ε → Prop) (s : σ) : M.Along G s [] := trivial

variable {G G' P : σ → ε → Prop} {I : σ → Prop} {s t : σ} {e : ε} {es : List ε}

theorem run_cons_eq_some :
    M.run s (e :: es) = some t ↔ ∃ s', M.step s e = some s' ∧ M.run s' es = some t := by
  simp [bind_eq_some_iff]

theorem run_append (s : σ) (es es' : List ε) :
    M.run s (es ++ es') = (M.run s es).bind fun s' => M.run s' es' := by
  induction es generalizing s with
  | nil => rfl
  | cons e es ih =>
    simp only [List.cons_append, run_cons]
    cases M.step s e with
    | none => rfl
    | some s' => exact ih s'

theorem run_concat_eq_some :
    M.run s (es ++ [e]) = some t ↔ ∃ s', M.run s es = some s' ∧ M.step s' e = some t := by
  simp [run_append, bind_eq_some_iff]

theorem Along.mono (hes : M.Along G s es) (hG : ∀ s e, G s e → G' s e) : M.Along G' s es := by
  induction es generalizing s with
  | nil => trivial
  | cons e es ih => exact ⟨hG s e hes.1, fun s' he => ih (hes.2 s' he)⟩

/-- Side conditions that agree where an invariant holds agree along a run. -/
theorem along_congr (hst : ∀ s e s', I s → M.step s e = some s' → I s')
    (hG : ∀ s e, I s → (G s e ↔ G' s e)) (hs : I s) (es : List ε) :
    M.Along G s es ↔ M.Along G' s es := by
  induction es generalizing s with
  | nil => exact Iff.rfl
  | cons e es ih =>
    refine and_congr (hG s e hs) (forall_congr' fun s' => ?_)
    exact imp_congr_right fun he => ih (hst s e s' hs he)

theorem along_append {es' : List ε} :
    M.Along G s (es ++ es') ↔ M.Along G s es ∧ ∀ t, M.run s es = some t → M.Along G t es' := by
  induction es generalizing s with
  | nil => simp
  | cons e es ih =>
    constructor
    · rintro ⟨hG, hr⟩
      refine ⟨⟨hG, fun s' he => (ih.mp (hr s' he)).1⟩, fun t hru => ?_⟩
      obtain ⟨s', he, hru⟩ := M.run_cons_eq_some.mp hru
      exact (ih.mp (hr s' he)).2 t hru
    · rintro ⟨⟨hG, hf⟩, hr⟩
      refine ⟨hG, fun s' he => ih.mpr ⟨hf s' he, fun t hru => ?_⟩⟩
      exact hr t (M.run_cons_eq_some.mpr ⟨s', he, hru⟩)

theorem along_of_forall (hG : ∀ e ∈ es, ∀ s, G s e) (s : σ) : M.Along G s es := by
  induction es generalizing s with
  | nil => trivial
  | cons e es ih =>
    refine ⟨hG e List.mem_cons_self s, fun s' _ => ih (fun e' he' => ?_) s'⟩
    exact hG e' (List.mem_cons_of_mem _ he')

/-- **The invariant rule.**  What holds at the start and is kept by every step meeting `G` holds at
the end. -/
theorem run_invariant (hst : ∀ s e s', I s → G s e → M.step s e = some s' → I s') (hs : I s)
    (hG : M.Along G s es) (hru : M.run s es = some t) : I t := by
  induction es generalizing s with
  | nil =>
    simp only [run_nil, some.injEq] at hru
    exact hru ▸ hs
  | cons e es ih =>
    obtain ⟨s', he, hr⟩ := M.run_cons_eq_some.mp hru
    exact ih (hst s e s' hs hG.1 he) (hG.2 s' he) hr

/-- **The invariant rule, for steps.**  What an invariant says of every step holds along a run. -/
theorem Along.of_invariant (hst : ∀ s e s', I s → G s e → M.step s e = some s' → I s')
    (hP : ∀ s e, I s → G s e → P s e) (hs : I s) (hG : M.Along G s es) : M.Along P s es := by
  induction es generalizing s with
  | nil => trivial
  | cons e es ih =>
    refine ⟨hP s e hs hG.1, fun s' he => ?_⟩
    exact ih (hst s e s' hs hG.1 he) (hG.2 s' he)

/-- **The progress rule.**  If every step meeting `G` succeeds under an invariant, every run
does. -/
theorem run_progress (hst : ∀ s e, I s → G s e → ∃ s', M.step s e = some s' ∧ I s') (hs : I s)
    (hG : M.Along G s es) : ∃ t, M.run s es = some t ∧ I t := by
  induction es generalizing s with
  | nil => exact ⟨s, rfl, hs⟩
  | cons e es ih =>
    obtain ⟨s', he, hs'⟩ := hst s e hs hG.1
    obtain ⟨t, hr, ht⟩ := ih hs' (hG.2 s' he)
    exact ⟨t, M.run_cons_eq_some.mpr ⟨s', he, hr⟩, ht⟩

end Machine
