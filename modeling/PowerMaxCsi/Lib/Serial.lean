import PowerMaxCsi.Lib.Threads
import PowerMaxCsi.Lib.World

/-!
# Threads that run one at a time

If a thread of a pool starts only when no other runs, nothing happens between its calls but their
answers, so a triple of the program of each job holds of what is left of the threads in a run.
-/

namespace Prog.Threads

open Function

variable {ι C J E F σ : Type} {R : C → Type}

/-- The triple of a job: the invariant holds at every call and at the end. -/
def Keeps (answers : σ → (c : C) → R c → σ → Prop) (I : σ → Prop) (issue : σ → C → Prop) (w : σ)
    (p : Prog C R Unit) : Prop :=
  SafeIn answers (fun w c => I w ∧ issue w c) (fun w _ => I w) w p

variable {answers : σ → (c : C) → R c → σ → Prop} {I : σ → Prop} {issue : σ → C → Prop} {w : σ}

theorem Keeps.inv {p : Prog C R Unit} (hp : Keeps answers I issue w p) : I w := by
  cases p with
  | ret a => exact hp
  | call c k => exact hp.1.1

/-- A job starts only when no thread runs, and the world answers as the triples assume. -/
structure Serial [DecidableEq ι] [DecidableEq C] (T : Threads ι C J E F σ R)
    (G : Pool ι C σ R → Event ι C J E F R → Prop) (answers : ι → σ → (c : C) → R c → σ → Prop)
    (I : σ → Prop) (issue : σ → C → Prop) : Prop where
  init : I T.init
  idle : ∀ s i j, G s (.start i j) → ∀ k, (s.thread k).next = none
  start : ∀ s i j w, G s (.start i j) → I s.world → T.start s.world i j = some w →
    Keeps (answers i) I issue w (T.program j)
  reply : ∀ s i c r f w, G s (.reply i c r f) → T.serve s.world i c r f = some w →
    answers i s.world c r w
  env : ∀ w e, T.env w e = none

structure Pool.Serving (answers : ι → σ → (c : C) → R c → σ → Prop) (I : σ → Prop)
    (issue : σ → C → Prop) (s : Pool ι C σ R) : Prop where
  one : ∀ i k, (s.thread i).next ≠ none → (s.thread k).next ≠ none → i = k
  keeps : ∀ i, Keeps (answers i) I issue s.world (s.thread i)

variable [DecidableEq ι] {answers : ι → σ → (c : C) → R c → σ → Prop} {s t : Pool ι C σ R}

theorem Pool.Serving.update {i : ι} {p : Prog C R Unit}
    (hid : ∀ k, k ≠ i → (s.thread k).next = none) (hp : Keeps (answers i) I issue w p) :
    Pool.Serving answers I issue ⟨w, Function.update s.thread i p⟩ where
  one := by
    have hi : ∀ k, ((Function.update s.thread i p) k).next ≠ none → k = i := by
      intro k hk
      by_contra hne
      rw [update_of_ne hne] at hk
      exact hk (hid k hne)
    intro k k' hk hk'
    exact (hi k hk).trans (hi k' hk').symm
  keeps := by
    intro k
    by_cases hk : k = i
    · subst hk
      simpa only [update_self] using hp
    · obtain ⟨a, ha⟩ := next_eq_none.mp (hid k hk)
      simp only [update_of_ne hk, ha]
      exact hp.inv

variable [DecidableEq C] {T : Threads ι C J E F σ R} {G : Pool ι C σ R → Event ι C J E F R → Prop}

/-- **Serial pools, one step.** -/
theorem Serial.step (hT : Serial T G answers I issue) {e : Event ι C J E F R}
    (hs : s.Serving answers I issue) (hG : G s e) (he : T.step s e = some t) :
    t.Serving answers I issue := by
  cases e with
  | start i j =>
    obtain ⟨a, w, hi, hw, rfl⟩ := step_start_eq_some.mp he
    have hin : I s.world := (hs.keeps i).inv
    exact .update (fun k _ => hT.idle s i j hG k) (hT.start s i j w hG hin hw)
  | reply i c r f =>
    obtain ⟨k, w, hi, hw, rfl⟩ := step_reply_eq_some.mp he
    have hr : (s.thread i).next ≠ none := by
      rw [hi]
      exact nofun
    have hk := hs.keeps i
    rw [hi] at hk
    refine .update (fun k' hne => ?_) (hk.2 r w (hT.reply s i c r f w hG hw))
    by_contra hk'
    exact hne (hs.one k' i hk' hr)
  | env e =>
    obtain ⟨w, hw, -⟩ := step_env_eq_some.mp he
    cases (hT.env s.world e).symm.trans hw

/-- **Serial pools.**  At most one thread runs, and what is left of it keeps the invariant. -/
theorem Serial.run_serving (hT : Serial T G answers I issue) {es : List (Event ι C J E F R)}
    (hG : T.machine.Along G T.machine.init es) (hr : T.machine.run T.machine.init es = some t) :
    t.Serving answers I issue := by
  have hin : T.machine.init.Serving answers I issue :=
    ⟨fun _ _ hi => absurd rfl hi, fun _ => hT.init⟩
  exact T.machine.run_invariant (fun _ _ _ hs hG he => hT.step hs hG he) hin hG hr

end Prog.Threads
