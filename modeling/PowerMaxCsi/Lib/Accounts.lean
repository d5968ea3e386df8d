import Mathlib.Data.List.Induction
import PowerMaxCsi.Lib.Threads
import PowerMaxCsi.Lib.World

/-!
# Accounts of threads

An account is told of every job that a thread starts and of every call that is answered to it.  So a
triple in which it takes the place of the world goes from the programs to the threads of any run.
-/

namespace Prog

open List

variable {ι C J E F σ τ : Type} {R : C → Type}

structure Account (C J : Type) (R : C → Type) (τ : Type) where
  init : τ
  start : τ → J → τ
  record : τ → (c : C) → R c → τ

namespace Account

variable [DecidableEq ι] (A : Account C J R τ)

def note (i : ι) (g : τ) : Threads.Event ι C J E F R → τ
  | .start k j => if k = i then A.start g j else g
  | .reply k c r _ => if k = i then A.record g c r else g
  | .env _ => g

def after (es : List (Threads.Event ι C J E F R)) (i : ι) : τ := es.foldl (A.note i) A.init

@[simp] theorem after_concat (es : List (Threads.Event ι C J E F R))
    (e : Threads.Event ι C J E F R) (i : ι) : A.after (es ++ [e]) i = A.note i (A.after es i) e := by
  simp [after, foldl_append]

end Account

namespace Threads

variable [DecidableEq ι] [DecidableEq C] {T : Threads ι C J E F σ R} {A : Account C J R τ}
  {answers : τ → (c : C) → R c → τ → Prop} {issue : τ → C → Prop} {post : τ → Prop}
  {es : List (Event ι C J E F R)} {t : Pool ι C σ R}

/-- **The rule of accounts.**  If every program keeps the triple from the account that its job
opens, so does what is left of a thread. -/
theorem run_account (hru : T.machine.run T.machine.init es = some t) (hin : post A.init)
    (hst : ∀ es' i j, es' ++ [.start i j] <+: es → post (A.after es' i) →
      SafeIn answers issue (fun g _ => post g) (A.start (A.after es' i) j) (T.program j))
    (hr : ∀ es' i c r f, es' ++ [.reply i c r f] <+: es →
      answers (A.after es' i) c r (A.record (A.after es' i) c r)) (i : ι) :
    SafeIn answers issue (fun g _ => post g) (A.after es i) (t.thread i) := by
  induction es using List.reverseRecOn generalizing t i with
  | nil =>
    cases hru
    exact hin
  | append_singleton es e ih =>
    obtain ⟨s, hs, he⟩ := T.machine.run_concat_eq_some.mp hru
    have hl := ih hs (fun es' i j hpr => hst es' i j (hpr.trans (prefix_append _ _)))
      fun es' i c r f hpr => hr es' i c r f (hpr.trans (prefix_append _ _))
    rw [A.after_concat]
    cases e with
    | start k j =>
      obtain ⟨a, w, hk, -, rfl⟩ := step_start_eq_some.mp he
      by_cases hi : i = k
      · subst hi
        have hid := hl i
        rw [hk] at hid
        simpa [Account.note] using hst es i j prefix_rfl hid
      · simpa [Account.note, Ne.symm hi, Function.update_of_ne hi] using hl i
    | reply k c r f =>
      obtain ⟨p, w, hk, -, rfl⟩ := step_reply_eq_some.mp he
      by_cases hi : i = k
      · subst hi
        have hp := hl i
        rw [hk] at hp
        simpa [Account.note] using hp.2 r _ (hr es i c r f prefix_rfl)
      · simpa [Account.note, Ne.symm hi, Function.update_of_ne hi] using hl i
    | env e =>
      obtain ⟨w, -, rfl⟩ := step_env_eq_some.mp he
      exact hl i

end Threads

end Prog
