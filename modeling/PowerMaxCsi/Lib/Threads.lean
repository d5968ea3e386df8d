import PowerMaxCsi.Lib.Machine
import PowerMaxCsi.Lib.Prog

/-!
# Programs that run at the same time

`Threads` is a pool of programs that share a world and are interleaved at every call.  A `Contract`
says what a thread relies on while a call is pending, what it may assume of the answers, and what it
promises of its calls.  `Threads.run_sound`: the triples of `Contract.Safe` hold in every state of a
run in which each step meets what the other threads rely on.
-/

namespace Prog

open Function

variable {ι C J E F σ α β : Type} {R : C → Type}

structure Contract (C : Type) (R : C → Type) (σ : Type) where
  /-- What holds of the world at any time. -/
  inv : σ → Prop
  /-- What the others may do to the world while the call is pending. -/
  rely : C → σ → σ → Prop
  /-- How a call may be answered. -/
  answers : σ → (c : C) → R c → σ → Prop
  /-- What holds when a call is made. -/
  issue : σ → C → Prop
  rely_refl : ∀ c w, rely c w w
  rely_trans : ∀ c w w' w'', rely c w w' → rely c w' w'' → rely c w w''

namespace Contract

/-- Every call is made as promised and every result is good, whatever the others do meanwhile. -/
def Safe (K : Contract C R σ) (post : σ → α → Prop) : σ → Prog C R α → Prop
  | w, ret a => post w a
  | w, call c k => ∀ w₁, K.rely c w w₁ → K.inv w₁ →
      K.issue w₁ c ∧ ∀ r w₂, K.answers w₁ c r w₂ → Safe K post w₂ (k r)

variable {K : Contract C R σ} {w w' : σ} {p : Prog C R α}

theorem Safe.mono {post post' : σ → α → Prop} (hp : K.Safe post w p)
    (hpo : ∀ w a, post w a → post' w a) : K.Safe post' w p := by
  induction p generalizing w with
  | ret a => exact hpo w a hp
  | call c k ih =>
    intro w₁ hr hin
    obtain ⟨hi, hk⟩ := hp w₁ hr hin
    exact ⟨hi, fun r w₂ ha => ih r (hk r w₂ ha)⟩

/-- The rule of sequential composition. -/
theorem Safe.bind {mid : σ → α → Prop} {post : σ → β → Prop} {f : α → Prog C R β}
    (hp : K.Safe mid w p) (hf : ∀ w a, mid w a → K.Safe post w (f a)) :
    K.Safe post w (p.bind f) := by
  induction p generalizing w with
  | ret a => exact hf w a hp
  | call c k ih =>
    intro w₁ hr hin
    obtain ⟨hi, hk⟩ := hp w₁ hr hin
    exact ⟨hi, fun r w₂ ha => ih r (hk r w₂ ha)⟩

theorem Safe.ite {post : σ → α → Prop} {b : Prop} [Decidable b] {q : Prog C R α}
    (hp : b → K.Safe post w p) (hq : ¬ b → K.Safe post w q) :
    K.Safe post w (if b then p else q) := by
  split
  case isTrue h => exact hp h
  case isFalse h => exact hq h

/-- The rule of iteration: `P` is the loop invariant. -/
theorem Safe.forEach {P : σ → Prop} {xs : List α} {f : α → Prog C R Unit} (hw : P w)
    (hf : ∀ x ∈ xs, ∀ w, P w → K.Safe (fun w' _ => P w') w (f x)) :
    K.Safe (fun w' _ => P w') w (forEach xs f) := by
  induction xs generalizing w with
  | nil => exact hw
  | cons x xs ih =>
    refine (hf x (by simp) w hw).bind fun w₁ _ hw₁ => ?_
    exact ih hw₁ fun y hy => hf y (List.mem_cons_of_mem _ hy)

theorem Safe.of_calls {P : C → Prop} {I : σ → Prop} (hw : I w) (hp : Calls P p)
    (hc : ∀ c w w₁, P c → I w → K.rely c w w₁ → K.inv w₁ →
      K.issue w₁ c ∧ ∀ r w₂, K.answers w₁ c r w₂ → I w₂) : K.Safe (fun w' _ => I w') w p := by
  induction p generalizing w with
  | ret a => exact hw
  | call c k ih =>
    intro w₁ hr hin
    obtain ⟨hi, hk⟩ := hc c w w₁ hp.1 hw hr hin
    exact ⟨hi, fun r w₂ ha => ih r (hk r w₂ ha) (hp.2 r)⟩

theorem Safe.rely (hp : K.Safe (fun _ _ => True) w p) (hr : ∀ c, p.next = some c → K.rely c w w') :
    K.Safe (fun _ _ => True) w' p := by
  cases p with
  | ret a => trivial
  | call c k =>
    intro w₁ hr₁ hi
    exact hp w₁ (K.rely_trans c w w' w₁ (hr c rfl) hr₁) hi

theorem Safe.issue {post : σ → α → Prop} {c : C} (hp : K.Safe post w p) (hi : K.inv w)
    (hc : p.next = some c) : K.issue w c := by
  cases p with
  | ret a => simp [next] at hc
  | call c' k =>
    obtain rfl : c' = c := by simpa [next] using hc
    exact (hp w (K.rely_refl c' w) hi).1

end Contract

/-- How jobs start, how calls are answered, and what the environment does.  The choices of `F` are
those of the world that an answer does not show. -/
structure Threads (ι C J E F σ : Type) (R : C → Type) where
  init : σ
  program : J → Prog C R Unit
  start : σ → ι → J → Option σ
  serve : σ → ι → (c : C) → R c → F → Option σ
  env : σ → E → Option σ

namespace Threads

structure Pool (ι C σ : Type) (R : C → Type) where
  world : σ
  thread : ι → Prog C R Unit

inductive Event (ι C J E F : Type) (R : C → Type) where
  | start (i : ι) (j : J)
  | reply (i : ι) (c : C) (r : R c) (f : F)
  | env (e : E)

def Event.thread : Event ι C J E F R → Option ι
  | .start i _ => some i
  | .reply i _ _ _ => some i
  | .env _ => none

/-- A thread starts when the one before has returned, or goes on with the answer to its call. -/
def step [DecidableEq ι] [DecidableEq C] (T : Threads ι C J E F σ R) (s : Pool ι C σ R) :
    Event ι C J E F R → Option (Pool ι C σ R)
  | .start i j =>
    match s.thread i with
    | ret _ => (T.start s.world i j).map fun w => ⟨w, update s.thread i (T.program j)⟩
    | call _ _ => none
  | .reply i c r f =>
    match s.thread i with
    | ret _ => none
    | call c' k =>
      if h : c = c' then
        (T.serve s.world i c r f).map fun w => ⟨w, update s.thread i (k (h ▸ r))⟩
      else none
  | .env e => (T.env s.world e).map fun w => { s with world := w }

/-- The transition system of a pool; no thread runs at the start. -/
def machine [DecidableEq ι] [DecidableEq C] (T : Threads ι C J E F σ R) :
    Machine (Pool ι C σ R) (Event ι C J E F R) where
  init := ⟨T.init, fun _ => ret ()⟩
  step := T.step

variable (K : ι → Contract C R σ)

/-- Every thread is safe under its contract. -/
def Pool.Sound (s : Pool ι C σ R) : Prop :=
  ∀ i, (K i).inv s.world ∧ (K i).Safe (fun _ _ => True) s.world (s.thread i)

/-- A change of the world that every thread but `except` relies on. -/
def Pool.Allows (s : Pool ι C σ R) (except : Option ι) (w : σ) : Prop :=
  ∀ i, some i ≠ except → ∀ c, (s.thread i).next = some c → (K i).rely c s.world w

/-- Each step keeps the invariants and does what the other threads rely on. -/
structure Meets (T : Threads ι C J E F σ R) (G : Pool ι C σ R → Event ι C J E F R → Prop) : Prop where
  init : ∀ i, (K i).inv T.init
  start : ∀ s i j w, G s (.start i j) → s.Sound K → T.start s.world i j = some w →
    (∀ i, (K i).inv w) ∧ s.Allows K (some i) w ∧ (K i).Safe (fun _ _ => True) w (T.program j)
  reply : ∀ s i c r f w, G s (.reply i c r f) → s.Sound K → (s.thread i).next = some c →
    T.serve s.world i c r f = some w →
    (∀ i, (K i).inv w) ∧ s.Allows K (some i) w ∧ (K i).answers s.world c r w
  env : ∀ s e w, G s (.env e) → s.Sound K → T.env s.world e = some w →
    (∀ i, (K i).inv w) ∧ s.Allows K none w

variable [DecidableEq ι] {K} {T : Threads ι C J E F σ R}
  {G : Pool ι C σ R → Event ι C J E F R → Prop} {s t : Pool ι C σ R}

theorem Pool.Sound.update {except : ι} {w : σ} {p : Prog C R Unit} (hs : s.Sound K)
    (hin : ∀ i, (K i).inv w) (ha : s.Allows K (some except) w)
    (hp : (K except).Safe (fun _ _ => True) w p) : Pool.Sound K ⟨w, update s.thread except p⟩ := by
  intro i
  refine ⟨hin i, ?_⟩
  by_cases hi : i = except
  · subst hi
    simpa only [update_self] using hp
  · simp only [update_of_ne hi]
    exact (hs i).2.rely (ha i (by simpa using hi))

variable [DecidableEq C]

theorem step_start_eq_some {i : ι} {j : J} :
    T.step s (.start i j) = some t ↔ ∃ a w, s.thread i = ret a ∧ T.start s.world i j = some w ∧
      t = ⟨w, update s.thread i (T.program j)⟩ := by
  simp only [step]
  cases hi : s.thread i with
  | call c k => simp
  | ret a => simp [eq_comm (b := t)]

theorem step_reply_eq_some {i : ι} {c : C} {r : R c} {f : F} :
    T.step s (.reply i c r f) = some t ↔ ∃ k w, s.thread i = call c k ∧
      T.serve s.world i c r f = some w ∧ t = ⟨w, update s.thread i (k r)⟩ := by
  simp only [step]
  cases hi : s.thread i with
  | ret a => simp
  | call c' k =>
    by_cases hc : c = c'
    · subst hc
      simp [eq_comm (b := t)]
    · simp [hc, Ne.symm hc]

theorem step_env_eq_some {e : E} :
    T.step s (.env e) = some t ↔ ∃ w, T.env s.world e = some w ∧ t = { s with world := w } := by
  simp [step, eq_comm (b := t)]

theorem step_thread_eq {e : Event ι C J E F R} {k : ι} (hk : e.thread ≠ some k)
    (he : T.step s e = some t) : t.thread k = s.thread k := by
  cases e with
  | start i j =>
    obtain ⟨a, w, -, -, rfl⟩ := step_start_eq_some.mp he
    exact update_of_ne (fun h => hk (congrArg some h.symm)) ..
  | reply i c r f =>
    obtain ⟨p, w, -, -, rfl⟩ := step_reply_eq_some.mp he
    exact update_of_ne (fun h => hk (congrArg some h.symm)) ..
  | env e =>
    obtain ⟨w, -, rfl⟩ := step_env_eq_some.mp he
    rfl

theorem run_thread_eq {es : List (Event ι C J E F R)} {k : ι} (hk : ∀ e ∈ es, e.thread ≠ some k)
    (hru : T.machine.run s es = some t) : t.thread k = s.thread k := by
  induction es generalizing s with
  | nil =>
    cases hru
    rfl
  | cons e es ih =>
    obtain ⟨s', he, hru⟩ := T.machine.run_cons_eq_some.mp hru
    have hr := ih (fun e' he' => hk e' (List.mem_cons_of_mem _ he')) hru
    exact hr.trans (step_thread_eq (hk e List.mem_cons_self) he)

/-- **Soundness, one step.** -/
theorem Meets.step (hT : Meets K T G) {e : Event ι C J E F R} (hs : s.Sound K) (hG : G s e)
    (he : T.step s e = some t) : t.Sound K := by
  cases e with
  | start i j =>
    obtain ⟨a, w, hi, hw, rfl⟩ := step_start_eq_some.mp he
    obtain ⟨hin, ha, hp⟩ := hT.start s i j w hG hs hw
    exact hs.update hin ha hp
  | reply i c r f =>
    obtain ⟨k, w, hi, hw, rfl⟩ := step_reply_eq_some.mp he
    have hn : (s.thread i).next = some c := by rw [hi]; rfl
    obtain ⟨hin, ha, han⟩ := hT.reply s i c r f w hG hs hn hw
    refine hs.update hin ha ?_
    have hsa := (hs i).2
    rw [hi] at hsa
    exact (hsa s.world ((K i).rely_refl c _) (hs i).1).2 r w han
  | env e =>
    obtain ⟨w, hw, rfl⟩ := step_env_eq_some.mp he
    obtain ⟨hin, ha⟩ := hT.env s e w hG hs hw
    exact fun i => ⟨hin i, (hs i).2.rely (ha i (by simp))⟩

/-- **Soundness.**  In every state of a run every thread is safe under its contract. -/
theorem Meets.run_sound (hT : Meets K T G) {es : List (Event ι C J E F R)}
    (hG : T.machine.Along G T.machine.init es) (hr : T.machine.run T.machine.init es = some t) :
    t.Sound K := by
  have hi : T.machine.init.Sound K := fun i => ⟨hT.init i, trivial⟩
  exact T.machine.run_invariant (fun _ _ _ hs hG he => hT.step hs hG he) hi hG hr

end Threads

end Prog
