import PowerMaxCsi.Lib.Prog

/-!
# Programs that run against a world

`answers w c r w'`: in state `w` the call `c` may be answered with `r`, leaving `w'`.
* `SafeIn` is the triple of a program in a world; `Returns` is the total one.
* `CanReturn` and `CanIssue` say what the world can make happen.
-/

namespace Prog

variable {C : Type} {R : C → Type} {α β σ : Type}

/-- The world can give the answers of the history, one after the other. -/
inductive Consistent (answers : σ → (c : C) → R c → σ → Prop) : σ → History C R → σ → Prop where
  | nil {w : σ} : Consistent answers w [] w
  | cons {w w' w'' : σ} {c : C} {r : R c} {h : History C R} :
      answers w c r w' → Consistent answers w' h w'' → Consistent answers w (⟨c, r⟩ :: h) w''

/-- Whatever the world answers, every call is allowed and every result is good. -/
def SafeIn (answers : σ → (c : C) → R c → σ → Prop) (issue : σ → C → Prop)
    (post : σ → α → Prop) : σ → Prog C R α → Prop
  | w, ret a => post w a
  | w, call c k => issue w c ∧ ∀ r w', answers w c r w' → SafeIn answers issue post w' (k r)

/-- Whatever the world answers, every result is good. -/
abbrev Yields (answers : σ → (c : C) → R c → σ → Prop) (post : σ → α → Prop) (w : σ)
    (p : Prog C R α) : Prop :=
  SafeIn answers (fun _ _ => True) post w p

/-- The world can make the program return the value, and is then in state `w'`. -/
def CanReturn (answers : σ → (c : C) → R c → σ → Prop) (w : σ) (p : Prog C R α) (w' : σ)
    (a : α) : Prop :=
  ∃ h, Consistent answers w h w' ∧ Exec p h a

/-- The world can bring the program to make the call, and is then in state `w'`. -/
def CanIssue (answers : σ → (c : C) → R c → σ → Prop) (w : σ) (p : Prog C R α) (w' : σ)
    (c : C) : Prop :=
  ∃ h, Consistent answers w h w' ∧ Issues p h c

variable {answers : σ → (c : C) → R c → σ → Prop} {issue : σ → C → Prop}
  {post post' : σ → α → Prop} {p : Prog C R α} {f : α → Prog C R β} {w w₁ w' : σ} {a : α} {c : C}
  {k : R c → Prog C R α}

variable (hp : SafeIn answers issue post w p)

include hp

theorem SafeIn.canIssue (hc : CanIssue answers w p w' c) : issue w' c := by
  obtain ⟨h, hco, hi⟩ := hc
  induction hi generalizing w with
  | here =>
    cases hco
    exact hp.1
  | there _ ih =>
    cases hco with
    | cons ha hr => exact ih (hp.2 _ _ ha) hr

theorem SafeIn.canReturn (ha : CanReturn answers w p w' a) : post w' a := by
  obtain ⟨h, hc, he⟩ := ha
  induction he generalizing w with
  | ret =>
    cases hc
    exact hp
  | call _ ih =>
    cases hc with
    | cons han hr => exact ih (hp.2 _ _ han) hr

theorem SafeIn.issue_of_next (hc : p.next = some c) : issue w c := by
  obtain ⟨k, rfl⟩ := next_eq_some.mp hc
  exact hp.1

theorem SafeIn.post_of_next (hn : p.next = none) : ∃ a, post w a := by
  obtain ⟨a, rfl⟩ := next_eq_none.mp hn
  exact ⟨a, hp⟩

theorem SafeIn.mono (hpo : ∀ w a, post w a → post' w a) : SafeIn answers issue post' w p := by
  induction p generalizing w with
  | ret a => exact hpo w a hp
  | call c k ih => exact ⟨hp.1, fun r w' ha => ih r (hp.2 r w' ha)⟩

omit hp

theorem safeIn_true (p : Prog C R α) : Yields answers (fun _ _ => True) w p := by
  induction p generalizing w with
  | ret a => trivial
  | call c k ih => exact ⟨trivial, fun r _ _ => ih r⟩

theorem SafeIn.of_calls {P : C → Prop} {I : σ → Prop} (hw : I w) (hp : Calls P p)
    (hc : ∀ c w, P c → I w → issue w c ∧ ∀ r w', answers w c r w' → I w') :
    SafeIn answers issue (fun w' _ => I w') w p := by
  induction p generalizing w with
  | ret a => exact hw
  | call c k ih =>
    obtain ⟨hi, hk⟩ := hc c w hp.1 hw
    exact ⟨hi, fun r w' ha => ih r (hk r w' ha) (hp.2 r)⟩

/-- A program whose calls are of a kind, as long as the answers are good, and a world that answers
such calls well, keep an invariant of the world. -/
theorem SafeIn.of_callsIf {good : (c : C) → R c → Prop} {P : C → Prop} {I : σ → Prop} (hw : I w)
    (hp : CallsIf good P p) (hc : ∀ c w, P c → I w →
      issue w c ∧ ∀ r w', answers w c r w' → good c r ∧ I w') :
    SafeIn answers issue (fun w' _ => I w') w p := by
  induction p generalizing w with
  | ret a => exact hw
  | call c k ih =>
    obtain ⟨hi, hk⟩ := hc c w hp.1 hw
    refine ⟨hi, fun r w' ha => ?_⟩
    obtain ⟨hg, hw'⟩ := hk r w' ha
    exact ih r hw' (hp.2 r hg)

/-- The rule of sequential composition. -/
theorem SafeIn.bind {mid : σ → α → Prop} {post : σ → β → Prop} (hp : SafeIn answers issue mid w p)
    (hf : ∀ w a, mid w a → SafeIn answers issue post w (f a)) :
    SafeIn answers issue post w (p.bind f) := by
  induction p generalizing w with
  | ret a => exact hf w a hp
  | call c k ih => exact ⟨hp.1, fun r w' ha => ih r (hp.2 r w' ha)⟩

theorem SafeIn.ite {b : Prop} [Decidable b] {q : Prog C R α}
    (hp : b → SafeIn answers issue post w p) (hq : ¬ b → SafeIn answers issue post w q) :
    SafeIn answers issue post w (if b then p else q) := by
  split
  case isTrue h => exact hp h
  case isFalse h => exact hq h

/-- The rule of iteration; the loop invariant may look at what is left of the list. -/
theorem SafeIn.forEach {I : List β → σ → Prop} {xs : List β} {f : β → Prog C R Unit} (hw : I xs w)
    (hf : ∀ x xs w, I (x :: xs) w → SafeIn answers issue (fun w' _ => I xs w') w (f x)) :
    SafeIn answers issue (fun w' _ => I [] w') w (forEach xs f) := by
  induction xs generalizing w with
  | nil => exact hw
  | cons x xs ih => exact (hf x xs w hw).bind fun _ _ hw' => ih hw'

theorem canReturn_ret (a : α) : CanReturn answers w (ret a) w a := ⟨[], .nil, .ret⟩

theorem canReturn_call {r : R c} (ha : answers w c r w₁) (hk : CanReturn answers w₁ (k r) w' a) :
    CanReturn answers w (call c k) w' a := by
  obtain ⟨h, hc, he⟩ := hk
  exact ⟨_, .cons ha hc, .call he⟩

theorem canIssue_call_self : CanIssue answers w (call c k) w c := ⟨[], .nil, .here⟩

theorem canIssue_call {c' : C} {r : R c} (ha : answers w c r w₁)
    (hk : CanIssue answers w₁ (k r) w' c') : CanIssue answers w (call c k) w' c' := by
  obtain ⟨h, hc, hi⟩ := hk
  exact ⟨_, .cons ha hc, .there hi⟩

theorem canReturn_ask {f : R c → Prog C R α} (r : R c) (ha : answers w c r w₁)
    (hf : CanReturn answers w₁ (f r) w' a) : CanReturn answers w (ask c >>= f) w' a :=
  canReturn_call ha hf

theorem CanReturn.weaken {answers' : σ → (c : C) → R c → σ → Prop}
    (hp : CanReturn answers w p w' a) (ha : ∀ w c r w', answers w c r w' → answers' w c r w') :
    CanReturn answers' w p w' a := by
  obtain ⟨h, hc, he⟩ := hp
  refine ⟨h, ?_, he⟩
  clear he
  induction hc with
  | nil => exact .nil
  | cons han _ ih => exact .cons (ha _ _ _ _ han) ih

theorem canIssue_ask {c' : C} {f : R c → Prog C R α} (r : R c)
    (ha : answers w c r w₁) (hf : CanIssue answers w₁ (f r) w' c') :
    CanIssue answers w (ask c >>= f) w' c' :=
  canIssue_call ha hf

theorem CanReturn.unique {P : C → Prop} {a' : α} {w₂ : σ} (hp : Calls P p)
    (hd : ∀ c, P c → ∀ w r w₁ r' w₂, answers w c r w₁ → answers w c r' w₂ → r = r' ∧ w₁ = w₂)
    (ha : CanReturn answers w p w₁ a) (ha' : CanReturn answers w p w₂ a') : a = a' := by
  obtain ⟨h, hc, he⟩ := ha
  obtain ⟨h', hc', he'⟩ := ha'
  induction he generalizing w h' with
  | ret =>
    cases he'
    rfl
  | call hk ih =>
    cases he' with
    | call hk' =>
      cases hc with
      | cons han hr =>
        cases hc' with
        | cons han' hr' =>
          obtain ⟨rfl, rfl⟩ := hd _ hp.1 _ _ _ _ _ han han'
          exact ih (hp.2 _) hr _ hr' hk'

theorem CanReturn.bind {b : β} (hp : CanReturn answers w p w₁ a)
    (hf : CanReturn answers w₁ (f a) w' b) : CanReturn answers w (p.bind f) w' b := by
  obtain ⟨h, hc, he⟩ := hp
  induction he generalizing w with
  | ret =>
    cases hc
    exact hf
  | call _ ih =>
    cases hc with
    | cons ha hr => exact canReturn_call ha (ih hf hr)

theorem CanReturn.bind_issue (hp : CanReturn answers w p w₁ a)
    (hf : CanIssue answers w₁ (f a) w' c) : CanIssue answers w (p.bind f) w' c := by
  obtain ⟨h, hc, he⟩ := hp
  induction he generalizing w with
  | ret =>
    cases hc
    exact hf
  | call _ ih =>
    cases hc with
    | cons ha hr => exact canIssue_call ha (ih hf hr)

theorem CanIssue.bind (hp : CanIssue answers w p w' c) (f : α → Prog C R β) :
    CanIssue answers w (p.bind f) w' c := by
  obtain ⟨h, hc, hi⟩ := hp
  refine ⟨h, hc, ?_⟩
  clear hc
  induction hi with
  | here => exact .here
  | there _ ih => exact .there ih

/-- Every call can be answered, and every result is good.  Programs make finitely many calls. -/
def Returns (answers : σ → (c : C) → R c → σ → Prop) (post : σ → α → Prop) (w : σ)
    (p : Prog C R α) : Prop :=
  SafeIn answers (fun w c => ∃ r w', answers w c r w') post w p

namespace Returns

theorem mono (hp : Returns answers post w p) (hpo : ∀ w a, post w a → post' w a) :
    Returns answers post' w p :=
  SafeIn.mono hp hpo

theorem bind {mid : σ → β → Prop} {p : Prog C R β} {f : β → Prog C R α}
    (hp : Returns answers mid w p) (hf : ∀ w a, mid w a → Returns answers post w (f a)) :
    Returns answers post w (p.bind f) :=
  SafeIn.bind hp hf

theorem ite {b : Prop} [Decidable b] {q : Prog C R α} (hp : b → Returns answers post w p)
    (hq : ¬ b → Returns answers post w q) : Returns answers post w (if b then p else q) :=
  SafeIn.ite hp hq

theorem call {r : R c} (ha : ∀ r' w', answers w c r' w' ↔ r' = r ∧ w' = w₁)
    (hk : Returns answers post w₁ (k r)) : Returns answers post w (.call c k) := by
  refine ⟨⟨r, w₁, (ha r w₁).mpr ⟨rfl, rfl⟩⟩, fun r' w' ha' => ?_⟩
  obtain ⟨rfl, rfl⟩ := (ha r' w').mp ha'
  exact hk

/-- Calls through another interface, in a world with more state: `π` is what the program knows of
it, `ρ` the rest. -/
theorem through {C' σ' τ : Type} {R' : C' → Type} {answers' : σ' → (c : C') → R' c → σ' → Prop}
    {f : C → C'} {g : ∀ c, R' (f c) → R c} (π : σ' → σ) (ρ : σ' → τ)
    (ha : ∀ w c r w₁, answers (π w) c r w₁ → ∃ r' w', answers' w (f c) r' w')
    (hpr : ∀ w c r w', answers' w (f c) r w' → answers (π w) c (g c r) (π w') ∧ ρ w' = ρ w)
    {w : σ'} (hp : Returns answers post (π w) p) :
    Returns answers' (fun w' a => post (π w') a ∧ ρ w' = ρ w) w (p.through f g) := by
  induction p generalizing w with
  | ret a => exact ⟨hp, rfl⟩
  | call c k ih =>
    obtain ⟨⟨r, w₁, han⟩, hk⟩ := hp
    refine ⟨ha w c r w₁ han, fun r' w' han' => ?_⟩
    obtain ⟨han₀, hr⟩ := hpr w c r' w' han'
    refine SafeIn.mono (ih _ (hk _ _ han₀)) fun w'' a h => ?_
    exact ⟨h.1, h.2.trans hr⟩

end Returns

end Prog
