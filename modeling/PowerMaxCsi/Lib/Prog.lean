import Mathlib.Data.List.Basic

/-!
# Programs that call out, and what holds of their calls

`Prog C R α` computes an `α` and makes calls: `c : C` with an answer in `R c`.
* `Prog.Issues p h c`: `p`, given the answers in `h`, goes on to make the call `c`; `Prog.Exec p h
  a`: it returns `a`.
* `Prog.Safe issue post h p`: from `h` on, every call is allowed by `issue` and every result meets
  `post`.
-/

/-- A program with calls in `C`, answered in `R`. -/
inductive Prog (C : Type) (R : C → Type) (α : Type) where
  | ret (a : α)
  | call (c : C) (k : R c → Prog C R α)

namespace Prog

open List

variable {C : Type} {R : C → Type} {α β γ : Type}

def bind : Prog C R α → (α → Prog C R β) → Prog C R β
  | ret a, f => f a
  | call c k, f => call c fun r => (k r).bind f

def ask (c : C) : Prog C R (R c) := call c ret

def forEach (xs : List α) (f : α → Prog C R Unit) : Prog C R Unit :=
  match xs with
  | [] => ret ()
  | x :: xs => (f x).bind fun _ => forEach xs f

/-- The same program, with its calls made through another interface. -/
def through {C' : Type} {R' : C' → Type} (f : C → C') (g : ∀ c, R' (f c) → R c) :
    Prog C R α → Prog C' R' α
  | ret a => ret a
  | call c k => call (f c) fun r => through f g (k (g c r))

instance : Monad (Prog C R) where
  pure := ret
  bind := bind

@[simp] theorem pure_eq (a : α) : (pure a : Prog C R α) = ret a := rfl

@[simp] theorem bind_eq (p : Prog C R α) (f : α → Prog C R β) : p >>= f = p.bind f := rfl

@[simp] theorem ret_bind (a : α) (f : α → Prog C R β) : (ret a).bind f = f a := rfl

@[simp] theorem ask_bind (c : C) (f : R c → Prog C R β) : (ask c).bind f = call c f := rfl

/-- Whatever the answers are, every call is of a kind. -/
def Calls (P : C → Prop) : Prog C R α → Prop
  | ret _ => True
  | call c k => P c ∧ ∀ r, Calls P (k r)

variable {P : C → Prop} {p : Prog C R α} {c : C}

theorem Calls.bind {f : α → Prog C R β} (hp : Calls P p)
    (hf : ∀ a, Calls P (f a)) : Calls P (p.bind f) := by
  induction p with
  | ret a => exact hf a
  | call c k ih => exact ⟨hp.1, fun r => ih r (hp.2 r)⟩

theorem Calls.mono {Q : C → Prop} (hp : Calls P p) (hPQ : ∀ c, P c → Q c) : Calls Q p := by
  induction p with
  | ret a => trivial
  | call c k ih => exact ⟨hPQ c hp.1, fun r => ih r (hp.2 r)⟩

theorem Calls.ite {c : Prop} [Decidable c] {p q : Prog C R α} (hp : Calls P p)
    (hq : Calls P q) : Calls P (if c then p else q) := by
  split
  · exact hp
  · exact hq

theorem Calls.forEach {xs : List α} {f : α → Prog C R Unit}
    (hf : ∀ x ∈ xs, Calls P (f x)) : Calls P (forEach xs f) := by
  induction xs with
  | nil => trivial
  | cons x xs ih =>
    exact (hf x (by simp)).bind fun _ => ih fun y hy => hf y (mem_cons_of_mem _ hy)

/-- As long as the answers are good, every call is of a kind. -/
def CallsIf (good : (c : C) → R c → Prop) (P : C → Prop) : Prog C R α → Prop
  | ret _ => True
  | call c k => P c ∧ ∀ r, good c r → CallsIf good P (k r)

theorem CallsIf.calls (hp : CallsIf (fun _ _ => True) P p) : Calls P p := by
  induction p with
  | ret a => trivial
  | call c k ih => exact ⟨hp.1, fun r => ih r (hp.2 r trivial)⟩

theorem CallsIf.bind {good : (c : C) → R c → Prop} {f : α → Prog C R β} (hp : CallsIf good P p)
    (hf : ∀ a, CallsIf good P (f a)) : CallsIf good P (p.bind f) := by
  induction p with
  | ret a => exact hf a
  | call c k ih => exact ⟨hp.1, fun r hr => ih r (hp.2 r hr)⟩

theorem CallsIf.ite {good : (c : C) → R c → Prop} {c : Prop} [Decidable c] {p q : Prog C R α}
    (hp : CallsIf good P p) (hq : CallsIf good P q) : CallsIf good P (if c then p else q) := by
  split
  · exact hp
  · exact hq

abbrev Entry (C : Type) (R : C → Type) := (c : C) × R c

abbrev History (C : Type) (R : C → Type) := List (Entry C R)

/-- Given the answers in the history, the program goes on to make the call. -/
inductive Issues : Prog C R α → History C R → C → Prop where
  | here {c : C} {k : R c → Prog C R α} : Issues (call c k) [] c
  | there {c c' : C} {k : R c → Prog C R α} {r : R c} {h : History C R} :
      Issues (k r) h c' → Issues (call c k) (⟨c, r⟩ :: h) c'

/-- Given the answers in the history, the program returns the value. -/
inductive Exec : Prog C R α → History C R → α → Prop where
  | ret {a : α} : Exec (ret a) [] a
  | call {c : C} {k : R c → Prog C R α} {r : R c} {h : History C R} {a : α} :
      Exec (k r) h a → Exec (call c k) (⟨c, r⟩ :: h) a

variable {h : History C R} {a : α}

theorem Calls.exec (hp : Calls P p) (ha : Exec p h a) : ∀ e ∈ h, P e.1 := by
  induction ha with
  | ret =>
    intro e he
    cases he
  | call _ ih =>
    intro e he
    rcases mem_cons.mp he with rfl | he
    · exact hp.1
    · exact ih (hp.2 _) e he

theorem calls_bind {f : α → Prog C R β} :
    Calls P (p.bind f) ↔ Calls P p ∧ ∀ h a, Exec p h a → Calls P (f a) := by
  constructor
  · intro hp
    induction p with
    | ret a =>
      refine ⟨trivial, fun h b hb => ?_⟩
      cases hb
      exact hp
    | call c k ih =>
      refine ⟨⟨hp.1, fun r => (ih r (hp.2 r)).1⟩, fun h b hb => ?_⟩
      cases hb with
      | call hb => exact (ih _ (hp.2 _)).2 _ b hb
  · rintro ⟨hp, hf⟩
    induction p with
    | ret a => exact hf [] a .ret
    | call c k ih => exact ⟨hp.1, fun r => ih r (hp.2 r) fun h a ha => hf _ a (.call ha)⟩

theorem Exec.eq_of_append {t x y : History C R} {a' : α} (ha : Exec p h a) (ha' : Exec p t a')
    (heq : h ++ x = t ++ y) : a = a' := by
  induction ha generalizing t with
  | ret =>
    cases ha'
    rfl
  | call _ ih =>
    cases ha' with
    | call ha' =>
      obtain ⟨he, ht⟩ := cons.inj heq
      cases he
      exact ih ha' ht

theorem Calls.issues (hp : Calls P p) (hc : Issues p h c) : P c := by
  induction hc with
  | here => exact hp.1
  | there _ ih => exact ih (hp.2 _)

def result : Prog C R α → Option α
  | ret a => some a
  | call _ _ => none

def next : Prog C R α → Option C
  | ret _ => none
  | call c _ => some c

theorem next_eq_some : p.next = some c ↔ ∃ k, p = call c k := by
  cases p with
  | ret a => simp [next]
  | call c' k =>
    constructor
    · intro hn
      cases hn
      exact ⟨k, rfl⟩
    · rintro ⟨k', hk'⟩
      cases hk'
      rfl

theorem next_eq_none : p.next = none ↔ ∃ a, p = ret a := by
  cases p with
  | ret a => simp [next]
  | call c k => simp [next]

/-- What is left of a program after the history; `none` if it makes other calls. -/
def follow [DecidableEq C] : Prog C R α → History C R → Option (Prog C R α)
  | p, [] => some p
  | ret _, _ :: _ => none
  | call c k, ⟨c', r⟩ :: h => if e : c' = c then (k (e ▸ r)).follow h else none

theorem of_follow [DecidableEq C] {q : Prog C R α} (hq : p.follow h = some q) :
    (∀ {c}, Issues q [] c → Issues p h c) ∧ ∀ {a}, Exec q [] a → Exec p h a := by
  induction h generalizing p with
  | nil =>
    rw [follow] at hq
    cases hq
    exact ⟨id, id⟩
  | cons e h ih =>
    cases p with
    | ret a => cases hq
    | call c k =>
      simp only [follow] at hq
      split at hq
      case isFalse => cases hq
      case isTrue hc =>
        subst hc
        exact ⟨fun hi => .there ((ih hq).1 hi), fun he => .call ((ih hq).2 he)⟩

theorem issues_of_follow [DecidableEq C] (hn : (p.follow h).bind next = some c) : Issues p h c := by
  obtain ⟨q, hq, hn⟩ := Option.bind_eq_some_iff.mp hn
  obtain ⟨k, rfl⟩ := next_eq_some.mp hn
  exact (of_follow hq).1 .here

theorem exec_of_follow [DecidableEq C] (hr : (p.follow h).bind result = some a) : Exec p h a := by
  obtain ⟨q, hq, hr⟩ := Option.bind_eq_some_iff.mp hr
  cases q with
  | ret a' =>
    cases hr
    exact (of_follow hq).2 .ret
  | call c k => cases hr

/-- From the history `h` on, every call is allowed and every result is good. -/
def Safe (issue : History C R → C → Prop) (post : History C R → α → Prop) :
    History C R → Prog C R α → Prop
  | h, ret a => post h a
  | h, call c k => issue h c ∧ ∀ r, Safe issue post (h ++ [⟨c, r⟩]) (k r)

variable {issue : History C R → C → Prop} {post : History C R → α → Prop}

@[simp] theorem safe_ret : Safe issue post h (ret a) ↔ post h a := Iff.rfl

theorem Safe.mono {post' : History C R → α → Prop} (hp : Safe issue post h p)
    (hpo : ∀ h' a, h <+: h' → post h' a → post' h' a) : Safe issue post' h p := by
  induction p generalizing h with
  | ret a => exact hpo h a prefix_rfl hp
  | call c k ih =>
    exact ⟨hp.1, fun r => ih r (hp.2 r) fun h' a hh =>
      hpo h' a ((prefix_append _ _).trans hh)⟩

theorem Safe.weaken {issue' : History C R → C → Prop} (hp : Safe issue post h p)
    (hi : ∀ h c, issue h c → issue' h c) : Safe issue' post h p := by
  induction p generalizing h with
  | ret a => exact hp
  | call c k ih => exact ⟨hi h c hp.1, fun r => ih r (hp.2 r)⟩

theorem Safe.of_calls {I : History C R → Prop} (hh : I h) (hp : Calls P p)
    (hc : ∀ h c, P c → I h → issue h c ∧ ∀ r, I (h ++ [⟨c, r⟩])) :
    Safe issue (fun h' _ => I h') h p := by
  induction p generalizing h with
  | ret a => exact hh
  | call c k ih =>
    obtain ⟨hi, hk⟩ := hc h c hp.1 hh
    exact ⟨hi, fun r => ih r (hk r) (hp.2 r)⟩

theorem Safe.any (p : Prog C R α) : Safe (fun _ _ => True) (fun _ _ => True) h p := by
  induction p generalizing h with
  | ret a => trivial
  | call c k ih => exact ⟨trivial, fun r => ih r⟩

theorem Safe.entries {Q : C → Prop} (hp : Safe issue post h p) (hQ : ∀ h c, issue h c → Q c) :
    Safe issue (fun h' a => post h' a ∧ ∀ e ∈ h', e ∈ h ∨ Q e.1) h p := by
  induction p generalizing h with
  | ret a => exact ⟨hp, fun e he => .inl he⟩
  | call c k ih =>
    refine ⟨hp.1, fun r => (ih r (hp.2 r)).mono fun h' a _ ⟨hpo, hen⟩ =>
      ⟨hpo, fun e he => ?_⟩⟩
    rcases hen e he with hmem | ha
    · rcases mem_append.mp hmem with hmem | hmem
      · exact .inl hmem
      · rw [mem_singleton] at hmem
        exact .inr (hmem ▸ hQ h c hp.1)
    · exact .inr ha

/-- The rule of sequential composition. -/
theorem Safe.bind {mid : History C R → α → Prop} {post : History C R → β → Prop}
    {f : α → Prog C R β} (hp : Safe issue mid h p)
    (hf : ∀ h' a, h <+: h' → mid h' a → Safe issue post h' (f a)) :
    Safe issue post h (p.bind f) := by
  induction p generalizing h with
  | ret a => exact hf h a prefix_rfl hp
  | call c k ih =>
    exact ⟨hp.1, fun r => ih r (hp.2 r) fun h' a hh =>
      hf h' a ((prefix_append _ _).trans hh)⟩

theorem Safe.ite {b : Prop} [Decidable b] {q : Prog C R α} (hp : b → Safe issue post h p)
    (hq : ¬ b → Safe issue post h q) : Safe issue post h (if b then p else q) := by
  split
  case isTrue h => exact hp h
  case isFalse h => exact hq h

theorem Safe.issues (hp : Safe issue post h p) {tr : History C R} (hc : Issues p tr c) :
    issue (h ++ tr) c := by
  induction hc generalizing h with
  | here =>
    rw [append_nil]
    exact hp.1
  | there _ ih =>
    have := ih (hp.2 _)
    rwa [append_assoc] at this

theorem Safe.exec (hp : Safe issue post h p) {tr : History C R} (ha : Exec p tr a) :
    post (h ++ tr) a := by
  induction ha generalizing h with
  | ret =>
    rw [append_nil]
    exact hp
  | call _ ih =>
    have := ih (hp.2 _)
    rwa [append_assoc] at this

end Prog
