import PowerMaxCsi.Lib.Accounts
import PowerMaxCsi.Service.StorageGroupCalls
import PowerMaxCsi.Service.StorageGroupWorld

/-!
# What a run of the storage group service owes

`Ledger` is the account of a goroutine, and `Owes` says which requests are still to be answered.
Every lookup of a client is taken to succeed; a storage group that is read without an error is
there.
-/

namespace PowerMaxCsi.Service

open Prog List

abbrev SgRequest := AddRequest ⊕ RemoveRequest

structure Ledger where
  (taken answered : List SgRequest)
  key : Option String
  holds : Bool

namespace Ledger

def adds (g : Ledger) : Nat := g.taken.countP Sum.isLeft

def begin (g : Ledger) (job : SgJob) : Ledger := { g with key := some job.key, holds := true }

def record (g : Ledger) : (c : SgCall) → SgAnswer c → Ledger
  | .receiveAdd _, some req => { g with taken := g.taken ++ [.inl req] }
  | .receiveRemove _, some req => { g with taken := g.taken ++ [.inr req] }
  | .respondAdd req _, _ => { g with answered := g.answered ++ [.inl req] }
  | .respondRemove req _, _ => { g with answered := g.answered ++ [.inr req] }
  | .releaseToken _, _ => { g with holds := false }
  | _, _ => g

structure Settled (g : Ledger) : Prop where
  balance : g.taken.Perm g.answered
  token : g.holds = false

end Ledger

def sgAccount : Account SgCall SgJob SgAnswer Ledger where
  init := ⟨[], [], none, false⟩
  start := Ledger.begin
  record := Ledger.record

/-- How a call of a goroutine is answered, if at most `N` add requests are ever queued. -/
def LedgerAnswers (N : Nat) (g : Ledger) (c : SgCall) (r : SgAnswer c) (g' : Ledger) : Prop :=
  WellAnswered c r ∧ g' = g.record c r ∧ g'.adds ≤ N

/-- No request was answered that was not taken, or twice; the token that is given back is its own;
no nil dereference and no loop. -/
structure LedgerIssue (g : Ledger) (c : SgCall) : Prop where
  balance : g.answered.Subperm g.taken
  client : c ≠ .nilDereference
  ends : c ≠ .loops
  token : ∀ key, c = .releaseToken key → g.holds = true ∧ g.key = some key

/-- The goroutine has the token of the storage group and has to answer the requests. -/
structure Owes (N : Nat) (key : String) (pending : List SgRequest) (g : Ledger) : Prop where
  balance : g.taken.Perm (g.answered ++ pending)
  holds : g.holds = true
  key_eq : g.key = some key
  bound : g.adds ≤ N

abbrev OnAccount {α : Type} (N : Nat) (post : Ledger → α → Prop) (g : Ledger) (p : SgProg α) :
    Prop :=
  SafeIn (LedgerAnswers N) LedgerIssue post g p

namespace Owes

variable {N : Nat} {key : String} {pending pending' : List SgRequest} {g : Ledger} {α : Type}
  {post : Ledger → α → Prop}

theorem subperm (hg : Owes N key pending g) : g.answered.Subperm g.taken :=
  (sublist_append_left _ _).subperm.trans hg.balance.symm.subperm

theorem perm (hg : Owes N key pending g) (hp : pending.Perm pending') : Owes N key pending' g :=
  ⟨hg.balance.trans (hp.append_left _), hg.holds, hg.key_eq, hg.bound⟩

theorem take (hg : Owes N key pending g) (req : SgRequest)
    (hb : Ledger.adds { g with taken := g.taken ++ [req] } ≤ N) :
    Owes N key (pending ++ [req]) { g with taken := g.taken ++ [req] } := by
  refine ⟨?_, hg.holds, hg.key_eq, hb⟩
  rw [← append_assoc]
  exact hg.balance.append_right _

theorem answer {req : SgRequest} (hg : Owes N key (req :: pending) g) :
    Owes N key pending { g with answered := g.answered ++ [req] } := by
  refine ⟨?_, hg.holds, hg.key_eq, hg.bound⟩
  simpa using hg.balance

theorem ask {c : SgCall} {k : SgAnswer c → SgProg α} (hg : Owes N key pending g)
    (hc : c.quiet = true)
    (hk : ∀ r, WellAnswered c r → OnAccount N post g (k r)) : OnAccount N post g (.call c k) := by
  refine ⟨⟨hg.subperm, ?_, ?_, ?_⟩, ?_⟩
  · rintro rfl
    cases hc
  · rintro rfl
    cases hc
  · rintro key rfl
    cases hc
  · rintro r g' ⟨ha, rfl, -⟩
    have hr : g.record c r = g := by
      cases c with
      | receiveAdd | receiveRemove | respondAdd | respondRemove | releaseToken | nilDereference
      | loops => cases hc
      | _ => rfl
    rw [hr]
    exact hk r ha

theorem respondAdd {req : AddRequest} {err : Option String} {k : Unit → SgProg α}
    (hg : Owes N key (.inl req :: pending) g)
    (hk : OnAccount N post { g with answered := g.answered ++ [.inl req] } (k ())) :
    OnAccount N post g (.call (.respondAdd req err) k) := by
  refine ⟨⟨hg.subperm, nofun, nofun, nofun⟩, ?_⟩
  rintro r g' ⟨-, rfl, -⟩
  exact hk

theorem respondRemove {req : RemoveRequest} {err : Option String} {k : Unit → SgProg α}
    (hg : Owes N key (.inr req :: pending) g)
    (hk : OnAccount N post { g with answered := g.answered ++ [.inr req] } (k ())) :
    OnAccount N post g (.call (.respondRemove req err) k) := by
  refine ⟨⟨hg.subperm, nofun, nofun, nofun⟩, ?_⟩
  rintro r g' ⟨-, rfl, -⟩
  exact hk

theorem releaseToken (hg : Owes N key [] g) :
    OnAccount N (fun g' _ => g'.Settled) g (Sg.releaseToken key) := by
  refine ⟨⟨hg.subperm, nofun, nofun, ?_⟩, ?_⟩
  · rintro key' hk
    cases hk
    exact ⟨hg.holds, hg.key_eq⟩
  · have hb : g.taken.Perm g.answered := by simpa using hg.balance
    rintro r g' ⟨-, rfl, -⟩
    exact ⟨hb, rfl⟩

theorem settle {β : Type} {tag : β → SgRequest} {f : β → SgProg Unit} {requests : List β}
    (hg : Owes N key (requests.map tag) g)
    (hf : ∀ req pending g, Owes N key (tag req :: pending) g →
      OnAccount N (fun g' _ => Owes N key pending g') g (f req)) :
    OnAccount N (fun g' _ => g'.Settled) g
      ((Prog.forEach requests f).bind fun _ => Sg.releaseToken key) := by
  suffices h : OnAccount N (fun g' _ => Owes N key [] g') g (Prog.forEach requests f) from
    h.bind fun _ _ hg' => hg'.releaseToken
  induction requests generalizing g with
  | nil => exact hg
  | cons req requests ih => exact (hf req _ g hg).bind fun g' _ hg' => ih hg'

end Owes

section

variable {N : Nat} {key : String} {pending : List SgRequest} {g : Ledger} {α : Type}

abbrev Keeps (N : Nat) (g : Ledger) (p : SgProg α) : Prop :=
  SafeIn (LedgerAnswers N) LedgerIssue (fun g' _ => g' = g) g p

theorem Keeps.then {β : Type} {p : SgProg α} {f : α → SgProg β} {post : Ledger → β → Prop}
    (hp : Keeps N g p) (hf : ∀ a, OnAccount N post g (f a)) : OnAccount N post g (p.bind f) := by
  refine hp.bind fun g' a hg' => ?_
  subst hg'
  exact hf a

variable (hg : Owes N key pending g)
include hg

theorem keeps_of_calls {p : SgProg α} (hp : CallsIf WellAnswered (fun c => c.quiet = true) p) :
    Keeps N g p := by
  induction p with
  | ret a => exact rfl
  | call c k ih => exact hg.ask hp.1 fun r ha => ih r (hp.2 r ha)

theorem removeVolumesFromSGMV_keeps (clientSymID : String) (batch : Batch) :
    Keeps N g (removeVolumesFromSGMV clientSymID batch) := by
  have hr : ∀ maskingViewDeleted, Keeps N g (removeFromGroup batch maskingViewDeleted) := by
    exact fun _ => keeps_of_calls hg (removeFromGroup_calls (includes_quiet key) batch _)
  refine hg.ask rfl ?_
  rintro (err | _) -
  · exact rfl
  refine hg.ask rfl fun _ _ => hg.ask rfl ?_
  rintro (_ | _) -
  case true => exact rfl
  have hd := getMaskingViewAndSGDetailsFrom_calls (includes_quiet key) batch.symID [] []
    [batch.storageGroupID]
  refine (keeps_of_calls hg hd).then ?_
  rintro (err | ⟨maskingViewIDs, storageGroups⟩)
  · exact rfl
  dsimp only
  split
  · exact rfl
  split
  case isFalse => exact hr false
  refine .ite (fun _ => hr false) fun _ => ?_
  refine hg.ask rfl ?_
  rintro (err | _) -
  · exact rfl
  · exact hr true

theorem addVolumesToSGMV_keeps (cfg : SgConfig) (req : AddRequest) (devIDs : List String) :
    Keeps N g (addVolumesToSGMV cfg true req devIDs) :=
  keeps_of_calls hg (addVolumesToSGMV_calls (includes_quiet _) rfl cfg true (by simp) devIDs)

end

section

variable {N : Nat} {key : String} {pending : List SgRequest} {g : Ledger}

theorem processSingleRemoveVolumeFromSG_owes {req : RemoveRequest}
    (hg : Owes N key (.inr req :: pending) g) :
    OnAccount N (fun g' _ => Owes N key pending g') g
      (processSingleRemoveVolumeFromSG req) :=
  (removeVolumesFromSGMV_keeps hg _ _).then fun _ => hg.respondRemove hg.answer

theorem handleRemoveVolumeFromSGMVError_owes {req : RemoveRequest}
    (hg : Owes N key (.inr req :: pending) g) :
    OnAccount N (fun g' _ => Owes N key pending g') g
      (handleRemoveVolumeFromSGMVError req) := by
  refine hg.ask rfl ?_
  rintro (err | _) ha
  · cases ha
  refine hg.ask rfl ?_
  rintro (err | vol) -
  · exact hg.respondRemove hg.answer
  · exact .ite (fun _ => processSingleRemoveVolumeFromSG_owes hg) fun _ =>
      hg.respondRemove hg.answer

theorem takeRemoveRequests_owes (n : Nat) (initial : Option RemoveRequest)
    (requests : List RemoveRequest) (hg : Owes N key (requests.map .inr) g) :
    OnAccount N (fun g' requests' => Owes N key (requests'.map .inr) g') g
      (takeRemoveRequests key n initial requests) := by
  induction n generalizing initial requests g with
  | zero => exact hg
  | succ n ih =>
    refine ⟨⟨hg.subperm, nofun, nofun, nofun⟩, ?_⟩
    rintro (_ | req) g' ⟨-, rfl, hb⟩
    · exact hg
    have ht := hg.take (.inr req) hb
    refine .ite (fun _ => ?_) fun _ => ?_
    · refine ih _ (requests ++ [req]) ?_
      rw [map_append]
      exact ht
    · exact (processSingleRemoveVolumeFromSG_owes
        (ht.perm (perm_append_singleton _ _))).bind fun _ _ hg' => hg'

theorem runRemoveVolumesFromSGMV_settles (symID sgID : String) (hg : Owes N (getKey symID sgID) [] g) :
    OnAccount N (fun g' _ => g'.Settled) g
      (runRemoveVolumesFromSGMV symID sgID) := by
  refine (takeRemoveRequests_owes maxRemoveGroupSize none [] hg).bind ?_
  rintro g₁ (_ | ⟨req, rest⟩) hg₁
  · exact hg₁.releaseToken
  refine (removeVolumesFromSGMV_keeps hg₁ _ _).then ?_
  rintro (_ | err)
  · exact hg₁.settle fun req pending g hg => hg.respondRemove hg.answer
  · exact hg₁.settle fun req pending g hg => handleRemoveVolumeFromSGMVError_owes hg

theorem processSingleAddVolumeToSGMV_owes (cfg : SgConfig) {req : AddRequest}
    (hg : Owes N key (.inl req :: pending) g) :
    OnAccount N (fun g' _ => Owes N key pending g') g
      (processSingleAddVolumeToSGMV cfg req) := by
  refine hg.ask rfl ?_
  rintro (err | _) -
  · exact hg.respondAdd hg.answer
  · exact (addVolumesToSGMV_keeps hg cfg req _).then fun _ => hg.respondAdd hg.answer

theorem handleAddVolumeToSGMVError_owes (cfg : SgConfig) {req : AddRequest}
    (hg : Owes N key (.inl req :: pending) g) :
    OnAccount N (fun g' _ => Owes N key pending g') g
      (handleAddVolumeToSGMVError cfg req) := by
  refine hg.ask rfl ?_
  rintro (err | _) ha
  · cases ha
  refine hg.ask rfl ?_
  rintro (err | vol) -
  · exact hg.respondAdd hg.answer
  refine hg.ask rfl ?_
  rintro (err | view) -
  · exact processSingleAddVolumeToSGMV_owes cfg hg
  · split
    · exact hg.respondAdd hg.answer
    · exact processSingleAddVolumeToSGMV_owes cfg hg

theorem takeAddRequests_owes (cfg : SgConfig) (fuel : Nat) (initial : Option AddRequest)
    (requests : List AddRequest) (devIDs : List String) (hg : Owes N key (requests.map .inl) g)
    (hfu : N < g.adds + fuel) :
    OnAccount N (fun g' taken => Owes N key (taken.1.map .inl) g') g
      (takeAddRequests cfg key fuel initial requests devIDs) := by
  induction fuel generalizing initial requests devIDs g with
  | zero => exact absurd hg.bound (Nat.not_le_of_lt hfu)
  | succ fuel ih =>
    refine .ite (fun _ => hg) fun _ => ?_
    refine ⟨⟨hg.subperm, nofun, nofun, nofun⟩, ?_⟩
    rintro (_ | req) g' ⟨-, rfl, hb⟩
    · exact hg
    have ht := hg.take (.inl req) hb
    have hf := ht.perm (perm_append_singleton _ _)
    have ha : N < Ledger.adds { g with taken := g.taken ++ [.inl req] } + fuel := by
      simp only [Ledger.adds, countP_append] at hfu ⊢
      simp
      omega
    show SafeIn _ _ _ _ (ite ..)
    split
    case isFalse => exact (processSingleAddVolumeToSGMV_owes cfg hf).bind fun _ _ hg' => hg'
    refine (keeps_of_calls ht (addVolumeToSGMVVolumeCheck_calls (includes_quiet key) req)).then ?_
    rintro (err | ⟨addToSG, createMV⟩)
    · exact hf.respondAdd (ih _ _ _ hf.answer ha)
    dsimp only
    split
    · refine ih _ (requests ++ [req]) _ ?_ ha
      rw [map_append]
      exact ht
    · exact hf.respondAdd (ih _ _ _ hf.answer ha)

theorem runAddVolumesToSGMV_settles (cfg : SgConfig) (fuel : Nat) (symID sgID : String)
    (hg : Owes N (getKey symID sgID) [] g) (hf : N < fuel) :
    OnAccount N (fun g' _ => g'.Settled) g
      (runAddVolumesToSGMV cfg fuel symID sgID) := by
  refine (takeAddRequests_owes cfg fuel none [] [] hg (by omega)).bind ?_
  rintro g₁ ⟨_ | ⟨req, rest⟩, devIDs⟩ hg₁
  · exact hg₁.releaseToken
  refine hg₁.ask rfl ?_
  rintro (err | _) ha
  · cases ha
  refine (addVolumesToSGMV_keeps hg₁ cfg req devIDs).then ?_
  rintro (_ | err)
  · refine (keeps_of_calls hg₁ (readConnections_calls (includes_quiet "") req)).then fun _ => ?_
    exact hg₁.settle fun req pending g hg => hg.respondAdd hg.answer
  · exact hg₁.settle fun req pending g hg => handleAddVolumeToSGMVError_owes cfg hg

end

end PowerMaxCsi.Service
