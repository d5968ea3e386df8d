import PowerMaxCsi.Service.RequestAccounts
import PowerMaxCsi.Service.StorageGroupContract

/-!
# Every request is answered once

Each request is answered once and no token is lost, provided that the client of every request is
found.  Otherwise `handleRemoveVolumeFromSGMVError` and `handleAddVolumeToSGMVError` return without
a response.
-/

namespace PowerMaxCsi.Service

open Prog List Option Nat SgWorld Threads Account Ledger

variable {cfg : SgConfig} {arrays : SgArrays} {es : List SgEvent} {s t : SgPool}

/-- In a state that was reached by the events every request is answered once. -/
structure RequestsAnswered (cfg : SgConfig) (arrays : SgArrays) (es : List SgEvent) (t : SgPool) :
    Prop where
  once : ∀ i, (sgAccount.after es i).answered.Subperm (sgAccount.after es i).taken
  finished : ∀ i, (t.thread i).next = none →
    (sgAccount.after es i).taken.Perm (sgAccount.after es i).answered
  client : ∀ i, (t.thread i).next ≠ some .nilDereference
  progress : ∀ i c, (t.thread i).next = some c → ∃ r took t', WellAnswered c r ∧
    (sgThreads cfg arrays).step t (.reply i c r took) = some t'
  token : ∀ key, (∀ i, (sgAccount.after es i).key = some key → (t.thread i).next = none) →
    (t.world.states key).lock = 1

def clientFound : SgEvent → Bool
  | .reply _ (.getPowerMaxClient _) (.error _) _ => false
  | _ => true

def groupThere : SgEvent → Bool
  | .reply _ (.pmax (.getStorageGroup _ _)) (.ok none) _ => false
  | _ => true

def addQueued : SgEvent → Option AddRequest
  | .env (.requestAdd req) => some req
  | _ => none

/-- The run is not cut off before it has taken this many add requests. -/
def fuelAbove (n : Nat) : SgEvent → Bool
  | .start _ (.runAddVolumesToSGMV fuel _ _) => n < fuel
  | _ => true

def EnoughFuel (es : List SgEvent) : Prop :=
  ∀ e ∈ es, fuelAbove (es.filterMap addQueued).length e = true

instance (es : List SgEvent) : Decidable (EnoughFuel es) :=
  inferInstanceAs (Decidable (∀ e ∈ es, fuelAbove (es.filterMap addQueued).length e = true))

variable {took : Bool} {i : Nat} {c : SgCall} {e : SgEvent} {key : String}

theorem wellAnswered_of_found {r : SgAnswer c} (hc : clientFound (.reply i c r took) = true)
    (hg : groupThere (.reply i c r took) = true) : WellAnswered c r := by
  unfold WellAnswered
  split
  · cases hc
  · cases hg
  · trivial

def addTaken : SgEvent → Option AddRequest
  | .reply _ (.receiveAdd _) (some req) _ => some req
  | _ => none

/-- The add requests that were queued are those that were taken and those in the queues. -/
def Waiting (es : List SgEvent) (w : SgWorld) : Prop :=
  ∃ rest : List AddRequest, (es.filterMap addTaken ++ rest).Perm (es.filterMap addQueued) ∧
    ∀ key, (w.states key).addVolumeToSGMVQueue = rest.filter (·.key = key)

variable {w w' : SgWorld}

theorem Waiting.of_queue (hw : Waiting es w) (hq : addQueued e = none) (ht : addTaken e = none)
    (hqu : ∀ key, (w'.states key).addVolumeToSGMVQueue = (w.states key).addVolumeToSGMVQueue) :
    Waiting (es ++ [e]) w' := by
  obtain ⟨rest, hp, hr⟩ := hw
  refine ⟨rest, ?_, fun key => (hqu key).trans (hr key)⟩
  simpa [hq, ht] using hp

theorem Waiting.take (hw : Waiting es w) {req : AddRequest}
    {queue : List AddRequest} (hqu : (w.states key).addVolumeToSGMVQueue = req :: queue) :
    Waiting (es ++ [.reply i (.receiveAdd key) (some req) took])
      (w.setState key { w.states key with addVolumeToSGMVQueue := queue }) := by
  obtain ⟨rest, hp, hr⟩ := hw
  have hf : rest.filter (·.key = key) = req :: queue := (hr key).symm.trans hqu
  have hmem : req ∈ rest.filter (·.key = key) := hf ▸ mem_cons_self
  obtain ⟨hmem, hk⟩ := mem_filter.mp hmem
  refine ⟨rest.erase req, ?_, ?_⟩
  · have hs : (req :: rest.erase req).Perm rest := (perm_cons_erase hmem).symm
    have hq : addQueued (.reply i (.receiveAdd key) (some req) took) = none := rfl
    have ht : addTaken (.reply i (.receiveAdd key) (some req) took) = some req := rfl
    simpa [hq, ht] using (hs.append_left _).trans hp
  · intro key'
    rw [← erase_filter, setState_states]
    split
    case isTrue heq =>
      subst heq
      rw [hf, erase_cons_head]
    case isFalse hne =>
      have hn : req ∉ rest.filter (·.key = key') := by
        intro hmem'
        have hk' := (mem_filter.mp hmem').2
        simp only [decide_eq_true_eq] at hk hk'
        exact hne (hk'.symm.trans hk)
      rw [erase_of_not_mem hn, hr key']

theorem Waiting.queue (hw : Waiting es w) (req : AddRequest) :
    Waiting (es ++ [.env (.requestAdd req)])
      (w.setState req.key { w.states req.key with
        addVolumeToSGMVQueue := (w.states req.key).addVolumeToSGMVQueue ++ [req] }) := by
  obtain ⟨rest, hp, hr⟩ := hw
  have hq : addQueued (.env (.requestAdd req)) = some req := rfl
  have ht : addTaken (.env (.requestAdd req)) = none := rfl
  refine ⟨rest ++ [req], ?_, ?_⟩
  · simpa [hq, ht] using hp.append_right [req]
  · intro key
    rw [setState_states]
    split
    case isTrue heq =>
      subst heq
      simp [hr]
    case isFalse hne =>
      simp [hr, Ne.symm hne]

theorem Waiting.step (hs : Waiting es s.world)
    (he : (sgThreads cfg arrays).step s e = some t) : Waiting (es ++ [e]) t.world := by
  cases e with
  | start i job =>
    obtain ⟨a, w, -, hw, rfl⟩ := step_start_eq_some.mp he
    refine hs.of_queue rfl rfl fun key => ?_
    obtain ⟨-, hst⟩ := takeToken_states hw
    rw [hst]
    split
    case isTrue heq => rw [heq]
    case isFalse => rfl
  | reply i c r took =>
    obtain ⟨k, w, -, hse, rfl⟩ := step_reply_eq_some.mp he
    have hw : s.world.serve i took c r = some w := hse
    by_cases hc : ∃ key, c = .receiveAdd key
    · obtain ⟨key, rfl⟩ := hc
      rcases serve_receiveAdd hw with ⟨rfl, rfl⟩ | ⟨req, rest, hq, rfl, rfl⟩
      · exact hs.of_queue rfl rfl fun _ => rfl
      · exact hs.take hq
    · refine hs.of_queue rfl ?_ fun key => ?_
      · cases c with
        | receiveAdd key => exact absurd ⟨key, rfl⟩ hc
        | _ => rfl
      · exact serve_project KeyState.addVolumeToSGMVQueue hw
          (fun heq => absurd ⟨key, heq⟩ hc) (fun _ _ _ => rfl) fun _ _ _ _ => rfl
  | env action =>
    obtain ⟨w, ha, rfl⟩ := step_env_eq_some.mp he
    have hw : s.world.act action = some w := ha
    cases action with
    | requestAdd req =>
      simp only [act, ite_none_right_eq_some] at hw
      obtain ⟨-, hw⟩ := hw
      cases hw
      exact hs.queue req
    | requestRemove req =>
      simp only [act, ite_none_right_eq_some] at hw
      obtain ⟨-, hw⟩ := hw
      cases hw
      refine hs.of_queue rfl rfl fun key => ?_
      rw [setState_states]
      split
      case isTrue heq => rw [heq]
      case isFalse => rfl
    | publishMaskingViews symID maskingViewID devID view =>
      cases hw
      exact hs.of_queue rfl rfl fun _ => rfl

theorem adds_note_le (i : Nat) (g : Ledger) (e : SgEvent) :
    (sgAccount.note i g e).adds ≤ g.adds + ([e].filterMap addTaken).length := by
  cases e with
  | start k job =>
    simp only [note]
    split
    · exact le_add_right _ _
    · exact le_add_right _ _
  | env action => exact le_add_right _ _
  | reply k c r took =>
    simp only [note]
    split
    case isFalse => exact le_add_right _ _
    cases c with
    | receiveAdd key =>
      cases r with
      | none => exact le_add_right _ _
      | some req =>
        have ht : addTaken (.reply k (.receiveAdd key) (some req) took) = some req := rfl
        simp [sgAccount, Ledger.record, Ledger.adds, ht]
    | receiveRemove key =>
      cases r with
      | none => exact le_add_right _ _
      | some req => simp [sgAccount, Ledger.record, Ledger.adds]
    | _ => exact le_add_right _ _

theorem adds_le_taken (es : List SgEvent) (i : Nat) :
    (sgAccount.after es i).adds ≤ (es.filterMap addTaken).length := by
  induction es using List.reverseRecOn with
  | nil => exact le_rfl
  | append_singleton es e ih =>
    rw [after_concat, filterMap_append, length_append]
    exact (adds_note_le i _ e).trans (Nat.add_le_add_right ih _)

variable (hr : (sgThreads cfg arrays).machine.run (sgThreads cfg arrays).machine.init es = some t)

include hr

theorem waiting_run : Waiting es t.world := by
  induction es using List.reverseRecOn generalizing t with
  | nil =>
    cases hr
    exact ⟨[], .nil, fun _ => rfl⟩
  | append_singleton es e ih =>
    obtain ⟨s, hs, he⟩ := (sgThreads cfg arrays).machine.run_concat_eq_some.mp hr
    exact (ih hs).step he

theorem adds_le_queued (i : Nat) :
    (sgAccount.after es i).adds ≤ (es.filterMap addQueued).length := by
  obtain ⟨rest, hp, -⟩ := waiting_run hr
  have hl := hp.length_eq
  rw [length_append] at hl
  have ht := adds_le_taken es i
  omega

/-! ## The accounts along a run -/

theorem run_settles (hc : ∀ e ∈ es, clientFound e = true) (hg : ∀ e ∈ es, groupThere e = true)
    (hf : EnoughFuel es) (i : Nat) :
    SafeIn (LedgerAnswers (es.filterMap addQueued).length) LedgerIssue (fun g _ => g.Settled)
      (sgAccount.after es i) (t.thread i) := by
  have hb : ∀ es' i, es' <+: es →
      (sgAccount.after es' i).adds ≤ (es.filterMap addQueued).length := by
    rintro es' i ⟨rest, rfl⟩
    rw [Machine.run_append, bind_eq_some_iff] at hr
    obtain ⟨s, hs, -⟩ := hr
    refine (adds_le_queued hs i).trans ?_
    rw [filterMap_append, length_append]
    exact le_add_right _ _
  refine run_account hr ⟨.nil, rfl⟩ ?_ ?_ i
  · intro es' i job hp hse
    have ho : Owes (es.filterMap addQueued).length job.key []
        (sgAccount.start (sgAccount.after es' i) job) :=
      ⟨by simpa [sgAccount, begin] using hse.balance, rfl, rfl,
        hb es' i ((prefix_append _ _).trans hp)⟩
    cases job with
    | runAddVolumesToSGMV fuel symID sgID =>
      have hmem : .start i (.runAddVolumesToSGMV fuel symID sgID) ∈ es :=
        hp.subset (by simp)
      exact runAddVolumesToSGMV_settles cfg fuel symID sgID ho (of_decide_eq_true (hf _ hmem))
    | runRemoveVolumesFromSGMV symID sgID => exact runRemoveVolumesFromSGMV_settles symID sgID ho
  · intro es' i c r took hp
    have hmem : .reply i c r took ∈ es := hp.subset (by simp)
    refine ⟨wellAnswered_of_found (hc _ hmem) (hg _ hmem), rfl, ?_⟩
    have ha := hb _ i hp
    simpa [note] using ha

omit hr

def HoldsToken (es : List SgEvent) (i : Nat) (key : String) : Prop :=
  (sgAccount.after es i).holds = true ∧ (sgAccount.after es i).key = some key

structure TokenAt (es : List SgEvent) (w : SgWorld) (key : String) : Prop where
  lock : (w.states key).lock = if (w.states key).runner = none then 1 else 0
  holder : ∀ i, HoldsToken es i key ↔ (w.states key).runner = some i

theorem TokenAt.frame (hw : TokenAt es w key) (hl : (w'.states key).lock = (w.states key).lock)
    (hr : (w'.states key).runner = (w.states key).runner)
    (hh : ∀ i, HoldsToken (es ++ [e]) i key ↔ HoldsToken es i key) :
    TokenAt (es ++ [e]) w' key := by
  refine ⟨?_, fun i => ?_⟩
  · rw [hl, hr]
    exact hw.lock
  · rw [hh, hr]
    exact hw.holder i

theorem TokenAt.start {job : SgJob} (hw : ∀ key, TokenAt es w key)
    (hi : (sgAccount.after es i).holds = false) (ht : w.takeToken i job.key = some w') :
    TokenAt (es ++ [.start i job]) w' key := by
  obtain ⟨hl, hs⟩ := takeToken_states ht
  have hf : (w.states job.key).runner = none := by
    by_contra hne
    exact hl ((hw job.key).lock.trans (if_neg hne))
  have ha : ∀ k, sgAccount.after (es ++ [.start i job]) k =
      if i = k then (sgAccount.after es k).begin job else sgAccount.after es k :=
    fun k => after_concat ..
  refine ⟨?_, fun k => ?_⟩
  · rw [hs]
    split
    case isTrue => simp [(hw job.key).lock, hf]
    case isFalse => exact (hw key).lock
  · rw [HoldsToken, ha, hs]
    by_cases hk : i = k
    · subst hk
      by_cases hke : key = job.key
      · simp [hke, begin]
      · have hold := (hw key).holder i
        simp only [HoldsToken, hi] at hold
        simp [begin, hke, Ne.symm hke, ← hold]
    · have hold := (hw key).holder k
      rw [HoldsToken] at hold
      rw [if_neg hk, hold]
      split
      case isTrue hke => simp [hke, hf, hk]
      case isFalse => exact Iff.rfl

theorem TokenAt.release {key' : String} {r : Unit} (hw : ∀ key, TokenAt es w key)
    (hh : HoldsToken es i key') (hs : w.serve i took (.releaseToken key') r = some w') :
    TokenAt (es ++ [.reply i (.releaseToken key') r took]) w' key := by
  have hr := ((hw key').holder i).mp hh
  have ha : ∀ k, sgAccount.after (es ++ [.reply i (.releaseToken key') r took]) k =
      if i = k then { sgAccount.after es k with holds := false } else sgAccount.after es k :=
    fun k => after_concat ..
  rw [serve_releaseToken hs]
  refine ⟨?_, fun k => ?_⟩
  · rw [setState_states]
    split
    case isTrue => rfl
    case isFalse => exact (hw key).lock
  · have hold := (hw key).holder k
    rw [HoldsToken] at hold
    rw [HoldsToken, ha, setState_states]
    by_cases hk : i = k
    · subst hk
      rw [if_pos rfl]
      split
      case isTrue => simp
      case isFalse hne =>
        rw [← hold, hh.2]
        simp [Ne.symm hne]
    · rw [if_neg hk, hold]
      split
      case isTrue heq => simp [heq, hr, hk]
      case isFalse => exact Iff.rfl

theorem holdsToken_reply {r : SgAnswer c} (hc : ∀ key, c ≠ .releaseToken key)
    (k : Nat) (key : String) :
    HoldsToken (es ++ [.reply i c r took]) k key ↔ HoldsToken es k key := by
  have hr : ∀ g : Ledger, (g.record c r).holds = g.holds ∧ (g.record c r).key = g.key := by
    intro g
    cases c with
    | releaseToken key' => exact absurd rfl (hc key')
    | receiveAdd key' => cases r with
      | none => exact ⟨rfl, rfl⟩
      | some req => exact ⟨rfl, rfl⟩
    | receiveRemove key' => cases r with
      | none => exact ⟨rfl, rfl⟩
      | some req => exact ⟨rfl, rfl⟩
    | _ => exact ⟨rfl, rfl⟩
  rw [HoldsToken, HoldsToken, after_concat, note]
  split
  · rw [← (hr (sgAccount.after es k)).1, ← (hr (sgAccount.after es k)).2]
    rfl
  · exact Iff.rfl

theorem SgWorld.act_token {action : SgAction} (h : w.act action = some w') (key : String) :
    (w'.states key).lock = (w.states key).lock ∧
      (w'.states key).runner = (w.states key).runner := by
  cases action with
  | requestAdd req | requestRemove req =>
    simp only [act, ite_none_right_eq_some] at h
    obtain ⟨-, h⟩ := h
    cases h
    rw [setState_states]
    split
    case isTrue heq => exact heq ▸ ⟨rfl, rfl⟩
    case isFalse => exact ⟨rfl, rfl⟩
  | publishMaskingViews symID maskingViewID devID view =>
    cases h
    exact ⟨rfl, rfl⟩

theorem EnoughFuel.of_concat (hf : EnoughFuel (es ++ [e])) : EnoughFuel es := by
  intro e' he'
  have h := hf e' (mem_append_left _ he')
  unfold fuelAbove at h ⊢
  split at h
  · rw [filterMap_append, length_append] at h
    simp only [decide_eq_true_eq] at h ⊢
    omega
  · rfl

theorem tokens_run
    (hru : (sgThreads cfg arrays).machine.run (sgThreads cfg arrays).machine.init es = some t)
    (hcl : ∀ e ∈ es, clientFound e = true) (hg : ∀ e ∈ es, groupThere e = true)
    (hf : EnoughFuel es) (key : String) : TokenAt es t.world key := by
  induction es using List.reverseRecOn generalizing t key with
  | nil =>
    cases hru
    exact ⟨rfl, fun i => ⟨fun h => (nomatch h.1), nofun⟩⟩
  | append_singleton es e ih =>
    obtain ⟨s, hs, he⟩ := (sgThreads cfg arrays).machine.run_concat_eq_some.mp hru
    have hcl' : ∀ e ∈ es, clientFound e = true :=
      fun e' he' => hcl e' (mem_append_left _ he')
    have hg' : ∀ e ∈ es, groupThere e = true :=
      fun e' he' => hg e' (mem_append_left _ he')
    have ht := ih hs hcl' hg' hf.of_concat
    have hse := run_settles hs hcl' hg' hf.of_concat
    cases e with
    | start i job =>
      obtain ⟨a, w, hi, hw, rfl⟩ := step_start_eq_some.mp he
      have hid := hse i
      rw [hi] at hid
      exact TokenAt.start ht hid.token hw
    | reply i c r took =>
      obtain ⟨k, w, hi, hser, rfl⟩ := step_reply_eq_some.mp he
      have hw : s.world.serve i took c r = some w := hser
      have hp := hse i
      rw [hi] at hp
      by_cases hc : ∃ key', c = .releaseToken key'
      · obtain ⟨key', rfl⟩ := hc
        exact TokenAt.release ht (hp.1.token key' rfl) hw
      · have hne : ∀ key', c ≠ .releaseToken key' := fun key' heq => hc ⟨key', heq⟩
        exact (ht key).frame (serve_lock hw (hne key))
          (serve_runner hw (hne key)) fun k => holdsToken_reply hne k key
    | env action =>
      obtain ⟨w, hw, rfl⟩ := step_env_eq_some.mp he
      obtain ⟨hl, hr⟩ := act_token hw key
      refine (ht key).frame hl hr fun k => ?_
      rw [HoldsToken, after_concat]
      exact Iff.rfl

/-! ## No run is stuck -/

theorem SgArrays.exists_serve (a : SgArrays) (c : PmaxCall) :
    ∃ r a', a.serve false c r = some a' ∧ WellAnswered (.pmax c) r := by
  cases c with
  | getNFSExportList symID fsID => exact ⟨none, a, rfl, trivial⟩
  | _ => exact ⟨.error ⟨"", false⟩, a, rfl, trivial⟩

theorem SgWorld.exists_serve (w : SgWorld) (i : Nat) (hc : c ≠ .nilDereference)
    (he : c ≠ .loops) (hr : ∀ key, c = .releaseToken key → (w.states key).lock = 0) :
    ∃ r took w', w.serve i took c r = some w' ∧ WellAnswered c r := by
  cases c with
  | pmax c =>
    obtain ⟨r, a', hs, ha⟩ := w.arrays.exists_serve c
    exact ⟨r, false, { w with arrays := a' }, by simp [serve, hs], ha⟩
  | getPowerMaxClient symID => exact ⟨.ok (), false, w, rfl, trivial⟩
  | isBootLUNStorageGroup symID sgID => exact ⟨false, false, w, rfl, trivial⟩
  | selectOrCreateFCPGForHost symID host => exact ⟨.error "", false, w, rfl, trivial⟩
  | selectPortGroup => exact ⟨.error "", false, w, rfl, trivial⟩
  | requestLock symID maskingViewID reqID => exact ⟨.error "", false, w, rfl, trivial⟩
  | releaseLock symID maskingViewID reqID lockNum => exact ⟨(), false, w, rfl, trivial⟩
  | receiveAdd key =>
    cases hq : (w.states key).addVolumeToSGMVQueue with
    | nil => exact ⟨none, false, w, by simp [serve, hq], trivial⟩
    | cons req rest => exact ⟨some req, false, _, by simp [serve, hq]; rfl, trivial⟩
  | receiveRemove key =>
    cases hq : (w.states key).removeVolumeFromSGMVQueue with
    | nil => exact ⟨none, false, w, by simp [serve, hq], trivial⟩
    | cons req rest => exact ⟨some req, false, _, by simp [serve, hq]; rfl, trivial⟩
  | respondAdd req err => exact ⟨(), false, w, rfl, trivial⟩
  | respondRemove req err => exact ⟨(), false, w, rfl, trivial⟩
  | processing batch => exact ⟨(), false, _, rfl, trivial⟩
  | releaseToken key => exact ⟨(), false, _, if_pos (hr key rfl), trivial⟩
  | nilDereference => exact absurd rfl hc
  | loops => exact absurd rfl he

/-- **Every request is answered once** if the client of every request is found. -/
theorem requestsAnswered_of_clientFound (cfg : SgConfig) (arrays : SgArrays) (es : List SgEvent)
    (t : SgPool)
    (hru : (sgThreads cfg arrays).machine.run (sgThreads cfg arrays).machine.init es = some t)
    (hf : EnoughFuel es) (hg : ∀ e ∈ es, groupThere e = true)
    (hc : ∀ e ∈ es, clientFound e = true) : RequestsAnswered cfg arrays es t := by
  have hs := run_settles hru hc hg hf
  have ht := tokens_run hru hc hg hf
  refine ⟨fun i => ?_, fun i hn => ?_, fun i hn => ?_, fun i c hn => ?_, fun key hid => ?_⟩
  · cases hn : (t.thread i).next with
    | none =>
      obtain ⟨-, hse⟩ := (hs i).post_of_next hn
      exact hse.balance.symm.subperm
    | some c => exact ((hs i).issue_of_next hn).balance
  · obtain ⟨-, hse⟩ := (hs i).post_of_next hn
    exact hse.balance
  · exact ((hs i).issue_of_next hn).client rfl
  · have hi := (hs i).issue_of_next hn
    have hre : ∀ key, c = .releaseToken key → (t.world.states key).lock = 0 := by
      intro key hk
      have hr := ((ht key).holder i).mp (hi.token key hk)
      rw [(ht key).lock, hr]
      rfl
    obtain ⟨r, took, w, hser, ha⟩ := t.world.exists_serve i hi.client hi.ends hre
    obtain ⟨k, hth⟩ := next_eq_some.mp hn
    exact ⟨r, took, _, ha, step_reply_eq_some.mpr ⟨k, w, hth, hser, rfl⟩⟩
  · have hfr : (t.world.states key).runner = none := by
      by_contra hne
      obtain ⟨i, hr⟩ := ne_none_iff_exists'.mp hne
      obtain ⟨hh, hk⟩ := ((ht key).holder i).mpr hr
      obtain ⟨-, hse⟩ := (hs i).post_of_next (hid i hk)
      rw [hse.token] at hh
      cases hh
    rw [(ht key).lock, if_pos hfr]

def removeRequest : RemoveRequest :=
  ⟨"csi-no-srp-sg-ABC-node1", "csi-mv-ABC-node1", "req1", "000120000548", "000120000548", "00001",
    0⟩

def requestTaken : List SgEvent :=
  [.env (.requestRemove removeRequest),
    .start 0 (.runRemoveVolumesFromSGMV "000120000548" "csi-no-srp-sg-ABC-node1"),
    .reply 0 (.receiveRemove removeRequest.key) (some removeRequest) false,
    .reply 0 (.receiveRemove removeRequest.key) none false]

/-- The client of the request is there, and its storage group is not on the array. -/
def clientThere : List SgEvent :=
  requestTaken ++
    [.reply 0 (.getPowerMaxClient "000120000548") (.ok ()) false,
      .reply 0 (.processing (removeRequest.batch ["00001"])) () false,
      .reply 0 (.isBootLUNStorageGroup "000120000548" "csi-no-srp-sg-ABC-node1") false false,
      .reply 0 (.pmax (.getStorageGroup "000120000548" "csi-no-srp-sg-ABC-node1"))
        (.error ⟨"Storage Group not found", false⟩) false,
      .reply 0 (.getPowerMaxClient "000120000548") (.ok ()) false,
      .reply 0 (.pmax (.getVolumeByID "000120000548" "00001"))
        (.error ⟨"Volume not found", false⟩) false,
      .reply 0 (.respondRemove removeRequest (some "Volume not found")) () false,
      .reply 0 (.releaseToken removeRequest.key) () false]

def clientMissing : List SgEvent :=
  requestTaken ++
    [.reply 0 (.getPowerMaxClient "000120000548") (.error "array 000120000548 not managed") false,
      .reply 0 (.getPowerMaxClient "000120000548") (.error "array 000120000548 not managed") false,
      .reply 0 (.releaseToken removeRequest.key) () false]

def bareArrays : SgArrays := ⟨fun _ _ => none, fun _ _ => none⟩

theorem clientThere_answered : ∃ t,
    (sgThreads ⟨false, ""⟩ bareArrays).machine.run (sgThreads ⟨false, ""⟩ bareArrays).machine.init
      clientThere = some t ∧
    (t.thread 0).next = none ∧ RequestsAnswered ⟨false, ""⟩ bareArrays clientThere t := by
  have ho : (((sgThreads ⟨false, ""⟩ bareArrays).machine.run
      (sgThreads ⟨false, ""⟩ bareArrays).machine.init clientThere).map
        fun t => (t.thread 0).next) = some none := by decide
  obtain ⟨t, hr, hn⟩ := map_eq_some_iff.mp ho
  refine ⟨t, hr, hn, ?_⟩
  exact requestsAnswered_of_clientFound ⟨false, ""⟩ bareArrays clientThere t hr (by decide)
    (by decide) (by decide)

/-- Without a client the worker returns before it answers the removals that it took. -/
theorem clientMissing_unanswered : ¬ ∀ cfg arrays es t,
    (sgThreads cfg arrays).machine.run (sgThreads cfg arrays).machine.init es = some t →
      EnoughFuel es → (∀ e ∈ es, groupThere e = true) → RequestsAnswered cfg arrays es t := by
  intro hal
  have ho : (((sgThreads ⟨false, ""⟩ bareArrays).machine.run
      (sgThreads ⟨false, ""⟩ bareArrays).machine.init clientMissing).map
        fun t => (t.thread 0).next) = some none := by decide
  obtain ⟨t, hr, hn⟩ := map_eq_some_iff.mp ho
  have ha := hal ⟨false, ""⟩ bareArrays clientMissing t hr (by decide) (by decide)
  have hp : [Sum.inr removeRequest].Perm ([] : List SgRequest) := ha.finished 0 hn
  cases hp.length_eq

end PowerMaxCsi.Service
