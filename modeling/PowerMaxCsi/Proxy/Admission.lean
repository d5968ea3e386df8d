import Mathlib.Data.List.Nodup
import PowerMaxCsi.Proxy.Handlers

/-!
# Admission: how many requests forward to Unisphere at a time

`State.WithinLimits`: `Active` is the number of lock holders and at most `MaxActive`.  A refused
`ServeIterator` breaks it: it forwards without a slot, and its release takes a slot away from a
holder.  `Admits` excludes that step, and an entry with a negative limit.
-/

namespace PowerMaxCsi.Proxy

open Function List Option LockProperties

/-- No resource is over its limit, and `Active` counts the holders. -/
def State.WithinLimits (s : State) : Prop :=
  ∀ res, match s.fifoLocks res with
    | some p => (s.forwarding res : Int) ≤ p.maxActive ∧ p.active = s.holders res
    | none => s.forwarding res = 0 ∧ s.holders res = 0

/-- When a lock request is taken its `MaxActive` is not negative, and for `ServeIterator` there is a
free slot or place in the channel. -/
def Admits (s : State) : Event → Prop
  | .serve => ∀ request rest, s.lockRequestsQueue = request :: rest → request.unlock = false →
      0 ≤ request.maxActive ∧
        ∀ q, s.requests[request.waitChannel]? = some q → q.handler = .serveIterator →
          ∀ p, lockProps s.fifoLocks request = some p → ¬ p.isFull
  | _ => True

/-! ## Changing the phase of one request -/

variable {s : State} {r : Nat} {q : Request}

theorem setPhase_eq (h : s.requests[r]? = some q) (phase : Phase) :
    s.setPhase r phase = { s with requests := s.requests.set r { q with phase := phase } } := by
  simp [State.setPhase, h]

variable {requests : List Request}

theorem holders_set (h : requests[r]? = some q) (phase : Phase) (res : String) :
    (requests.set r { q with phase := phase }).countP (fun q => q.holds res) +
        (q.phase.held && decide (q.lock.resourceID = res)).toNat =
      requests.countP (fun q => q.holds res) +
        (phase.held && decide (q.lock.resourceID = res)).toNat := by
  obtain ⟨hr, rfl⟩ := List.getElem?_eq_some_iff.mp h
  rw [countP_set hr]
  change _ + (requests[r].holds res).toNat = _ +
    (({ requests[r] with phase := phase } : Request).holds res).toNat
  cases hq : requests[r].holds res with
  | false => cases Request.holds _ res <;> simp
  | true =>
    have hp : 0 < requests.countP (fun q => q.holds res) :=
      countP_pos_iff.mpr ⟨requests[r], getElem_mem hr, hq⟩
    cases Request.holds _ res <;> simp only [if_true, Bool.false_eq_true, if_false,
      Bool.toNat_true, Bool.toNat_false] <;> omega

theorem holders_set_eq (h : requests[r]? = some q) (phase : Phase) {res : String}
    (hh : q.lock.resourceID = res → phase.held = q.phase.held) :
    (requests.set r { q with phase := phase }).countP (fun q => q.holds res) =
      requests.countP (fun q => q.holds res) := by
  have hc := holders_set h phase res
  by_cases hr : q.lock.resourceID = res
  · rw [hh hr] at hc
    exact Nat.add_right_cancel hc
  · simpa [hr] using hc

theorem holders_pos {res : String} (h : requests[r]? = some q) (hq : q.holds res = true) :
    0 < requests.countP (fun q => q.holds res) :=
  countP_pos_iff.mpr ⟨q, mem_of_getElem? h, hq⟩

/-- The request of a queued message waits for its lock or for its release to be taken. -/
def Known (requests : List Request) (m : LockRequest) : Prop :=
  ∃ q, requests[m.waitChannel]? = some q ∧ m.resourceID = q.lock.resourceID ∧
    q.phase = if m.unlock then .releasing true else .waiting

/-- The channel belongs to a request that waits for the lock of the resource. -/
def Waits (requests : List Request) (res : String) (ch : Nat) : Prop :=
  ∃ q, requests[ch]? = some q ∧ q.phase = .waiting ∧ q.lock.resourceID = res

/-- The request forwards and releases only a lock that it was granted. -/
def Request.Honest (q : Request) : Prop :=
  match q.phase with
  | .answered false => q.handler ≠ .serveIterator
  | .serving granted | .leaving granted | .releasing granted => granted = true
  | _ => True

/-- The entry of a resource counts its holders, is within its limit, and has waiting requests only
when all slots are taken. -/
def EntryOk (entry : Option LockProperties) (holders : Nat) : Prop :=
  match entry with
  | some p => p.active = holders ∧ p.active ≤ p.maxActive ∧
      (p.waitChannel ≠ [] → p.active = p.maxActive)
  | none => holders = 0

/-- The invariant of the proxy along runs whose steps meet `Admits`. -/
structure Inv (s : State) : Prop where
  known : ∀ m ∈ s.lockRequestsQueue, Known s.requests m
  once : (s.lockRequestsQueue.map LockRequest.waitChannel).Nodup
  waits : ∀ res p, s.fifoLocks res = some p → ∀ ch ∈ p.waitChannel, Waits s.requests res ch
  waitOnce : ∀ res p, s.fifoLocks res = some p → p.waitChannel.Nodup ∧
    ∀ ch ∈ p.waitChannel, ch ∉ s.lockRequestsQueue.map LockRequest.waitChannel
  entry : ∀ res, EntryOk (s.fifoLocks res) (s.holders res)
  honest : ∀ q ∈ s.requests, q.Honest

variable {m : LockRequest}

theorem Known.congr (h : Known s.requests m)
    (he : requests[m.waitChannel]? = s.requests[m.waitChannel]?) : Known requests m := by
  obtain ⟨q, hq, hre⟩ := h
  exact ⟨q, he.trans hq, hre⟩

theorem Waits.congr {res : String} {ch : Nat} (h : Waits s.requests res ch)
    (he : requests[ch]? = s.requests[ch]?) : Waits requests res ch := by
  obtain ⟨q, hq, hre⟩ := h
  exact ⟨q, he.trans hq, hre⟩

theorem honest_set (h : ∀ q ∈ requests, q.Honest) {q' : Request} (hq' : q'.Honest) :
    ∀ q ∈ requests.set r q', q.Honest := by
  intro q hq
  rcases mem_or_eq_of_mem_set hq with hmem | rfl
  · exact h q hmem
  · exact hq'

variable (h : Inv s)

include h

theorem Inv.withinLimits : s.WithinLimits := by
  intro res
  have hle : s.forwarding res ≤ s.holders res := by
    refine countP_mono_left fun q hq hf => ?_
    have hh := h.honest q hq
    unfold Request.Honest at hh
    simp only [Request.forwards, Request.holds, Bool.and_eq_true] at hf ⊢
    refine ⟨?_, hf.2⟩
    cases hp : q.phase with
    | serving granted => rw [hp] at hh; exact hh
    | _ => rw [hp] at hf; simp [Phase.forwards] at hf
  have he := h.entry res
  cases hp : s.fifoLocks res with
  | none =>
    rw [hp] at he
    have : s.holders res = 0 := he
    exact ⟨by omega, this⟩
  | some p =>
    rw [hp] at he
    obtain ⟨ha, hm, -⟩ := he
    exact ⟨by omega, ha⟩

/-! ## Steps of the handlers -/

theorem Inv.absent (hq : s.requests[r]? = some q) (hwa : q.phase ≠ .waiting)
    (hr : q.phase ≠ .releasing true) :
    r ∉ s.lockRequestsQueue.map LockRequest.waitChannel ∧
      ∀ res p, s.fifoLocks res = some p → r ∉ p.waitChannel := by
  constructor
  · rw [List.mem_map]
    rintro ⟨m, hm, rfl⟩
    obtain ⟨q', hq', -, hp⟩ := h.known m hm
    obtain rfl : q = q' := some.inj (hq ▸ hq')
    cases hu : m.unlock with
    | false => exact hwa (by simpa [hu] using hp)
    | true => exact hr (by simpa [hu] using hp)
  · intro res p hp hc
    obtain ⟨q', hq', hw, -⟩ := h.waits res p hp r hc
    obtain rfl : q = q' := some.inj (hq ▸ hq')
    exact hwa hw

/-- **Frame rule for the handlers.**  One request, which stands nowhere, changes no holder, and may
send a message. -/
theorem Inv.handled (message : Option LockRequest)
    (hm : ∀ m ∈ message, m.waitChannel = r ∧ Known requests m)
    (hfr : ∀ ch, ch ≠ r → requests[ch]? = s.requests[ch]?)
    (hr : r ∉ s.lockRequestsQueue.map LockRequest.waitChannel ∧
      ∀ res p, s.fifoLocks res = some p → r ∉ p.waitChannel)
    (hc : ∀ res, requests.countP (fun q => q.holds res) = s.holders res)
    (hh : ∀ q ∈ requests, q.Honest) :
    Inv { s with
      lockRequestsQueue := s.lockRequestsQueue ++ message.toList, requests := requests } := by
  have hne {res : String} {p : LockProperties} (hp : s.fifoLocks res = some p) {ch : Nat}
      (hch : ch ∈ p.waitChannel) : ch ≠ r := fun he => hr.2 res p hp (he ▸ hch)
  refine ⟨fun m hmem => ?_, ?_, fun res p hp ch hch => ?_, fun res p hp => ?_, fun res => ?_, hh⟩
  · rcases mem_append.mp hmem with hmem | hmem
    · exact (h.known m hmem).congr (hfr _ fun he => hr.1 (List.mem_map.mpr ⟨m, hmem, he⟩))
    · exact (hm m (mem_toList.mp hmem)).2
  · cases message with
    | none => simpa using h.once
    | some m =>
      rw [map_append]
      refine h.once.append (nodup_singleton _) ?_
      simpa [(hm m rfl).1] using hr.1
  · exact (h.waits res p hp ch hch).congr (hfr ch (hne hp hch))
  · refine ⟨(h.waitOnce res p hp).1, fun ch hch hmem => ?_⟩
    rw [map_append, mem_append] at hmem
    rcases hmem with hmem | hmem
    · exact (h.waitOnce res p hp).2 ch hch hmem
    · obtain ⟨m, hm', rfl⟩ := List.mem_map.mp hmem
      exact hne hp hch (hm m (mem_toList.mp hm')).1
  · rw [State.holders, hc res]
    exact h.entry res

/-- A request that stands nowhere may change its phase if it holds what it held before. -/
theorem Inv.setPhase (hq : s.requests[r]? = some q) {phase : Phase} (hwa : q.phase ≠ .waiting)
    (hr : q.phase ≠ .releasing true) (hhe : phase.held = q.phase.held)
    (hh : ({ q with phase := phase } : Request).Honest) : Inv (s.setPhase r phase) := by
  rw [setPhase_eq hq]
  simpa using h.handled none (by simp) (fun _ hne => List.getElem?_set_ne (Ne.symm hne))
    (h.absent hq hwa hr) (fun _ => holders_set_eq hq phase fun _ => hhe)
    (honest_set h.honest hh)

theorem Inv.arrive (handler : Handler) (lock : Lock) : Inv { s with
      lockRequestsQueue := s.lockRequestsQueue ++ [lock.lockRequest s.requests.length]
      requests := s.requests ++ [{ handler := handler, lock := lock, phase := .waiting }] } := by
  have hn {q : Request} (hq : s.requests[s.requests.length]? = some q) : False := by simp at hq
  refine h.handled (r := s.requests.length) (some (lock.lockRequest _)) ?_ (fun ch hne => ?_)
    ⟨fun hmem => ?_, fun res p hp hc => ?_⟩ (fun res => ?_)
    (forall_mem_append.mpr ⟨h.honest, forall_mem_singleton.mpr trivial⟩)
  · rintro _ ⟨⟩
    exact ⟨rfl, _, List.getElem?_concat_length, rfl, rfl⟩
  · rcases Nat.lt_or_gt_of_ne hne with hlt | hlt
    · exact List.getElem?_append_left hlt
    · rw [List.getElem?_eq_none (Nat.le_of_lt hlt), List.getElem?_eq_none (by simp; omega)]
  · obtain ⟨m, hm, he⟩ := List.mem_map.mp hmem
    obtain ⟨q, hq, -⟩ := h.known m hm
    exact hn (he ▸ hq)
  · obtain ⟨q, hq, -⟩ := h.waits res p hp _ hc
    exact hn hq
  · simp [State.holders, Request.holds, Phase.held]

variable {s' : State}

theorem Inv.resume {schemeOk : Bool} (hs : s.step (.resume r schemeOk) = some s') : Inv s' := by
  simp only [State.step] at hs
  split at hs
  case h_1 q handler lock granted hq =>
    cases hs
    have hh := h.honest _ (mem_of_getElem? hq)
    refine h.setPhase hq (by simp) (by simp) ?_ ?_
    · cases granted with
      | true => cases schemeOk <;> rfl
      | false =>
        have : ¬ handler = .serveIterator := hh
        simp [afterLock, this, Phase.held]
    · cases granted with
      | true => cases schemeOk <;> rfl
      | false =>
        have : ¬ handler = .serveIterator := hh
        simp [afterLock, this, Request.Honest]
  case h_2 => simp at hs

theorem Inv.sendRelease (hq : s.requests[r]? = some q)
    (hp : q.phase = .serving true ∨ q.phase = .leaving true) (hs : s.sendRelease r q true = some s') :
    Inv s' := by
  obtain ⟨-, ⟨⟩⟩ := ite_none_right_eq_some.mp hs
  have hr : r < s.requests.length := (List.getElem?_eq_some_iff.mp hq).1
  rw [setPhase_eq (s := { s with
    lockRequestsQueue := s.lockRequestsQueue ++ [q.lock.unlockRequest r] }) hq]
  refine h.handled (some (q.lock.unlockRequest r)) ?_
    (fun _ hne => List.getElem?_set_ne (Ne.symm hne)) (h.absent hq ?_ ?_)
    (fun _ => holders_set_eq hq _ fun _ => ?_) (honest_set h.honest rfl)
  · rintro _ ⟨⟩
    exact ⟨rfl, _, List.getElem?_set_self hr, rfl, rfl⟩
  all_goals rcases hp with hp | hp <;> simp [hp, Phase.held]

theorem Inv.finish (hs : s.step (.finish r) = some s') : Inv s' := by
  simp only [State.step] at hs
  split at hs
  case h_2 => simp at hs
  case h_1 q hq =>
    have hh := h.honest q (mem_of_getElem? hq)
    unfold Request.Honest at hh
    split at hs
    case h_1 granted hp =>
      rw [hp] at hh
      obtain rfl : granted = true := hh
      exact h.sendRelease hq (.inl hp) hs
    case h_2 granted hp =>
      rw [hp] at hh
      obtain rfl : granted = true := hh
      exact h.sendRelease hq (.inr hp) hs
    case h_3 => simp at hs

omit h

/-! ## Steps of the lock server -/

variable {p : LockProperties}

theorem entryOk_lockProps {fifoLocks : LockTable} {holders : Nat}
    (h : EntryOk (fifoLocks m.resourceID) holders) (hm : 0 ≤ m.maxActive)
    (hp : lockProps fifoLocks m = some p) : EntryOk (some p) holders := by
  unfold lockProps at hp
  cases ht : fifoLocks m.resourceID with
  | some p' =>
    rw [ht] at hp h
    exact some.inj hp ▸ h
  | none =>
    rw [ht] at hp h
    obtain rfl : holders = 0 := h
    obtain ⟨-, ⟨⟩⟩ := ite_none_left_eq_some.mp hp
    exact ⟨rfl, hm, fun hne => absurd rfl hne⟩

theorem lockProps_waiting {fifoLocks : LockTable}
    (hp : lockProps fifoLocks m = some p) {ch : Nat} (hc : ch ∈ p.waitChannel) :
    fifoLocks m.resourceID = some p := by
  unfold lockProps at hp
  cases ht : fifoLocks m.resourceID with
  | some p' => rw [ht] at hp; exact hp
  | none =>
    rw [ht] at hp
    obtain ⟨-, ⟨⟩⟩ := ite_none_left_eq_some.mp hp
    simp at hc

variable {rest : List LockRequest} (hqu : s.lockRequestsQueue = m :: rest)

include h hqu

/-- **Frame rule for the server.**  Taking `m` gives a new entry to its resource and changes only
the requests in `touched`. -/
theorem Inv.served {e : Option LockProperties} (touched : Nat → Prop)
    (hf : ∀ ch, ¬ touched ch → requests[ch]? = s.requests[ch]?)
    (hre : ∀ m' ∈ rest, ¬ touched m'.waitChannel)
    (hot : ∀ res p, res ≠ m.resourceID → s.fifoLocks res = some p →
      ∀ ch ∈ p.waitChannel, ¬ touched ch)
    (hwa : ∀ p, e = some p → p.waitChannel.Nodup ∧ ∀ ch ∈ p.waitChannel,
      Waits requests m.resourceID ch ∧ ch ∉ rest.map LockRequest.waitChannel)
    (he : EntryOk e (requests.countP fun q => q.holds m.resourceID))
    (hco : ∀ res, res ≠ m.resourceID →
      requests.countP (fun q => q.holds res) = s.holders res) (hh : ∀ q ∈ requests, q.Honest) :
    Inv { lockRequestsQueue := rest
          fifoLocks := update s.fifoLocks m.resourceID e
          requests := requests } := by
  have ho := h.once
  rw [hqu, map_cons, nodup_cons] at ho
  refine ⟨?_, ho.2, ?_, ?_, ?_, hh⟩
  · intro m' hm'
    exact (h.known m' (by simp [hqu, hm'])).congr (hf _ (hre m' hm'))
  · intro res p hp ch hc
    by_cases hr : res = m.resourceID
    · subst hr
      exact ((hwa p (by simpa using hp)).2 ch hc).1
    · simp only [update_of_ne hr] at hp
      exact (h.waits res p hp ch hc).congr (hf ch (hot res p hr hp ch hc))
  · intro res p hp
    by_cases hr : res = m.resourceID
    · subst hr
      obtain ⟨hn, ha⟩ := hwa p (by simpa using hp)
      exact ⟨hn, fun ch hc => (ha ch hc).2⟩
    · simp only [update_of_ne hr] at hp
      refine ⟨(h.waitOnce res p hp).1, fun ch hc hmem => (h.waitOnce res p hp).2 ch hc ?_⟩
      rw [hqu]
      exact mem_cons_of_mem _ hmem
  · intro res
    by_cases hr : res = m.resourceID
    · subst hr
      simpa only [update_self, State.holders] using he
    · simp only [update_of_ne hr, State.holders, hco res hr]
      exact h.entry res

theorem Inv.lockProps_waits (hp : lockProps s.fifoLocks m = some p) :
    p.waitChannel.Nodup ∧ ∀ ch ∈ p.waitChannel, Waits s.requests m.resourceID ch ∧
      ch ≠ m.waitChannel ∧ ch ∉ rest.map LockRequest.waitChannel := by
  rcases hw : p.waitChannel with _ | ⟨ch₀, chs⟩
  · simp
  · have ht : s.fifoLocks m.resourceID = some p :=
      lockProps_waiting hp (show ch₀ ∈ p.waitChannel by simp [hw])
    rw [← hw]
    refine ⟨(h.waitOnce _ p ht).1, fun ch hc => ⟨h.waits _ p ht ch hc, ?_⟩⟩
    simpa [hqu] using (h.waitOnce _ p ht).2 ch hc

theorem Inv.head_once :
    (∀ m' ∈ rest, m'.waitChannel ≠ m.waitChannel) ∧
      ∀ res p, s.fifoLocks res = some p → ∀ ch ∈ p.waitChannel, ch ≠ m.waitChannel := by
  have ho := h.once
  rw [hqu, map_cons, nodup_cons] at ho
  refine ⟨fun m' hm' he => ho.1 (List.mem_map.mpr ⟨m', hm', he⟩), fun res p hp ch hc he => ?_⟩
  exact (h.waitOnce res p hp).2 ch hc (by simp [hqu, he])

theorem Inv.servedOwn (hq : s.requests[m.waitChannel]? = some q)
    (hres : m.resourceID = q.lock.resourceID) {e : Option LockProperties} {phase : Phase}
    (hwa : ∀ p, e = some p → p.waitChannel.Nodup ∧ ∀ ch ∈ p.waitChannel,
      Waits s.requests m.resourceID ch ∧ ch ≠ m.waitChannel ∧ ch ∉ rest.map LockRequest.waitChannel)
    (he : EntryOk e ((s.requests.set m.waitChannel { q with phase := phase }).countP
      fun q => q.holds m.resourceID))
    (hh : ({ q with phase := phase } : Request).Honest) :
    Inv { lockRequestsQueue := rest
          fifoLocks := update s.fifoLocks m.resourceID e
          requests := s.requests.set m.waitChannel { q with phase := phase } } := by
  obtain ⟨hre, ho⟩ := h.head_once hqu
  have hse : ∀ ch, ch ≠ m.waitChannel → (s.requests.set m.waitChannel
      { q with phase := phase })[ch]? = s.requests[ch]? := fun ch hch =>
    List.getElem?_set_ne (Ne.symm hch)
  refine h.served hqu ((· = m.waitChannel)) hse hre (fun res p _ => ho res p) (fun p hp => ?_) he
    (fun res hr => holders_set_eq hq phase fun heq => absurd (heq.symm.trans hres.symm) hr)
    (honest_set h.honest hh)
  obtain ⟨hn, hw⟩ := hwa p hp
  exact ⟨hn, fun ch hc => ⟨(hw ch hc).1.congr (hse ch (hw ch hc).2.1), (hw ch hc).2.2⟩⟩

theorem Inv.serveLock (hl : m.unlock = false) (hG : Admits s .serve) (hs : s.serve m rest = some s') :
    Inv s' := by
  obtain ⟨hm, hit⟩ := hG m rest hqu hl
  obtain ⟨q, hq, hres, hph⟩ := h.known m (by simp [hqu])
  replace hph : q.phase = .waiting := by simpa [hl] using hph
  unfold State.serve lockRequestHandler at hs
  cases hp : lockProps s.fifoLocks m with
  | none => simp [hp] at hs
  | some p =>
    obtain ⟨hn, hw⟩ := h.lockProps_waits hqu hp
    obtain ⟨ha, hle, hf⟩ : EntryOk (some p) (s.holders m.resourceID) :=
      entryOk_lockProps (h.entry _) hm hp
    simp only [State.holders] at ha
    rcases p.queue_cases m with ⟨hsl, hq'⟩ | ⟨hsl, -, hq'⟩ | ⟨hfu, hq'⟩
    · -- a slot is free: the request becomes a holder
      simp only [hp, hl, hq', map_some, Bool.false_eq_true, if_false, State.deliver, foldl_cons,
        some.injEq] at hs
      subst hs
      rw [setPhase_eq (s := { s with lockRequestsQueue := rest, fifoLocks := _ }) hq]
      have hco := holders_set hq (.answered true) m.resourceID
      simp only [hph, ← hres, Phase.held, Bool.false_and, Bool.true_and, decide_true,
        Bool.toNat_true, Bool.toNat_false] at hco
      refine h.servedOwn hqu hq hres (fun p' hp' => ?_) ⟨?_, ?_, ?_⟩ trivial
      · cases hp'
        simpa only [markModified_waitChannel] using ⟨hn, hw⟩
      · dsimp only
        omega
      · simp only [markModified_maxActive]
        omega
      · intro hne
        have := hf (by simpa using hne)
        omega
    · -- all slots are taken: the request waits
      simp only [hp, hl, hq', map_some, some.injEq] at hs
      subst hs
      have hon := h.once
      rw [hqu, map_cons, nodup_cons] at hon
      refine h.served hqu (fun _ => False) (fun _ _ => rfl) (fun _ _ => id)
        (fun _ _ _ _ _ _ => id) (fun p' hp' => ?_) ⟨by simpa using ha, by simpa using hle, fun _ => ?_⟩
        (fun _ _ => rfl) h.honest
      · cases hp'
        refine ⟨hn.append (nodup_singleton _) ?_, forall_mem_append.mpr ⟨?_, ?_⟩⟩
        · simpa using fun hc => (hw _ hc).2.1 rfl
        · exact fun ch hc => ⟨(hw ch hc).1, (hw ch hc).2.2⟩
        · exact forall_mem_singleton.mpr ⟨⟨q, hq, hph, hres.symm⟩, hon.1⟩
      · simp only [markModified_maxActive, markModified_active]
        omega
    · -- no place is free: the request is refused, so it is not a `ServeIterator`
      simp only [hp, hl, hq', map_some, Bool.false_eq_true, if_false, State.deliver, foldl_cons,
        some.injEq] at hs
      subst hs
      rw [setPhase_eq (s := { s with lockRequestsQueue := rest, fifoLocks := _ }) hq]
      refine h.servedOwn hqu hq hres (fun p' hp' => ?_)
        ⟨?_, by simpa using hle, fun hne => ?_⟩ fun hi => hit q hq hi p hp hfu
      · cases hp'
        simpa only [markModified_waitChannel] using ⟨hn, hw⟩
      · rw [holders_set_eq hq (.answered false) fun _ => by simp [hph, Phase.held]]
        simpa using ha
      · simpa using hf (by simpa using hne)

theorem Inv.serveUnlock (hu : m.unlock = true) (hs : s.serve m rest = some s') : Inv s' := by
  obtain ⟨q, hq, hres, hp⟩ := h.known m (by simp [hqu])
  replace hp : q.phase = .releasing true := by simpa [hu] using hp
  obtain ⟨hre, ho⟩ := h.head_once hqu
  have hpo : 0 < s.holders m.resourceID :=
    holders_pos hq (by simp [Request.holds, hp, Phase.held, hres])
  have hen := h.entry m.resourceID
  -- the releasing request is a holder, so there is an entry and it has a slot taken
  obtain ⟨p, ht⟩ : ∃ p, s.fifoLocks m.resourceID = some p := by
    cases ht : s.fifoLocks m.resourceID with
    | some p => exact ⟨p, rfl⟩
    | none =>
      rw [ht] at hen
      exact absurd (show s.holders m.resourceID = 0 from hen) (by omega)
  rw [ht] at hen
  obtain ⟨ha, hle, hf⟩ := hen
  have hdon := holders_set hq .done m.resourceID
  simp only [hp, ← hres, Phase.held, Bool.false_and, Bool.true_and, decide_true, Bool.toNat_true,
    Bool.toNat_false] at hdon
  simp only [State.holders] at ha hpo
  unfold State.serve lockRequestHandler at hs
  simp only [lockProps, ht, hu, if_true, release_eq, map_some, some.injEq] at hs
  subst hs
  rw [setPhase_eq (s := { s with lockRequestsQueue := rest, fifoLocks := _ }) hq]
  rcases p.handOver_cases with ⟨hfu, next, chs, hw, hov⟩ | ⟨hem, hov⟩
  · -- the slot goes to the oldest waiting request
    have hnex : next ∈ p.waitChannel := by simp [hw]
    obtain ⟨q₂, hq₂, hp₂, hres₂⟩ := h.waits _ p ht next hnex
    have hne : next ≠ m.waitChannel := ho _ p ht next hnex
    have hq₂' : (s.requests.set m.waitChannel { q with phase := .done })[next]? = some q₂ := by
      rw [List.getElem?_set_ne (Ne.symm hne)]
      exact hq₂
    have hn := (h.waitOnce _ p ht).1
    rw [hw, nodup_cons] at hn
    have hk : ¬ (p.active = 0 ∧ p.modified = true) := by omega
    simp only [hov, if_neg hk, State.deliver, foldl_cons]
    rw [setPhase_eq hq₂']
    have hg := holders_set hq₂' (.answered true) m.resourceID
    simp only [hp₂, hres₂, Phase.held, Bool.false_and, Bool.true_and, decide_true, Bool.toNat_true,
      Bool.toNat_false] at hg
    refine h.served hqu (fun ch => ch = m.waitChannel ∨ ch = next)
      (fun ch hch => ?_) (fun m' hm' => ?_) (fun res p' hr hp' ch hc => ?_)
      (fun p' hp' => ?_) ⟨?_, hle, fun _ => hfu⟩ (fun res hr => ?_)
      (honest_set (honest_set h.honest (show Request.Honest { q with phase := .done } from trivial))
        trivial)
    · rw [not_or] at hch
      rw [List.getElem?_set_ne (Ne.symm hch.2), List.getElem?_set_ne (Ne.symm hch.1)]
    · rintro (he | he)
      · exact hre m' hm' he
      · refine (h.waitOnce _ p ht).2 next hnex ?_
        rw [hqu, ← he]
        exact mem_cons_of_mem _ (mem_map_of_mem hm')
    · rintro (he | rfl)
      · exact ho res p' hp' ch hc he
      · obtain ⟨q₃, hq₃, -, hres₃⟩ := h.waits res p' hp' ch hc
        obtain rfl : q₂ = q₃ := some.inj (hq₂ ▸ hq₃)
        exact hr (hres₃ ▸ hres₂)
    · cases hp'
      refine ⟨hn.2, fun ch hc => ⟨?_, fun hmem => ?_⟩⟩
      · have hch : ch ∈ p.waitChannel := by simp [hw, hc]
        have hne : next ≠ ch := fun he => hn.1 (he ▸ hc)
        refine (h.waits _ p ht ch hch).congr ?_
        rw [List.getElem?_set_ne hne, List.getElem?_set_ne (ho _ p ht ch hch).symm]
      · refine (h.waitOnce _ p ht).2 ch (by simp [hw, hc]) ?_
        rw [hqu]
        exact mem_cons_of_mem _ hmem
    · dsimp only
      omega
    · exact (holders_set_eq hq₂' _ fun heq => absurd (heq.symm.trans hres₂) hr).trans
        (holders_set_eq hq _ fun heq => absurd (heq.symm.trans hres.symm) hr)
  · -- nobody waits: the slot becomes free
    have hno : p.waitChannel = [] := by
      by_contra hne
      exact hne (hem (hf hne))
    simp only [hov]
    refine h.servedOwn hqu hq hres (fun p' hp' => ?_) ?_ trivial
    · split at hp'
      · simp at hp'
      · cases hp'
        simp [hno]
    · split
      case isTrue hz =>
        change List.countP _ _ = 0
        omega
      case isFalse =>
        exact ⟨by dsimp only; omega, by dsimp only; omega, fun hne => absurd hno hne⟩

omit h hqu

theorem Inv.step (h : Inv s) {e : Event} (hG : Admits s e) (hs : s.step e = some s') : Inv s' := by
  cases e with
  | arrive handler url method limits =>
    obtain ⟨-, ⟨⟩⟩ := ite_none_right_eq_some.mp hs
    exact h.arrive handler _
  | serve =>
    simp only [State.step] at hs
    split at hs
    case h_1 m rest hq =>
      cases hu : m.unlock with
      | false => exact h.serveLock hq hu hG hs
      | true => exact h.serveUnlock hq hu hs
    case h_2 => simp at hs
  | resume r schemeOk => exact h.resume hs
  | finish r => exact h.finish hs

theorem inv_init : Inv proxyMachine.init :=
  ⟨by simp [proxyMachine], by simp [proxyMachine], by simp [proxyMachine],
    by simp [proxyMachine], fun _ => rfl, by simp [proxyMachine]⟩

/-- **Admission.**  If limits are not negative and no `ServeIterator` has to be refused, no resource
has more requests forwarding than its `MaxActive`, and `Active` counts the holders. -/
theorem withinLimits_of_admits (es : List Event) (s : State)
    (hG : proxyMachine.Along Admits proxyMachine.init es)
    (hr : proxyMachine.run proxyMachine.init es = some s) : s.WithinLimits :=
  (proxyMachine.run_invariant (fun _ _ _ h hG hs => Inv.step h hG hs) inv_init hG hr).withinLimits

def oneRead : Limits :=
  { maxActiveRead := 1, maxActiveWrite := 0, maxOutStandingRead := 1, maxOutStandingWrite := 0 }

theorem withinLimits_serveIterator_granted :
    ∃ s, proxyMachine.run proxyMachine.init
        [.arrive .serveIterator "u" "GET" oneRead, .serve, .resume 0 true] = some s ∧
      s.forwarding "u-Read" = 1 ∧ s.WithinLimits := by
  refine ⟨_, rfl, by decide, withinLimits_of_admits
    [.arrive .serveIterator "u" "GET" oneRead, .serve, .resume 0 true] _
    ⟨trivial, fun s₁ h₁ => ⟨?_, fun _ _ => ⟨trivial, fun _ _ => trivial⟩⟩⟩ rfl⟩
  cases h₁
  intro m rest hq _
  obtain ⟨rfl, rfl⟩ := cons.inj hq
  refine ⟨by decide, fun q _ _ p hp => ?_⟩
  cases hp
  decide

/-- One request is active, one waits, and a third from `ServeIterator` is refused; its release hands
the slot of the first to the second. -/
def refusedIterator : List Event :=
  [.arrive .serveReverseProxy "u" "GET" oneRead, .arrive .serveReverseProxy "u" "GET" oneRead,
    .arrive .serveIterator "u" "GET" oneRead, .serve, .serve, .serve,
    .resume 0 true, .resume 2 true]

/-- The refused `ServeIterator` forwards as the second of one; after its release two requests hold
the lock while `Active` is one. -/
theorem refusedIterator_over_admits :
    (∃ s p, proxyMachine.run proxyMachine.init refusedIterator = some s ∧
      s.fifoLocks "u-Read" = some p ∧ p.maxActive = 1 ∧ s.forwarding "u-Read" = 2 ∧
      ¬ s.WithinLimits) ∧
    ∃ s p, proxyMachine.run proxyMachine.init (refusedIterator ++ [.finish 2, .serve]) = some s ∧
      s.fifoLocks "u-Read" = some p ∧ p.active = 1 ∧ s.holders "u-Read" = 2 ∧
      ¬ s.WithinLimits := by
  refine ⟨⟨_, _, rfl, rfl, by decide, by decide, fun h => ?_⟩,
    ⟨_, _, rfl, rfl, by decide, by decide, fun h => ?_⟩⟩
  · exact absurd (h "u-Read").1 (by decide)
  · exact absurd (h "u-Read").2 (by decide)

end PowerMaxCsi.Proxy
