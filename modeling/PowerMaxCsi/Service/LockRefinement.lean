import PowerMaxCsi.Lib.FifoLock
import PowerMaxCsi.Service.Locks

/-!
# The lock manager refines the first-in, first-out lock

`idealStep` says what the events mean for the ideal lock of a resource, and `Refines` relates a
state to the ideal locks.  `Refines.step`: a step succeeds, and is the ideal step, unless it adds to
100 waiting requests.
-/

namespace PowerMaxCsi.Service

open Function List Option FifoLock LockRequest LockEvent

abbrev IdealLocks := String → FifoLock Int

def idealStep (a : IdealLocks) : LockEvent → IdealLocks
  | .requestLock res n => update a res ((a res).lock n)
  | .releaseLock res n => update a res ((a res).unlock n)
  | .acquire _ | .cleanup _ => a

def LockEvent.requests : LockEvent → List (String × Int)
  | .requestLock res n => [(res, (n : Int))]
  | _ => []

def LockEvent.releases : LockEvent → List (String × Int)
  | .releaseLock res n => [(res, (n : Int))]
  | _ => []

def numbersOf (log : List (String × Int)) (res : String) : List Int :=
  (log.filter fun g => g.1 = res).map Prod.snd

theorem numbersOf_append_self (log : List (String × Int)) (res : String) (n : Int) :
    numbersOf (log ++ [(res, n)]) res = numbersOf log res ++ [n] := by
  simp [numbersOf]

theorem numbersOf_append_ne (log : List (String × Int)) {r res : String} (h : r ≠ res) (n : Int) :
    numbersOf (log ++ [(res, n)]) r = numbersOf log r := by
  simp [numbersOf, Ne.symm h]

theorem mem_numbersOf {log : List (String × Int)} {res : String} {n : Int} :
    n ∈ numbersOf log res ↔ (res, n) ∈ log := by
  simp [numbersOf]

namespace LockState

def Unused (s : LockState) (res : String) (info : LockRequestInfo) : Prop :=
  s.received[info.waitChannel]? = some (res, info.lockNumber) ∧
    s.channels[info.waitChannel]? = some newWaitChannel

def Open (s : LockState) (res : String) (info : LockRequestInfo) : Prop :=
  s.received[info.waitChannel]? = some (res, info.lockNumber) ∧
    ∃ b, s.channels[info.waitChannel]? = some { buffered := b, closed := false }

/-- The entry of a resource stands for the ideal lock. -/
def EntryRefines (s : LockState) (res : String) (l : FifoLock Int) : Option LockInfo → Prop
  | none => l.holder = none
  | some info =>
    info.lockRequests.map LockRequestInfo.lockNumber = l.waiters ∧
    (∀ w ∈ info.lockRequests, s.Unused res w) ∧
    match l.holder with
    | none => info.currentLockNumber = -1
    | some n => info.currentLockNumber = n ∧ s.Open res ⟨n, info.currentWaitChannel⟩

structure RefinesAt (s : LockState) (res : String) (l : FifoLock Int) : Prop where
  received : numbersOf s.received res = l.received
  granted : numbersOf s.granted res = l.granted
  entry : s.EntryRefines res l (s.fifolocks res)

/-- The state stands for the ideal locks; no lock number was used twice. -/
structure Refines (s : LockState) (a : IdealLocks) : Prop where
  lock : ∀ res, s.RefinesAt res (a res)
  once : (s.received.map Prod.snd).Nodup
  nonneg : ∀ g ∈ s.received, 0 ≤ g.2
  channels : s.channels.length = s.received.length

structure Keeps (s s' : LockState) (r : String) : Prop where
  entry : s'.fifolocks r = s.fifolocks r
  received : numbersOf s'.received r = numbersOf s.received r
  granted : numbersOf s'.granted r = numbersOf s.granted r
  channel : ∀ (ch : Nat) (n : Int), s.received[ch]? = some (r, n) →
    s'.received[ch]? = some (r, n) ∧ s'.channels[ch]? = s.channels[ch]?

variable {r : String}

theorem Keeps.trans {s₁ s₂ s₃ : LockState} (h₁ : Keeps s₁ s₂ r) (h₂ : Keeps s₂ s₃ r) :
    Keeps s₁ s₃ r where
  entry := h₂.entry.trans h₁.entry
  received := h₂.received.trans h₁.received
  granted := h₂.granted.trans h₁.granted
  channel ch n h := by
    obtain ⟨hr, hc⟩ := h₁.channel ch n h
    obtain ⟨hr', hc'⟩ := h₂.channel ch n hr
    exact ⟨hr', hc'.trans hc⟩

variable {s s' : LockState} {w : LockRequestInfo}

theorem Unused.keep (h : s.Unused r w) (hk : Keeps s s' r) : s'.Unused r w :=
  have hch := hk.channel _ _ h.1
  ⟨hch.1, hch.2.trans h.2⟩

theorem Open.keep (h : s.Open r w) (hk : Keeps s s' r) : s'.Open r w :=
  have hch := hk.channel _ _ h.1
  ⟨hch.1, h.2.imp fun _ hb => hch.2.trans hb⟩

theorem EntryRefines.keep {l : FifoLock Int} {entry : Option LockInfo}
    (h : s.EntryRefines r l entry) (hun : ∀ w, s.Unused r w → s'.Unused r w)
    (ho : ∀ w, s.Open r w → s'.Open r w) : s'.EntryRefines r l entry := by
  cases entry with
  | none => exact h
  | some info =>
    obtain ⟨hw, hu, hh⟩ := h
    refine ⟨hw, fun w hmem => hun w (hu w hmem), ?_⟩
    cases hl : l.holder with
    | none => rw [hl] at hh; exact hh
    | some n => rw [hl] at hh; exact ⟨hh.1, ho _ hh.2⟩

theorem RefinesAt.keep {l : FifoLock Int} (h : s.RefinesAt r l) (hk : Keeps s s' r) :
    s'.RefinesAt r l where
  received := hk.received.trans h.received
  granted := hk.granted.trans h.granted
  entry := by
    rw [hk.entry]
    exact h.entry.keep (fun _ hw => hw.keep hk) (fun _ hw => hw.keep hk)

theorem channel_ne {ch ch' : Nat} {g g' : String × Int} (h : s.received[ch]? = some g)
    (h' : s.received[ch']? = some g') (hne : g ≠ g') : ch ≠ ch' := by
  rintro rfl
  exact hne (some.inj (h.symm.trans h'))

variable {res : String}

theorem keeps_set {ch : Nat} {n : Int} (hr : r ≠ res) (h : s.received[ch]? = some (res, n))
    (c : WaitChannel) (entry : Option LockInfo) {granted : List (String × Int)}
    (released : List (String × Int)) (hg : numbersOf granted r = numbersOf s.granted r) :
    Keeps s
      { fifolocks := update s.fifolocks res entry
        channels := s.channels.set ch c
        received := s.received
        granted := granted
        released := released } r where
  entry := update_of_ne hr _ _
  received := rfl
  granted := hg
  channel ch' n' h' := by
    refine ⟨h', List.getElem?_set_ne (channel_ne h h' ?_)⟩
    rintro ⟨⟩
    exact hr rfl

/-! ## Granting a lock -/

theorem grant_eq (h : s.Unused res w) (info : LockInfo) :
    (s.setInfo res info).grant res w = .ok
      { fifolocks := update s.fifolocks res (some info)
        channels := s.channels.set w.waitChannel { buffered := true, closed := false }
        received := s.received
        granted := s.granted ++ [(res, w.lockNumber)]
        released := s.released } := by
  have hch : (s.setInfo res info).channels[w.waitChannel]? = some newWaitChannel := h.2
  simp only [grant, hch]
  rfl

theorem close_eq (h : s.Open res w) :
    ∃ c, s.close w.waitChannel = .ok { s with channels := s.channels.set w.waitChannel c } := by
  obtain ⟨-, b, hb⟩ := h
  exact ⟨{ buffered := b, closed := true }, by simp [close, hb]⟩

/-- The channel of `w` is as made, and so are those of the requests that stay behind it. -/
structure Next (s : LockState) (res : String) (w : LockRequestInfo)
    (rest : List LockRequestInfo) : Prop where
  unused : s.Unused res w
  behind : ∀ v ∈ rest, s.Unused res v ∧ v.lockNumber ≠ w.lockNumber

variable {info : LockInfo}

theorem Next.grant (h : s.Next res w info.lockRequests) (hn : info.currentLockNumber = w.lockNumber)
    (hch : info.currentWaitChannel = w.waitChannel) :
    ∃ s', (s.setInfo res info).grant res w = .ok s' ∧
      s'.received = s.received ∧ s'.released = s.released ∧
      s'.granted = s.granted ++ [(res, w.lockNumber)] ∧
      s'.channels.length = s.channels.length ∧ s'.fifolocks res = some info ∧
      (∀ r, r ≠ res → Keeps s s' r) ∧
      ∀ l : FifoLock Int, l.holder = some w.lockNumber →
        l.waiters = info.lockRequests.map LockRequestInfo.lockNumber →
        s'.EntryRefines res l (some info) := by
  have hlt : w.waitChannel < s.channels.length := (List.getElem?_eq_some_iff.mp h.unused.2).1
  refine ⟨_, grant_eq h.unused info, rfl, rfl, rfl, by simp, update_self _ _ _,
    fun r hr => keeps_set hr h.unused.1 _ _ _ (numbersOf_append_ne _ hr _),
    fun l hl hw => ⟨hw.symm, fun v hv => ⟨(h.behind v hv).1.1, ?_⟩, ?_⟩⟩
  · have hne : w.waitChannel ≠ v.waitChannel := by
      refine channel_ne h.unused.1 (h.behind v hv).1.1 ?_
      rw [Ne, Prod.mk.injEq]
      exact fun he => (h.behind v hv).2 he.2.symm
    exact (List.getElem?_set_ne hne).trans (h.behind v hv).1.2
  · rw [hl]
    refine ⟨hn, ?_, true, ?_⟩
    · simpa only [hch] using h.unused.1
    · simp only [hch]
      exact List.getElem?_set_self hlt

/-! ## What the relation says of the numbers of a resource -/

variable {a : IdealLocks} (h : s.Refines a)

include h

theorem mem_received_iff {n : Int} : n ∈ (a res).received ↔ (res, n) ∈ s.received := by
  rw [← (h.lock res).received, mem_numbersOf]

theorem received_nodup (res : String) : (a res).received.Nodup := by
  rw [← (h.lock res).received]
  exact h.once.sublist (filter_sublist.map _)

theorem holder_nonneg {n : Int} (hn : (a res).holder = some n) : 0 ≤ n :=
  h.nonneg _ ((mem_received_iff h).mp (mem_received_of_holder hn))

theorem Refines.held {n : Int} (hn : (a res).holder = some n) :
    ∃ info, s.fifolocks res = some info ∧
      info.lockRequests.map LockRequestInfo.lockNumber = (a res).waiters ∧
      (∀ w ∈ info.lockRequests, s.Unused res w) ∧
      info.currentLockNumber = n ∧ s.Open res ⟨n, info.currentWaitChannel⟩ := by
  have he := (h.lock res).entry
  cases hf : s.fifolocks res with
  | none =>
    rw [hf] at he
    exact absurd (hn.symm.trans he) (by simp)
  | some info =>
    rw [hf] at he
    obtain ⟨hw, hu, hh⟩ := he
    rw [hn] at hh
    exact ⟨info, rfl, hw, hu, hh⟩

theorem Refines.idle (hn : (a res).holder = none) (hf : s.fifolocks res = some info) :
    info.lockRequests = [] ∧ info.currentLockNumber = -1 := by
  have he := (h.lock res).entry
  rw [hf] at he
  obtain ⟨hw, -, hh⟩ := he
  rw [hn] at hh
  rw [(a res).idle hn, map_eq_nil_iff] at hw
  exact ⟨hw, hh⟩

omit h

def requested (s : LockState) (res : String) (n : Nat) : LockState :=
  { s with
    channels := s.channels ++ [newWaitChannel]
    received := s.received ++ [(res, (n : Int))] }

theorem Unused.requested (h : s.Unused r w) (res : String) (n : Nat) :
    (s.requested res n).Unused r w :=
  ⟨(List.getElem?_append_left (List.getElem?_eq_some_iff.mp h.1).1).trans h.1,
    (List.getElem?_append_left (List.getElem?_eq_some_iff.mp h.2).1).trans h.2⟩

theorem Open.requested (h : s.Open r w) (res : String) (n : Nat) :
    (s.requested res n).Open r w := by
  obtain ⟨hr, b, hb⟩ := h
  exact ⟨(List.getElem?_append_left (List.getElem?_eq_some_iff.mp hr).1).trans hr, b,
    (List.getElem?_append_left (List.getElem?_eq_some_iff.mp hb).1).trans hb⟩

def releasing (s : LockState) (res : String) (n : Nat) : LockState :=
  { s with released := s.released ++ [(res, (n : Int))] }

theorem keeps_releasing (s : LockState) (r res : String) (n : Nat) :
    Keeps s (s.releasing res n) r := ⟨rfl, rfl, rfl, fun _ _ hg => ⟨hg, rfl⟩⟩

include h

theorem keeps_requested (hr : r ≠ res) (n : Nat) : Keeps s (s.requested res n) r where
  entry := rfl
  received := numbersOf_append_ne _ hr _
  granted := rfl
  channel ch m hm := by
    have hlt : ch < s.received.length := (List.getElem?_eq_some_iff.mp hm).1
    exact ⟨(List.getElem?_append_left hlt).trans hm, List.getElem?_append_left (h.channels ▸ hlt)⟩

theorem unused_requested (res : String) (n : Nat) :
    (s.requested res n).Unused res ⟨n, s.channels.length⟩ := by
  refine ⟨?_, List.getElem?_concat_length⟩
  rw [h.channels]
  exact List.getElem?_concat_length

variable {n : Nat}

theorem Refines.of_requested {a' : IdealLocks} (hf : (n : Int) ∉ s.received.map Prod.snd)
    (hr : s'.received = (s.requested res n).received)
    (hc : s'.channels.length = (s.requested res n).channels.length)
    (hl : ∀ r, s'.RefinesAt r (a' r)) : s'.Refines a' where
  lock := hl
  once := by
    rw [hr, requested, map_append]
    exact h.once.append (nodup_singleton _) (by simpa using hf)
  nonneg g hg := by
    rw [hr, requested, mem_append, mem_singleton] at hg
    rcases hg with hg | rfl
    · exact h.nonneg g hg
    · exact Int.natCast_nonneg n
  channels := by
    rw [hc, hr, requested, length_append, length_append, h.channels]
    rfl

theorem Refines.requestLock_free (hfre : (n : Int) ∉ s.received.map Prod.snd)
    (hfr : (a res).holder = none) :
    ∃ s', s.step (.requestLock res n) = .ok s' ∧
      s'.received = s.received ++ [(res, (n : Int))] ∧ s'.released = s.released ∧
      s'.Refines (idealStep a (.requestLock res n)) := by
  -- with or without an idle entry the handler writes an entry and grants the lock
  obtain ⟨info, hha, hres, hn, hc⟩ : ∃ info,
      s.step (.requestLock res n) =
        ((s.requested res n).setInfo res info).grant res ⟨n, s.channels.length⟩ ∧
      info.lockRequests = [] ∧ info.currentLockNumber = n ∧
      info.currentWaitChannel = s.channels.length := by
    change ∃ info, lockRequestHandler (s.requested res n) (.lock res n s.channels.length) = _ ∧ _
    cases hf : s.fifolocks res with
    | none =>
      refine ⟨⟨[], n, s.channels.length, 1⟩, ?_, rfl, rfl, rfl⟩
      have hf' : (s.requested res n).fifolocks res = none := hf
      simp [lockRequestHandler, resourceID, hf']
    | some info =>
      obtain ⟨hres, hi⟩ := h.idle hfr hf
      refine ⟨{ info with currentLockNumber := n, currentWaitChannel := s.channels.length },
        ?_, hres, rfl, rfl⟩
      have hf' : (s.requested res n).fifolocks res = some info := hf
      simp [lockRequestHandler, resourceID, lockNumber, hf', hi, hres]
  have hnex : (s.requested res n).Next res ⟨n, s.channels.length⟩ info.lockRequests :=
    ⟨unused_requested h res n, by simp [hres]⟩
  obtain ⟨s', hgr, hre, hrel, hg, hl, hf, hk, he⟩ :=
    hnex.grant hn hc
  refine ⟨s', hha.trans hgr, hre, hrel, h.of_requested hfre hre hl fun r => ?_⟩
  by_cases hr : r = res
  · subst hr
    obtain ⟨hh, hw⟩ := lock_of_free hfr (n : Int)
    simp only [idealStep, update_self]
    refine ⟨?_, ?_, ?_⟩
    · rw [hre, requested, numbersOf_append_self, (h.lock r).received, lock_received]
    · rw [hg, requested, numbersOf_append_self, (h.lock r).granted]
      simp [FifoLock.granted, hh, hfr]
    · rw [hf]
      exact he _ hh (by rw [hw, hres]; rfl)
  · simp only [idealStep, update_of_ne hr]
    exact (h.lock r).keep ((keeps_requested h hr n).trans (hk r hr))

variable {m : Int} (hfr : (n : Int) ∉ s.received.map Prod.snd) (hh : (a res).holder = some m)

include hfr hh

theorem Refines.requestLock_held_eq (hf : s.fifolocks res = some info)
    (hm : info.currentLockNumber = m) :
    s.step (.requestLock res n) =
      if info.lockRequests.length < lockRequestsCapacity then
        .ok ((s.requested res n).setInfo res
          { info with lockRequests := info.lockRequests ++ [⟨n, s.channels.length⟩] })
      else .error .lockRequestsFull := by
  have hne : ¬ m = (n : Int) := by
    rintro rfl
    exact hfr (mem_map_of_mem ((mem_received_iff h).mp (mem_received_of_holder hh)))
  have hi : ¬ m = -1 := by
    have := holder_nonneg h hh
    omega
  have hf' : (s.requested res n).fifolocks res = some info := hf
  change lockRequestHandler (s.requested res n) (.lock res n s.channels.length) = _
  simp [lockRequestHandler, resourceID, lockNumber, hf', hm, hne, hi]

theorem Refines.requestLock_held (hro : (a res).waiters.length < lockRequestsCapacity) :
    ∃ s', s.step (.requestLock res n) = .ok s' ∧
      s'.received = s.received ++ [(res, (n : Int))] ∧ s'.released = s.released ∧
      s'.Refines (idealStep a (.requestLock res n)) := by
  obtain ⟨info, hf, hw, hu, hm, ho⟩ := h.held hh
  have hl : info.lockRequests.length < lockRequestsCapacity := by
    rwa [← hw, length_map] at hro
  refine ⟨_, (h.requestLock_held_eq hfr hh hf hm).trans (if_pos hl), rfl, rfl,
    h.of_requested hfr rfl rfl fun r => ?_⟩
  by_cases hr : r = res
  · subst hr
    obtain ⟨hho, hwa⟩ := lock_of_held hh (n : Int)
    simp only [idealStep, update_self]
    refine ⟨?_, ?_, ?_⟩
    · exact (numbersOf_append_self _ _ _).trans (by rw [(h.lock r).received, lock_received])
    · exact (h.lock r).granted.trans (by simp [FifoLock.granted, hho, hh])
    · simp only [setInfo, update_self, EntryRefines, hho, hwa]
      refine ⟨by simp [hw], forall_mem_append.mpr ⟨fun w hmem => ?_, ?_⟩, hm, ho.requested r n⟩
      · exact (hu w hmem).requested r n
      · exact forall_mem_singleton.mpr (unused_requested h r n)
  · simp only [idealStep, update_of_ne hr]
    refine (h.lock r).keep ((keeps_requested h hr n).trans ⟨?_, rfl, rfl, fun _ _ hg => ⟨hg, rfl⟩⟩)
    exact update_of_ne hr _ _

theorem Refines.requestLock_full (hfu : ¬ (a res).waiters.length < lockRequestsCapacity) :
    s.step (.requestLock res n) = .error .lockRequestsFull := by
  obtain ⟨info, hf, hw, -, hm, -⟩ := h.held hh
  rw [← hw, length_map] at hfu
  exact (h.requestLock_held_eq hfr hh hf hm).trans (if_neg hfu)

omit hfr hh

theorem Refines.releasing (res : String) (n : Nat) : (s.releasing res n).Refines a :=
  ⟨fun r => (h.lock r).keep (keeps_releasing s r res n), h.once, h.nonneg, h.channels⟩

theorem Refines.releaseLock_other (hn : (a res).holder ≠ some (n : Int)) :
    s.step (.releaseLock res n) = .ok (s.releasing res n) ∧
      (s.releasing res n).Refines (idealStep a (.releaseLock res n)) := by
  constructor
  · change lockRequestHandler (s.releasing res n) (.unlock res n) = _
    cases hf : s.fifolocks res with
    | none =>
      have hf' : (s.releasing res n).fifolocks res = none := hf
      simp [lockRequestHandler, resourceID, hf']
    | some info =>
      have hf' : (s.releasing res n).fifolocks res = some info := hf
      have hne : ¬ info.currentLockNumber = n := by
        cases hh : (a res).holder with
        | none =>
          have := (h.idle hh hf).2
          omega
        | some m =>
          obtain ⟨info', hf₂, -, -, hm, -⟩ := h.held hh
          obtain rfl : info = info' := some.inj (hf.symm.trans hf₂)
          rintro hc
          exact hn (hh.trans (congrArg some (hm.symm.trans hc)))
      simp [lockRequestHandler, resourceID, lockNumber, hf', hne]
  · simp only [idealStep, unlock_of_ne hn, update_eq_self]
    exact h.releasing res n

omit h

/-- The holder `n` has given the resource back and its channel is closed. -/
def closing (s : LockState) (res : String) (n : Nat) (ch : Nat) (c : WaitChannel) : LockState :=
  { s.releasing res n with channels := s.channels.set ch c }

theorem keeps_closing (hr : r ≠ res) {ch : Nat} (hch : s.received[ch]? = some (res, (n : Int)))
    (c : WaitChannel) : Keeps s (s.closing res n ch c) r := by
  have hk : Keeps s _ r :=
    keeps_set hr hch c (s.fifolocks res) (s.releasing res n).released rfl
  rwa [update_eq_self] at hk

theorem Refines.unused_closing (h : s.Refines a) (hn : (a res).holder = some (n : Int)) {ch : Nat}
    (hch : s.received[ch]? = some (res, (n : Int))) (hw : w.lockNumber ∈ (a res).waiters)
    (hu : s.Unused res w) (c : WaitChannel) : (s.closing res n ch c).Unused res w := by
  refine ⟨hu.1, (List.getElem?_set_ne (channel_ne hch hu.1 ?_)).trans hu.2⟩
  rw [Ne, Prod.mk.injEq]
  rintro ⟨-, he⟩
  exact holder_notMem_waiters (received_nodup h res) hn (he ▸ hw)

theorem releaseLock_holder_eq (hf : s.fifolocks res = some info) (hm : info.currentLockNumber = n)
    (ho : s.Open res ⟨n, info.currentWaitChannel⟩) :
    ∃ c, s.step (.releaseLock res n) =
      match info.lockRequests with
      | next :: rest =>
        ((s.closing res n info.currentWaitChannel c).setInfo res
          ⟨rest, next.lockNumber, next.waitChannel, 1⟩).grant res next
      | [] => .ok ((s.closing res n info.currentWaitChannel c).setInfo res
            { info with currentLockNumber := -1, count := 0 }) := by
  obtain ⟨c, hc⟩ := close_eq (s := s.releasing res n) ho
  have hf' : (s.releasing res n).fifolocks res = some info := hf
  refine ⟨c, ?_⟩
  change lockRequestHandler (s.releasing res n) (.unlock res n) = _
  simp only [lockRequestHandler, resourceID, lockNumber, hf', hm, hc]
  rfl

theorem Refines.releaseLock_last (h : s.Refines a) (hn : (a res).holder = some (n : Int))
    (hl : (a res).waiters = []) :
    ∃ s', s.step (.releaseLock res n) = .ok s' ∧ s'.received = s.received ∧
      s'.released = s.released ++ [(res, (n : Int))] ∧
      s'.Refines (idealStep a (.releaseLock res n)) := by
  obtain ⟨info, hf, hw, -, hm, ho⟩ := h.held hn
  obtain ⟨c, hs⟩ := releaseLock_holder_eq hf hm ho
  obtain ⟨-, hh, hwa⟩ := unlock_of_holder hn
  have hq : info.lockRequests = [] := by rwa [hl, map_eq_nil_iff] at hw
  rw [hq] at hs
  refine ⟨_, hs, rfl, rfl, fun r => ?_, h.once, h.nonneg, length_set.trans h.channels⟩
  by_cases hr : r = res
  · subst hr
    simp only [idealStep, update_self]
    refine ⟨?_, ?_, ?_⟩
    · exact (h.lock r).received.trans (unlock_received _ _).symm
    · rw [unlock_granted hn, hl]
      exact (h.lock r).granted.trans (by simp)
    · simp [setInfo, EntryRefines, hh, hwa, hl]
  · simp only [idealStep, update_of_ne hr]
    refine (h.lock r).keep ((keeps_closing hr ho.1 c).trans ⟨?_, rfl, rfl, fun _ _ hg => ⟨hg, rfl⟩⟩)
    exact update_of_ne hr _ _

theorem Refines.releaseLock_next (h : s.Refines a) (hn : (a res).holder = some (n : Int))
    (hf : s.fifolocks res = some info) {next : LockRequestInfo} {rest : List LockRequestInfo}
    (hq : info.lockRequests = next :: rest) :
    ∃ s', s.step (.releaseLock res n) = .ok s' ∧ s'.received = s.received ∧
      s'.released = s.released ++ [(res, (n : Int))] ∧
      s'.granted = s.granted ++ [(res, next.lockNumber)] ∧
      s'.fifolocks res = some ⟨rest, next.lockNumber, next.waitChannel, 1⟩ ∧
      s'.Refines (idealStep a (.releaseLock res n)) := by
  obtain ⟨info', hf', hw, hu, hm, ho⟩ := h.held hn
  obtain rfl : info = info' := some.inj (hf.symm.trans hf')
  obtain ⟨c, hs⟩ := releaseLock_holder_eq hf hm ho
  obtain ⟨-, hh, hwa⟩ := unlock_of_holder hn
  have hmem : ∀ w ∈ info.lockRequests, w.lockNumber ∈ (a res).waiters := fun w hw' =>
    hw ▸ mem_map_of_mem hw'
  have hun : ∀ w ∈ info.lockRequests,
      (s.closing res n info.currentWaitChannel c).Unused res w := fun w hw' =>
    h.unused_closing hn ho.1 (hmem w hw') (hu w hw') c
  rw [hq] at hs hw hun
  have hne : (s.closing res n info.currentWaitChannel c).Next res next
      (LockInfo.mk rest next.lockNumber next.waitChannel 1).lockRequests := by
    refine ⟨hun next (by simp), fun v hv => ⟨hun v (by simp [hv]), fun he => ?_⟩⟩
    have hno := waiters_nodup (received_nodup h res)
    rw [← hw, map_cons, nodup_cons] at hno
    exact hno.1 (he ▸ mem_map_of_mem hv)
  obtain ⟨s', hgr, hre, hrel, hg, hl, hen', hk, hen⟩ :=
    hne.grant rfl rfl
  refine ⟨s', hs.trans hgr, hre, hrel, hg, hen', fun r => ?_, hre ▸ h.once, hre ▸ h.nonneg, ?_⟩
  · by_cases hr : r = res
    · subst hr
      simp only [idealStep, update_self]
      refine ⟨?_, ?_, ?_⟩
      · rw [hre]
        exact (h.lock r).received.trans (unlock_received _ _).symm
      · rw [hg, numbersOf_append_self, unlock_granted hn, ← hw]
        exact congrArg (· ++ [next.lockNumber]) (h.lock r).granted
      · rw [hen']
        exact hen _ (by simp [hh, ← hw]) (by simp [hwa, ← hw])
    · simp only [idealStep, update_of_ne hr]
      exact (h.lock r).keep ((keeps_closing hr ho.1 c).trans (hk r hr))
  · rw [hl, hre]
    exact length_set.trans h.channels

theorem Refines.acquire (h : s.Refines a) (ch : Nat) :
    Refines { s with channels := s.channels.modify ch fun c => { c with buffered := false } } a := by
  refine ⟨fun r => ⟨(h.lock r).received, (h.lock r).granted, (h.lock r).entry.keep ?_ ?_⟩,
    h.once, h.nonneg, by simpa using h.channels⟩
  · intro w hw
    refine ⟨hw.1, ?_⟩
    simp only [List.getElem?_modify, hw.2]
    split <;> rfl
  · intro w hw
    obtain ⟨hr, b, hb⟩ := hw
    by_cases hch : ch = w.waitChannel
    · exact ⟨hr, false, by simp [hb, hch]⟩
    · exact ⟨hr, b, by simp [hb, hch]⟩

theorem cleanupEntry_cases (fifolocks : LockTable) (r res : String) :
    cleanupEntry fifolocks r res = fifolocks res ∨
      cleanupEntry fifolocks r res = none ∧
        ∃ info, fifolocks res = some info ∧ info.currentLockNumber = -1 := by
  cases hf : fifolocks r with
  | none => exact .inl (by simp [cleanupEntry, hf])
  | some info =>
    by_cases hi : info.currentLockNumber = -1
    · simp only [cleanupEntry, hf, hi]
      by_cases hr : res = r
      · subst hr
        exact .inr ⟨update_self _ _ _, info, hf, hi⟩
      · exact .inl (update_of_ne hr _ _)
    · exact .inl (by simp [cleanupEntry, hf, hi])

theorem cleanupMapEntries_cases (fifolocks : LockTable) (visited : List String) (res : String) :
    cleanupMapEntries fifolocks visited res = fifolocks res ∨
      cleanupMapEntries fifolocks visited res = none ∧
        ∃ info, fifolocks res = some info ∧ info.currentLockNumber = -1 := by
  induction visited generalizing fifolocks with
  | nil => exact .inl rfl
  | cons r visited ih =>
    change cleanupMapEntries (cleanupEntry fifolocks r) visited res = _ ∨
      cleanupMapEntries (cleanupEntry fifolocks r) visited res = none ∧ _
    rcases ih (cleanupEntry fifolocks r) with hr | ⟨hr, info, hf, hi⟩
    · rw [hr]
      exact cleanupEntry_cases fifolocks r res
    · rcases cleanupEntry_cases fifolocks r res with ho | ⟨-, hi'⟩
      · exact .inr ⟨hr, info, ho ▸ hf, hi⟩
      · exact .inr ⟨hr, hi'⟩

theorem Refines.cleanup_held (h : s.Refines a) {n : Int} (hn : (a res).holder = some n)
    (visited : List String) : cleanupMapEntries s.fifolocks visited res = s.fifolocks res := by
  rcases cleanupMapEntries_cases s.fifolocks visited res with hk | ⟨-, info, hf, hi⟩
  · exact hk
  · obtain ⟨info', hf', -, -, hm, -⟩ := h.held hn
    obtain rfl : info = info' := some.inj (hf.symm.trans hf')
    have := holder_nonneg h hn
    omega

theorem Refines.cleanup (h : s.Refines a) (visited : List String) :
    Refines { s with fifolocks := cleanupMapEntries s.fifolocks visited } a := by
  refine ⟨fun r => ⟨(h.lock r).received, (h.lock r).granted, ?_⟩, h.once, h.nonneg, h.channels⟩
  cases hh : (a r).holder with
  | some n =>
    simp only [h.cleanup_held hh visited]
    exact (h.lock r).entry
  | none =>
    rcases cleanupMapEntries_cases s.fifolocks visited r with hk | ⟨hn, -⟩
    · simp only [hk]
      exact (h.lock r).entry
    · simp only [hn]
      exact hh

def Fresh (s : LockState) : LockEvent → Prop
  | .requestLock _ n => (n : Int) ∉ s.received.map Prod.snd
  | _ => True

/-- **One step** is finished, and is that of the ideal locks, unless more than 100 requests wait. -/
theorem Refines.step (h : s.Refines a) {e : LockEvent} (hfr : s.Fresh e)
    (hro : ∀ res, (idealStep a e res).waiters.length ≤ lockRequestsCapacity) :
    ∃ s', s.step e = .ok s' ∧ s'.received = s.received ++ e.requests ∧
      s'.released = s.released ++ e.releases ∧ s'.Refines (idealStep a e) := by
  cases e with
  | requestLock res n =>
    simp only [releases, append_nil]
    cases hh : (a res).holder with
    | none => exact h.requestLock_free hfr hh
    | some m =>
      have hl := hro res
      simp only [idealStep, update_self, (lock_of_held hh _).2,
        length_append, length_singleton] at hl
      exact h.requestLock_held hfr hh (by omega)
  | releaseLock res n =>
    simp only [requests, append_nil]
    by_cases hh : (a res).holder = some (n : Int)
    · obtain ⟨info, hf, hw, -⟩ := h.held hh
      cases hq : info.lockRequests with
      | nil =>
        rw [hq] at hw
        exact h.releaseLock_last hh hw.symm
      | cons next rest =>
        obtain ⟨s', hs, hre, hrel, -, -, hr⟩ := h.releaseLock_next hh hf hq
        exact ⟨s', hs, hre, hrel, hr⟩
    · obtain ⟨hs, hr⟩ := h.releaseLock_other hh
      exact ⟨_, hs, rfl, rfl, hr⟩
  | acquire ch => exact ⟨_, rfl, by simp [requests], by simp [releases],
      h.acquire ch⟩
  | cleanup visited => exact ⟨_, rfl, by simp [requests], by simp [releases],
      h.cleanup visited⟩

theorem Refines.step_stuck (h : s.Refines a) {e : LockEvent} (hf : s.Fresh e)
    (hbe : ∀ res, (a res).waiters.length ≤ lockRequestsCapacity)
    (ha : lockRequestsCapacity < (idealStep a e res).waiters.length) :
    s.step e = .error .lockRequestsFull := by
  have hb := hbe res
  cases e with
  | requestLock res' n =>
    by_cases hr : res = res'
    · subst hr
      simp only [idealStep, update_self] at ha
      cases hh : (a res).holder with
      | none =>
        rw [(lock_of_free hh _).2] at ha
        exact absurd ha (by simp)
      | some m =>
        rw [(lock_of_held hh _).2, length_append, length_singleton] at ha
        exact h.requestLock_full hf hh (by omega)
    · simp only [idealStep, update_of_ne hr] at ha
      omega
  | releaseLock res' n =>
    by_cases hr : res = res'
    · subst hr
      simp only [idealStep, update_self] at ha
      by_cases hh : (a res).holder = some (n : Int)
      · rw [(unlock_of_holder hh).2.2, length_tail] at ha
        omega
      · rw [unlock_of_ne hh] at ha
        omega
    · simp only [idealStep, update_of_ne hr] at ha
      omega
  | acquire ch => exact absurd ha (by simp only [idealStep]; omega)
  | cleanup visited => exact absurd ha (by simp only [idealStep]; omega)

theorem refines_init : lockMachine.init.Refines fun _ => .free :=
  ⟨fun _ => ⟨rfl, rfl, rfl⟩, nodup_nil, by simp [lockMachine], rfl⟩

end LockState

end PowerMaxCsi.Service
