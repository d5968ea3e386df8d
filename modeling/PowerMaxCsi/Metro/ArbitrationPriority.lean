import PowerMaxCsi.Metro.Routing

/-!
# The priority of witness and bias

`CheckMetroStateWithRDFGroupsAndTimeout` ranks in its comments an effective witness, then a bias,
then the polarity, but puts the first two into one flag.  The module follows what a check names to
the clients of `Metro/Routing`: there is one for each order of the two arrays, `SetMetroWinner`
reaches the first that it finds, and a call of `logMetroStateCheck` may apply a state from the cache
that is older than the latest check.
-/

namespace PowerMaxCsi.Metro

open MetroQuery MetroClient Function Option

namespace MetroQuery

variable {q : MetroQuery} {l r : RDFGroup} {symID : String}

def ranked (q : MetroQuery) (l r : RDFGroup) : Option String :=
  if l.witnessEffective ≠ r.witnessEffective then
    some (if l.witnessEffective then q.localSymID else q.remoteSymID)
  else if l.biasEffective ≠ r.biasEffective then
    some (if l.biasEffective then q.localSymID else q.remoteSymID)
  else none

/-- Where both arrays are arbitrated, the polarity is for the one that the ranking names. -/
def PolarityAgrees (q : MetroQuery) : Prop :=
  ∀ l ∈ q.localGroup.toOption, ∀ r ∈ q.remoteGroup.toOption, ∀ symID ∈ q.ranked l r,
    Arbitrated l → Arbitrated r →
      (symID = q.localSymID ↔ l.devicePolarity = q.localSymID ∨ r.devicePolarity ≠ q.remoteSymID)

theorem localPreferred_iff_of_ranked (h : q.ranked l r = some symID) :
    (q.LocalPreferred l r ↔ symID = q.localSymID) ↔ (Arbitrated l → Arbitrated r →
      (symID = q.localSymID ↔ l.devicePolarity = q.localSymID ∨ r.devicePolarity ≠ q.remoteSymID)) := by
  have hne := q.ne
  unfold ranked at h
  simp only [LocalPreferred, Arbitrated]
  grind

theorem ranked_mem (h : q.ranked l r = some symID) :
    symID = q.localSymID ∨ symID = q.remoteSymID := by
  unfold ranked at h
  grind

theorem winner_of_check {state : MetroState} (hl : q.localGroup = .ok l) (hr : q.remoteGroup = .ok r)
    (h : q.checkMetroStateWithRDFGroupsAndTimeout = .ok state) :
    q.LocalPreferred l r ∧ state.winnerSymID = q.localSymID ∨
      ¬ q.LocalPreferred l r ∧ state.winnerSymID = q.remoteSymID := by
  obtain ⟨-, group, hs, -⟩ := (wins_of_check h).1
  generalize state.winnerSymID = symID at hs
  cases hs with
  | localOnly _ he => cases hr.symm.trans he
  | remoteOnly he _ => cases hl.symm.trans he
  | localPreferred hl' hr' hp =>
    cases hl.symm.trans hl'
    cases hr.symm.trans hr'
    exact .inl ⟨hp, rfl⟩
  | remotePreferred hl' hr' hp =>
    cases hl.symm.trans hl'
    cases hr.symm.trans hr'
    exact .inr ⟨hp, rfl⟩

theorem winner_mem {state : MetroState} (h : q.checkMetroStateWithRDFGroupsAndTimeout = .ok state) :
    state.winnerSymID = q.localSymID ∨ state.winnerSymID = q.remoteSymID := by
  obtain ⟨-, group, hs, -⟩ := (wins_of_check h).1
  generalize state.winnerSymID = symID at hs
  cases hs with
  | localOnly | localPreferred => exact .inl rfl
  | remoteOnly | remotePreferred => exact .inr rfl

/-- The winner that the check names, if it succeeds. -/
def named (q : MetroQuery) : Option String :=
  match q.checkMetroStateWithRDFGroupsAndTimeout with
  | .ok state => some state.winnerSymID
  | .error _ => none

theorem named_eq_some : q.named = some symID ↔
    ∃ state, q.checkMetroStateWithRDFGroupsAndTimeout = .ok state ∧ state.winnerSymID = symID := by
  unfold named
  split <;> simp [*]

theorem named_mem (h : q.named = some symID) : symID = q.localSymID ∨ symID = q.remoteSymID := by
  obtain ⟨state, hs, rfl⟩ := named_eq_some.mp h
  exact winner_mem hs

theorem isOf_comm {p s : String} : q.IsOf p s ↔ q.IsOf s p := or_comm

theorem IsOf.named_mem {p s : String} (hof : q.IsOf p s) (h : q.named = some symID) :
    symID = p ∨ symID = s := by
  have hm := MetroQuery.named_mem h
  rcases hof with ⟨rfl, rfl⟩ | ⟨rfl, rfl⟩
  · exact hm
  · exact hm.symm

end MetroQuery

/-- The latest check of a pair that succeeded, under either order. -/
def latestSuccess (primaryArray secondaryArray : String) : List RoutingEntry → Option MetroQuery
  | [] => none
  | .checked q :: log =>
    if q.IsOf primaryArray secondaryArray ∧ q.named.isSome then some q
    else latestSuccess primaryArray secondaryArray log
  | .loadOrStore _ _ :: log | .setMetroWinner _ _ _ :: log =>
    latestSuccess primaryArray secondaryArray log

/-- The client goes to the array that the latest successful check should have named. -/
def FollowsRanking (w : RoutingWorld) (m : MetroClient) : Prop :=
  ∀ q ∈ latestSuccess m.primaryArray m.secondaryArray w.log, ∀ l ∈ q.localGroup.toOption,
    ∀ r ∈ q.remoteGroup.toOption, ∀ symID ∈ q.ranked l r, m.getActiveArray.1 = symID

/-- The pair has a client for one order of the arrays only, and it is the one that
`SetMetroWinner` finds. -/
def Reaches (w : RoutingWorld) (localSymID remoteSymID : String) : Prop :=
  localSymID ≠ "" ∧ remoteSymID ≠ "" ∧
    ¬ (registered (getIdentifier localSymID remoteSymID) w.log ∧
      registered (getIdentifier remoteSymID localSymID) w.log) ∧
    ∀ m ∈ w.metroClients (reached w.log localSymID remoteSymID),
      m.primaryArray = localSymID ∧ m.secondaryArray = remoteSymID ∨
        m.primaryArray = remoteSymID ∧ m.secondaryArray = localSymID

/-- The client of a pair is made before the first check that succeeds, and is the one that is found;
and what is applied from the cache is the winner of the latest check. -/
def Orderly (s : RoutingPool) : RoutingEvent → Prop
  | .env (.loadOrStore primaryArray secondaryArray) =>
    s.world.metroClients (getIdentifier primaryArray secondaryArray) = none →
      latestSuccess primaryArray secondaryArray s.world.log = none
  | .reply _ (.setMetroWinner localSymID remoteSymID winnerSymID) _ _ =>
    Reaches s.world localSymID remoteSymID ∧
      ∀ q ∈ latestSuccess localSymID remoteSymID s.world.log, q.named = some winnerSymID
  | .reply _ (.doMetroStateCheck localSymID remoteSymID _ _) _ _ =>
    Reaches s.world localSymID remoteSymID
  | _ => True

def MetroClients.pairs (clients : MetroClients) (id : String) : Option (String × String) :=
  (clients id).map fun m => (m.primaryArray, m.secondaryArray)

/-- The client under `id` was told of the winner of the latest successful check of its pair. -/
structure Told (log : List RoutingEntry) (id p s : String) : Prop where
  id_eq : id = getIdentifier p s
  stored : registered id log
  winner : ∀ q ∈ latestSuccess p s log, q.named ≠ some "" ∧ lastWinner id log = q.named

section

variable {p s id : String} {log : List RoutingEntry} {q : MetroQuery}

theorem latestSuccess_comm (log : List RoutingEntry) : latestSuccess p s log = latestSuccess s p log := by
  induction log with
  | nil => rfl
  | cons entry log ih =>
    cases entry with
    | checked q => simp only [latestSuccess, isOf_comm (p := p), ih]
    | loadOrStore | setMetroWinner => exact ih

theorem of_latestSuccess (h : latestSuccess p s log = some q) : q.IsOf p s ∧ ∃ w, q.named = some w := by
  induction log with
  | nil => cases h
  | cons entry log ih =>
    cases entry with
    | loadOrStore | setMetroWinner => exact ih h
    | checked q' =>
      simp only [latestSuccess] at h
      split at h
      case isTrue hof =>
        cases h
        exact ⟨hof.1, isSome_iff_exists.mp hof.2⟩
      case isFalse => exact ih h

/-- A pair has its client where `SetMetroWinner` looks for it. -/
theorem Told.reached_iff {w : RoutingWorld} {l r id : String} (h : Told w.log id p s)
    (hid : w.metroClients.pairs id = some (p, s)) (hr : Reaches w l r) :
    reached w.log l r = id ↔ p = l ∧ s = r ∨ p = r ∧ s = l := by
  obtain ⟨-, -, hb, hm⟩ := hr
  constructor
  · rintro rfl
    obtain ⟨m, hc, he⟩ := map_eq_some_iff.mp hid
    cases he
    exact hm m hc
  · have hg := h.stored
    rw [h.id_eq] at hg ⊢
    rintro (⟨rfl, rfl⟩ | ⟨rfl, rfl⟩)
    · exact if_pos hg
    · exact if_neg fun hg' => hb ⟨hg', hg⟩

theorem Told.loadOrStore (h : Told log id p s) (l r : String) : Told (.loadOrStore l r :: log) id p s :=
  ⟨h.id_eq, Bool.or_eq_true_iff.mpr (.inr h.stored), h.winner⟩

theorem Told.setMetroWinner {w : RoutingWorld} {l r winnerSymID : String} (h : Told w.log id p s)
    (hid : w.metroClients.pairs id = some (p, s)) (hr : Reaches w l r)
    (hw : ∀ q ∈ latestSuccess l r w.log, q.named = some winnerSymID) :
    Told (.setMetroWinner l r winnerSymID :: w.log) id p s := by
  refine ⟨h.id_eq, h.stored, fun q hq => ?_⟩
  obtain ⟨hne, hl⟩ := h.winner q hq
  refine ⟨hne, ?_⟩
  simp only [lastWinner, h.stored, true_and, h.reached_iff hid hr]
  split
  case isTrue hof =>
    have hq : q ∈ latestSuccess l r w.log := by
      rcases hof with ⟨rfl, rfl⟩ | ⟨rfl, rfl⟩
      · exact hq
      · exact latestSuccess_comm w.log ▸ hq
    have hn := hw q hq
    rw [hn, if_neg fun he : winnerSymID = "" => hne (he ▸ hn)]
  case isFalse => exact hl

theorem Told.failed (h : Told log id p s) (hn : q.named = none) : Told (.checked q :: log) id p s := by
  refine ⟨h.id_eq, h.stored, fun q' hq' => h.winner q' ?_⟩
  simpa [latestSuccess, hn] using hq'

theorem Told.checked {w : RoutingWorld} {winnerSymID : String} (h : Told w.log id p s)
    (hid : w.metroClients.pairs id = some (p, s)) (hr : Reaches w q.localSymID q.remoteSymID)
    (hn : q.named = some winnerSymID) (hne : winnerSymID ≠ "") :
    Told (.setMetroWinner q.localSymID q.remoteSymID winnerSymID :: .checked q :: w.log) id p s := by
  refine ⟨h.id_eq, h.stored, fun q' hq' => ?_⟩
  have hof : reached w.log q.localSymID q.remoteSymID = id ↔ q.IsOf p s := by
    rw [h.reached_iff hid hr, MetroQuery.IsOf]
    grind
  have hl : lastWinner id (.setMetroWinner q.localSymID q.remoteSymID winnerSymID ::
      .checked q :: w.log) = if q.IsOf p s then some winnerSymID else lastWinner id w.log := by
    rw [lastWinner, if_neg hne]
    exact if_congr ((and_iff_right h.stored).trans hof) rfl rfl
  rw [hl]
  simp only [latestSuccess, hn, isSome_some, and_true] at hq'
  split_ifs at hq' ⊢
  · cases hq'
    exact ⟨by simpa [hn] using hne, hn.symm⟩
  · exact h.winner q' hq'

end

namespace MetroClients

variable {clients : MetroClients}

theorem pairs_modify (id : String) {f : MetroClient → MetroClient}
    (hf : ∀ m, (f m).primaryArray = m.primaryArray ∧ (f m).secondaryArray = m.secondaryArray) :
    (clients.modify id f).pairs = clients.pairs := by
  funext id'
  rw [pairs, modify, update_apply]
  split
  case isTrue he => simp [he, pairs, Function.comp_def, hf]
  case isFalse => rfl

theorem pairs_getActiveArray (id : String) :
    (clients.modify id (·.getActiveArray.2)).pairs = clients.pairs := by
  refine pairs_modify id fun m => ?_
  unfold MetroClient.getActiveArray
  split_ifs <;> exact ⟨rfl, rfl⟩

theorem pairs_setMetroWinner (l r winnerSymID : String) :
    (clients.setMetroWinner l r winnerSymID).pairs = clients.pairs := by
  unfold setMetroWinner
  split <;> exact pairs_modify _ fun _ => ⟨rfl, rfl⟩

theorem pairs_tellFailure (now : Nat) (weight : Int32) (ids : List String) :
    (RoutingWorld.tellFailure clients now weight ids).pairs = clients.pairs := by
  induction ids generalizing clients with
  | nil => rfl
  | cons id ids ih =>
    refine ih.trans (pairs_modify id fun m => ?_)
    unfold MetroClient.healthHandler
    split <;> exact ⟨rfl, rfl⟩

end MetroClients

namespace RoutingWorld

variable {w w' : RoutingWorld} {q : MetroQuery}

def Told (w : RoutingWorld) : Prop :=
  ∀ id p s, w.metroClients.pairs id = some (p, s) → Metro.Told w.log id p s

theorem foldl_apply_of_named {winnerSymID : String} (w : RoutingWorld) (tracker : SiteStateTracker)
    (hn : q.named = some winnerSymID) (hne : winnerSymID ≠ "") :
    (doMetroStateCheck tracker q).effects.foldl apply w =
      w.apply (.setMetroWinner q.localSymID q.remoteSymID winnerSymID) := by
  obtain ⟨state, h, rfl⟩ := named_eq_some.mp hn
  have ha : (announce q state).foldl apply w =
      w.apply (.setMetroWinner q.localSymID q.remoteSymID state.winnerSymID) := by
    unfold announce
    rw [if_pos hne]
    split <;> split <;> rfl
  unfold doMetroStateCheck
  rw [h]
  dsimp only
  split
  · simp [ha, apply]
  · split <;> simp [ha, apply]

theorem foldl_apply_of_not_named (w : RoutingWorld) (tracker : SiteStateTracker)
    (hn : q.named = none) : (doMetroStateCheck tracker q).effects.foldl apply w = w := by
  unfold MetroQuery.named at hn
  unfold doMetroStateCheck
  cases h : q.checkMetroStateWithRDFGroupsAndTimeout with
  | error err => cases err <;> rfl
  | ok state => simp [h] at hn

theorem Told.act {p : RoutingPool} (h : p.world.Told) {action : RoutingAction}
    (ho : Orderly p (.env action)) : (p.world.act action).Told := by
  cases action with
  | passTime => exact h
  | loadOrStore primaryArray secondaryArray =>
    intro id p' s hid
    by_cases hc : p.world.metroClients.pairs id = some (p', s)
    · exact (h id p' s hc).loadOrStore _ _
    unfold RoutingWorld.act MetroClients.loadOrStore at hid
    dsimp only at hid
    split at hid
    case h_1 => exact absurd hid hc
    case h_2 hn =>
      simp only [MetroClients.pairs, update_apply] at hid hc
      split_ifs at hid with he
      · cases hid
        refine ⟨he, by simp [RoutingWorld.act, registered, he], fun q hq => ?_⟩
        cases (ho hn).symm.trans hq
      · exact absurd hid hc
  | getActiveArray id =>
    unfold Told RoutingWorld.act
    rw [MetroClients.pairs_getActiveArray]
    exact h
  | setErrorWatcher id =>
    unfold Told RoutingWorld.act
    dsimp only
    split
    · exact h
    · rw [MetroClients.pairs_getActiveArray]
      exact h
  | roundTrip resp =>
    unfold Told RoutingWorld.act
    dsimp only
    split
    · exact h
    · rw [MetroClients.pairs_tellFailure]
      exact h

theorem Told.apply (h : w.Told) {l r winnerSymID : String} (hr : Reaches w l r)
    (hw : ∀ q ∈ latestSuccess l r w.log, q.named = some winnerSymID) :
    (w.apply (.setMetroWinner l r winnerSymID)).Told := by
  intro id p s hid
  rw [RoutingWorld.apply, MetroClients.pairs_setMetroWinner] at hid
  exact (h id p s hid).setMetroWinner hid hr hw

theorem Told.check (h : w.Told) (hr : Reaches w q.localSymID q.remoteSymID) (checks : CheckWorld)
    (tracker : SiteStateTracker) :
    ((doMetroStateCheck tracker q).effects.foldl RoutingWorld.apply
      { w with checks := checks, log := .checked q :: w.log }).Told := by
  intro id p s hid
  cases hn : q.named with
  | none =>
    rw [foldl_apply_of_not_named _ _ hn] at hid ⊢
    exact (h id p s hid).failed hn
  | some winnerSymID =>
    have hne : winnerSymID ≠ "" := by
      rcases named_mem hn with rfl | rfl
      · exact hr.1
      · exact hr.2.1
    rw [foldl_apply_of_named _ _ hn hne] at hid ⊢
    rw [RoutingWorld.apply, MetroClients.pairs_setMetroWinner] at hid
    exact (h id p s hid).checked hid hr hn hne

theorem Told.serve {p : RoutingPool} {i : Nat} {c : CheckCall} {r : CheckAnswer c}
    {query : Option MetroQuery} (h : p.world.Told) (ho : Orderly p (.reply i c r query))
    (hs : p.world.serve i c r query = some w') : w'.Told := by
  obtain ⟨checks, hc, rfl⟩ := map_eq_some_iff.mp hs
  -- a call without an effect on the clients leaves the history as it is
  have hq (hh : checks.history = p.world.checks.history)
      (hl : record p.world.log c query = p.world.log) :
      ((checks.history.drop p.world.checks.history.length).foldl RoutingWorld.apply
        { p.world with checks := checks, log := record p.world.log c query }).Told := by
    rw [hh, List.drop_length, hl]
    exact h
  cases c with
  | setMetroWinner l r winnerSymID =>
    cases hc
    simp only [List.drop_left]
    exact Told.apply (w := { p.world with checks := _, log := p.world.log }) h ho.1 ho.2
  | doMetroStateCheck l r no no' =>
    obtain ⟨q, rfl, hc⟩ := bind_eq_some_iff.mp hc
    obtain ⟨⟨⟨hl, hr, -⟩, -⟩, hc⟩ := ite_none_right_eq_some.mp hc
    cases hc
    simp only [CheckWorld.check, List.drop_left]
    exact Told.check h (hl ▸ hr ▸ ho) _ _
  | get l r => exact hq (by rw [CheckWorld.eq_of_serve_get hc]) rfl
  | enter | wait =>
    obtain ⟨-, hc⟩ := ite_none_right_eq_some.mp hc
    cases hc
    exact hq rfl rfl
  | leave | respond =>
    cases hc
    exact hq rfl rfl

theorem Told.step {p p' : RoutingPool} {e : RoutingEvent} (h : p.world.Told) (ho : Orderly p e)
    (hs : routingThreads.step p e = some p') : p'.world.Told := by
  cases e with
  | start i req =>
    obtain ⟨a, w, -, hw, rfl⟩ := Prog.Threads.step_start_eq_some.mp hs
    cases hw
    exact h
  | reply i c r query =>
    obtain ⟨k, w, -, hw, rfl⟩ := Prog.Threads.step_reply_eq_some.mp hs
    exact h.serve ho hw
  | env action =>
    obtain ⟨w, hw, rfl⟩ := Prog.Threads.step_env_eq_some.mp hs
    cases hw
    exact h.act ho

end RoutingWorld

section

variable {w : RoutingWorld} {m : MetroClient} {id : String} {q : MetroQuery}

/-- A client that was told goes to the winner of the latest successful check. -/
theorem getActiveArray_of_told (hf : w.Follow) (ht : w.Told) (hm : w.metroClients id = some m)
    (hq : latestSuccess m.primaryArray m.secondaryArray w.log = some q) :
    q.named = some m.getActiveArray.1 := by
  have hid : w.metroClients.pairs id = some (m.primaryArray, m.secondaryArray) := by
    simp [MetroClients.pairs, hm]
  obtain ⟨hne, hl⟩ := (ht id _ _ hid).winner q hq
  obtain ⟨hof, winnerSymID, hn⟩ := of_latestSuccess hq
  have hw : m.witnessWinner = winnerSymID := by
    rw [(hf.follows id m hm).winner, hl, hn]
    rfl
  have hmem := hof.named_mem hn
  have hne : winnerSymID ≠ "" := fun he => hne (he ▸ hn)
  rw [hn, getActiveArray, if_pos ⟨hw ▸ hne, hw ▸ hmem⟩]
  split
  case isTrue => rw [hw]
  case isFalse ha => rw [not_not.mp ha, hw]

theorem mem_toOption {ε α : Type} {x : Except ε α} {a : α} : a ∈ x.toOption ↔ x = .ok a := by
  cases x <;> simp [Except.toOption]

theorem winner_iff_of_ranked {l r : RDFGroup} {symID winnerSymID : String}
    (hl : q.localGroup = .ok l) (hr : q.remoteGroup = .ok r) (hn : q.named = some winnerSymID)
    (hra : q.ranked l r = some symID) : winnerSymID = symID ↔ (Arbitrated l → Arbitrated r →
      (symID = q.localSymID ↔ l.devicePolarity = q.localSymID ∨ r.devicePolarity ≠ q.remoteSymID)) := by
  obtain ⟨state, hc, rfl⟩ := named_eq_some.mp hn
  rw [← localPreferred_iff_of_ranked hra]
  have hne := q.ne
  have hmem := ranked_mem hra
  rcases winner_of_check hl hr hc with ⟨hpr, he⟩ | ⟨hpr, he⟩ <;> rw [he] <;> grind

end

/-- In an orderly run, a client follows the ranking exactly if the polarity agrees with it in the
latest successful check of its pair. -/
theorem followsRanking_iff (events : List RoutingEvent) (s : RoutingPool)
    (ho : routingThreads.machine.Along Orderly routingThreads.machine.init events)
    (hru : routingThreads.machine.run routingThreads.machine.init events = some s)
    (id : String) (m : MetroClient) (hm : s.world.metroClients id = some m) :
    FollowsRanking s.world m ↔
      ∀ q ∈ latestSuccess m.primaryArray m.secondaryArray s.world.log, q.PolarityAgrees := by
  obtain ⟨hf, ht⟩ : s.world.Follow ∧ s.world.Told := by
    refine Machine.run_invariant _ (I := fun s : RoutingPool => s.world.Follow ∧ s.world.Told)
      (fun _ _ _ h ho hst => ⟨h.1.step hst, h.2.step ho hst⟩) ?_ ho hru
    exact ⟨⟨fun _ => rfl, fun _ _ h => by cases h⟩, fun _ _ _ h => by cases h⟩
  refine forall₂_congr fun q hq => ?_
  have hn := getActiveArray_of_told hf ht hm hq
  refine forall₂_congr fun l hl => forall₂_congr fun r hr => forall₂_congr fun symID hra => ?_
  exact winner_iff_of_ranked (mem_toOption.mp hl) (mem_toOption.mp hr) hn hra

instance (group : RDFGroup) : Decidable (Arbitrated group) := inferInstanceAs (Decidable (_ ∨ _))

instance (q : MetroQuery) : Decidable q.PolarityAgrees := by
  unfold MetroQuery.PolarityAgrees
  infer_instance

instance (w : RoutingWorld) (m : MetroClient) : Decidable (FollowsRanking w m) := by
  unfold FollowsRanking
  infer_instance

instance (w : RoutingWorld) (l r : String) : Decidable (Reaches w l r) := by
  unfold Reaches
  infer_instance

instance (s : RoutingPool) (e : RoutingEvent) : Decidable (Orderly s e) := by
  unfold Orderly
  split <;> infer_instance

/-- The client of a pair is made, a check is answered, and a request is refused. -/
def checkedRun (q : MetroQuery) : List RoutingEvent :=
  let key := metroStateCacheKey "000120000548" "000120000549"
  [.env (.loadOrStore "000120000548" "000120000549"),
    .start 0 ⟨true, "000120000548", "000120000549", "12", []⟩,
    .reply 0 (.get "000120000548" "000120000549") none none,
    .reply 0 (.enter key) (.lead 0) none,
    .reply 0 (.doMetroStateCheck "000120000548" "000120000549" "12" "12") none (some q),
    .env (.setErrorWatcher "000120000548-000120000549"), .env (.roundTrip (.ok 401))]

/-- A check in which the local array has the witness and the remote one, which is R1, a bias. -/
def witnessAndBias : MetroQuery :=
  { pairQuery (.ok ⟨false, false, true, true, "000120000549"⟩) with
    localAnswers := ⟨true, .ok none, fun _ => .ok ⟨true, true, false, false, "000120000549"⟩⟩ }

def witnessOnly : MetroQuery :=
  { pairQuery (.ok ⟨false, false, false, false, "000120000549"⟩) with
    localAnswers := ⟨true, .ok none, fun _ => .ok ⟨true, true, false, false, "000120000549"⟩⟩ }

/-- The client goes to the array with the witness, also if its requests are refused. -/
theorem followsRanking_witnessOnly : ∃ s m,
    routingThreads.machine.run routingThreads.machine.init (checkedRun witnessOnly) = some s ∧
      s.world.metroClients "000120000548-000120000549" = some m ∧
      failoverThreshold ≤ m.failureCount ∧ FollowsRanking s.world m := by
  have hru : ((routingThreads.machine.run routingThreads.machine.init (checkedRun witnessOnly)).bind
      fun s => (s.world.metroClients "000120000548-000120000549").map fun m =>
        decide (failoverThreshold ≤ m.failureCount ∧
          ∀ q ∈ latestSuccess m.primaryArray m.secondaryArray s.world.log, q.PolarityAgrees)) =
      some true := by decide +kernel
  obtain ⟨s, hs, hm⟩ := bind_eq_some_iff.mp hru
  obtain ⟨m, hm, hp⟩ := map_eq_some_iff.mp hm
  obtain ⟨hc, hp⟩ := of_decide_eq_true hp
  exact ⟨s, m, hs, hm, hc, (followsRanking_iff _ s (by decide +kernel) hs _ m hm).mpr hp⟩

/-- The client goes to the array with the bias. -/
theorem bias_before_witness : ¬ ∀ events s id m,
    routingThreads.machine.run routingThreads.machine.init events = some s →
      s.world.metroClients id = some m → FollowsRanking s.world m := by
  intro ha
  have hru : ((routingThreads.machine.run routingThreads.machine.init
      (checkedRun witnessAndBias)).bind fun s =>
        (s.world.metroClients "000120000548-000120000549").map fun m =>
          decide (FollowsRanking s.world m)) = some false := by decide +kernel
  obtain ⟨s, hs, hm⟩ := bind_eq_some_iff.mp hru
  obtain ⟨m, hm, hf⟩ := map_eq_some_iff.mp hm
  exact of_decide_eq_false hf (ha _ s _ m hs hm)

end PowerMaxCsi.Metro
