import PowerMaxCsi.Metro.StateCheck

/-!
# The verdict of a shared check

The caller that leads a flight returns the verdict of its check; a caller that joins returns none.
So the callers that share a flight agree exactly if the check has found a winner.
-/

namespace PowerMaxCsi.Metro

open Prog CheckWorld Function Option Singleflight
open Singleflight (Role)

namespace MetroQuery

def verdict (q : MetroQuery) : Verdict :=
  match q.checkMetroStateWithRDFGroupsAndTimeout with
  | .error err => cachedVerdict err
  | .ok _ => none

theorem doMetroStateCheck_err (tracker : SiteStateTracker) (q : MetroQuery) :
    (doMetroStateCheck tracker q).err = q.verdict := by
  unfold doMetroStateCheck verdict
  cases q.checkMetroStateWithRDFGroupsAndTimeout with
  | error err => cases err <;> rfl
  | ok state =>
    dsimp only
    split <;> rfl

def Decided (q : MetroQuery) : Prop := q.groupNo = "" ∨ ∃ symID, q.Wins symID

theorem verdict_eq_none_iff {q : MetroQuery} : q.verdict = none ↔ q.Decided := by
  unfold verdict
  constructor
  · intro hv
    split at hv
    case h_1 err hc =>
      refine .inl ?_
      unfold checkMetroStateWithRDFGroupsAndTimeout at hc
      cases err with
      | bothArraysUnreachable | deviceBiasR1Failure => cases hv
      | noMetroRDFGroup =>
        unfold winner at hc
        grind
    case h_2 state hc => exact .inr ⟨_, (wins_of_check hc).1⟩
  · rintro (hg | ⟨symID, hw⟩)
    · have hc : q.checkMetroStateWithRDFGroupsAndTimeout = .error .noMetroRDFGroup := if_pos hg
      rw [hc]
      rfl
    · obtain ⟨state, hc, -⟩ := check_of_wins hw
      rw [hc]

end MetroQuery

namespace CheckWorld

structure CheckInv (w : CheckWorld) : Prop where
  started : ∀ i flight, w.sharing i = some (.lead flight) → flight < w.group.results.length
  leader : ∀ i j flight, w.sharing i = some (.lead flight) → w.sharing j = some (.lead flight) → i = j
  verdict : ∀ flight err, w.group.result flight = some err →
    ∃ q, w.queries flight = some q ∧ err = q.verdict

structure CheckRely (i : Nat) (w w' : CheckWorld) : Prop where
  sharing : w'.sharing i = w.sharing i
  led : ∀ flight, w.sharing i = some (.lead flight) →
    w'.group.result flight = w.group.result flight ∧ w'.queries flight = w.queries flight
  results : ∀ flight err, w.group.result flight = some err → w'.group.result flight = some err

theorem CheckRely.refl (i : Nat) (w : CheckWorld) : CheckRely i w w :=
  ⟨rfl, fun _ _ => ⟨rfl, rfl⟩, fun _ _ => id⟩

theorem CheckRely.trans {i : Nat} {w w' w'' : CheckWorld} (h : CheckRely i w w')
    (h' : CheckRely i w' w'') : CheckRely i w w'' where
  sharing := h'.sharing.trans h.sharing
  led flight hl := by
    obtain ⟨hr, hq⟩ := h.led flight hl
    obtain ⟨hr', hq'⟩ := h'.led flight (h.sharing.trans hl)
    exact ⟨hr'.trans hr, hq'.trans hq⟩
  results flight err hr := h'.results flight err (h.results flight err hr)

def CheckIssue (i : Nat) (w : CheckWorld) : CheckCall → Prop
  | .doMetroStateCheck _ _ _ _ =>
    ∃ flight, w.sharing i = some (.lead flight) ∧ w.group.result flight = none
  | .leave _ flight err => w.sharing i = some (.lead flight) ∧ w.group.result flight = none ∧
      ∃ q, w.queries flight = some q ∧ err = q.verdict
  | .respond err =>
    (∀ flight, w.sharing i = some (.lead flight) → w.group.result flight = some err) ∧
      ∀ flight, w.sharing i = some (.join flight) →
        err = none ∧ ∃ err', w.group.result flight = some err'
  | _ => True

end CheckWorld

def checkContract (i : Nat) : Contract CheckCall CheckAnswer CheckWorld where
  inv := CheckInv
  rely _ := CheckRely i
  answers w c r w' := ∃ query, w.serve i c r query = some w'
  issue := CheckIssue i
  rely_refl _ := CheckRely.refl i
  rely_trans _ _ _ _ h h' := h.trans h'

namespace CheckWorld

inductive Effect (w : CheckWorld) (i : Nat) : CheckCall → CheckWorld → Prop where
  | quiet {c : CheckCall} {w' : CheckWorld} : w'.group = w.group → w'.queries = w.queries →
      w'.sharing = w.sharing → Effect w i c w'
  | join {key : String} {w' : CheckWorld} (flight : Nat) : w'.group = w.group →
      w'.queries = w.queries →
      w'.sharing = update w.sharing i (some (.join flight)) → Effect w i (.enter key) w'
  | lead {key : String} {w' : CheckWorld} : w'.group.results = w.group.results ++ [none] →
      w'.queries = w.queries →
      w'.sharing = update w.sharing i (some (.lead w.group.results.length)) →
      Effect w i (.enter key) w'
  | check {a b c d : String} (q : MetroQuery) :
      Effect w i (.doMetroStateCheck a b c d) (w.check i q)
  | leave {key : String} {flight : Nat} {err : Verdict} :
      Effect w i (.leave key flight err) { w with group := w.group.finish key flight err }

variable {w w' : CheckWorld} {i : Nat} {c : CheckCall}

theorem serve_effect {r : CheckAnswer c} {query : Option MetroQuery}
    (h : w.serve i c r query = some w') : w.Effect i c w' := by
  cases c with
  | get localSymID remoteSymID =>
    rw [eq_of_serve_get h]
    exact .quiet rfl rfl rfl
  | setMetroWinner =>
    cases h
    exact .quiet rfl rfl rfl
  | enter key =>
    obtain ⟨hro, ⟨⟩⟩ := ite_none_right_eq_some.mp h
    rcases enter_cases (Prod.ext hro.symm rfl) with
      ⟨flight, -, rfl, hg⟩ | ⟨rfl, hr⟩
    · exact .join flight hg rfl rfl
    · exact .lead hr rfl rfl
  | doMetroStateCheck =>
    obtain ⟨q, -, h⟩ := bind_eq_some_iff.mp h
    obtain ⟨-, ⟨⟩⟩ := ite_none_right_eq_some.mp h
    exact .check q
  | leave =>
    cases h
    exact .leave
  | wait =>
    obtain ⟨-, ⟨⟩⟩ := ite_none_right_eq_some.mp h
    exact .quiet rfl rfl rfl
  | respond =>
    cases h
    exact .quiet rfl rfl rfl

theorem check_queries {flight : Nat} (hl : w.sharing i = some (.lead flight)) (q : MetroQuery) :
    (w.check i q).queries = update w.queries flight (some q) := by
  simp [check, hl]

theorem Effect.rely (he : w.Effect i c w') (hin : CheckInv w) (hi : CheckIssue i w c)
    {j : Nat} (hj : j ≠ i) : CheckRely j w w' := by
  cases he with
  | quiet hg hq hs =>
    exact ⟨by rw [hs], fun _ _ => by rw [hg, hq]; exact ⟨rfl, rfl⟩, fun _ _ hr => by rwa [hg]⟩
  | join flight hg hq hs =>
    exact ⟨by rw [hs, update_of_ne hj],
      fun _ _ => by rw [hg, hq]; exact ⟨rfl, rfl⟩, fun _ _ hr => by rwa [hg]⟩
  | lead hre hq hs =>
    have hr := result_append hre
    exact ⟨by rw [hs, update_of_ne hj],
      fun flight _ => ⟨hr flight, by rw [hq]⟩, fun flight _ h => (hr flight).trans h⟩
  | check q =>
    obtain ⟨flight, hl, -⟩ := hi
    refine ⟨rfl, fun flight' hl' => ⟨rfl, ?_⟩, fun _ _ => id⟩
    rw [check_queries hl, update_of_ne]
    rintro rfl
    exact hj (hin.leader _ _ _ hl' hl)
  | @leave key flight err =>
    obtain ⟨hl, hr, -⟩ := hi
    refine ⟨rfl, fun flight' hl' => ⟨result_finish_of_ne ?_, rfl⟩, ?_⟩
    · rintro rfl
      exact hj (hin.leader _ _ _ hl' hl)
    · intro flight' err' hr'
      refine (result_finish_of_ne ?_).trans hr'
      rintro rfl
      rw [hr] at hr'
      cases hr'

theorem Effect.inv (he : w.Effect i c w') (hin : CheckInv w) (hi : CheckIssue i w c) :
    CheckInv w' := by
  cases he with
  | quiet hg hq hs =>
    refine ⟨?_, ?_, ?_⟩
    · rw [hg, hs]
      exact hin.started
    · rw [hs]
      exact hin.leader
    · rw [hg, hq]
      exact hin.verdict
  | join flight hg hq hs =>
    have hl : ∀ j flight', w'.sharing j = some (.lead flight') →
        w.sharing j = some (.lead flight') := by
      intro j flight' h
      rw [hs, update_apply] at h
      split at h
      · cases h
      · exact h
    refine ⟨fun j flight' h => ?_, fun j k flight' h h' => ?_, ?_⟩
    · rw [hg]
      exact hin.started j flight' (hl j flight' h)
    · exact hin.leader j k flight' (hl j flight' h) (hl k flight' h')
    · rw [hg, hq]
      exact hin.verdict
  | lead hr hq hs =>
    -- the new flight has a number that no other leader has
    have hl : ∀ j flight', w'.sharing j = some (.lead flight') →
        j = i ∧ flight' = w.group.results.length ∨
          w.sharing j = some (.lead flight') ∧ flight' < w.group.results.length := by
      intro j flight' h
      rw [hs, update_apply] at h
      split at h
      case isTrue hj => exact .inl ⟨hj, (Role.lead.inj (some.inj h)).symm⟩
      case isFalse => exact .inr ⟨h, hin.started j flight' h⟩
    refine ⟨fun j flight' h => ?_, fun j k flight' h h' => ?_, fun flight' err h => ?_⟩
    · rw [hr, List.length_append]
      rcases hl j flight' h with ⟨-, rfl⟩ | ⟨-, hlt⟩
      · exact Nat.lt_succ_self _
      · exact hlt.trans (Nat.lt_succ_self _)
    · rcases hl j flight' h with ⟨rfl, rfl⟩ | ⟨h, hlt⟩ <;>
        rcases hl k _ h' with ⟨rfl, hle⟩ | ⟨h', hlt'⟩
      · rfl
      · exact absurd hlt' (Nat.lt_irrefl _)
      · exact absurd hle (Nat.ne_of_lt hlt)
      · exact hin.leader j k flight' h h'
    · rw [result_append hr] at h
      rw [hq]
      exact hin.verdict flight' err h
  | check q =>
    obtain ⟨flight, hl, hre⟩ := hi
    refine ⟨hin.started, hin.leader, fun flight' err h => ?_⟩
    rw [check_queries hl, update_of_ne]
    · exact hin.verdict flight' err h
    · rintro rfl
      have h : w.group.result flight' = some err := h
      rw [hre] at h
      cases h
  | @leave key flight err =>
    obtain ⟨hl, -, hqu⟩ := hi
    refine ⟨fun j flight' h => ?_, hin.leader, fun flight' err' h => ?_⟩
    · exact (hin.started j flight' h).trans_eq (length_finish err).symm
    · by_cases hsa : flight' = flight
      · subst hsa
        rw [result_finish_self (hin.started i flight' hl)] at h
        cases h
        exact hqu
      · rw [result_finish_of_ne hsa] at h
        exact hin.verdict flight' err' h

end CheckWorld

section

variable {i : Nat} {w w' : CheckWorld}

theorem respond_rely {err : Verdict} (hr : CheckRely i w w')
    (h : CheckIssue i w (.respond err)) : CheckIssue i w' (.respond err) := by
  constructor
  · intro flight hl
    exact hr.results flight err (h.1 flight (hr.sharing ▸ hl))
  · intro flight hj
    obtain ⟨hn, err', hre⟩ := h.2 flight (hr.sharing ▸ hj)
    exact ⟨hn, err', hr.results flight err' hre⟩

theorem respond_of_alone (hw : w.sharing i = none) (err : Verdict) :
    CheckIssue i w (.respond err) := by
  constructor <;>
  · intro flight hf
    rw [hw] at hf
    cases hf

def Leads (i flight : Nat) (w : CheckWorld) : Prop :=
  w.sharing i = some (.lead flight) ∧ w.group.result flight = none

variable {flight : Nat}

theorem Leads.rely (h : Leads i flight w) (hr : CheckRely i w w') : Leads i flight w' :=
  ⟨hr.sharing.trans h.1, (hr.led flight h.1).1.trans h.2⟩

theorem enter_spec {key : String} {role : Role} {query : Option MetroQuery}
    (h : w.serve i (.enter key) role query = some w') :
    w'.sharing i = some role ∧ ∀ flight, role = .lead flight → Leads i flight w' := by
  obtain ⟨hr, ⟨⟩⟩ := ite_none_right_eq_some.mp h
  refine ⟨update_self _ _ _, ?_⟩
  rintro flight rfl
  refine ⟨update_self _ _ _, ?_⟩
  rcases enter_cases (Prod.ext hr.symm rfl) with ⟨_, -, hr, -⟩ | ⟨hr, hre⟩
  · cases hr
  · refine (result_append hre flight).trans ?_
    rw [Role.lead.inj hr, Singleflight.result, List.getD_eq_getElem?_getD,
      List.getElem?_eq_none (Nat.le_refl _)]
    rfl

theorem lead_safe (hw : Leads i flight w) (req : CheckRequest) (key : String) :
    (checkContract i).Safe (fun w err => CheckIssue i w (.respond err)) w (do
      let checkErr ← Chk.doMetroStateCheck req.localSymID req.remoteSymID
        req.localRDFGroupNo req.remoteRDFGroupNo
      Chk.leave key flight checkErr
      return checkErr) := by
  intro w₁ hr hi
  have hw₁ := hw.rely hr
  refine ⟨⟨flight, hw₁⟩, ?_⟩
  rintro err w₂ ⟨query, hs⟩
  obtain ⟨q, -, hs⟩ := bind_eq_some_iff.mp hs
  obtain ⟨ha, ⟨⟩⟩ := ite_none_right_eq_some.mp hs
  have hq : (w₁.check i q).queries flight = some q := by
    rw [check_queries hw₁.1, update_self]
  have he : err = q.verdict := ha.2.trans (MetroQuery.doMetroStateCheck_err _ q)
  intro w₃ hr₃ hi₃
  have hw₃ : Leads i flight w₃ := Leads.rely (w := w₁.check i q) hw₁ hr₃
  refine ⟨⟨hw₃.1, hw₃.2, q, (hr₃.led flight hw₁.1).2.trans hq, he⟩, ?_⟩
  rintro ⟨⟩ w₄ ⟨_, hs₄⟩
  cases hs₄
  constructor
  · intro flight' hl
    obtain rfl : flight = flight' := Role.lead.inj (some.inj (hw₃.1.symm.trans hl))
    exact result_finish_self (hi₃.started i flight hw₃.1)
  · intro flight' hj
    rw [hw₃.1] at hj
    cases hj

theorem join_safe (hw : w.sharing i = some (.join flight)) :
    (checkContract i).Safe (fun w err => CheckIssue i w (.respond err)) w (do
      let _ ← Chk.wait flight
      return none) := by
  intro w₁ hre _
  refine ⟨trivial, ?_⟩
  rintro err w₂ ⟨query, hs⟩
  have hw₁ := hre.sharing.trans hw
  obtain ⟨hr, ⟨⟩⟩ := ite_none_right_eq_some.mp hs
  constructor
  · intro flight' hl
    rw [hw₁] at hl
    cases hl
  · intro flight' hj
    obtain rfl : flight = flight' := Role.join.inj (some.inj (hw₁.symm.trans hj))
    exact ⟨rfl, err, hr⟩

theorem logMetroStateCheck_safe (hw : w.sharing i = none) (req : CheckRequest) :
    (checkContract i).Safe (fun w err => CheckIssue i w (.respond err)) w
      (logMetroStateCheck req) := by
  unfold logMetroStateCheck
  split
  · exact respond_of_alone hw none
  split
  · exact respond_of_alone hw none
  intro w₁ hr _
  refine ⟨trivial, ?_⟩
  rintro entry w₂ ⟨query, hs⟩
  have hw₂ : w₂.sharing i = none := by
    have hw₁ := hr.sharing.trans hw
    simp only [CheckWorld.serve] at hs
    grind
  rcases entry with _ | cachedErr | cachedState
  · intro w₃ hr₃ _
    refine ⟨trivial, ?_⟩
    rintro role w₄ ⟨query₄, hs₄⟩
    obtain ⟨hsh, hl⟩ := enter_spec hs₄
    cases role with
    | lead flight => exact lead_safe (hl flight rfl) req _
    | join flight => exact join_safe hsh
  · exact respond_of_alone hw₂ _
  · refine .ite (fun _ => ?_) fun _ => ?_
    · intro w₃ hr₃ _
      refine ⟨trivial, ?_⟩
      rintro ⟨⟩ w₄ ⟨_, hs₄⟩
      cases hs₄
      exact respond_of_alone (hr₃.sharing.trans hw₂) none
    · exact respond_of_alone hw₂ none

end

theorem checkThreads_meets : Threads.Meets checkContract checkThreads fun _ _ => True where
  init _ := ⟨fun _ _ h => (nomatch h), fun _ _ _ h => (nomatch h), fun _ _ h => (nomatch h)⟩
  start s i req w _ hs hsta := by
    cases hsta
    have hin : CheckInv s.world := (hs i).1
    have hl : ∀ {j flight}, update s.world.sharing i none j = some (.lead flight) →
        s.world.sharing j = some (.lead flight) := by
      intro j flight h
      rw [update_apply] at h
      split at h
      · cases h
      · exact h
    refine ⟨fun _ => ⟨fun j flight h => hin.started j flight (hl h),
      fun j k flight h h' => hin.leader j k flight (hl h) (hl h'), hin.verdict⟩,
      fun j hj c _ => ?_, ?_⟩
    · have hji : j ≠ i := fun h => hj (congrArg some h)
      exact ⟨update_of_ne hji _ _, fun _ _ => ⟨rfl, rfl⟩, fun _ _ => id⟩
    · refine (logMetroStateCheck_safe (update_self _ _ _) req).bind ?_
      intro w err hr w₁ hre _
      exact ⟨respond_rely hre hr, fun _ _ _ => trivial⟩
  reply s i c r query w _ hs hn hse := by
    have hin : CheckInv s.world := (hs i).1
    have hi : CheckIssue i s.world c := (hs i).2.issue hin hn
    have he := serve_effect hse
    refine ⟨fun _ => he.inv hin hi, fun j hj c _ => ?_, query, hse⟩
    exact he.rely hin hi fun h => hj (congrArg some h)
  env s d w _ hs hen := by
    cases hen
    refine ⟨fun i => ?_, fun j _ _ _ => ⟨rfl, fun _ _ => ⟨rfl, rfl⟩, fun _ _ => id⟩⟩
    obtain ⟨hst, hle, hv⟩ := (hs i).1
    exact ⟨hst, hle, hv⟩

/-- A caller returns the verdict of the check that was made in its flight. -/
def SameVerdict (s : CheckPool) : CheckEvent → Prop
  | .reply i (.respond err) _ _ => (s.thread i).next = some (.respond err) →
      ∀ role, s.world.sharing i = some role → s.world.group.result role.flight = some err
  | _ => True

/-- A caller that has joined a flight returns only if an array was named the winner there. -/
def JoinsDecided (s : CheckPool) : CheckEvent → Prop
  | .reply i (.respond err) _ _ => (s.thread i).next = some (.respond err) →
      ∀ flight q, s.world.sharing i = some (.join flight) →
        s.world.queries flight = some q → q.Decided
  | _ => True

theorem sameVerdict_iff {s : CheckPool} (hs : s.Sound checkContract) (e : CheckEvent) :
    SameVerdict s e ↔ JoinsDecided s e := by
  rcases e with ⟨i, req⟩ | ⟨i, c, r, query⟩ | d
  case start | env => exact Iff.rfl
  cases c
  case respond err =>
    refine imp_congr_right fun hn => ?_
    have hi : CheckInv s.world := (hs i).1
    obtain ⟨hl, hj⟩ : CheckIssue i s.world (.respond err) := (hs i).2.issue hi hn
    constructor
    · intro hsa flight q hsh hq
      obtain ⟨rfl, -⟩ := hj flight hsh
      obtain ⟨q', hq', hv⟩ := hi.verdict flight none (hsa _ hsh)
      obtain rfl := some.inj (hq.symm.trans hq')
      exact MetroQuery.verdict_eq_none_iff.mp hv.symm
    · intro hd role hsh
      cases role with
      | lead flight => exact hl flight hsh
      | join flight =>
        obtain ⟨rfl, err', hr⟩ := hj flight hsh
        obtain ⟨q, hq, rfl⟩ := hi.verdict flight err' hr
        rw [MetroQuery.verdict_eq_none_iff.mpr (hd flight q hsh hq)] at hr
        exact hr
  all_goals exact Iff.rfl

/-- Each caller returns the verdict of its flight exactly if no caller has joined a flight without a
winner. -/
theorem sharedVerdicts_iff (events : List CheckEvent) :
    checkThreads.machine.Along SameVerdict checkThreads.machine.init events ↔
      checkThreads.machine.Along JoinsDecided checkThreads.machine.init events := by
  have hi : checkThreads.machine.init.Sound checkContract :=
    fun i => ⟨checkThreads_meets.init i, trivial⟩
  exact checkThreads.machine.along_congr
    (fun _ _ _ hs hst => checkThreads_meets.step hs trivial hst)
    (fun _ e hs => sameVerdict_iff hs e) hi events

/-- Two requests for a pair of which neither array answers, in one flight. -/
def joinRun : List CheckEvent :=
  let req : CheckRequest := ⟨true, "000120000548", "000120000549", "12", []⟩
  let key := metroStateCacheKey "000120000548" "000120000549"
  let down : Verdict := some ⟨.unavailable, "both local and remote arrays are unreachable"⟩
  [.start 0 req,
    .reply 0 (.get "000120000548" "000120000549") none none,
    .reply 0 (.enter key) (.lead 0) none,
    .start 1 req,
    .reply 1 (.get "000120000548" "000120000549") none none,
    .reply 1 (.enter key) (.join 0) none,
    .reply 0 (.doMetroStateCheck "000120000548" "000120000549" "12" "12") down
      (some (pairQuery (.error "timeout"))),
    .reply 0 (.leave key 0 down) () none,
    .reply 1 (.wait 0) down none,
    .reply 0 (.respond down) () none]

/-- The second request goes on although both arrays are down. -/
theorem joinRun_goesOn : ¬ ∀ events,
    checkThreads.machine.Along SameVerdict checkThreads.machine.init events := by
  intro ha
  have ho : (checkThreads.machine.run checkThreads.machine.init joinRun).map
      (fun s => ((s.thread 1).next, s.world.sharing 1, s.world.group.result 0)) =
      some (some (.respond none), some (.join 0),
        some (some ⟨.unavailable, "both local and remote arrays are unreachable"⟩)) := by
    decide +kernel
  obtain ⟨s, hru, hs⟩ := map_eq_some_iff.mp ho
  simp only [Prod.mk.injEq] at hs
  obtain ⟨hn, hsh, hr⟩ := hs
  have hsa : SameVerdict s (.reply 1 (.respond none) () none) :=
    ((checkThreads.machine.along_append.mp
      (ha (joinRun ++ [.reply 1 (.respond none) () none]))).2 s hru).1
  have hv := hsa hn _ hsh
  rw [Role.flight, hr] at hv
  cases hv

end PowerMaxCsi.Metro
