import Mathlib.Data.List.Induction
import Mathlib.Data.List.Infix
import Mathlib.Logic.Function.Basic
import PowerMaxCsi.Lib.Strings

/-!
# Sessions of the host

`service/nvmetcp_conn_mode.go`.  Times are in nanoseconds.  The log lines are left out.
-/

namespace PowerMaxCsi.Service.HostSessions

open Strings Function

/-- `nvmeTCPConnectivityTracker`. -/
structure Tracker where
  lastWarned : String → Option Int
  degraded : String → Bool

def newNVMeTCPConnectivityTracker : Tracker := ⟨fun _ => none, fun _ => false⟩

def nvmeTCPDegradedWarningInterval : Int := 900000000000

def nvmeTCPConnectivityKey (array targetNQN : String) : String := array ++ "\x00" ++ targetNQN

namespace Tracker

def shouldWarnDegraded (t : Tracker) (array targetNQN : String) (now : Int) : Bool × Tracker :=
  let key := nvmeTCPConnectivityKey array targetNQN
  let t := { t with degraded := update t.degraded key true }
  if ∃ last ∈ t.lastWarned key, now - last < nvmeTCPDegradedWarningInterval then (false, t)
  else (true, { t with lastWarned := update t.lastWarned key (some now) })

def markRestored (t : Tracker) (array targetNQN : String) : Bool × Tracker :=
  let key := nvmeTCPConnectivityKey array targetNQN
  if !t.degraded key then (false, t)
  else (true, ⟨update t.lastWarned key none, update t.degraded key false⟩)

end Tracker

inductive Call
  | shouldWarnDegraded (array targetNQN : String) (now : Int)
  | markRestored (array targetNQN : String)
deriving DecidableEq

def Tracker.call (t : Tracker) : Call → Bool × Tracker
  | .shouldWarnDegraded array targetNQN now => t.shouldWarnDegraded array targetNQN now
  | .markRestored array targetNQN => t.markRestored array targetNQN

def after (calls : List Call) : Tracker :=
  calls.foldl (fun t c => (t.call c).2) newNVMeTCPConnectivityTracker

/-- What a call returns after others. -/
def answer (calls : List Call) (c : Call) : Bool := ((after calls).call c).1

def Call.isFor (array nqn : String) : Call → Bool
  | .shouldWarnDegraded a n _ | .markRestored a n => a = array ∧ n = nqn

/-- The last call for the target has reported it as degraded. -/
def InEpisode (calls : List Call) (array nqn : String) : Prop :=
  ∃ now, (calls.filter (Call.isFor array nqn)).getLast? = some (.shouldWarnDegraded array nqn now)

def Tracker.entry (t : Tracker) (array nqn : String) : Bool × Option Int :=
  (t.degraded (nvmeTCPConnectivityKey array nqn), t.lastWarned (nvmeTCPConnectivityKey array nqn))

theorem after_concat (calls : List Call) (c : Call) :
    after (calls ++ [c]) = ((after calls).call c).2 := by
  simp [after]

theorem Tracker.warns_iff {t : Tracker} {array nqn : String} {now : Int} :
    (t.call (.shouldWarnDegraded array nqn now)).1 = true ↔
      ∀ last ∈ (t.entry array nqn).2, nvmeTCPDegradedWarningInterval ≤ now - last := by
  simp only [Tracker.call, Tracker.shouldWarnDegraded, Tracker.entry]
  split <;> simp_all

theorem Tracker.entry_warn {t : Tracker} {array nqn : String} {now : Int}
    (h : (t.call (.shouldWarnDegraded array nqn now)).1 = true) :
    ((t.call (.shouldWarnDegraded array nqn now)).2.entry array nqn).2 = some now := by
  simp only [Tracker.call, Tracker.shouldWarnDegraded, Tracker.entry] at h ⊢
  split at h
  · cases h
  · next hl =>
    rw [if_neg hl]
    exact update_self ..

section

variable {array nqn : String} (ha : '\x00' ∉ array.toList) (hn : '\x00' ∉ nqn.toList)

include ha hn

theorem nvmeTCPConnectivityKey_inj {a n : String}
    (h : nvmeTCPConnectivityKey array nqn = nvmeTCPConnectivityKey a n) : a = array ∧ n = nqn := by
  have hl := congrArg String.toList h
  have hz : "\x00".toList = ['\x00'] := by decide
  simp only [nvmeTCPConnectivityKey, String.toList_append, hz, List.append_assoc,
    List.singleton_append] at hl
  obtain ⟨hl, -, hr⟩ := (List.append_cons_inj_of_notMem ha hn).mp hl
  exact ⟨(String.ext hl).symm, (String.ext hr).symm⟩

/-- Calls for other targets change nothing. -/
theorem entry_call_other (t : Tracker) {c : Call} (hc : c.isFor array nqn = false) :
    (t.call c).2.entry array nqn = t.entry array nqn := by
  cases c with
  | shouldWarnDegraded a n now | markRestored a n =>
    have hne : nvmeTCPConnectivityKey array nqn ≠ nvmeTCPConnectivityKey a n :=
      mt (nvmeTCPConnectivityKey_inj ha hn) (by simpa [Call.isFor] using hc)
    simp only [Tracker.entry, Tracker.call, Tracker.shouldWarnDegraded, Tracker.markRestored]
    split <;> simp [hne]

/-- A target is degraded, and has a time of its last warning, during an episode. -/
theorem entry_after (calls : List Call) :
    (((after calls).entry array nqn).1 = true ↔ InEpisode calls array nqn) ∧
      (((after calls).entry array nqn).2 = none ↔ ¬ InEpisode calls array nqn) := by
  induction calls using List.reverseRecOn with
  | nil => simp [after, Tracker.entry, newNVMeTCPConnectivityTracker, InEpisode]
  | append_singleton calls c ih =>
    rw [after_concat]
    cases hc : c.isFor array nqn with
    | false =>
      rw [entry_call_other ha hn _ hc, ih.1, ih.2]
      simp [InEpisode, List.filter_append, hc]
    | true =>
      cases c with
      | shouldWarnDegraded a n now | markRestored a n =>
        obtain ⟨rfl, rfl⟩ : a = array ∧ n = nqn := by simpa [Call.isFor] using hc
        simp only [InEpisode, List.filter_append, List.filter_singleton, hc, cond_true,
          List.getLast?_concat, Tracker.entry, Tracker.call, Tracker.shouldWarnDegraded,
          Tracker.markRestored] at ih ⊢
        split <;> grind

/-- While a target is not restored, the time of its last warning does not go back. -/
theorem lastWarned_call {t : Tracker} {c : Call} {now : Int} (hc : c ≠ .markRestored array nqn)
    (h : ∃ last ≥ now, (t.entry array nqn).2 = some last) :
    ∃ last ≥ now, ((t.call c).2.entry array nqn).2 = some last := by
  cases hf : c.isFor array nqn with
  | false => rwa [entry_call_other ha hn _ hf]
  | true =>
    cases c with
    | markRestored a n =>
      obtain ⟨rfl, rfl⟩ : a = array ∧ n = nqn := by simpa [Call.isFor] using hf
      exact absurd rfl hc
    | shouldWarnDegraded a n time =>
      obtain ⟨rfl, rfl⟩ : a = array ∧ n = nqn := by simpa [Call.isFor] using hf
      obtain ⟨last, hge, hl⟩ := h
      simp only [Tracker.entry, Tracker.call, Tracker.shouldWarnDegraded] at hl ⊢
      split
      case isTrue => exact ⟨last, hge, hl⟩
      case isFalse hlate =>
        refine ⟨time, ?_, by simp⟩
        have hi : ¬ time - last < nvmeTCPDegradedWarningInterval := fun hi => hlate ⟨last, hl, hi⟩
        unfold nvmeTCPDegradedWarningInterval at hi
        omega

theorem lastWarned_after {calls mid : List Call} {now : Int}
    (h : answer calls (.shouldWarnDegraded array nqn now) = true)
    (hm : .markRestored array nqn ∉ mid) :
    ∃ last ≥ now, ((after (calls ++ .shouldWarnDegraded array nqn now :: mid)).entry array nqn).2 =
      some last := by
  induction mid using List.reverseRecOn with
  | nil =>
    rw [after_concat]
    exact ⟨now, Int.le_refl now, Tracker.entry_warn h⟩
  | append_singleton mid c ih =>
    rw [List.mem_append, not_or, List.mem_singleton] at hm
    rw [← List.cons_append, ← List.append_assoc, after_concat]
    exact lastWarned_call ha hn (Ne.symm hm.2) (ih hm.1)

end

/-- **Warnings** without a restore between them are an interval apart, the first report of an
episode warns, and restores end episodes. -/
theorem tracker_episodes (array nqn : String) (ha : '\x00' ∉ array.toList)
    (hn : '\x00' ∉ nqn.toList) (calls : List Call) :
    (∀ now mid now', answer calls (.shouldWarnDegraded array nqn now) = true →
      .markRestored array nqn ∉ mid →
      answer (calls ++ .shouldWarnDegraded array nqn now :: mid)
        (.shouldWarnDegraded array nqn now') = true →
      now + nvmeTCPDegradedWarningInterval ≤ now') ∧
    (¬ InEpisode calls array nqn → ∀ now, answer calls (.shouldWarnDegraded array nqn now) = true) ∧
    (answer calls (.markRestored array nqn) = true ↔ InEpisode calls array nqn) := by
  refine ⟨fun now mid now' hw hm hw' => ?_, fun he now => ?_, ?_⟩
  · obtain ⟨last, hge, hl⟩ := lastWarned_after ha hn hw hm
    have hi := Tracker.warns_iff.mp hw' last hl
    omega
  · refine Tracker.warns_iff.mpr fun last hl => ?_
    rw [(entry_after ha hn calls).2.mpr he] at hl
    cases hl
  · rw [← (entry_after ha hn calls).1]
    simp only [answer, Tracker.call, Tracker.markRestored, Tracker.entry]
    split <;> simp_all

def report (seconds : Int) : Call :=
  .shouldWarnDegraded "000120000548" "nqn.a" (seconds * 1000000000)

/-- Reports at 0, 899 and 900 seconds, of which the first and the last warn, and a restore. -/
theorem tracker_episodes_two_warnings :
    answer [] (report 0) = true ∧ answer [report 0] (report 899) = false ∧
      answer [report 0, report 899] (report 900) = true ∧
      0 + nvmeTCPDegradedWarningInterval ≤ 900 * 1000000000 ∧
      answer [report 0, report 899, report 900] (.markRestored "000120000548" "nqn.a") = true := by
  have he (calls : List Call) := tracker_episodes "000120000548" "nqn.a" (by decide) (by decide) calls
  have hf : answer [] (report 0) = true := (he []).2.1 (by simp [InEpisode]) _
  have hl : answer [report 0, report 899] (report 900) = true := by decide
  refine ⟨hf, by decide, hl, (he []).1 0 [report 899] _ hf (by decide) hl, ?_⟩
  exact (he _).2.2.mpr ⟨900 * 1000000000, by decide⟩

structure NVMESession where
  (target portal : String)
  (live tcp : Bool)

structure NVMeTCPTargetInfo where
  (portal target : String)
deriving DecidableEq

def nvmeTargetMatchesPublishIdentifier (publishIdentifier targetNQN : String) : Bool :=
  publishIdentifier = targetNQN ∨ hasPrefix publishIdentifier (targetNQN ++ ":")

def normalizeNVMeTCPPortal (portal : String) : String :=
  if portal = "" ∨ contains portal ":" then portal else portal ++ ":4420"

def nvmeTCPSessionMatchesTarget (session : NVMESession) (target : NVMeTCPTargetInfo) : Bool :=
  session.live ∧ session.tcp ∧ nvmeTargetMatchesPublishIdentifier target.target session.target ∧
    normalizeNVMeTCPPortal session.portal = normalizeNVMeTCPPortal target.portal

def getEligibleNVMeTCPSessions (sessions : List NVMESession) (targets : List NVMeTCPTargetInfo) :
    List NVMESession :=
  sessions.filter fun session => targets.any (nvmeTCPSessionMatchesTarget session)

/-- The loop of `evaluateHostManagedNVMeTCPTargets`: the calls of the tracker. -/
def evaluate (eligible : List NVMESession) (array : String) (now : NVMeTCPTargetInfo → Int) :
    List String → List NVMeTCPTargetInfo → List Call
  | _, [] => []
  | reported, target :: rest =>
    if target.target ∈ reported then evaluate eligible array now reported rest
    else
      (if eligible.any (nvmeTCPSessionMatchesTarget · target) then
        .markRestored array target.target
      else .shouldWarnDegraded array target.target (now target)) ::
        evaluate eligible array now (target.target :: reported) rest

def evaluateHostManagedNVMeTCPTargets (sessions : Except String (List NVMESession))
    (array : String) (now : NVMeTCPTargetInfo → Int) (targets : List NVMeTCPTargetInfo) :
    Except String (List NVMESession × List Call) := do
  let sessions ← sessions
  let eligible := getEligibleNVMeTCPSessions sessions targets
  return (eligible, evaluate eligible array now [] targets)

/-- A session matches the target. -/
def Reached (sessions : List NVMESession) (target : NVMeTCPTargetInfo) : Prop :=
  ∃ session ∈ sessions, nvmeTCPSessionMatchesTarget session target = true

/-- The NQN is reported as degraded. -/
def Degraded (sessions : List NVMESession) (array : String) (now : NVMeTCPTargetInfo → Int)
    (targets : List NVMeTCPTargetInfo) (nqn : String) : Prop :=
  ∃ eligible calls time,
    evaluateHostManagedNVMeTCPTargets (.ok sessions) array now targets = .ok (eligible, calls) ∧
      .shouldWarnDegraded array nqn time ∈ calls

section

variable {sessions : List NVMESession} {array nqn : String} {now : NVMeTCPTargetInfo → Int}
  {targets : List NVMeTCPTargetInfo} {time : Int}

/-- Only the first entry of an NQN counts. -/
theorem mem_evaluate {eligible : List NVMESession} {reported : List String} :
    (∃ time, .shouldWarnDegraded array nqn time ∈ evaluate eligible array now reported targets) ↔
      nqn ∉ reported ∧ ∃ target, targets.find? (·.target = nqn) = some target ∧
        ¬ Reached eligible target := by
  induction targets generalizing reported with
  | nil => simp [evaluate]
  | cons target rest ih =>
    rw [evaluate]
    by_cases hq : target.target = nqn
    · subst hq
      split
      · simp_all
      · split <;> simp_all [Reached]
    · split
      · simp_all
      · split <;> simp [hq, Ne.symm hq, ih]

theorem reached_eligible {target : NVMeTCPTargetInfo} (h : target ∈ targets) :
    Reached (getEligibleNVMeTCPSessions sessions targets) target ↔ Reached sessions target := by
  unfold Reached getEligibleNVMeTCPSessions
  constructor
  · rintro ⟨session, hs, hm⟩
    exact ⟨session, List.mem_of_mem_filter hs, hm⟩
  · rintro ⟨session, hs, hm⟩
    exact ⟨session, List.mem_filter.mpr ⟨hs, List.any_eq_true.mpr ⟨target, h, hm⟩⟩, hm⟩

theorem degraded_iff : Degraded sessions array now targets nqn ↔
    ∃ target, targets.find? (·.target = nqn) = some target ∧ ¬ Reached sessions target := by
  constructor
  · rintro ⟨_, _, time, ⟨⟩, hc⟩
    obtain ⟨-, target, hf, hr⟩ := mem_evaluate.mp ⟨time, hc⟩
    exact ⟨target, hf, mt (reached_eligible (List.mem_of_find?_eq_some hf)).mpr hr⟩
  · rintro ⟨target, hf, hr⟩
    obtain ⟨time, hc⟩ := mem_evaluate.mpr ⟨List.not_mem_nil, target, hf,
      mt (reached_eligible (List.mem_of_find?_eq_some hf)).mp hr⟩
    exact ⟨_, _, time, rfl, hc⟩

/-- **Degraded targets.**  The NQNs that count as degraded are those not reached exactly if sessions
reach all portals of an NQN or none. -/
theorem degraded_iff_none_reached (sessions : List NVMESession) (array : String)
    (now : NVMeTCPTargetInfo → Int) (targets : List NVMeTCPTargetInfo) :
    (∀ targets', targets'.Perm targets → ∀ nqn ∈ targets.map (·.target),
      (Degraded sessions array now targets' nqn ↔
        ∀ target ∈ targets, target.target = nqn → ¬ Reached sessions target)) ↔
    ∀ target ∈ targets, ∀ target' ∈ targets, target.target = target'.target →
      Reached sessions target → Reached sessions target' := by
  simp only [degraded_iff]
  constructor
  · intro h target hmem target' hmem' heq hr
    by_contra hnr
    have hd := (h (target' :: targets.erase target') (List.perm_cons_erase hmem').symm
      target'.target (List.mem_map_of_mem hmem')).mp ⟨target', by simp, hnr⟩
    exact hd target hmem heq hr
  · intro h targets' hp nqn hq
    obtain ⟨target₀, hmem, rfl⟩ := List.mem_map.mp hq
    obtain ⟨first, hf⟩ : ∃ first, targets'.find? (·.target = target₀.target) = some first := by
      rw [← Option.isSome_iff_exists, List.find?_isSome]
      exact ⟨target₀, hp.mem_iff.mpr hmem, by simp⟩
    have hfirst : first ∈ targets := hp.mem_iff.mp (List.mem_of_find?_eq_some hf)
    have hq : first.target = target₀.target := by simpa using List.find?_some hf
    constructor
    · rintro ⟨target, hf', hr⟩ target' hmem' hq' hr'
      obtain rfl : first = target := Option.some.inj (hf.symm.trans hf')
      exact hr (h target' hmem' first hfirst (hq'.trans hq.symm) hr')
    · exact fun hn => ⟨first, hf, hn first hfirst hq⟩

/-- A target with two portals, of which only the second has a session. -/
theorem degraded_first_portal : ¬ ∀ sessions array now targets nqn,
    nqn ∈ targets.map NVMeTCPTargetInfo.target → (Degraded sessions array now targets nqn ↔
      ∀ target ∈ targets, target.target = nqn → ¬ Reached sessions target) := by
  intro h
  have hd := (h [⟨"nqn.a", "10.0.0.2:4420", true, true⟩] "000120000548" (fun _ => 0)
    [⟨"10.0.0.1", "nqn.a"⟩, ⟨"10.0.0.2", "nqn.a"⟩] "nqn.a" (by decide)).mp
    (degraded_iff.mpr ⟨⟨"10.0.0.1", "nqn.a"⟩, by decide, by unfold Reached; decide⟩)
  exact hd ⟨"10.0.0.2", "nqn.a"⟩ (by decide) rfl (by unfold Reached; decide)

end

end PowerMaxCsi.Service.HostSessions
