import PowerMaxCsi.Lib.Machine

/-!
# When an envoy goes over to the other server

`proxyHealth` of `csireverseproxy/pkg/common/common.go`.  An envoy switches when too many requests
fail in a row, or enough over a long time.  Times are in nanoseconds.
-/

namespace PowerMaxCsi.Proxy

structure ProxyHealth where
  (failureCount successCount consecutiveFailureCount : Int)
  firstFailure : Nat
  (minimumFailureCount minimumSuccessCount maximumConsFailureCount maximumFailureDuration : Int)
  hasDeteriorated : Bool
deriving DecidableEq, Repr

namespace ProxyHealth

def reset (health : ProxyHealth) : ProxyHealth :=
  { health with hasDeteriorated := false, successCount := 0, failureCount := 0 }

def reportSuccess (health : ProxyHealth) : ProxyHealth :=
  let health := if health.consecutiveFailureCount > 0 then
    { health with consecutiveFailureCount := 0 } else health
  if health.hasDeteriorated then
    if health.successCount < health.minimumSuccessCount then
      { health with successCount := health.successCount + 1 }
    else health.reset
  else health

def reportFailure (health : ProxyHealth) (now : Nat) : Bool × ProxyHealth :=
  if health.failureCount = 0 then
    (false, { health with
      hasDeteriorated := true
      firstFailure := now
      failureCount := 1
      consecutiveFailureCount := health.consecutiveFailureCount + 1 })
  else
    let health := { health with consecutiveFailureCount := health.consecutiveFailureCount + 1 }
    if health.consecutiveFailureCount > health.maximumConsFailureCount then
      (true, { health with consecutiveFailureCount := 0 }.reset)
    else if (now - health.firstFailure : Int) < health.maximumFailureDuration then
      (false, { health with failureCount := health.failureCount + 1 })
    else (decide (health.minimumFailureCount ≤ health.failureCount), health.reset)

end ProxyHealth

/-- The health of the servers, and the times of the failures since the last switch: those in a row,
and those of the window, the latest first. -/
structure HealthHistory where
  health : ProxyHealth
  clock : Nat
  (streak window : List Nat)
  /-- Failures from before the last switch are still counted. -/
  carried : Bool

inductive HealthReport where
  | passTime (duration : Nat)
  | success
  | failure
deriving DecidableEq

namespace HealthHistory

def Justified (s : HealthHistory) : Prop :=
  s.health.maximumConsFailureCount < (s.clock :: s.streak).length ∨
    s.health.minimumFailureCount ≤ (s.clock :: s.window).length ∧
      ∃ first ∈ (s.clock :: s.window).getLast?,
        s.health.maximumFailureDuration ≤ (s.clock - first : Int)

def SwitchesForReason (s : HealthHistory) (e : HealthReport) : Prop :=
  e = .failure → (s.health.reportFailure s.clock).1 = true → s.Justified

/-- Failures from before the last switch do not make too many. -/
def Fresh (s : HealthHistory) (e : HealthReport) : Prop :=
  e = .failure → s.carried = true →
    s.health.consecutiveFailureCount + 1 ≤ s.health.maximumConsFailureCount

instance (s : HealthHistory) (e : HealthReport) : Decidable (s.Fresh e) :=
  inferInstanceAs (Decidable (_ → _ → _ ≤ _))

/-- The reports since the last switch, and whether failures from before it still count. -/
def step (s : HealthHistory) : HealthReport → HealthHistory
  | .passTime duration => { s with clock := s.clock + duration }
  | .success =>
    let health := s.health.reportSuccess
    ⟨health, s.clock, [], if health.failureCount = 0 then [] else s.window, false⟩
  | .failure =>
    let (switched, health) := s.health.reportFailure s.clock
    ⟨health, s.clock, if switched then [] else s.clock :: s.streak,
      if health.failureCount = 0 then [] else s.clock :: s.window,
      if switched then health.consecutiveFailureCount ≠ 0 else s.carried⟩

/-- A new `proxyHealth` with the thresholds of another. -/
def machine (thresholds : ProxyHealth) : Machine HealthHistory HealthReport where
  init := ⟨{ thresholds.reset with consecutiveFailureCount := 0 }, 0, [], [], false⟩
  step s e := some (s.step e)

variable {s : HealthHistory}

structure Inv (s : HealthHistory) : Prop where
  window : s.health.failureCount = s.window.length
  first : s.window ≠ [] → s.window.getLast? = some s.health.firstFailure
  nonneg : 0 ≤ s.health.consecutiveFailureCount
  streak : s.carried = false → s.health.consecutiveFailureCount = s.streak.length

theorem Inv.success (h : s.Inv) : (s.step .success).Inv := by
  obtain ⟨hw, hf, hn, hs⟩ := h
  unfold step ProxyHealth.reportSuccess ProxyHealth.reset
  constructor <;> grind

theorem Inv.failure (h : s.Inv) : (s.step .failure).Inv := by
  obtain ⟨hw, hf, hn, hs⟩ := h
  unfold step ProxyHealth.reportFailure ProxyHealth.reset
  constructor <;> grind

theorem Inv.switchesForReason (h : s.Inv) {e : HealthReport} (hf : s.Fresh e) :
    s.SwitchesForReason e := by
  intro he hsw
  have hfr := hf he
  unfold ProxyHealth.reportFailure at hsw
  split at hsw
  case isTrue => cases hsw
  case isFalse hc =>
    dsimp only at hsw
    split at hsw
    case isTrue hm =>
      -- without failures from before the switch, the counter is that of the streak
      have hca : s.carried = false := by
        by_contra hne
        exact absurd (hfr (by simpa using hne)) (by omega)
      have hst := h.streak hca
      left
      simp only [List.length_cons]
      omega
    case isFalse =>
    split at hsw
    case isTrue => cases hsw
    case isFalse hd =>
      have hwi := h.window
      have hne : s.window ≠ [] := by
        rintro hnil
        exact hc (by simp [hwi, hnil])
      have hmi : s.health.minimumFailureCount ≤ s.health.failureCount := of_decide_eq_true hsw
      refine .inr ⟨?_, s.health.firstFailure, ?_, Int.not_lt.mp hd⟩
      · rw [List.length_cons]
        omega
      · rw [List.getLast?_cons, h.first hne]
        rfl

theorem Inv.step {s' : HealthHistory} {e : HealthReport} (h : s.Inv) (hst : s.step e = s') :
    s'.Inv := by
  subst hst
  cases e with
  | passTime => exact ⟨h.window, h.first, h.nonneg, h.streak⟩
  | success => exact h.success
  | failure => exact h.failure

/-- If failures from before the last switch never count, the envoy switches only for a reason. -/
theorem switchesForReason_of_fresh (thresholds : ProxyHealth) (reports : List HealthReport)
    (hf : (machine thresholds).Along Fresh (machine thresholds).init reports) :
    (machine thresholds).Along SwitchesForReason (machine thresholds).init reports := by
  refine Machine.Along.of_invariant _ (I := Inv)
    (fun _ _ _ h _ hst => h.step (Option.some.inj hst)) (fun _ _ h hf => h.switchesForReason hf)
    ?_ hf
  exact ⟨rfl, fun hne => absurd rfl hne, Int.le_refl 0, fun _ => rfl⟩

def thresholds : ProxyHealth := ⟨0, 0, 0, 0, 2, 1, 3, 10000000000, false⟩

/-- Two failures, a third one ten seconds later that makes the envoy switch for the duration, and
the same again: the second switch comes while the first three failures are still counted. -/
def twice : List HealthReport :=
  [.failure, .failure, .passTime 10000000000, .failure, .failure, .failure, .passTime 10000000000]

theorem switchesForReason_twice : ∃ s,
    (machine { thresholds with maximumConsFailureCount := 6 }).run
      (machine { thresholds with maximumConsFailureCount := 6 }).init twice = some s ∧
    s.carried = true ∧ (s.health.reportFailure s.clock).1 = true ∧ s.Justified := by
  refine ⟨_, rfl, rfl, rfl, ?_⟩
  have hs := switchesForReason_of_fresh { thresholds with maximumConsFailureCount := 6 }
    (twice ++ [.failure]) (by decide)
  exact (((Machine.along_append _).mp hs).2 _ rfl).1 rfl rfl

/-- After a switch for the duration, the second failure makes the envoy switch back. -/
theorem switches_back : ¬ ∀ thresholds reports,
    (machine thresholds).Along SwitchesForReason (machine thresholds).init reports := by
  intro ha
  have hs := ha thresholds [.failure, .failure, .passTime 10000000000, .failure, .failure, .failure]
  obtain ⟨-, hs⟩ := (((hs.2 _ rfl).2 _ rfl).2 _ rfl).2 _ rfl
  rcases (hs _ rfl).1 rfl rfl with hj | ⟨-, first, hm, hj⟩
  · exact absurd hj (by decide)
  · cases hm
    exact absurd hj (by decide)

end HealthHistory
end PowerMaxCsi.Proxy
