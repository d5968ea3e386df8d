import PowerMaxCsi.Metro.Routing

/-!
# The failures that make a client go over

A `metroClient` without a winner goes over when the failures reported to it weigh enough.  The first
report after a pause sets its counter to 1 whatever the weight.
-/

namespace PowerMaxCsi.Metro

open Option

inductive HealthEvent where
  | passTime (duration : Nat)
  /-- `RoundTrip` of a request, which reports a failure. -/
  | roundTrip (resp : Except String Nat)
  | getActiveArray

/-- A client, and the time and weight of each report since it last went over, the latest first. -/
structure Watched where
  client : MetroClient
  clock : Nat
  reports : List (Nat × Int32)

namespace Watched

def Switches (s : Watched) : Prop := s.client.getActiveArray.1 ≠ s.client.activeArray

instance (s : Watched) : Decidable s.Switches := inferInstanceAs (Decidable (_ ≠ _))

/-- A switch forgets the reports, as `getActiveArray` forgets the failures. -/
def step (s : Watched) : HealthEvent → Watched
  | .passTime duration => { s with clock := s.clock + duration }
  | .roundTrip resp =>
    match failureWeight resp with
    | none => s
    | some weight =>
      ⟨s.client.healthHandler s.clock weight, s.clock, (s.clock, weight) :: s.reports⟩
  | .getActiveArray =>
    ⟨s.client.getActiveArray.2, s.clock, if s.Switches then [] else s.reports⟩

end Watched

def healthMachine (primaryArray secondaryArray : String) : Machine Watched HealthEvent where
  init := ⟨⟨primaryArray, secondaryArray, primaryArray, 0, none, ""⟩, 0, []⟩
  step s e := some (s.step e)

/-- The weight of the latest report and of those before it, up to a pause. -/
def chainWeight : List (Nat × Int32) → Int
  | [] => 0
  | (time, weight) :: reports => weight.toInt +
    if reports.head?.any (time - ·.1 ≤ failureTimeThreshold) then chainWeight reports else 0

def totalWeight : List (Nat × Int32) → Int
  | [] => 0
  | (_, weight) :: reports => weight.toInt + totalWeight reports

/-- A client goes over only for reports that weigh enough, and always when not authorised. -/
def GoesOver (s : Watched) : Prop :=
  (s.Switches → failoverThreshold.toInt ≤ chainWeight s.reports) ∧
    ((∃ report ∈ s.reports, report.2 = 99) → s.Switches)

/-- A report comes without a pause, and the counter does not overflow. -/
def Unpaused (s : Watched) : HealthEvent → Prop
  | .roundTrip resp => ∀ weight ∈ failureWeight resp,
      (∀ report ∈ s.reports.head?, s.clock - report.1 ≤ failureTimeThreshold) ∧
        totalWeight s.reports + weight.toInt < 2147483648
  | .passTime _ | .getActiveArray => True

instance (s : Watched) : ∀ e, Decidable (Unpaused s e)
  | .roundTrip resp => Option.decidableForallMem (failureWeight resp)
  | .passTime _ | .getActiveArray => .isTrue trivial

namespace Watched

variable {s : Watched}

/-- The counter is at most the weight of the reports since the last pause. -/
structure Inv (s : Watched) : Prop where
  winner : s.client.witnessWinner = ""
  ne : s.client.primaryArray ≠ s.client.secondaryArray
  last : ∀ report ∈ s.reports.head?, s.client.lastFailure = some report.1
  weights : ∀ report ∈ s.reports, 1 ≤ report.2.toInt
  count : s.client.failureCount.toInt ≤ chainWeight s.reports

theorem one_le_failureWeight {resp : Except String Nat} {weight : Int32}
    (h : failureWeight resp = some weight) : 1 ≤ weight.toInt := by
  unfold failureWeight at h
  split at h
  · cases h
    decide
  · split at h
    · cases h
      decide
    · split at h
      · cases h
        decide
      · cases h

theorem toInt_add_le {a b : Int32} (hb : 1 ≤ b.toInt) : (a + b).toInt ≤ a.toInt + b.toInt := by
  have ha := a.le_toInt
  rw [Int32.toInt_add, Int.bmod]
  split <;> omega

theorem Inv.getActiveArray (h : s.Inv) :
    s.client.getActiveArray = if failoverThreshold ≤ s.client.failureCount then
      (s.client.otherArray, { s.client with activeArray := s.client.otherArray, failureCount := 0 })
      else (s.client.activeArray, s.client) := by
  rw [MetroClient.getActiveArray, if_neg fun hw => hw.1 h.winner]

theorem Inv.switches_iff (h : s.Inv) : s.Switches ↔ failoverThreshold ≤ s.client.failureCount := by
  rw [Switches, h.getActiveArray]
  split
  case isTrue hc => exact iff_of_true (MetroClient.otherArray_ne h.ne) hc
  case isFalse hc => exact iff_of_false (fun hne => hne rfl) hc

theorem Inv.report (h : s.Inv) {weight : Int32} (hw : 1 ≤ weight.toInt) :
    Inv ⟨s.client.healthHandler s.clock weight, s.clock, (s.clock, weight) :: s.reports⟩ := by
  have hc := h.count
  have hl := h.last
  have ha : (s.client.failureCount + weight).toInt ≤ s.client.failureCount.toInt + weight.toInt :=
    toInt_add_le hw
  have hm : ∀ report ∈ (s.clock, weight) :: s.reports, 1 ≤ report.2.toInt := by
    rintro report (_ | ⟨_, hr⟩)
    · exact hw
    · exact h.weights report hr
  unfold MetroClient.healthHandler
  split
  case isTrue hp =>
    refine ⟨h.winner, h.ne, by simp, hm, ?_⟩
    have hn : s.reports.head?.any (s.clock - ·.1 ≤ failureTimeThreshold) = false := by
      cases hr : s.reports.head? with
      | none => rfl
      | some report =>
        have hf := hp.1
        rw [hl report hr] at hf
        simp only [all_some, decide_eq_true_eq] at hf
        simp only [any_some, decide_eq_false_iff_not]
        omega
    rw [chainWeight, hn]
    simpa using hw
  case isFalse hp =>
    refine ⟨h.winner, h.ne, by simp, hm, ?_⟩
    simp only [chainWeight]
    split
    case isTrue => omega
    case isFalse hn =>
      have h0 : s.client.failureCount.toInt ≤ 0 := by
        cases hr : s.reports with
        | nil =>
          rw [hr] at hc
          exact hc
        | cons report reports =>
          rw [hr] at hn hl
          rw [hl report rfl] at hp
          simp only [List.head?_cons, any_some, decide_eq_true_eq] at hn
          have hz : s.client.failureCount = 0 := by
            by_contra hne
            exact hp ⟨by simp only [all_some, decide_eq_true_eq]; omega, hne⟩
          rw [hz]
          exact Int.le_refl 0
      omega

theorem Inv.step (h : s.Inv) (e : HealthEvent) : (s.step e).Inv := by
  cases e with
  | passTime => exact ⟨h.winner, h.ne, h.last, h.weights, h.count⟩
  | roundTrip resp =>
    unfold Watched.step
    dsimp only
    split
    · exact h
    case h_2 weight hw => exact h.report (one_le_failureWeight hw)
  | getActiveArray =>
    unfold Watched.step
    rw [h.getActiveArray]
    simp only [h.switches_iff]
    split
    · exact ⟨h.winner, h.ne, by simp, by simp, Int.le_refl 0⟩
    · exact h

/-- The counter is the weight of all reports. -/
def Counted (s : Watched) : Prop := s.client.failureCount.toInt = totalWeight s.reports

theorem le_totalWeight {reports : List (Nat × Int32)} (h : ∀ report ∈ reports, 1 ≤ report.2.toInt) :
    0 ≤ totalWeight reports ∧ ∀ report ∈ reports, report.2.toInt ≤ totalWeight reports := by
  induction reports with
  | nil => exact ⟨Int.le_refl 0, by simp⟩
  | cons first reports ih =>
    obtain ⟨h₀, hr⟩ := ih fun report hmem => h report (List.mem_cons_of_mem _ hmem)
    have h₁ := h first List.mem_cons_self
    refine ⟨by simp only [totalWeight]; omega, ?_⟩
    rintro report (_ | ⟨_, hmem⟩)
    · simp only [totalWeight]
      omega
    · have h₂ := hr report hmem
      simp only [totalWeight]
      omega

theorem Inv.counted (h : s.Inv) (hc : s.Counted) {e : HealthEvent} (he : Unpaused s e) :
    (s.step e).Counted := by
  cases e with
  | passTime => exact hc
  | roundTrip resp =>
    unfold Watched.step
    dsimp only
    split
    · exact hc
    case h_2 weight hw =>
      obtain ⟨hp, hl⟩ := he weight hw
      have h1 := one_le_failureWeight hw
      have h0 := (le_totalWeight h.weights).1
      have ha : (s.client.failureCount + weight).toInt = totalWeight s.reports + weight.toInt := by
        rw [Int32.toInt_add, hc, Int.bmod]
        split <;> omega
      have hn : ¬ ((s.client.lastFailure.all fun last => failureTimeThreshold < s.clock - last) ∧
          s.client.failureCount ≠ 0) := by
        rintro ⟨hf, hne⟩
        cases hr : s.reports with
        | nil =>
          rw [Counted, hr] at hc
          exact hne (Int32.toInt_inj.mp hc)
        | cons report reports =>
          rw [hr] at hp
          rw [h.last report (by rw [hr]; rfl)] at hf
          have hle := hp report rfl
          simp only [all_some, decide_eq_true_eq] at hf
          omega
      rw [MetroClient.healthHandler, if_neg hn]
      simp only [Counted, totalWeight]
      omega
  | getActiveArray =>
    unfold Watched.step
    rw [h.getActiveArray]
    simp only [h.switches_iff]
    split
    · rfl
    · exact hc

end Watched

/-- A client goes over only for reports without a pause that weigh enough; without pauses also
whenever a request was not authorised. -/
theorem goesOver_of_unpaused (primaryArray secondaryArray : String)
    (hne : primaryArray ≠ secondaryArray) (events : List HealthEvent) (s : Watched)
    (hru : (healthMachine primaryArray secondaryArray).run
      (healthMachine primaryArray secondaryArray).init events = some s) :
    (s.Switches → failoverThreshold.toInt ≤ chainWeight s.reports) ∧
      ((healthMachine primaryArray secondaryArray).Along Unpaused
        (healthMachine primaryArray secondaryArray).init events → GoesOver s) := by
  have hi : (healthMachine primaryArray secondaryArray).init.Inv :=
    ⟨rfl, hne, by simp [healthMachine], by simp [healthMachine], Int.le_refl 0⟩
  have h : s.Inv := by
    refine Machine.run_invariant _ (G := fun _ _ => True) ?_ hi
      (Machine.along_of_forall _ (fun _ _ _ => trivial) _) hru
    rintro s e s' h - ⟨⟩
    exact h.step e
  have hw : s.Switches → failoverThreshold.toInt ≤ chainWeight s.reports := fun ht =>
    Int.le_trans (Int32.le_iff_toInt_le.mp (h.switches_iff.mp ht)) h.count
  refine ⟨hw, fun hu => ⟨hw, ?_⟩⟩
  have hc : s.Inv ∧ s.Counted := by
    refine Machine.run_invariant _ (I := fun s : Watched => s.Inv ∧ s.Counted) ?_ ⟨hi, rfl⟩ hu hru
    rintro s e s' ⟨h, hc⟩ he ⟨⟩
    exact ⟨h.step e, h.counted hc he⟩
  rintro ⟨report, hr, h99⟩
  rw [h.switches_iff, Int32.le_iff_toInt_le, hc.2]
  have hle := (Watched.le_totalWeight h.weights).2 report hr
  rw [h99] at hle
  exact Int.le_trans (by decide) hle

/-- A request fails, and three minutes later one is not authorised: the counter is 1. -/
theorem paused_stays : ¬ ∀ primaryArray secondaryArray, primaryArray ≠ secondaryArray →
    ∀ events s, (healthMachine primaryArray secondaryArray).run
      (healthMachine primaryArray secondaryArray).init events = some s → GoesOver s := by
  intro ha
  have hs := (ha "000120000548" "000120000549" (by decide)
    [.roundTrip (.ok 500), .passTime 180000000000, .roundTrip (.ok 401)] _ rfl).2
  exact absurd hs (by decide)

theorem goesOver_unauthorised : GoesOver
    ⟨⟨"000120000548", "000120000549", "000120000548", 100, some 1, ""⟩, 1, [(1, 99), (0, 1)]⟩ :=
  (goesOver_of_unpaused "000120000548" "000120000549" (by decide)
    [.roundTrip (.ok 500), .passTime 1, .roundTrip (.ok 401)] _ rfl).2 (by decide)

end PowerMaxCsi.Metro
