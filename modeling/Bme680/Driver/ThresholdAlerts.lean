import Bme680.Driver.ThresholdMonitor
import Bme680.Arithmetic.SignedWords

/-!
# The alerts of a sample

`check_threshold_task` compares the four values of the sample it takes with their thresholds. Three
of the comparisons are between unsigned words. The fourth one is between the temperature, which is
signed, and an unsigned threshold, so that it converts the temperature to an unsigned word first: a
temperature below zero then counts as one of at least half the range of the words.

`alertTrail_continuation` follows the alerts through the interleavings of the callback with the poll
thread: what was sent and what remains to be sent are the alerts of the samples that were taken, in
order. `alerts_iff_exceeded` is the exact condition, for both versions of the callback, under which
these are the alerts of the thresholds that the values, as integers, exceed.
-/

set_option autoImplicit false
set_option relaxedAutoImplicit false

namespace Bme680.Driver

open Arithmetic Concurrency

/-! ### What a run of the callback sends -/

/-- The alerts the callback has still to send for the sample it has taken. -/
def ThresholdState.pendingAlerts (state : ThresholdState) : List ThresholdAlert :=
  match state.task with
  | .ups _ (some sample) => thresholdAlerts state.thresholds sample
  | .alerting remaining => remaining
  | _ => []

/-- The alerts that were sent and, after them, those still to be sent. -/
def ThresholdState.alertTrail (state : ThresholdState) : List ThresholdAlert :=
  state.sent.map Prod.fst ++ state.pendingAlerts

/-- From one state to a later one the thresholds stay, and the alerts of the samples that were taken
in between follow those there were. -/
structure AlertsFollow (state later : ThresholdState) : Prop where
  thresholds : later.thresholds = state.thresholds
  taken : ∃ taken, later.obtained = state.obtained ++ taken ∧
    later.alertTrail = state.alertTrail ++ taken.flatMap (thresholdAlerts state.thresholds)

namespace AlertsFollow

variable {state later last : ThresholdState}

/-- A state in which no further sample was taken, and that has sent and is to send the same alerts,
follows. -/
theorem of_same (hthresholds : later.thresholds = state.thresholds)
    (hobtained : later.obtained = state.obtained) (hsent : later.sent = state.sent)
    (hpending : later.pendingAlerts = state.pendingAlerts) : AlertsFollow state later := by
  refine ⟨hthresholds, [], by rw [hobtained, List.append_nil], ?_⟩
  rw [ThresholdState.alertTrail, ThresholdState.alertTrail, hsent, hpending, List.flatMap_nil,
    List.append_nil]

theorem trans (hfirst : AlertsFollow state later) (hsecond : AlertsFollow later last) :
    AlertsFollow state last := by
  obtain ⟨taken, hobtained, htrail⟩ := hfirst.taken
  obtain ⟨more, hmore, hmoreTrail⟩ := hsecond.taken
  refine ⟨hsecond.thresholds.trans hfirst.thresholds, taken ++ more, ?_, ?_⟩
  · rw [hmore, hobtained, List.append_assoc]
  · rw [hmoreTrail, htrail, hfirst.thresholds, List.flatMap_append, List.append_assoc]

end AlertsFollow

/-- The poll thread neither takes samples nor sends alerts. -/
theorem bme680PollThread_alerts {state successor : ThresholdState}
    (hnext : bme680PollThread state = some successor) : AlertsFollow state successor := by
  unfold bme680PollThread at hnext
  split at hnext
  case h_1 =>
    split_ifs at hnext
    obtain rfl := Option.some.inj hnext
    exact .of_same rfl rfl rfl rfl
  all_goals
    first
    | obtain rfl := Option.some.inj hnext
      exact .of_same rfl rfl rfl rfl
    | cases hnext

/-- A call of the callback takes no sample and leaves the alerts as they are, or takes one and is
then to send its alerts. -/
theorem checkThresholdTask_alerts {version : CheckThresholdVersion}
    {state successor : ThresholdState}
    (hnext : checkThresholdTask version state = some successor) :
    AlertsFollow state successor := by
  unfold checkThresholdTask at hnext
  split at hnext
  case h_1 | h_9 => cases hnext
  case h_2 retries htask =>
    split_ifs at hnext
    obtain rfl := Option.some.inj hnext
    exact .of_same rfl rfl rfl (by simp only [ThresholdState.pendingAlerts, htask])
  case h_3 retries htask =>
    cases hfifo : state.dataFifo with
    | nil =>
      simp only [hfifo] at hnext
      obtain rfl := Option.some.inj hnext
      exact .of_same rfl rfl rfl (by simp only [ThresholdState.pendingAlerts, htask])
    | cons sample rest =>
      simp only [hfifo] at hnext
      obtain rfl := Option.some.inj hnext
      refine ⟨rfl, [sample], rfl, ?_⟩
      simp [ThresholdState.alertTrail, ThresholdState.pendingAlerts, htask]
  case h_5 retries htask =>
    -- both versions release the semaphore with nothing to send
    cases version with
    | core | ipc =>
      obtain rfl := Option.some.inj hnext
      exact .of_same rfl rfl rfl (by simp only [ThresholdState.pendingAlerts, htask])
  case h_4 htask | h_6 htask | h_7 htask | h_8 htask | h_10 htask =>
    obtain rfl := Option.some.inj hnext
    exact .of_same rfl rfl rfl (by simp only [ThresholdState.pendingAlerts, htask])

/-- Every step of the poll thread, the timer and the callback lets the alerts follow. -/
theorem thresholdNext_alerts {version : CheckThresholdVersion} {state successor : ThresholdState}
    {label : ThresholdLabel} (hnext : thresholdNext version state label = some successor) :
    AlertsFollow state successor := by
  cases label with
  | stopTest stop =>
    simp only [thresholdNext, Option.ite_none_right_eq_some, Option.some.injEq] at hnext
    obtain ⟨-, rfl⟩ := hnext
    exact .of_same rfl rfl rfl rfl
  | read result =>
    simp only [thresholdNext, Option.ite_none_right_eq_some] at hnext
    obtain ⟨-, hnext⟩ := hnext
    cases result with
    | none | some sample =>
      obtain rfl := Option.some.inj hnext
      exact .of_same rfl rfl rfl rfl
  | poll => exact bme680PollThread_alerts hnext
  | expire =>
    simp only [thresholdNext, Option.ite_none_right_eq_some, Option.some.injEq] at hnext
    obtain ⟨⟨-, hidle⟩, rfl⟩ := hnext
    exact .of_same rfl rfl rfl (by simp only [ThresholdState.pendingAlerts, hidle])
  | task => exact checkThresholdTask_alerts hnext
  | send allocated placed unicast =>
    simp only [thresholdNext] at hnext
    split at hnext
    case h_1 alert remaining htask =>
      obtain rfl := Option.some.inj hnext
      -- the alert goes from those to be sent to those that were sent
      refine ⟨rfl, [], (List.append_nil _).symm, ?_⟩
      simp [ThresholdState.alertTrail, ThresholdState.pendingAlerts, htask]
    case h_2 => cases hnext

/-- Along every continuation of a run the alerts of the samples taken follow one another. -/
theorem alertTrail_continuation {version : CheckThresholdVersion} {state later : ThresholdState}
    {allowed : ThresholdState → ThresholdLabel → Prop}
    (hmore : (thresholdSystem version).Continuation allowed state later) :
    AlertsFollow state later := by
  induction hmore with
  | refl => exact .of_same rfl rfl rfl rfl
  | tail _ hlast ih =>
    obtain ⟨label, -, hnext⟩ := hlast
    exact ih.trans (thresholdNext_alerts hnext)

/-- In a run of the program the callback finds the sample at the head of the queue, and comes to arm
the timer before it takes another one; the alerts are those it sent in between. -/
def AlertsSent (version : CheckThresholdVersion) (thresholds : Thresholds) (sample : FifoSample)
    (alerts : List ThresholdAlert) : Prop :=
  ∃ before after retries rest,
    (thresholdSystem version).Reachable before ∧ before.thresholds = thresholds ∧
      before.task = .gets retries ∧ before.dataFifo = sample :: rest ∧
      (thresholdSystem version).Continuation (fun _ _ ↦ True) before after ∧
      after.obtained = before.obtained ++ [sample] ∧ after.task = .arms ∧
      after.sent.map Prod.fst = before.sent.map Prod.fst ++ alerts

/-- What the callback sends for a sample does not depend on the interleaving. -/
theorem AlertsSent.eq_thresholdAlerts {version : CheckThresholdVersion} {thresholds : Thresholds}
    {sample : FifoSample} {alerts : List ThresholdAlert}
    (hsent : AlertsSent version thresholds sample alerts) :
    alerts = thresholdAlerts thresholds sample := by
  obtain ⟨before, after, retries, rest, -, rfl, htask, -, hmore, hobtained, harms, hsent⟩ := hsent
  obtain ⟨taken, htaken, htrail⟩ := (alertTrail_continuation hmore).taken
  obtain rfl : [sample] = taken := List.append_cancel_left (hobtained.symm.trans htaken)
  have hafter : after.alertTrail = after.sent.map Prod.fst := by
    simp [ThresholdState.alertTrail, ThresholdState.pendingAlerts, harms]
  have hbefore : before.alertTrail = before.sent.map Prod.fst := by
    simp [ThresholdState.alertTrail, ThresholdState.pendingAlerts, htask]
  rw [hafter, hbefore, hsent] at htrail
  simpa using List.append_cancel_left htrail

/-- The callback can go on to send all the alerts that remain. -/
theorem exists_alerting_continuation (version : CheckThresholdVersion)
    (remaining : List ThresholdAlert) (state : ThresholdState)
    (htask : state.task = .alerting remaining) :
    ∃ later, (thresholdSystem version).Continuation (fun _ _ ↦ True) state later ∧
      later.task = .alerting [] ∧ later.obtained = state.obtained ∧
      later.sent.map Prod.fst = state.sent.map Prod.fst ++ remaining := by
  induction remaining generalizing state with
  | nil => exact ⟨state, .refl, htask, rfl, (List.append_nil _).symm⟩
  | cons alert remaining ih =>
    have hsend : thresholdNext version state (.send true true 0) =
        some { state with
          sent := state.sent ++ [(alert, bme680NetlinkSend true true 0)]
          task := .alerting remaining } := by
      simp only [thresholdNext, htask]
    obtain ⟨later, hmore, hdone, hobtained, hsent⟩ :=
      ih { state with
        sent := state.sent ++ [(alert, bme680NetlinkSend true true 0)]
        task := .alerting remaining } rfl
    refine ⟨later, .head ⟨.send true true 0, trivial, hsend⟩ hmore, hdone, hobtained, ?_⟩
    rw [hsent]
    simp

/-- The callback has got past the semaphore when the poll thread has put a first sample into the
queue. -/
def sampleAtHead (version : CheckThresholdVersion) (thresholds : Thresholds)
    (sample : FifoSample) : ThresholdState where
  dataFifo := [sample]
  fifoSem := 0
  errorCount := 0
  thresholds := thresholds
  timerPending := false
  poll := .testsStop
  task := .gets version.retries
  completed := [sample]
  obtained := []
  sent := []

theorem reachable_sampleAtHead (version : CheckThresholdVersion) (thresholds : Thresholds)
    (sample : FifoSample) :
    (thresholdSystem version).Reachable (sampleAtHead version thresholds sample) := by
  have hstart : (thresholdSystem version).initial
      { sampleAtHead version thresholds sample with
        dataFifo := [], fifoSem := 1, timerPending := true, task := .idle, completed := [] } :=
    ⟨rfl, rfl, rfl, rfl, rfl, rfl, rfl⟩
  refine TransitionSystem.reachable_of_run hstart
    [.stopTest false, .read (some sample), .poll, .poll, .poll, .poll, .expire, .task] ?_
  simp [TransitionSystem.run, thresholdSystem, thresholdNext, bme680PollThread, kfifoPut,
    checkThresholdTask, sampleAtHead, dataFifoSize]

/-- For every sample and all thresholds there is a run in which the callback takes the sample. -/
theorem exists_alertsSent (version : CheckThresholdVersion) (thresholds : Thresholds)
    (sample : FifoSample) : ∃ alerts, AlertsSent version thresholds sample alerts := by
  have htaken : (thresholdSystem version).run (sampleAtHead version thresholds sample)
      [.task, .task] =
        some { sampleAtHead version thresholds sample with
          dataFifo := []
          fifoSem := 1
          obtained := [sample]
          task := .alerting (thresholdAlerts thresholds sample) } := by
    simp [TransitionSystem.run, thresholdSystem, thresholdNext, checkThresholdTask, sampleAtHead]
  obtain ⟨later, hmore, hdone, hobtained, hsent⟩ :=
    exists_alerting_continuation version (thresholdAlerts thresholds sample)
      { sampleAtHead version thresholds sample with
        dataFifo := []
        fifoSem := 1
        obtained := [sample]
        task := .alerting (thresholdAlerts thresholds sample) } rfl
  have harms : thresholdNext version later .task = some { later with task := .arms } := by
    simp only [thresholdNext, checkThresholdTask, hdone]
  exact ⟨thresholdAlerts thresholds sample, _, { later with task := .arms }, version.retries, [],
    reachable_sampleAtHead version thresholds sample, rfl, rfl, rfl,
    ((TransitionSystem.Continuation.of_run [.task, .task] htaken).trans hmore).tail
      ⟨.task, trivial, harms⟩,
    hobtained, rfl, hsent⟩

/-! ### The thresholds that are exceeded -/

/-- The value of a sample an alert is about. -/
def FifoSample.value (sample : FifoSample) : ThresholdAlert → ℤ
  | .temperature => sample.temp.toInt
  | .pressure => sample.pressure.toNat
  | .humidity => sample.humidity.toNat
  | .gas => sample.gasRes.toNat

/-- The threshold an alert is about. -/
def Thresholds.value (thresholds : Thresholds) : ThresholdAlert → ℤ
  | .temperature => thresholds.temp.toNat
  | .pressure => thresholds.press.toNat
  | .humidity => thresholds.hum.toNat
  | .gas => thresholds.gas.toNat

/-- The temperature is not negative, or the threshold is so great that a negative temperature that
has been converted to an unsigned word does not exceed it. -/
def TemperatureComparable (thresholds : Thresholds) (sample : FifoSample) : Prop :=
  0 ≤ sample.temp.toInt ∨ sample.temp.toInt + 4294967296 ≤ thresholds.temp.toNat

/-- A negative temperature is converted to a word that is greater by the number of words. -/
theorem toNat_toUInt32_of_neg {word : Int32} (hword : word.toInt < 0) :
    (word.toUInt32.toNat : ℤ) = word.toInt + 4294967296 := by
  have hvalue : word.toInt = (word.toUInt32.toNat : ℤ).bmod (2 ^ 32) :=
    BitVec.toInt_eq_toNat_bmod word.toBitVec
  have hlt := word.toUInt32.toNat_lt
  rw [hvalue, Int.bmod_def] at hword ⊢
  split_ifs at hword ⊢ <;> omega

/-- The comparison of the temperature is one of integers exactly when the temperature is not
negative, or is converted to a word that does not exceed the threshold. -/
theorem temperature_compared_iff (thresholds : Thresholds) (sample : FifoSample) :
    (sample.temp.toUInt32 > thresholds.temp ↔
        thresholds.value .temperature < sample.value .temperature) ↔
      TemperatureComparable thresholds sample := by
  simp only [gt_iff_lt, UInt32.lt_iff_toNat_lt, Thresholds.value, FifoSample.value,
    TemperatureComparable]
  rcases le_or_gt 0 sample.temp.toInt with hnonneg | hneg
  · have hsame := toNat_toUInt32_of_nonneg hnonneg
    omega
  · have hconverted := toNat_toUInt32_of_neg hneg
    omega

/-- The comparisons of unsigned words are comparisons of integers, so that the alerts of a sample
are those of the exceeded thresholds where that of the temperature is. -/
theorem mem_thresholdAlerts_iff (thresholds : Thresholds) (sample : FifoSample)
    (alert : ThresholdAlert) (hother : alert ≠ .temperature) :
    alert ∈ thresholdAlerts thresholds sample ↔ thresholds.value alert < sample.value alert := by
  cases alert with
  | temperature => exact absurd rfl hother
  | pressure | humidity | gas =>
    simp [thresholdAlerts, Thresholds.value, FifoSample.value, UInt32.lt_iff_toNat_lt]

theorem temperature_mem_thresholdAlerts (thresholds : Thresholds) (sample : FifoSample) :
    .temperature ∈ thresholdAlerts thresholds sample ↔
      sample.temp.toUInt32 > thresholds.temp := by
  simp [thresholdAlerts]

/-- In both versions of the callback, the alerts sent for a sample are those of the thresholds its
values exceed exactly when the temperature is not negative, or is converted to a word that does not
exceed the threshold. -/
theorem alerts_iff_exceeded (version : CheckThresholdVersion) (thresholds : Thresholds)
    (sample : FifoSample) :
    (∀ alerts, AlertsSent version thresholds sample alerts → ∀ alert,
        alert ∈ alerts ↔ thresholds.value alert < sample.value alert) ↔
      TemperatureComparable thresholds sample := by
  rw [← temperature_compared_iff, ← temperature_mem_thresholdAlerts]
  constructor
  · intro hall
    obtain ⟨alerts, hsent⟩ := exists_alertsSent version thresholds sample
    have htemperature := hall alerts hsent .temperature
    rwa [hsent.eq_thresholdAlerts] at htemperature
  · intro htemperature alerts hsent alert
    rw [hsent.eq_thresholdAlerts]
    by_cases hsame : alert = .temperature
    · rwa [hsame]
    · exact mem_thresholdAlerts_iff thresholds sample alert hsame

/-- A temperature of one hundredth of a degree below zero raises the alert of a threshold of 85
degrees. -/
theorem negative_temperature_alerts :
    ¬ ∀ (version : CheckThresholdVersion) (thresholds : Thresholds) (sample : FifoSample)
      (alerts : List ThresholdAlert), AlertsSent version thresholds sample alerts →
      ∀ alert, alert ∈ alerts ↔ thresholds.value alert < sample.value alert := by
  intro hall
  obtain ⟨alerts, hsent⟩ := exists_alertsSent .core
    { temp := 8500, press := 110000, hum := 100000, gas := 100000 }
    { temp := -1, pressure := 100000, humidity := 50000, gasRes := 50000 }
  have htemperature := hall _ _ _ alerts hsent .temperature
  rw [hsent.eq_thresholdAlerts] at htemperature
  exact absurd (htemperature.mp (by decide)) (by decide)

end Bme680.Driver
