import Bme680.Driver.ReadRaw

/-!
# Waiting for the end of a conversion

`bme680_wait_for_eoc` reads the status register up to ten times. The header's name for bit 7 of it
says that new data is there, and the loop ends successfully when the bit is clear: it goes on as
long as there is new data, and times out on ten polls that all show it.

So a measurement is decoded after a poll that showed no new data, and whether one was completed
depends on the polls before. `decodesCompleted_iff` says on which sequences of polls the driver does
what the name of the bit asks for.
-/

set_option autoImplicit false
set_option relaxedAutoImplicit false

namespace Bme680.Driver

/-! ### The polls -/

/-- The number of reads of the status register that `waitForEocLoop` makes. -/
def pollCount (status : ℕ → ℤ × UInt8) (attempt : ℕ) : ℕ → ℕ
  | 0 => 0
  | tries + 1 =>
    if (status attempt).1 < 0 then 1
    else if (status attempt).2 &&& BME680_NEW_DATA_MSK = 0 then 1
    else pollCount status (attempt + 1) tries + 1

/-- A read of the status register that succeeds and shows new data. -/
def ShowsNewData (poll : ℤ × UInt8) : Prop :=
  0 ≤ poll.1 ∧ poll.2 &&& BME680_NEW_DATA_MSK ≠ 0

/-- The loop goes on as long as there is new data, and ends at the first poll that fails or shows
none. -/
theorem waitForEocLoop_cases (status : ℕ → ℤ × UInt8) (attempt tries : ℕ) :
    ((∀ index < tries, ShowsNewData (status (attempt + index))) ∧
        waitForEocLoop status attempt tries = -ETIMEDOUT) ∨
      ∃ last < tries, (∀ index < last, ShowsNewData (status (attempt + index))) ∧
        pollCount status attempt tries = last + 1 ∧
        ((status (attempt + last)).1 < 0 ∧
            waitForEocLoop status attempt tries = (status (attempt + last)).1 ∨
          0 ≤ (status (attempt + last)).1 ∧
            (status (attempt + last)).2 &&& BME680_NEW_DATA_MSK = 0 ∧
            waitForEocLoop status attempt tries = 0) := by
  induction tries generalizing attempt with
  | zero => exact Or.inl ⟨fun index hindex ↦ absurd hindex (Nat.not_lt_zero index), rfl⟩
  | succ tries ih =>
    have hnone : ∀ index < 0, ShowsNewData (status (attempt + index)) := fun index hindex ↦
      absurd hindex (Nat.not_lt_zero index)
    unfold waitForEocLoop pollCount
    split_ifs with hfailed hclear
    · exact Or.inr ⟨0, Nat.succ_pos tries, hnone, rfl, Or.inl ⟨hfailed, rfl⟩⟩
    · exact Or.inr ⟨0, Nat.succ_pos tries, hnone, rfl, Or.inr ⟨not_lt.mp hfailed, hclear, rfl⟩⟩
    · have hshift (index : ℕ) : attempt + 1 + index = attempt + (index + 1) := by omega
      -- the first poll showed new data, and the others are those of the rest of the loop
      have hshows (count : ℕ)
          (hrest : ∀ index < count, ShowsNewData (status (attempt + 1 + index))) :
          ∀ index < count + 1, ShowsNewData (status (attempt + index)) := by
        intro index hindex
        cases index with
        | zero => exact ⟨not_lt.mp hfailed, hclear⟩
        | succ earlier =>
          rw [← hshift]
          exact hrest earlier (Nat.lt_of_succ_lt_succ hindex)
      rcases ih (attempt + 1) with ⟨hall, hret⟩ | ⟨last, hlast, hbefore, hcount, hend⟩
      · exact Or.inl ⟨hshows tries hall, hret⟩
      · rw [hshift] at hend
        exact Or.inr ⟨last + 1, Nat.succ_lt_succ hlast, hshows last hbefore, by rw [hcount], hend⟩

/-- At most ten polls are made. -/
theorem pollCount_le (status : ℕ → ℤ × UInt8) (attempt tries : ℕ) :
    pollCount status attempt tries ≤ tries := by
  induction tries generalizing attempt with
  | zero => exact le_refl 0
  | succ tries ih =>
    unfold pollCount
    split_ifs
    · exact Nat.succ_pos tries
    · exact Nat.succ_pos tries
    · exact Nat.succ_le_succ (ih (attempt + 1))

/-! ### Completed measurements -/

/-- One of the polls showed new data, and all accesses up to the burst succeeded. -/
def Completed (reads : RawReads) : Prop :=
  (∃ index < pollCount reads.status 0 10, (reads.status index).2 &&& BME680_NEW_DATA_MSK ≠ 0) ∧
    (∀ index < pollCount reads.status 0 10, 0 ≤ (reads.status index).1) ∧ 0 ≤ reads.bulkRet

/-- Ten polls succeeded and showed no new data. -/
def TenWithoutData (reads : RawReads) : Prop :=
  pollCount reads.status 0 10 = 10 ∧
    ∀ index < 10, 0 ≤ (reads.status index).1 ∧
      (reads.status index).2 &&& BME680_NEW_DATA_MSK = 0

/-- The driver decodes the frame of a completed measurement only, and otherwise returns an error
and keeps the raw values; it times out on ten polls without data only. -/
structure DecodesCompleted (data : Bme680Data) (reads : RawReads) : Prop where
  outcome : (bme680ReadRawData data reads).2 = 0 ∧
      (bme680ReadRawData data reads).1 = data.measured reads.registers ∨
    (bme680ReadRawData data reads).2 < 0 ∧ (bme680ReadRawData data reads).1 = data
  decoded : (bme680ReadRawData data reads).2 = 0 → Completed reads
  timedOut : (bme680ReadRawData data reads).2 = -ETIMEDOUT ↔ TenWithoutData reads

/-- The poll at which the loop ends, and how the measurement ends after it: the poll or the burst
fails, with another error than the timeout, or both succeed and it was not the first poll. -/
def EndsWell (reads : RawReads) (last : ℕ) : Prop :=
  (reads.status last).1 < 0 ∧ (reads.status last).1 ≠ -ETIMEDOUT ∨
    0 ≤ (reads.status last).1 ∧ (reads.status last).2 &&& BME680_NEW_DATA_MSK = 0 ∧
      (reads.bulkRet < 0 ∧ reads.bulkRet ≠ -ETIMEDOUT ∨ 0 ≤ reads.bulkRet ∧ 0 < last)

/-- A poll at which the loop ends did not show new data. -/
theorem not_showsNewData_of_endsWell {reads : RawReads} {last : ℕ} (hends : EndsWell reads last) :
    ¬ ShowsNewData (reads.status last) := by
  rintro ⟨hsuccess, hdata⟩
  rcases hends with ⟨hfailed, -⟩ | ⟨-, hclear, -⟩
  · exact absurd hsuccess (not_le.mpr hfailed)
  · exact hdata hclear

/-- A measurement that polls until a poll shows no new data never finds ten of them. -/
theorem not_tenWithoutData {reads : RawReads} {last : ℕ}
    (hbefore : ∀ index < last, ShowsNewData (reads.status index))
    (hcount : pollCount reads.status 0 10 = last + 1) : ¬ TenWithoutData reads := by
  rintro ⟨hten, hclear⟩
  have hlast : 0 < last := by omega
  exact (hbefore 0 hlast).2 (hclear 0 (by decide)).2

variable {data : Bme680Data} {reads : RawReads} {last : ℕ}

/-- A measurement that fails for another reason than ten polls without data is right to do so as
long as it does not return the timeout. -/
theorem decodesCompleted_of_error {ret : ℤ} (hret : ret < 0)
    (hread : bme680ReadRawData data reads = (data, ret)) (hnever : ¬ TenWithoutData reads) :
    DecodesCompleted data reads ↔ ret ≠ -ETIMEDOUT := by
  constructor
  · intro hdecodes htimeout
    refine hnever (hdecodes.timedOut.mp ?_)
    rw [hread]
    exact htimeout
  · intro hother
    refine ⟨Or.inr ?_, fun hzero ↦ ?_, iff_of_false ?_ hnever⟩
    · rw [hread]
      exact ⟨hret, rfl⟩
    · rw [hread] at hzero
      exact absurd hzero hret.ne
    · rw [hread]
      exact hother

/-- A measurement that is decoded was completed exactly when its last poll was not the first. -/
theorem decodesCompleted_of_success
    (hbefore : ∀ index < last, ShowsNewData (reads.status index))
    (hcount : pollCount reads.status 0 10 = last + 1) (hsuccess : 0 ≤ (reads.status last).1)
    (hclear : (reads.status last).2 &&& BME680_NEW_DATA_MSK = 0) (hburst : 0 ≤ reads.bulkRet)
    (hread : bme680ReadRawData data reads = (data.measured reads.registers, 0)) :
    DecodesCompleted data reads ↔ 0 < last := by
  constructor
  · intro hdecodes
    obtain ⟨⟨index, hindex, hdata⟩, -⟩ := hdecodes.decoded (congrArg Prod.snd hread)
    refine Nat.pos_of_ne_zero ?_
    rintro rfl
    rw [hcount, Nat.lt_one_iff] at hindex
    exact hdata (hindex ▸ hclear)
  · intro hlast
    refine ⟨Or.inl ⟨congrArg Prod.snd hread, congrArg Prod.fst hread⟩,
      fun _ ↦ ⟨⟨0, ?_, (hbefore 0 hlast).2⟩, fun index hindex ↦ ?_, hburst⟩,
      iff_of_false ?_ (not_tenWithoutData hbefore hcount)⟩
    · rw [hcount]
      exact Nat.succ_pos last
    · rw [hcount] at hindex
      rcases Nat.lt_succ_iff_lt_or_eq.mp hindex with hearlier | rfl
      · exact (hbefore index hearlier).1
      · exact hsuccess
    · rw [hread]
      exact show ¬ (0 : ℤ) = -ETIMEDOUT by decide

/-- A measurement whose loop ends at a poll decodes a completed measurement exactly when it ends
well. -/
theorem decodesCompleted_of_end
    (hbefore : ∀ index < last, ShowsNewData (reads.status index))
    (hcount : pollCount reads.status 0 10 = last + 1)
    (hend : (reads.status last).1 < 0 ∧ bme680WaitForEoc reads.status = (reads.status last).1 ∨
      0 ≤ (reads.status last).1 ∧ (reads.status last).2 &&& BME680_NEW_DATA_MSK = 0 ∧
        bme680WaitForEoc reads.status = 0) :
    DecodesCompleted data reads ↔ EndsWell reads last := by
  have hnever := not_tenWithoutData hbefore hcount
  unfold EndsWell
  rcases hend with ⟨hfailed, hwait⟩ | ⟨hsuccess, hclear, hwait⟩
  · have hread : bme680ReadRawData data reads = (data, (reads.status last).1) := by
      rw [← hwait] at hfailed ⊢
      exact if_pos hfailed
    rw [decodesCompleted_of_error hfailed hread hnever, and_iff_right hfailed,
      or_iff_left fun hlater ↦ absurd hlater.1 (not_le.mpr hfailed)]
  · have hnot : ¬ bme680WaitForEoc reads.status < 0 := hwait.not_lt
    rw [or_iff_right fun hearlier ↦ absurd hsuccess (not_le.mpr hearlier.1),
      and_iff_right hsuccess, and_iff_right hclear]
    by_cases hburst : reads.bulkRet < 0
    · have hread : bme680ReadRawData data reads = (data, reads.bulkRet) :=
        (if_neg hnot).trans (if_pos hburst)
      rw [decodesCompleted_of_error hburst hread hnever, and_iff_right hburst,
        or_iff_left fun hdone ↦ absurd hdone.1 (not_le.mpr hburst)]
    · have hdone := not_lt.mp hburst
      rw [decodesCompleted_of_success hbefore hcount hsuccess hclear hdone
        (measures_of_accesses hnot hburst data), and_iff_right hdone,
        or_iff_right fun hfailed ↦ absurd hfailed.1 hburst]

/-- The driver decodes completed measurements only, exactly when one of the ten polls is the first
that fails or shows no new data and the measurement ends well after it. -/
theorem decodesCompleted_iff (data : Bme680Data) (reads : RawReads) :
    DecodesCompleted data reads ↔
      ∃ last < 10, (∀ index < last, ShowsNewData (reads.status index)) ∧ EndsWell reads last := by
  have hcases := waitForEocLoop_cases reads.status 0 10
  simp only [Nat.zero_add] at hcases
  rcases hcases with ⟨hall, hwait⟩ | ⟨last, hlast, hbefore, hcount, hend⟩
  · have hnegative : bme680WaitForEoc reads.status < 0 := by
      rw [bme680WaitForEoc, hwait]
      decide
    refine iff_of_false (fun hdecodes ↦ ?_) ?_
    · have hret : (bme680ReadRawData data reads).2 = -ETIMEDOUT :=
        (congrArg Prod.snd (if_pos hnegative)).trans hwait
      exact (hall 0 (by decide)).2 ((hdecodes.timedOut.mp hret).2 0 (by decide)).2
    · rintro ⟨last, hlast, -, hends⟩
      exact not_showsNewData_of_endsWell hends (hall last hlast)
  · rw [decodesCompleted_of_end hbefore hcount hend]
    constructor
    · intro hends
      exact ⟨last, hlast, hbefore, hends⟩
    · rintro ⟨other, -, hearlier, hends⟩
      -- both are the first poll that does not show new data
      rcases Nat.lt_trichotomy other last with hless | rfl | hmore
      · exact absurd (hbefore other hless) (not_showsNewData_of_endsWell hends)
      · exact hends
      · obtain ⟨hsuccess, hdata⟩ := hearlier last hmore
        rcases hend with ⟨hfailed, -⟩ | ⟨-, hclear, -⟩
        · exact absurd hsuccess (not_le.mpr hfailed)
        · exact absurd hclear hdata

/-- A measurement whose first poll shows no new data is decoded. -/
theorem stale_frame_is_decoded : ¬ ∀ data reads, DecodesCompleted data reads := by
  intro hall
  obtain ⟨⟨index, -, hdata⟩, -⟩ := (hall unmeasured (readsOf fun _ ↦ 0)).decoded rfl
  exact hdata (show (0 : UInt8) &&& BME680_NEW_DATA_MSK = 0 by decide)

end Bme680.Driver
