import Mathlib.Order.Monotone.Basic
import TagControl.Button
/-!
A button's reports as a law of its samples. A run is a longest stretch of low samples
(`Button.IsRun`), and it counts as a press once a sample after its first is at least the debounce
time later (`Button.Counts`), times being compared modulo 2^32. The gesture follows the run that is
going on (`Button.Tracks`), so a press is reported exactly at the first sample behind a run that
counts, once, with the time since the first sample of the run.
-/

set_option autoImplicit false

namespace TagControl.Button

/-- A sample and when it is taken, in milliseconds modulo 2^32. -/
structure Tick where
  time : UInt32
  sample : Sample

/-- The button before a tick, all ticks before it having been taken. -/
def before (debounce : UInt32) (ticks : Nat → Tick) : Nat → Button
  | 0 => { debounce }
  | k + 1 => ((tick (ticks k).time (ticks k).sample).run (before debounce ticks k)).value.2

/-- What is reported at a tick: the length of a press that ends. -/
def report (debounce : UInt32) (ticks : Nat → Tick) (k : Nat) : Option UInt32 :=
  ((tick (ticks k).time (ticks k).sample).run (before debounce ticks k)).value.1

/-- A sample that is low. One that cannot be read is not. -/
def IsLow (ticks : Nat → Tick) (k : Nat) : Prop :=
  (ticks k).sample = .low

/-- The samples from `start` up to `stop`, without it, are low, and the one before them is not. -/
structure IsRun (ticks : Nat → Tick) (start stop : Nat) : Prop where
  start_lt : start < stop
  low : ∀ k, start ≤ k → k < stop → IsLow ticks k
  first : ∀ k, k + 1 = start → ¬IsLow ticks k

/-- Some sample of a run after the first is at least the debounce time after the first. -/
def Counts (debounce : UInt32) (ticks : Nat → Tick) (start stop : Nat) : Prop :=
  ∃ k, start < k ∧ k < stop ∧ debounce ≤ (ticks k).time - (ticks start).time

/-- What a gesture says about the samples before a tick. -/
def Tracks (debounce : UInt32) (ticks : Nat → Tick) (k : Nat) : Gesture → Prop
  | .idle => ∀ j, j + 1 = k → ¬IsLow ticks j
  | .bouncing since => ∃ start, IsRun ticks start k ∧ since = (ticks start).time ∧
      ¬Counts debounce ticks start k
  | .pressed since => ∃ start, IsRun ticks start k ∧ since = (ticks start).time ∧
      Counts debounce ticks start k

variable {debounce : UInt32} {ticks : Nat → Tick} {start stop k : Nat}

/-! ### Runs -/

theorem IsRun.last_low (hrun : IsRun ticks start stop) : ∀ j, j + 1 = stop → IsLow ticks j := by
  rintro j rfl
  exact hrun.low j (Nat.le_of_lt_succ hrun.start_lt) (Nat.lt_succ_self j)

theorem IsRun.not_longer {other : Nat} (hrun : IsRun ticks start stop)
    (hother : IsRun ticks other stop) : other ≤ start := by
  by_contra hlater
  obtain ⟨j, rfl⟩ : ∃ j, other = j + 1 := ⟨other - 1, by omega⟩
  have hstop := hother.start_lt
  exact hother.first j rfl (hrun.low j (by omega) (by omega))

/-- At most one run ends at a tick. -/
theorem IsRun.unique {other : Nat} (hrun : IsRun ticks start stop)
    (hother : IsRun ticks other stop) : other = start :=
  Nat.le_antisymm (hrun.not_longer hother) (hother.not_longer hrun)

theorem IsRun.extend (hrun : IsRun ticks start k) (hlow : IsLow ticks k) :
    IsRun ticks start (k + 1) := by
  refine ⟨Nat.lt_succ_of_lt hrun.start_lt, fun j hstart hstop ↦ ?_, hrun.first⟩
  rcases Nat.lt_succ_iff_lt_or_eq.mp hstop with hlt | rfl
  · exact hrun.low j hstart hlt
  · exact hlow

theorem isRun_single (hidle : ∀ j, j + 1 = k → ¬IsLow ticks j) (hlow : IsLow ticks k) :
    IsRun ticks k (k + 1) := by
  refine ⟨Nat.lt_succ_self k, fun j hstart hstop ↦ ?_, hidle⟩
  obtain rfl : j = k := by omega
  exact hlow

theorem not_counts_single : ¬Counts debounce ticks k (k + 1) := by
  rintro ⟨j, hstart, hstop, -⟩
  omega

theorem counts_succ_iff (hstart : start < k) : Counts debounce ticks start (k + 1) ↔
    Counts debounce ticks start k ∨ debounce ≤ (ticks k).time - (ticks start).time := by
  constructor
  · rintro ⟨j, hafter, hbefore, htime⟩
    rcases Nat.lt_succ_iff_lt_or_eq.mp hbefore with hlt | rfl
    · exact .inl ⟨j, hafter, hlt, htime⟩
    · exact .inr htime
  · rintro (⟨j, hafter, hbefore, htime⟩ | htime)
    · exact ⟨j, hafter, Nat.lt_succ_of_lt hbefore, htime⟩
    · exact ⟨k, hstart, Nat.lt_succ_self k, htime⟩

/-! ### One tick -/

theorem value_tick (now : UInt32) (sample : Sample) (button : Button) :
    ((tick now sample).run button).value =
      ((button.step now (sample = .low)).2,
        { button with gesture := (button.step now (sample = .low)).1 }) := by
  cases sample <;> rfl

theorem step_of_high {button : Button} {now : UInt32} :
    button.step now false = (.idle, match button.gesture with
      | .pressed since => some (now - since)
      | _ => none) := by
  cases hgesture : button.gesture <;> simp [step, hgesture]

theorem step_of_low {button : Button} {now : UInt32} :
    button.step now true = (match button.gesture with
      | .idle => .bouncing now
      | .bouncing since => if button.debounce ≤ now - since then .pressed since else .bouncing since
      | .pressed since => .pressed since, none) := by
  cases hgesture : button.gesture with
  | bouncing since =>
    by_cases hlong : button.debounce ≤ now - since <;> simp [step, hgesture, hlong]
  | _ => simp [step, hgesture]

/-- A sample that is not low ends the run. -/
theorem tracks_idle (hhigh : ¬IsLow ticks k) : Tracks debounce ticks (k + 1) .idle := by
  rintro j hj
  obtain rfl : j = k := Nat.succ.inj hj
  exact hhigh

/-- The gesture goes on following the run. -/
theorem Tracks.step {button : Button} (hdebounce : button.debounce = debounce)
    (htracks : Tracks debounce ticks k button.gesture) :
    Tracks debounce ticks (k + 1)
      (button.step (ticks k).time ((ticks k).sample = .low)).1 := by
  by_cases hlow : IsLow ticks k
  · have hsample : decide ((ticks k).sample = .low) = true := decide_eq_true hlow
    rw [hsample, step_of_low]
    cases hgesture : button.gesture with
    | idle =>
      rw [hgesture] at htracks
      exact ⟨k, isRun_single htracks hlow, rfl, not_counts_single⟩
    | bouncing since =>
      rw [hgesture] at htracks
      obtain ⟨start, hrun, rfl, hcounts⟩ := htracks
      rw [hdebounce]
      by_cases hlong : debounce ≤ (ticks k).time - (ticks start).time
      · simp only [if_pos hlong]
        exact ⟨start, hrun.extend hlow, rfl, (counts_succ_iff hrun.start_lt).mpr (.inr hlong)⟩
      · simp only [if_neg hlong]
        refine ⟨start, hrun.extend hlow, rfl, fun hlater ↦ ?_⟩
        exact ((counts_succ_iff hrun.start_lt).mp hlater).elim hcounts hlong
    | pressed since =>
      rw [hgesture] at htracks
      obtain ⟨start, hrun, rfl, hcounts⟩ := htracks
      exact ⟨start, hrun.extend hlow, rfl, (counts_succ_iff hrun.start_lt).mpr (.inl hcounts)⟩
  · have hsample : decide ((ticks k).sample = .low) = false := decide_eq_false hlow
    rw [hsample, step_of_high]
    exact tracks_idle hlow

/-- The gesture is a press exactly while a run that counts is going on, and holds its start. -/
theorem Tracks.eq_pressed_iff {gesture : Gesture} (htracks : Tracks debounce ticks k gesture)
    {since : UInt32} : gesture = .pressed since ↔
      ∃ start, IsRun ticks start k ∧ Counts debounce ticks start k ∧
        since = (ticks start).time := by
  cases gesture with
  | idle =>
    simp only [reduceCtorEq, false_iff]
    rintro ⟨start, hrun, -, -⟩
    obtain ⟨j, rfl⟩ : ∃ j, k = j + 1 := ⟨k - 1, by have := hrun.start_lt; omega⟩
    exact htracks j rfl (hrun.last_low j rfl)
  | bouncing other =>
    obtain ⟨start, hrun, -, hshort⟩ := htracks
    simp only [reduceCtorEq, false_iff]
    rintro ⟨start', hrun', hcounts, -⟩
    exact hshort (hrun.unique hrun' ▸ hcounts)
  | pressed other =>
    obtain ⟨start, hrun, rfl, hcounts⟩ := htracks
    constructor
    · intro heq
      cases heq
      exact ⟨start, hrun, hcounts, rfl⟩
    · rintro ⟨start', hrun', -, rfl⟩
      rw [hrun.unique hrun']

/-! ### All ticks -/

theorem tracks_before (debounce : UInt32) (ticks : Nat → Tick) (k : Nat) :
    (before debounce ticks k).debounce = debounce ∧
      Tracks debounce ticks k (before debounce ticks k).gesture := by
  induction k with
  | zero => exact ⟨rfl, nofun⟩
  | succ k ih =>
    obtain ⟨hdebounce, htracks⟩ := ih
    rw [before, value_tick]
    exact ⟨hdebounce, htracks.step hdebounce⟩

/-- A press is reported exactly at the first sample behind a run that counts. -/
theorem report_eq_some_iff {held : UInt32} : report debounce ticks k = some held ↔
    ¬IsLow ticks k ∧ ∃ start, IsRun ticks start k ∧ Counts debounce ticks start k ∧
      held = (ticks k).time - (ticks start).time := by
  obtain ⟨-, htracks⟩ := tracks_before debounce ticks k
  rw [report, value_tick]
  by_cases hlow : IsLow ticks k
  · have hsample : decide ((ticks k).sample = .low) = true := decide_eq_true hlow
    rw [hsample, step_of_low]
    simp [hlow]
  · have hsample : decide ((ticks k).sample = .low) = false := decide_eq_false hlow
    rw [hsample, step_of_high]
    simp only [hlow, not_false_eq_true, true_and]
    constructor
    · intro hreport
      cases hgesture : (before debounce ticks k).gesture with
      | pressed since =>
        obtain ⟨start, hrun, hcounts, rfl⟩ := htracks.eq_pressed_iff.mp hgesture
        rw [hgesture] at hreport
        cases hreport
        exact ⟨start, hrun, hcounts, rfl⟩
      | _ =>
        rw [hgesture] at hreport
        cases hreport
    · rintro ⟨start, hrun, hcounts, rfl⟩
      rw [htracks.eq_pressed_iff.mpr ⟨start, hrun, hcounts, rfl⟩]

/-- The button is held after a tick exactly if a run that counts goes on with it. -/
theorem isHeld_before_iff : (before debounce ticks k).isHeld = true ↔
    ∃ start, IsRun ticks start k ∧ Counts debounce ticks start k := by
  obtain ⟨-, htracks⟩ := tracks_before debounce ticks k
  have hheld : (before debounce ticks k).isHeld = true ↔
      ∃ since, (before debounce ticks k).gesture = .pressed since := by
    rw [isHeld]
    cases (before debounce ticks k).gesture <;> simp
  simp only [hheld, htracks.eq_pressed_iff]
  exact ⟨fun ⟨_, start, hrun, hcounts, _⟩ ↦ ⟨start, hrun, hcounts⟩,
    fun ⟨start, hrun, hcounts⟩ ↦ ⟨_, start, hrun, hcounts, rfl⟩⟩

theorem report_eq_none_of_low (hlow : IsLow ticks k) : report debounce ticks k = none := by
  by_contra hreport
  obtain ⟨held, hheld⟩ := Option.ne_none_iff_exists'.mp hreport
  exact (report_eq_some_iff.mp hheld).1 hlow

/-- From the start of a run to the sample that ends it, a report is made at that sample if the run
counts, and none otherwise. -/
theorem isSome_report_iff (hrun : IsRun ticks start stop) (hended : ¬IsLow ticks stop)
    (hstart : start ≤ k) (hstop : k ≤ stop) :
    (report debounce ticks k).isSome = true ↔ k = stop ∧ Counts debounce ticks start stop := by
  rcases Nat.lt_or_eq_of_le hstop with hlt | rfl
  · rw [report_eq_none_of_low (hrun.low k hstart hlt)]
    simp [Nat.ne_of_lt hlt]
  · simp only [Option.isSome_iff_exists, report_eq_some_iff, hended, not_false_eq_true, true_and]
    constructor
    · rintro ⟨held, start', hrun', hcounts, -⟩
      exact hrun.unique hrun' ▸ hcounts
    · intro hcounts
      exact ⟨_, start, hrun, hcounts, rfl⟩

/-- The difference of two times is the time that has passed, if that is less than 2^32. -/
theorem toNat_sub_ofNat {earlier later : Nat} (hle : earlier ≤ later)
    (hshort : later - earlier < UInt32.size) :
    (UInt32.ofNat later - UInt32.ofNat earlier).toNat = later - earlier := by
  rw [UInt32.toNat_sub, UInt32.toNat_ofNat', UInt32.toNat_ofNat']
  simp only [UInt32.size] at hshort
  omega

/-- A press reported of a run shorter than 2^32 has its true length, which is at least the debounce
time. -/
theorem report_eq_elapsed {clock : Nat → Nat} (hclock : Monotone clock)
    (htime : ∀ k, (ticks k).time = UInt32.ofNat (clock k)) (hrun : IsRun ticks start stop)
    (hshort : clock stop - clock start < UInt32.size) {held : UInt32}
    (hreport : report debounce ticks stop = some held) :
    held.toNat = clock stop - clock start ∧ debounce ≤ held := by
  obtain ⟨-, start', hrun', ⟨k, hafter, hbefore, hlong⟩, rfl⟩ := report_eq_some_iff.mp hreport
  obtain rfl := hrun.unique hrun'
  have hfirst : clock start' ≤ clock k := hclock hafter.le
  have hlast : clock k ≤ clock stop := hclock hbefore.le
  have hheld : ((ticks stop).time - (ticks start').time).toNat = clock stop - clock start' := by
    rw [htime, htime, toNat_sub_ofNat (hfirst.trans hlast) hshort]
  refine ⟨hheld, ?_⟩
  rw [htime, htime, UInt32.le_iff_toNat_le, toNat_sub_ofNat hfirst (by omega)] at hlong
  rw [UInt32.le_iff_toNat_le, hheld]
  omega

/-- Whatever the samples and their times are: a press is reported exactly at the first sample behind
a run that counts, with the time since the first sample of the run, and the button is held exactly
while such a run goes on. So a run that counts makes one report and any other none, and a run of
less than 2^32 milliseconds is reported with its true length, which is no less than the debounce
time. -/
theorem reports_runs_that_count (debounce : UInt32) (ticks : Nat → Tick) :
    (∀ k held, report debounce ticks k = some held ↔
      ¬IsLow ticks k ∧ ∃ start, IsRun ticks start k ∧ Counts debounce ticks start k ∧
        held = (ticks k).time - (ticks start).time) ∧
    (∀ k, (before debounce ticks (k + 1)).isHeld = true ↔
      IsLow ticks k ∧ ∃ start, IsRun ticks start (k + 1) ∧
        Counts debounce ticks start (k + 1)) ∧
    (∀ start stop, IsRun ticks start stop → ¬IsLow ticks stop →
      (Counts debounce ticks start stop →
        ∃! k, (start ≤ k ∧ k ≤ stop) ∧ (report debounce ticks k).isSome = true) ∧
      (¬Counts debounce ticks start stop →
        ∀ k, start ≤ k → k ≤ stop → report debounce ticks k = none)) ∧
    ∀ clock : Nat → Nat, Monotone clock → (∀ k, (ticks k).time = UInt32.ofNat (clock k)) →
      ∀ start stop held, IsRun ticks start stop → clock stop - clock start < UInt32.size →
        report debounce ticks stop = some held →
        held.toNat = clock stop - clock start ∧ debounce ≤ held := by
  refine ⟨fun k held ↦ report_eq_some_iff, fun k ↦ ?_, fun start stop hrun hended ↦
    ⟨fun hcounts ↦ ?_, fun hcounts k hstart hstop ↦ ?_⟩,
    fun clock hclock htime start stop held hrun hshort ↦
      report_eq_elapsed hclock htime hrun hshort⟩
  · rw [isHeld_before_iff]
    constructor
    · rintro ⟨start, hrun, hcounts⟩
      exact ⟨hrun.last_low k rfl, start, hrun, hcounts⟩
    · exact And.right
  · refine ⟨stop, ⟨⟨hrun.start_lt.le, Nat.le_refl stop⟩, ?_⟩, ?_⟩
    · exact (isSome_report_iff hrun hended hrun.start_lt.le (Nat.le_refl stop)).mpr ⟨rfl, hcounts⟩
    · rintro k ⟨⟨hstart, hstop⟩, hreport⟩
      exact ((isSome_report_iff hrun hended hstart hstop).mp hreport).1
  · rw [← Option.not_isSome_iff_eq_none, isSome_report_iff hrun hended hstart hstop]
    exact fun hreport ↦ hcounts hreport.2

/-- The time in milliseconds, for three samples about the end of the 2^32 that are counted. -/
def lateClock : Nat → Nat
  | 0 => 0xFFFFFF9B
  | 1 => 0xFFFFFFD7
  | _ => 0x10000018F

/-- The button is low for two samples, and then it is not. -/
def latePress (k : Nat) : Tick where
  time := .ofNat (lateClock k)
  sample := if k < 2 then .low else .high

/-- A press about the end of the time that is counted has its true length. -/
theorem late_press_reported :
    report 50 latePress 2 = some 500 ∧ (500 : UInt32).toNat = lateClock 2 - lateClock 0 ∧
      (50 : UInt32) ≤ 500 := by
  obtain ⟨-, -, -, htrue⟩ := reports_runs_that_count 50 latePress
  have hclock : Monotone lateClock := monotone_nat_of_le_succ fun k ↦ by
    match k with
    | 0 => decide
    | 1 => decide
    | k + 2 => exact Nat.le_refl _
  have hrun : IsRun latePress 0 2 := by
    refine ⟨by decide, fun k _ hstop ↦ ?_, nofun⟩
    simp [IsLow, latePress, hstop]
  have hreport : report 50 latePress 2 = some 500 := by decide
  exact ⟨hreport, htrue lateClock hclock (fun _ ↦ rfl) 0 2 500 hrun (by decide) hreport⟩

end TagControl.Button
