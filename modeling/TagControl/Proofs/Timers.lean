import Mathlib.Data.List.Basic
import TagControl.Timers
/-!
Laws of the deadline table. Arming and cancelling change one deadline (`value_arm`,
`value_cancel`). Advancing moves the clock to the later of the two instants, lists exactly the
timers whose deadline the clock has reached (`mem_advance`), each once and the earliest first
(`expired_advance`), and keeps exactly the deadlines that lie ahead of it (`deadline_advance`).
Of two timers with one deadline the one that stands first in `Timer.all` is listed first
(`ordered_advance`). Advancing in two steps lists the same timers in the same order as advancing at
once (`advance_advance`), also if the second instant is the earlier one (`advance_max`).
-/

set_option autoImplicit false

namespace TagControl

namespace Instant

/-! ### A clock that is told the time -/

variable (now : Instant) {first second : Instant}

theorem clock_le (hle : first ≤ second) : max now first ≤ max now second :=
  Nat.max_le.mpr ⟨Nat.le_max_left _ _, Nat.le_trans hle (Nat.le_max_right _ _)⟩

theorem clock_clock (hle : first ≤ second) : max (max now first) second = max now second := by
  rw [Nat.max_assoc, Nat.max_eq_right hle]

/-- What still lies ahead of the later of two instants lies ahead of both. -/
theorem filter_ahead (hle : first ≤ second) (instant : Option Instant) :
    (instant.filter (first < ·)).filter (second < ·) = instant.filter (second < ·) := by
  cases instant with
  | none => rfl
  | some reached =>
    by_cases hahead : second < reached
    · simp [Option.filter, hahead, Nat.lt_of_le_of_lt hle hahead]
    · by_cases hearlier : first < reached <;> simp [Option.filter, hahead, hearlier]

end Instant

@[simp] theorem Timer.mem_all (timer : Timer) : timer ∈ Timer.all := by
  cases timer <;> decide

/-- The place of a timer in `Timer.all`. -/
def Timer.rank (timer : Timer) : Nat :=
  Timer.all.idxOf timer

namespace Timers

theorem withDeadline_none_of_not_armed {timers : Timers} {timer : Timer}
    (hidle : timers.isArmed timer = false) : timers.withDeadline timer none = timers := by
  have hnone : timers.deadline timer = none := by simpa [isArmed] using hidle
  refine Timers.ext rfl fun other ↦ ?_
  rw [deadline_withDeadline]
  split
  · next heq => rw [heq, hnone]
  · rfl

theorem withDeadline_none_comm (timers : Timers) (first second : Timer) :
    (timers.withDeadline first none).withDeadline second none =
      (timers.withDeadline second none).withDeadline first none := by
  refine Timers.ext rfl fun timer ↦ ?_
  simp only [deadline_withDeadline]
  split <;> split <;> rfl

theorem value_arm (timers : Timers) (timer : Timer) (wait : Duration) :
    ((arm timer wait).run timers).value =
      if timers.now + wait < Instant.limit then
        (.ok (), timers.withDeadline timer (some (timers.now + wait)))
      else
        (.error .pastLastInstant, timers) := by
  unfold arm
  simp only [StateT.run_bind, StateT.run_get]
  by_cases hroom : timers.now + wait < Instant.limit
  · have hafter := Instant.after_eq_ok.mpr ⟨rfl, hroom⟩
    simp [Log.debug, hafter, hroom]
  · have hafter := Instant.after_eq_error.mpr (Nat.le_of_not_lt hroom)
    simp [hafter, hroom]

/-- Cancelling a timer that is not armed changes nothing, so it too leaves the timer unarmed. -/
theorem value_cancel (timers : Timers) (timer : Timer) :
    ((cancel timer).run timers).value =
      (timers.isArmed timer, timers.withDeadline timer none) := by
  unfold cancel
  cases harmed : timers.isArmed timer with
  | true => simp [Log.debug, harmed]
  | false => simp [harmed, withDeadline_none_of_not_armed]

/-! ### Expiry -/

theorem insertByDeadline_perm (due : Instant × Timer) (rest : List (Instant × Timer)) :
    (insertByDeadline due rest).Perm (due :: rest) := by
  induction rest with
  | nil => exact .refl _
  | cons first rest ih =>
    rw [insertByDeadline]
    split
    · exact .refl _
    · exact (ih.cons first).trans (.swap due first rest)

theorem foldr_insertByDeadline_perm (reached : List (Instant × Timer)) :
    (reached.foldr insertByDeadline []).Perm reached := by
  induction reached with
  | nil => exact .refl _
  | cons first rest ih => exact (insertByDeadline_perm first _).trans (ih.cons first)

/-- The deadlines reached by the current instant, in the order of `Timer.all`. -/
def reached (timers : Timers) : List (Instant × Timer) :=
  Timer.all.filterMap fun timer ↦
    match timers.deadline timer with
    | some reached => if reached ≤ timers.now then some (reached, timer) else none
    | none => none

/-- The table with its clock moved forward and nothing disarmed yet. -/
def clockAt (timers : Timers) (now : Instant) : Timers :=
  { timers with now := max timers.now now }

@[simp] theorem deadline_clockAt (timers : Timers) (now : Instant) :
    (timers.clockAt now).deadline = timers.deadline := by
  funext timer
  cases timer <;> rfl

theorem due_eq_foldr_reached (timers : Timers) :
    timers.due = timers.reached.foldr insertByDeadline [] := rfl

theorem mem_due {timers : Timers} {reached : Instant} {timer : Timer} :
    (reached, timer) ∈ timers.due ↔
      timers.deadline timer = some reached ∧ reached ≤ timers.now := by
  rw [due, (foldr_insertByDeadline_perm _).mem_iff, List.mem_filterMap]
  constructor
  · rintro ⟨other, -, hother⟩
    split at hother
    · next armed hdeadline =>
      split at hother
      · next hle =>
        cases hother
        exact ⟨hdeadline, hle⟩
      · cases hother
    · cases hother
  · rintro ⟨hdeadline, hle⟩
    exact ⟨timer, timer.mem_all, by simp only [hdeadline, if_pos hle]⟩

@[simp] theorem now_advance (timers : Timers) (now : Instant) :
    (timers.advance now).2.now = max timers.now now := rfl

theorem mem_advance {timers : Timers} {now : Instant} {timer : Timer} :
    timer ∈ (timers.advance now).1 ↔
      ∃ reached, timers.deadline timer = some reached ∧ reached ≤ max timers.now now := by
  simp only [advance, List.mem_map, Prod.exists, exists_eq_right, mem_due]
  cases timer <;> rfl

@[simp] theorem deadline_advance (timers : Timers) (now : Instant) (timer : Timer) :
    (timers.advance now).2.deadline timer =
      (timers.deadline timer).filter (max timers.now now < ·) := by
  simp only [advance, disarmDue, deadline_withDeadlines]
  cases timer <;> rfl

/-- The earlier deadline comes first, and of two timers with one deadline the one that stands first
in `Timer.all`. -/
def Precedes (first second : Instant × Timer) : Prop :=
  first.1 < second.1 ∨ first.1 = second.1 ∧ first.2.rank < second.2.rank

theorem Precedes.le {first second : Instant × Timer} (hprecedes : Precedes first second) :
    first.1 ≤ second.1 :=
  hprecedes.elim Nat.le_of_lt fun htie ↦ Nat.le_of_eq htie.1

/-- A timer that stands before all the others is put in front of those with its own deadline. -/
theorem ordered_insertByDeadline {due : Instant × Timer} {rest : List (Instant × Timer)}
    (hrest : rest.Pairwise Precedes) (hrank : ∀ entry ∈ rest, due.2.rank < entry.2.rank) :
    (insertByDeadline due rest).Pairwise Precedes := by
  induction rest with
  | nil => exact List.pairwise_singleton _ _
  | cons first rest ih =>
    obtain ⟨hfirst, hlater⟩ := List.pairwise_cons.mp hrest
    rw [List.forall_mem_cons] at hrank
    obtain ⟨hahead, hbehind⟩ := hrank
    rw [insertByDeadline]
    split
    · next hle =>
      refine List.pairwise_cons.mpr ⟨List.forall_mem_cons.mpr ⟨?_, fun other hother ↦ ?_⟩, hrest⟩
      · exact (Nat.lt_or_eq_of_le hle).imp_right fun heq ↦ ⟨heq, hahead⟩
      · have hlast := Nat.le_trans hle (hfirst other hother).le
        exact (Nat.lt_or_eq_of_le hlast).imp_right fun heq ↦ ⟨heq, hbehind other hother⟩
    · next hlt =>
      refine List.pairwise_cons.mpr ⟨fun other hother ↦ ?_, ih hlater hbehind⟩
      obtain rfl | hmem := List.mem_cons.mp ((insertByDeadline_perm due rest).mem_iff.mp hother)
      · exact .inl (Nat.lt_of_not_le hlt)
      · exact hfirst other hmem

theorem ordered_foldr_insertByDeadline {entries : List (Instant × Timer)}
    (hentries : entries.Pairwise (·.2.rank < ·.2.rank)) :
    (entries.foldr insertByDeadline []).Pairwise Precedes := by
  induction entries with
  | nil => exact .nil
  | cons first rest ih =>
    obtain ⟨hfirst, hrest⟩ := List.pairwise_cons.mp hentries
    refine ordered_insertByDeadline (ih hrest) fun entry hentry ↦ ?_
    exact hfirst entry ((foldr_insertByDeadline_perm rest).mem_iff.mp hentry)

theorem map_reached (timers : Timers) : timers.reached.map (·.2) =
    Timer.all.filter fun timer ↦ (timers.deadline timer).any (· ≤ timers.now) := by
  rw [reached, List.map_filterMap, ← List.filterMap_eq_filter]
  congr
  funext timer
  cases hdeadline : timers.deadline timer with
  | none => simp [Option.guard, hdeadline]
  | some reached => by_cases hle : reached ≤ timers.now <;> simp [Option.guard, hdeadline, hle]

theorem ordered_due (timers : Timers) : timers.due.Pairwise Precedes := by
  have hrank : (timers.reached.map (·.2)).Pairwise (·.rank < ·.rank) := by
    rw [map_reached]
    exact List.Pairwise.filter _ (by decide)
  rw [List.pairwise_map] at hrank
  rw [due_eq_foldr_reached]
  exact ordered_foldr_insertByDeadline hrank

/-- The timer that expires first when both are due. -/
def ExpiresBefore (timers : Timers) (first second : Timer) : Prop :=
  ∃ early late, timers.deadline first = some early ∧ timers.deadline second = some late ∧
    Precedes (early, first) (late, second)

theorem ordered_advance (timers : Timers) (now : Instant) :
    (timers.advance now).1.Pairwise timers.ExpiresBefore := by
  show ((timers.clockAt now).due.map (·.2)).Pairwise timers.ExpiresBefore
  rw [List.pairwise_map]
  refine (ordered_due (timers.clockAt now)).imp_of_mem fun hearly hlate hprecedes ↦ ?_
  have hfirst := (mem_due.mp hearly).1
  have hsecond := (mem_due.mp hlate).1
  rw [deadline_clockAt] at hfirst hsecond
  exact ⟨_, _, hfirst, hsecond, hprecedes⟩

/-- The timers that expire at an instant: every one that is due, once, the earliest first. -/
structure Expired (timers : Timers) (now : Instant) (expired : List Timer) : Prop where
  mem : ∀ timer, timer ∈ expired ↔
    ∃ reached, timers.deadline timer = some reached ∧ reached ≤ max timers.now now
  nodup : expired.Nodup
  ordered : (expired.filterMap timers.deadline).Pairwise (· ≤ ·)

theorem expired_advance (timers : Timers) (now : Instant) :
    Expired timers now (timers.advance now).1 := by
  constructor
  · exact fun timer ↦ mem_advance
  · have hperm := (foldr_insertByDeadline_perm (timers.clockAt now).reached).map (·.2)
    rw [map_reached] at hperm
    exact hperm.nodup_iff.mpr (List.Pairwise.filter _ (by decide))
  · refine List.pairwise_filterMap.mpr ((ordered_advance timers now).imp ?_)
    rintro first second ⟨early, late, hearly, hlate, hprecedes⟩ _ hfirst _ hsecond
    cases hearly.symm.trans hfirst
    cases hlate.symm.trans hsecond
    exact hprecedes.le

/-! ### Two steps -/

theorem insertByDeadline_append {due : Instant × Timer} {earlier later : List (Instant × Timer)}
    (hlater : ∀ entry ∈ later, due.1 ≤ entry.1) :
    insertByDeadline due (earlier ++ later) = insertByDeadline due earlier ++ later := by
  induction earlier with
  | nil =>
    cases later with
    | nil => rfl
    | cons first rest => simp [insertByDeadline, hlater first List.mem_cons_self]
  | cons first rest ih =>
    rw [List.cons_append, insertByDeadline, insertByDeadline, ih]
    split <;> rfl

theorem insertByDeadline_behind {due : Instant × Timer} {earlier later : List (Instant × Timer)}
    (hearlier : ∀ entry ∈ earlier, entry.1 < due.1) :
    insertByDeadline due (earlier ++ later) = earlier ++ insertByDeadline due later := by
  induction earlier with
  | nil => rfl
  | cons first rest ih =>
    rw [List.forall_mem_cons] at hearlier
    obtain ⟨hfirst, hrest⟩ := hearlier
    rw [List.cons_append, insertByDeadline, if_neg (Nat.not_le.mpr hfirst), ih hrest,
      List.cons_append]

/-- Sorting keeps apart what lies before an instant and what lies after it. -/
theorem foldr_insertByDeadline_split (instant : Instant) (entries : List (Instant × Timer)) :
    entries.foldr insertByDeadline [] =
      (entries.filter (·.1 ≤ instant)).foldr insertByDeadline [] ++
        (entries.filter (instant < ·.1)).foldr insertByDeadline [] := by
  induction entries with
  | nil => rfl
  | cons first rest ih =>
    rw [List.foldr_cons, ih]
    rcases Nat.lt_or_ge instant first.1 with hafter | hbefore
    · rw [insertByDeadline_behind]
      · simp [hafter, Nat.not_le.mpr hafter]
      · intro entry hentry
        rw [(foldr_insertByDeadline_perm _).mem_iff, List.mem_filter, decide_eq_true_eq] at hentry
        exact Nat.lt_of_le_of_lt hentry.2 hafter
    · rw [insertByDeadline_append]
      · simp [hbefore, Nat.not_lt.mpr hbefore]
      · intro entry hentry
        rw [(foldr_insertByDeadline_perm _).mem_iff, List.mem_filter, decide_eq_true_eq] at hentry
        exact Nat.le_of_lt (Nat.lt_of_le_of_lt hbefore hentry.2)

theorem reached_clockAt (timers : Timers) (now : Instant) : (timers.clockAt now).reached =
    Timer.all.filterMap fun timer ↦
      match timers.deadline timer with
      | some reached => if reached ≤ max timers.now now then some (reached, timer) else none
      | none => none := by
  rw [reached, deadline_clockAt]
  rfl

theorem reached_filter_le (timers : Timers) {first second : Instant} (hle : first ≤ second) :
    (timers.clockAt second).reached.filter (·.1 ≤ max timers.now first) =
      (timers.clockAt first).reached := by
  have hclock := Instant.clock_le timers.now hle
  rw [reached_clockAt, reached_clockAt, List.filter_filterMap]
  refine List.filterMap_congr fun timer _ ↦ ?_
  cases timers.deadline timer with
  | none => rfl
  | some reached =>
    by_cases hreached : reached ≤ max timers.now first
    · simp [hreached, Nat.le_trans hreached hclock, Option.filter]
    · by_cases hlater : reached ≤ max timers.now second <;> simp [hreached, hlater, Option.filter]

theorem reached_filter_lt (timers : Timers) {first second : Instant} (hle : first ≤ second) :
    (timers.clockAt second).reached.filter (max timers.now first < ·.1) =
      ((timers.advance first).2.clockAt second).reached := by
  rw [reached_clockAt, reached_clockAt, List.filter_filterMap, now_advance,
    Instant.clock_clock timers.now hle]
  refine List.filterMap_congr fun timer _ ↦ ?_
  rw [deadline_advance]
  cases timers.deadline timer with
  | none => rfl
  | some reached =>
    by_cases hahead : max timers.now first < reached
    · by_cases hreached : reached ≤ max timers.now second <;>
        simp [hahead, hreached, Option.filter]
    · by_cases hreached : reached ≤ max timers.now second <;>
        simp [hahead, hreached, Option.filter]

/-- Moving the clock forward in two steps is moving it at once: the same timers expire, in the same
order, and the same deadlines are left. -/
theorem advance_advance (timers : Timers) {first second : Instant} (hle : first ≤ second) :
    (timers.advance second).1 =
        (timers.advance first).1 ++ ((timers.advance first).2.advance second).1 ∧
      ((timers.advance first).2.advance second).2 = (timers.advance second).2 := by
  constructor
  · have hsplit := foldr_insertByDeadline_split (max timers.now first)
      (timers.clockAt second).reached
    rw [reached_filter_le timers hle, reached_filter_lt timers hle] at hsplit
    show (timers.clockAt second).due.map (·.2) = (timers.clockAt first).due.map (·.2) ++
      ((timers.advance first).2.clockAt second).due.map (·.2)
    rw [← List.map_append]
    exact congrArg _ hsplit
  · refine ext (Instant.clock_clock timers.now hle) fun timer ↦ ?_
    rw [deadline_advance, deadline_advance, deadline_advance, now_advance,
      Instant.clock_clock timers.now hle]
    exact Instant.filter_ahead (Instant.clock_le timers.now hle) _

/-! ### The whole law -/

/-- A timer keeps its deadline unless it expires. -/
theorem deadline_advance_eq_ite (timers : Timers) (now : Instant) (timer : Timer) :
    (timers.advance now).2.deadline timer =
      if timer ∈ (timers.advance now).1 then none else timers.deadline timer := by
  rw [deadline_advance]
  simp only [mem_advance]
  generalize max timers.now now = clock
  cases timers.deadline timer with
  | none => simp
  | some reached =>
    rcases Nat.lt_or_ge clock reached with hahead | hreached
    · simp [Option.filter, hahead, Nat.not_le.mpr hahead]
    · simp [Option.filter, hreached, Nat.not_lt.mpr hreached]

/-- What is left is ahead of the clock. -/
theorem lt_of_deadline_advance {timers : Timers} {now reached : Instant} {timer : Timer}
    (hdeadline : (timers.advance now).2.deadline timer = some reached) :
    max timers.now now < reached := by
  rw [deadline_advance, Option.filter_eq_some_iff] at hdeadline
  simpa using hdeadline.2

/-- Advancing reads of the instant only how far it moves the clock. -/
theorem advance_congr {timers : Timers} {first second : Instant}
    (hclock : max timers.now first = max timers.now second) :
    timers.advance first = timers.advance second := by
  unfold advance
  rw [hclock]

/-- Two steps, the second of which may go back in time, are one step to the later instant. -/
theorem advance_max (timers : Timers) (first second : Instant) :
    timers.advance (max first second) =
      ((timers.advance first).1 ++ ((timers.advance first).2.advance second).1,
        ((timers.advance first).2.advance second).2) := by
  have hlater : (timers.advance first).2.advance second =
      (timers.advance first).2.advance (max first second) := by
    refine advance_congr ?_
    rw [now_advance, Nat.max_assoc, Nat.max_assoc, ← Nat.max_assoc first, Nat.max_self]
  obtain ⟨hexpired, hleft⟩ := timers.advance_advance (Nat.le_max_left first second)
  rw [hlater]
  exact Prod.ext hexpired hleft.symm

/-- Moving the clock never takes it back. The timers that expire are those whose deadline the clock
has reached, each once, in the order of their deadlines and, for one deadline, in that of
`Timer.all`; they are disarmed, and every other deadline is kept and lies ahead. Moving the clock
twice is moving it once to the later instant. -/
theorem due_timers_expire_in_order (timers : Timers) (first second : Instant) :
    (timers.advance first).2.now = max timers.now first ∧
    (∀ timer, timer ∈ (timers.advance first).1 ↔
      ∃ reached, timers.deadline timer = some reached ∧ reached ≤ max timers.now first) ∧
    (timers.advance first).1.Nodup ∧
    (timers.advance first).1.Pairwise timers.ExpiresBefore ∧
    (∀ timer, (timers.advance first).2.deadline timer =
      if timer ∈ (timers.advance first).1 then none else timers.deadline timer) ∧
    (∀ timer reached, (timers.advance first).2.deadline timer = some reached →
      max timers.now first < reached) ∧
    timers.advance (max first second) =
      ((timers.advance first).1 ++ ((timers.advance first).2.advance second).1,
        ((timers.advance first).2.advance second).2) :=
  ⟨now_advance timers first, fun _ ↦ mem_advance, (expired_advance timers first).nodup,
    ordered_advance timers first, deadline_advance_eq_ite timers first,
    fun _ _ ↦ lt_of_deadline_advance, advance_max timers first second⟩

/-- Two timers with one deadline that was already behind the clock, one ahead of it and one far
ahead. -/
def tied : Timers :=
  { now := 45, dfu := some 50, recovery := some 40, identification := some 40,
    factoryReset := some 90 }

/-- A step back in time expires what was due, and a step forward the rest. -/
theorem tied_timers_expire_in_order :
    (tied.advance 30).1 = [.recovery, .identification] ∧
    (tied.advance 30).1.Pairwise tied.ExpiresBefore ∧
    (tied.advance 30).2.deadline .factoryReset = some 90 ∧ max 45 30 < 90 ∧
    tied.advance 60 =
      ([.recovery, .identification] ++ [.dfu], ⟨60, none, none, none, some 90⟩) := by
  obtain ⟨-, -, -, hordered, -, hahead, hboth⟩ := due_timers_expire_in_order tied 30 60
  exact ⟨by decide, hordered, by decide, hahead .factoryReset 90 (by decide),
    hboth.trans (by decide)⟩

end Timers

end TagControl
