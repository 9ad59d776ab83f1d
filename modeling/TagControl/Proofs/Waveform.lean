import Mathlib.Algebra.GroupWithZero.Nat
import Mathlib.Data.List.Basic
import Mathlib.Data.List.Induction
import TagControl.Light
/-!
The light as a law of what was done to it. The conditions that hold are read off the history of
actions (`Light.isOn`), and with them the pattern that is asked for (`Light.patternAfter`). A tick
starts its pattern if no tick comes before it, if the light was cleared since, or if the tick before
it showed another pattern (`Light.Starts`). The level is that of the pattern after the time of the
ticks behind the latest start (`Light.StartedBy`), which is counted modulo 2^32. So it does not
matter into how many ticks that time is cut, nor what was on for a while between two of them.
-/

set_option autoImplicit false

namespace TagControl.Light

inductive Action where
  | set (condition : Indication) (active : Bool)
  | clear
  | tick (delta : UInt32)
deriving DecidableEq

namespace Action

def isTick : Action → Bool
  | tick _ => true
  | _ => false

/-- The time that an action lets pass, in milliseconds. -/
def time : Action → Nat
  | tick delta => delta.toNat
  | _ => 0

/-- What an action tells about a condition. -/
def tells (condition : Indication) : Action → Option Bool
  | set other active => if other = condition then some active else none
  | clear => some false
  | tick _ => none

@[simp] theorem isTick_set (condition : Indication) (active : Bool) :
    (set condition active).isTick = false := rfl

@[simp] theorem isTick_clear : clear.isTick = false := rfl

@[simp] theorem isTick_tick (delta : UInt32) : (tick delta).isTick = true := rfl

end Action

def perform (light : Light) : Action → Light
  | .set condition active => light.withCondition condition active
  | .clear => light.clear
  | .tick delta => (light.tick delta).2

/-- The light after some actions, the first of which finds it new. -/
def after (history : List Action) : Light :=
  history.foldl perform {}

/-- The level that a tick answers with. -/
def levelAt (history : List Action) (delta : UInt32) : Bool :=
  ((after history).tick delta).1

/-- Whether a condition holds: the last thing told about it is that it does. -/
def isOn (history : List Action) (condition : Indication) : Bool :=
  (history.filterMap (Action.tells condition)).getLast?.getD false

/-- The pattern of the most urgent condition that holds. -/
def patternAfter (history : List Action) : Pattern :=
  match urgency.find? fun entry ↦ isOn history entry.1 with
  | some (_, pattern) => pattern
  | none => .off

/-- Whether a tick starts its pattern: if there is a tick before it, the light was cleared since
then or that tick showed another pattern. -/
def Starts (history : List Action) : Prop :=
  ∀ earlier delta since, history = earlier ++ .tick delta :: since →
    (∀ action ∈ since, action.isTick = false) →
    .clear ∈ since ∨ patternAfter earlier ≠ patternAfter history

/-- The latest tick of a history that starts its pattern comes after `past` and before `since`. -/
structure StartedBy (history past since : List Action) : Prop where
  split : ∃ delta, history = past ++ .tick delta :: since
  starts : Starts past
  latest : ∀ earlier delta later, history = earlier ++ .tick delta :: later →
    past.length < earlier.length → ¬Starts earlier

/-- The time of the ticks among some actions. -/
def elapsed (actions : List Action) : Nat :=
  (actions.map Action.time).sum

/-! ### The conditions -/

@[simp] theorem after_append (history actions : List Action) :
    after (history ++ actions) = actions.foldl perform (after history) :=
  List.foldl_append

theorem holds_after (history : List Action) (condition : Indication) :
    (after history).holds condition = isOn history condition := by
  induction history using List.reverseRecOn with
  | nil => cases condition <;> rfl
  | append_singleton history last ih =>
    rw [after_append, List.foldl_cons, List.foldl_nil]
    unfold isOn at ih ⊢
    rw [List.filterMap_append]
    cases last with
    | set other active =>
      by_cases hother : condition = other
      · simp [perform, Action.tells, hother]
      · simp [perform, Action.tells, hother, Ne.symm hother, ih]
    | clear => cases condition <;> simp [perform, clear, Action.tells, holds]
    | tick delta =>
      simp only [Action.tells, List.filterMap_cons, List.filterMap_nil, List.append_nil, ← ih]
      cases condition <;> rfl

theorem selected_after (history : List Action) :
    (after history).selected = patternAfter history := by
  have hholds : isOn history = (after history).holds := (funext (holds_after history)).symm
  unfold patternAfter
  generalize isOn history = holds at hholds ⊢
  subst hholds
  rfl

/-! ### Starts -/

/-- The last of some actions is the one at which they are split, or comes behind it. -/
theorem append_singleton_eq_split {history earlier since : List Action} {last action : Action} :
    history ++ [last] = earlier ++ action :: since ↔
      (history = earlier ∧ last = action ∧ since = []) ∨
        ∃ rest, history = earlier ++ action :: rest ∧ since = rest ++ [last] := by
  constructor
  · intro hsplit
    rcases List.eq_nil_or_concat' since with rfl | ⟨rest, final, rfl⟩
    · obtain ⟨hearlier, hlast⟩ := List.append_inj' hsplit rfl
      cases hlast
      exact .inl ⟨hearlier, rfl, rfl⟩
    · rw [← List.cons_append, ← List.append_assoc] at hsplit
      obtain ⟨hearlier, hlast⟩ := List.append_inj' hsplit rfl
      cases hlast
      exact .inr ⟨rest, hearlier, rfl⟩
  · rintro (⟨rfl, rfl, rfl⟩ | ⟨rest, rfl, rfl⟩)
    · rfl
    · simp

/-- The pattern shown is that of the last tick, unless the light has been cleared since. -/
theorem shown_after_eq_some_iff {history : List Action} {pattern : Pattern} :
    (after history).shown = some pattern ↔ ∃ earlier delta since,
      history = earlier ++ Action.tick delta :: since ∧ (∀ action ∈ since, action.isTick = false) ∧
        .clear ∉ since ∧ patternAfter earlier = pattern := by
  induction history using List.reverseRecOn with
  | nil => simp [after]
  | append_singleton history last ih =>
    simp only [append_singleton_eq_split, after_append, List.foldl_cons, List.foldl_nil]
    cases last with
    | set condition active =>
      simp only [perform, shown_withCondition, ih]
      constructor
      · rintro ⟨earlier, delta, since, rfl, hquiet, hkept, rfl⟩
        refine ⟨earlier, delta, _, .inr ⟨since, rfl, rfl⟩, ?_, by simpa using hkept, rfl⟩
        rw [List.forall_mem_append, List.forall_mem_singleton]
        exact ⟨hquiet, rfl⟩
      · rintro ⟨earlier, delta, _, ⟨-, ⟨⟩, -⟩ | ⟨since, rfl, rfl⟩, hquiet, hkept, rfl⟩
        rw [List.forall_mem_append] at hquiet
        exact ⟨earlier, delta, since, rfl, hquiet.1, by simpa using hkept, rfl⟩
    | clear =>
      simp only [perform, clear, reduceCtorEq, false_iff]
      rintro ⟨earlier, delta, _, ⟨-, ⟨⟩, -⟩ | ⟨since, -, rfl⟩, -, hkept, -⟩
      simp at hkept
    | tick delta =>
      simp only [perform, tick, selected_after, Option.some.injEq]
      constructor
      · rintro rfl
        exact ⟨history, delta, [], .inl ⟨rfl, rfl, rfl⟩, by simp, by simp, rfl⟩
      · rintro ⟨earlier, _, _, ⟨rfl, -, -⟩ | ⟨since, -, rfl⟩, hquiet, -, hpattern⟩
        · exact hpattern
        · simpa using hquiet (.tick delta) (by simp)

theorem not_starts_iff {history : List Action} :
    ¬Starts history ↔ (after history).shown = some (after history).selected := by
  rw [selected_after, shown_after_eq_some_iff]
  simp [Starts]

theorem starts_iff {history : List Action} :
    Starts history ↔ (after history).shown ≠ some (after history).selected := by
  rw [Ne, ← not_starts_iff, not_not]

instance (history : List Action) : Decidable (Starts history) :=
  decidable_of_iff _ starts_iff.symm

/-! ### The latest start -/

section Latest

variable {history past since : List Action}

theorem startedBy_of_starts (hstarts : Starts history) (delta : UInt32) :
    StartedBy (history ++ [Action.tick delta]) history [] := by
  refine ⟨⟨delta, rfl⟩, hstarts, fun earlier other later hsplit hbehind ↦ ?_⟩
  obtain ⟨rfl, -, -⟩ | ⟨rest, rfl, -⟩ := append_singleton_eq_split.mp hsplit
  · exact absurd hbehind (Nat.lt_irrefl _)
  · simp only [List.length_append] at hbehind
    omega

/-- An action that is not itself a start leaves the latest start where it is. -/
theorem StartedBy.extend (hstarted : StartedBy history past since) {last : Action}
    (hlast : ∀ delta, last = .tick delta → ¬Starts history) :
    StartedBy (history ++ [last]) past (since ++ [last]) := by
  obtain ⟨delta, hsplit⟩ := hstarted.split
  refine ⟨⟨delta, by simp [hsplit]⟩, hstarted.starts, fun earlier other later heq hbehind ↦ ?_⟩
  obtain ⟨rfl, hother, -⟩ | ⟨rest, hrest, -⟩ := append_singleton_eq_split.mp heq
  · exact hlast other hother
  · exact hstarted.latest earlier other rest hrest hbehind

theorem exists_startedBy (hticks : ∃ action ∈ history, action.isTick = true) :
    ∃ past since, StartedBy history past since := by
  induction history using List.reverseRecOn with
  | nil => simp at hticks
  | append_singleton history last ih =>
    have hextend : (∃ action ∈ history, action.isTick = true) →
        (∀ delta, last = .tick delta → ¬Starts history) →
        ∃ past since, StartedBy (history ++ [last]) past since := by
      intro hearlier hlast
      obtain ⟨past, since, hstarted⟩ := ih hearlier
      exact ⟨past, since ++ [last], hstarted.extend hlast⟩
    cases last with
    | set condition active => exact hextend (by simpa using hticks) nofun
    | clear => exact hextend (by simpa using hticks) nofun
    | tick delta =>
      by_cases hstarts : Starts history
      · exact ⟨history, [], startedBy_of_starts hstarts delta⟩
      · refine hextend ?_ fun _ _ ↦ hstarts
        have hshown := not_starts_iff.mp hstarts
        obtain ⟨earlier, other, since, rfl, -⟩ := shown_after_eq_some_iff.mp hshown
        exact ⟨.tick other, by simp, rfl⟩

end Latest

/-! ### The phase -/

/-- A tick that does not start its pattern lets time pass. -/
theorem tick_of_shown {light : Light} (hshown : light.shown = some light.selected)
    (delta : UInt32) : light.tick delta = (light.selected.level (light.phase + delta),
      { light with phase := light.phase + delta }) := by
  simp [tick, hshown]

@[simp] theorem elapsed_append_singleton (actions : List Action) (last : Action) :
    elapsed (actions ++ [last]) = elapsed actions + last.time := by
  simp [elapsed]

/-- The phase is the time since the latest start, from which on the light is not cleared before a
tick starts a pattern anew. -/
theorem StartedBy.phase {history past since : List Action}
    (hstarted : StartedBy history past since) :
    (after history).shown = none ∨ (after history).phase = .ofNat (elapsed since) := by
  obtain ⟨delta, hsplit⟩ := hstarted.split
  induction since using List.reverseRecOn generalizing history with
  | nil =>
    right
    have hshown := starts_iff.mp hstarted.starts
    simp [hsplit, perform, tick, hshown, elapsed]
  | append_singleton since last ih =>
    have hshorter : StartedBy (past ++ .tick delta :: since) past since := by
      refine ⟨⟨delta, rfl⟩, hstarted.starts, fun earlier other later heq hbehind ↦ ?_⟩
      refine hstarted.latest earlier other (later ++ [last]) ?_ hbehind
      rw [hsplit, ← List.cons_append, ← List.append_assoc, heq]
      simp
    have hphase := ih hshorter rfl
    rw [← List.cons_append, ← List.append_assoc] at hsplit
    rw [hsplit, after_append, List.foldl_cons, List.foldl_nil, elapsed_append_singleton]
    cases last with
    | set condition active => simpa [perform, Action.time] using hphase
    | clear => exact .inl rfl
    | tick other =>
      right
      have hstarts : ¬Starts (past ++ .tick delta :: since) :=
        hstarted.latest _ other [] hsplit (by simp)
      have hshown := not_starts_iff.mp hstarts
      obtain hnone | hphase := hphase
      · rw [hnone] at hshown
        cases hshown
      · rw [perform, tick_of_shown hshown, hphase, Action.time, UInt32.ofNat_add,
          UInt32.ofNat_toNat]

theorem StartedBy.levelAt {history past since : List Action} {delta : UInt32}
    (hstarted : StartedBy (history ++ [.tick delta]) past since) :
    levelAt history delta = (patternAfter history).level (.ofNat (elapsed since)) := by
  obtain hnone | hphase := hstarted.phase
  · simp [perform, tick] at hnone
  · rw [← hphase, ← selected_after]
    simp [Light.levelAt, perform, tick]

/-! ### Ticks cut into several -/

theorem foldl_tick {light : Light} (hshown : light.shown = some light.selected)
    (deltas : List UInt32) : (deltas.map Action.tick).foldl perform light =
      { light with phase := light.phase + .ofNat (deltas.map UInt32.toNat).sum } := by
  induction deltas generalizing light with
  | nil => simp
  | cons delta rest ih =>
    have hlater : ({ light with phase := light.phase + delta } : Light).shown =
        some ({ light with phase := light.phase + delta } : Light).selected := hshown
    rw [List.map_cons, List.foldl_cons, perform, tick_of_shown hshown, ih hlater]
    simp [UInt32.ofNat_add, UInt32.add_assoc]

theorem after_ticks {history : List Action} (hstarts : ¬Starts history) {deltas : List UInt32}
    {delta : UInt32} (htotal : UInt32.ofNat (deltas.map UInt32.toNat).sum = delta) :
    after (history ++ deltas.map .tick) = after (history ++ [.tick delta]) := by
  have hshown := not_starts_iff.mp hstarts
  rw [after_append, after_append, foldl_tick hshown, List.foldl_cons, List.foldl_nil, perform,
    tick_of_shown hshown, htotal]

theorem levelAt_ticks {history : List Action} (hstarts : ¬Starts history) {deltas : List UInt32}
    {last delta : UInt32}
    (htotal : UInt32.ofNat ((deltas ++ [last]).map UInt32.toNat).sum = delta) :
    levelAt (history ++ deltas.map .tick) last = levelAt history delta := by
  have hshown := not_starts_iff.mp hstarts
  rw [levelAt, levelAt, after_append, foldl_tick hshown, tick_of_shown hshown, tick_of_shown,
    ← htotal]
  · simp [UInt32.ofNat_add, UInt32.add_assoc]
    rfl
  · exact hshown

/-! ### Conditions that come and go -/

theorem ext {first second : Light}
    (hholds : ∀ condition, first.holds condition = second.holds condition)
    (hphase : first.phase = second.phase) (hshown : first.shown = second.shown) :
    first = second := by
  have happ := hholds .appRunning
  have hprovisioned := hholds .provisioned
  have hrecovery := hholds .recovery
  have hidentification := hholds .identification
  have hdfu := hholds .dfu
  cases first
  cases second
  simp_all [holds]

theorem withCondition_of_holds {light : Light} {condition : Indication} {active : Bool}
    (hholds : light.holds condition = active) : light.withCondition condition active = light := by
  refine ext (fun other ↦ ?_) (phase_withCondition ..) (shown_withCondition ..)
  rw [holds_withCondition]
  split
  · next heq => rw [heq, hholds]
  · rfl

theorem withCondition_comm (light : Light) {first second : Indication} (hne : first ≠ second)
    (active other : Bool) :
    (light.withCondition first active).withCondition second other =
      (light.withCondition second other).withCondition first active := by
  refine ext (fun condition ↦ ?_) (by simp) (by simp)
  by_cases hfirst : condition = first
  · simp [hfirst, hne]
  · simp [hfirst]

theorem withCondition_withCondition (light : Light) (condition : Indication)
    (active other : Bool) :
    (light.withCondition condition active).withCondition condition other =
      light.withCondition condition other := by
  refine ext (fun named ↦ ?_) (by simp) (by simp)
  by_cases hnamed : named = condition <;> simp [hnamed]

/-- Actions that neither tick nor name a condition do the same to lights that differ in it. -/
theorem foldl_withCondition {condition : Indication} {between : List Action}
    (hquiet : ∀ action ∈ between, action.isTick = false)
    (hother : ∀ active, .set condition active ∉ between) {first second : Light}
    (hsame : first.withCondition condition false = second.withCondition condition false) :
    (between.foldl perform first).withCondition condition false =
      (between.foldl perform second).withCondition condition false := by
  induction between generalizing first second with
  | nil => exact hsame
  | cons action rest ih =>
    rw [List.forall_mem_cons] at hquiet
    refine ih hquiet.2 (fun active hmem ↦ hother active (List.mem_cons_of_mem _ hmem)) ?_
    cases action with
    | clear => rfl
    | tick delta => cases hquiet.1
    | set named active =>
      have hne : named ≠ condition := by
        rintro rfl
        exact hother active List.mem_cons_self
      rw [perform, perform, withCondition_comm _ hne, hsame, withCondition_comm _ hne]

theorem holds_foldl {condition : Indication} {between : List Action}
    (hother : ∀ active, .set condition active ∉ between) {light : Light}
    (hholds : light.holds condition = false) :
    (between.foldl perform light).holds condition = false := by
  induction between generalizing light with
  | nil => exact hholds
  | cons action rest ih =>
    refine ih (fun active hmem ↦ hother active (List.mem_cons_of_mem _ hmem)) ?_
    cases action with
    | clear => cases condition <;> rfl
    | tick delta => cases condition <;> exact hholds
    | set named active =>
      have hne : condition ≠ named := by
        rintro rfl
        exact hother active List.mem_cons_self
      simpa [perform, hne] using hholds

/-- A condition that comes and goes between two ticks leaves nothing behind. -/
theorem after_come_and_gone {history : List Action} {condition : Indication}
    (hoff : isOn history condition = false) {between : List Action}
    (hquiet : ∀ action ∈ between, action.isTick = false)
    (hother : ∀ active, .set condition active ∉ between) :
    after (history ++ .set condition true :: between ++ [.set condition false]) =
      after (history ++ between) := by
  rw [← holds_after] at hoff
  have hsame : (perform (after history) (.set condition true)).withCondition condition false =
      (after history).withCondition condition false :=
    withCondition_withCondition ..
  rw [after_append, after_append, after_append, List.foldl_cons, List.foldl_cons, List.foldl_nil]
  exact (foldl_withCondition hquiet hother hsame).trans
    (withCondition_of_holds (holds_foldl hother hoff))

/-- Whatever was done to the light: a tick answers with the level of the pattern that is asked for,
at the time modulo 2^32 of the ticks behind the latest one that started it. So a tick that does not
start its pattern can be cut into several of the same length in all, and a condition that comes and
goes between two ticks does not matter. -/
theorem level_follows_waveform :
    (∀ (history : List Action) (delta : UInt32), ∃ past since,
      StartedBy (history ++ [Action.tick delta]) past since) ∧
    (∀ (history : List Action) (delta : UInt32) (past since : List Action),
      StartedBy (history ++ [Action.tick delta]) past since →
      levelAt history delta = (patternAfter history).level (.ofNat (elapsed since))) ∧
    (∀ (history : List Action) (deltas : List UInt32) (last delta : UInt32), ¬Starts history →
      UInt32.ofNat ((deltas ++ [last]).map UInt32.toNat).sum = delta →
      levelAt (history ++ deltas.map Action.tick) last = levelAt history delta ∧
        after (history ++ (deltas ++ [last]).map Action.tick) =
          after (history ++ [Action.tick delta])) ∧
    ∀ (history : List Action) (condition : Indication) (between : List Action),
      isOn history condition = false →
      (∀ action ∈ between, action.isTick = false) →
      (∀ active, Action.set condition active ∉ between) →
      after (history ++ Action.set condition true :: between ++ [Action.set condition false]) =
        after (history ++ between) := by
  refine ⟨fun history delta ↦ ?_, fun history delta past since hstarted ↦ hstarted.levelAt,
    fun history deltas last delta hstarts htotal ↦ ⟨?_, ?_⟩,
    fun history condition between hoff hquiet hother ↦ after_come_and_gone hoff hquiet hother⟩
  · exact exists_startedBy ⟨.tick delta, by simp, rfl⟩
  · exact levelAt_ticks hstarts htotal
  · exact after_ticks hstarts htotal

/-- A light that runs, is put into update mode and then goes on for almost as long as is counted. -/
def longUpdate : List Action :=
  [.set .appRunning true, .tick 7, .set .dfu true, .tick 7, .tick 0xFFFFFFF0]

/-- The time is counted from zero again, however it is cut, and what comes and goes is forgotten. -/
theorem long_update_counted_anew :
    StartedBy (longUpdate ++ [Action.tick 36]) (longUpdate.take 3)
      [Action.tick 0xFFFFFFF0, Action.tick 36] ∧
    levelAt longUpdate 36 = Pattern.rapidFlash.level 20 ∧
    levelAt (longUpdate ++ [0xFFFFFFFF, 30].map Action.tick) 7 = levelAt longUpdate 36 ∧
    after (longUpdate ++ Action.set .recovery true :: [Action.set .provisioned true] ++
      [Action.set .recovery false]) = after (longUpdate ++ [Action.set .provisioned true]) := by
  obtain ⟨-, hlevel, hcut, hgone⟩ := level_follows_waveform
  have hstarts : Starts (longUpdate.take 3) := by decide
  have hstarted : StartedBy (longUpdate ++ [.tick 36]) (longUpdate.take 3)
      [.tick 0xFFFFFFF0, .tick 36] :=
    ((startedBy_of_starts hstarts 7).extend fun _ _ ↦ by decide).extend fun _ _ ↦ by decide
  have hpattern : patternAfter longUpdate = .rapidFlash := rfl
  have helapsed : UInt32.ofNat (elapsed [.tick 0xFFFFFFF0, .tick 36]) = 20 := by decide
  have hstart := hlevel longUpdate 36 _ _ hstarted
  rw [hpattern, helapsed] at hstart
  exact ⟨hstarted, hstart, (hcut longUpdate [0xFFFFFFFF, 30] 7 36 (by decide) (by decide)).1,
    hgone longUpdate .recovery [.set .provisioned true] (by decide) (by decide) (by simp)⟩

end TagControl.Light
