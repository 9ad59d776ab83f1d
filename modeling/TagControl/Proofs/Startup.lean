import TagControl.Startup
/-!
Start-up on any platform. The stages are brought up in order, each on the platform that the ones
before it left, up to the first that fails or to the last (`Startup.Ended`). Which stages were
brought up shows on a platform that notes them (`Startup.noting`).
-/

set_option autoImplicit false

namespace TagControl.Startup

variable {π : Type} (bringUp : Stage → π → Except DeviceError Unit × π)

/-- The platform after stages have been brought up in order, whatever came of them. -/
def platformAfter (platform : π) (stages : List Stage) : π :=
  stages.foldl (fun platform stage ↦ (bringUp stage platform).2) platform

/-- What comes of a stage that is brought up after others. -/
def outcomeAfter (platform : π) (earlier : List Stage) (stage : Stage) : Except DeviceError Unit :=
  (bringUp stage (platformAfter bringUp platform earlier)).1

/-- Each of the stages comes up when it is its turn. -/
def ComeUp (platform : π) (stages : List Stage) : Prop :=
  ∀ earlier stage later, stages = earlier ++ stage :: later →
    outcomeAfter bringUp platform earlier stage = .ok ()

def readyLine (stage : Stage) : Line :=
  ⟨.info, "Startup: " ++ stage.name ++ " ready"⟩

def completeLine : Line :=
  ⟨.info, "Startup: initialisation complete"⟩

def failedLine (stage : Stage) (reason : DeviceError) : Line :=
  ⟨.error, "Startup: " ++ stage.name ++ " init failed: " ++ reason.message⟩

/-- How start-up can end, given the stages that it was to bring up: those that it did bring up, its
result and its lines. All stages came up, or all did before one that failed. -/
inductive Ended (platform : π) (stages : List Stage) :
    List Stage → Except StartupError Unit → List Line → Prop
  | complete (hall : ComeUp bringUp platform stages) :
    Ended platform stages stages (.ok ()) (stages.map readyLine ++ [completeLine])
  | stopped {earlier later : List Stage} {stage : Stage} {reason : DeviceError}
      (hstages : stages = earlier ++ stage :: later) (hearlier : ComeUp bringUp platform earlier)
      (hfailed : outcomeAfter bringUp platform earlier stage = .error reason) :
    Ended platform stages (earlier ++ [stage]) (.error (.stageFailed stage.name reason))
      (earlier.map readyLine ++ [failedLine stage reason])

/-- The platform with a note of the stages brought up on it, in order. -/
def noting (stage : Stage) (noted : π × List Stage) :
    Except DeviceError Unit × (π × List Stage) :=
  ((bringUp stage noted.1).1, (bringUp stage noted.1).2, noted.2 ++ [stage])

section Steps

variable {bringUp} {platform next : π} {first : Stage} {rest called : List Stage}
  {result : Except StartupError Unit} {lines : List Line} {reason : DeviceError}

theorem comeUp_nil : ComeUp bringUp platform [] := by
  intro earlier stage later hstages
  simp at hstages

theorem comeUp_cons (hfirst : bringUp first platform = (.ok (), next)) :
    ComeUp bringUp platform (first :: rest) ↔ ComeUp bringUp next rest := by
  have houtcome : ∀ earlier stage, outcomeAfter bringUp platform (first :: earlier) stage =
      outcomeAfter bringUp next earlier stage := by
    intro earlier stage
    simp only [outcomeAfter, platformAfter, List.foldl_cons, hfirst]
  constructor
  · intro hall earlier stage later hrest
    rw [← houtcome]
    exact hall (first :: earlier) stage later (congrArg (first :: ·) hrest)
  · intro hrest earlier stage later hstages
    cases earlier with
    | nil =>
      obtain ⟨rfl, -⟩ := List.cons.inj hstages
      exact congrArg Prod.fst hfirst
    | cons other earlier =>
      obtain ⟨rfl, hlater⟩ := List.cons.inj hstages
      rw [houtcome]
      exact hrest earlier stage later hlater

/-- A stage that comes up is ready before the rest are brought up. -/
theorem Ended.cons (hfirst : bringUp first platform = (.ok (), next))
    (hrest : Ended bringUp next rest called result lines) :
    Ended bringUp platform (first :: rest) (first :: called) result
      (readyLine first :: lines) := by
  cases hrest with
  | complete hall => exact .complete ((comeUp_cons hfirst).mpr hall)
  | stopped hstages hearlier hfailed =>
    refine .stopped (congrArg (first :: ·) hstages) ((comeUp_cons hfirst).mpr hearlier) ?_
    simp only [outcomeAfter, platformAfter, List.foldl_cons, hfirst]
    exact hfailed

theorem ended_first (hfirst : bringUp first platform = (.error reason, next)) :
    Ended bringUp platform (first :: rest) [first] (.error (.stageFailed first.name reason))
      [failedLine first reason] :=
  .stopped (List.nil_append (first :: rest)).symm comeUp_nil (congrArg Prod.fst hfirst)

theorem run_runStages_of_ok (hfirst : bringUp first platform = (.ok (), next)) :
    (runStages bringUp (first :: rest)).run platform =
      ⟨((runStages bringUp rest).run next).value,
        readyLine first :: ((runStages bringUp rest).run next).trace⟩ := by
  rw [runStages, StateT.run_bind, StateT.run_get]
  simp only [pure_bind, hfirst]
  rfl

theorem run_runStages_of_error (hfirst : bringUp first platform = (.error reason, next)) :
    (runStages bringUp (first :: rest)).run platform =
      ⟨(.error (.stageFailed first.name reason), next), [failedLine first reason]⟩ := by
  rw [runStages, StateT.run_bind, StateT.run_get]
  simp only [pure_bind, hfirst]
  rfl

end Steps

/-- Start-up brings stages up in order until one fails, and the platform that notes them differs in
its note alone. -/
theorem runStages_ended (stages : List Stage) (platform : π) (noted : List Stage) :
    let out := (runStages bringUp stages).run platform
    ∃ called, Ended bringUp platform stages called out.value.1 out.trace ∧
      out.value.2 = platformAfter bringUp platform called ∧
      (runStages (noting bringUp) stages).run (platform, noted) =
        ⟨(out.value.1, out.value.2, noted ++ called), out.trace⟩ := by
  induction stages generalizing platform noted with
  | nil =>
    refine ⟨[], .complete comeUp_nil, rfl, ?_⟩
    rw [List.append_nil]
    rfl
  | cons first rest ih =>
    rcases hfirst : bringUp first platform with ⟨reason | _, next⟩
    · have hnoted : noting bringUp first (platform, noted) =
          (.error reason, next, noted ++ [first]) := by
        rw [noting, hfirst]
      simp only [run_runStages_of_error hfirst, run_runStages_of_error hnoted]
      exact ⟨[first], ended_first hfirst, (congrArg Prod.snd hfirst).symm, rfl⟩
    · have hnoted : noting bringUp first (platform, noted) =
          (.ok (), next, noted ++ [first]) := by
        rw [noting, hfirst]
      obtain ⟨called, hended, hstate, hrun⟩ := ih next (noted ++ [first])
      simp only [run_runStages_of_ok hfirst, run_runStages_of_ok hnoted, hrun]
      refine ⟨first :: called, hended.cons hfirst, ?_, ?_⟩
      · rw [hstate]
        simp only [platformAfter, List.foldl_cons, hfirst]
      · rw [List.append_assoc, List.singleton_append]

theorem Ended.ok_iff {platform : π} {stages called : List Stage}
    {result : Except StartupError Unit} {lines : List Line}
    (hended : Ended bringUp platform stages called result lines) :
    result = .ok () ↔ ComeUp bringUp platform called := by
  cases hended with
  | complete hall => exact iff_of_true rfl hall
  | @stopped earlier later stage reason hstages hearlier hfailed =>
    refine iff_of_false nofun fun hall ↦ ?_
    rw [hall earlier stage [] rfl] at hfailed
    cases hfailed

/-- Whatever the platform: start-up brings up all stages, or the shortest part of the sequence that
ends in a stage that fails, in order and each on the platform that the one before it left. It
succeeds exactly if each of them came up, and otherwise tells the name of the last one and its
reason. Before the line about the end it logs exactly the stages that came up. -/
theorem startup_stops_at_first_failure (platform : π) :
    ∃ called result after lines, (run bringUp).run platform = ⟨(result, after), lines⟩ ∧
      Ended bringUp platform Stage.all called result lines ∧
      (result = .ok () ↔ ComeUp bringUp platform called) ∧
      after = platformAfter bringUp platform called ∧
      (run (noting bringUp)).run (platform, []) = ⟨(result, after, called), lines⟩ := by
  obtain ⟨called, hended, hstate, hnoted⟩ := runStages_ended bringUp Stage.all platform []
  exact ⟨called, _, _, _, rfl, hended, hended.ok_iff, hstate, hnoted⟩

/-- A platform that counts the stages brought up on it and fails at the fourth, the radio. -/
example : (run (noting fun _ (count : Nat) ↦
      (if count = 3 then .error .unavailable else .ok (), count + 1))).run (0, []) =
    ⟨(.error (.stageFailed "radio" .unavailable), 4,
        [.userInterface, .pairingCallbacks, .attributeAuthorization, .radio]),
      [readyLine .userInterface, readyLine .pairingCallbacks, readyLine .attributeAuthorization,
        failedLine .radio .unavailable]⟩ := rfl

end TagControl.Startup
