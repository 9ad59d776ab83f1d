import TagControl.Mode
/-!
What validity gives: a valid configuration keeps every rule, so none of its windows and delays is
empty.
-/

set_option autoImplicit false

namespace TagControl.Config

theorem validate_eq_ok {config : Config} :
    config.validate = .ok () ↔ ∀ rule ∈ config.rules, rule.1 = true := by
  unfold validate problem?
  cases hbroken : config.rules.find? fun rule ↦ !rule.1 with
  | none =>
    simpa using List.find?_eq_none.mp hbroken
  | some rule =>
    have hrule : rule.1 = false := by simpa using List.find?_some hbroken
    simp only [Option.map_some, reduceCtorEq, false_iff]
    intro hall
    rw [hall rule (List.mem_of_find?_eq_some hbroken)] at hrule
    cases hrule

theorem ofMinutes_pos {minutes : UInt16} (hminutes : 1 ≤ minutes) :
    0 < Duration.ofMinutes minutes.toNat := by
  have hnat : 0 < minutes.toNat := hminutes
  exact Nat.mul_pos (Nat.mul_pos hnat (by decide)) (by decide)

theorem ofSeconds_pos {seconds : UInt16} (hseconds : 1 ≤ seconds) :
    0 < Duration.ofSeconds seconds.toNat := by
  have hnat : 0 < seconds.toNat := hseconds
  exact Nat.mul_pos hnat (by decide)

section Valid

variable {config : Config} (hvalid : config.validate = .ok ())

include hvalid

/-- The lengths that a valid configuration sets are at least one of their units. -/
theorem lengths_least : 1 ≤ config.recoveryMinutes ∧ 1 ≤ config.identificationMinutes ∧
    1 ≤ config.dfuMinutes ∧ 1 ≤ config.provisioningMinutes ∧ 1 ≤ config.mismatchSeconds := by
  have hrules := validate_eq_ok.mp hvalid
  simp only [rules, List.mem_cons, List.not_mem_nil, or_false, forall_eq_or_imp, forall_eq,
    Bool.and_eq_true, decide_eq_true_eq] at hrules
  obtain ⟨⟨hrecovery, -⟩, ⟨hidentification, -⟩, ⟨hdfu, -⟩, ⟨hprovisioning, -⟩, ⟨hmismatch, -⟩, -⟩ :=
    hrules
  exact ⟨hrecovery, hidentification, hdfu, hprovisioning, hmismatch⟩

theorem window_pos (mode : Mode) : 0 < mode.window config := by
  obtain ⟨hrecovery, hidentification, hdfu, -⟩ := lengths_least hvalid
  cases mode with
  | recovery => exact ofMinutes_pos hrecovery
  | identification => exact ofMinutes_pos hidentification
  | dfu => exact ofMinutes_pos hdfu

theorem provisioningLimit_pos : 0 < config.provisioningLimit :=
  ofMinutes_pos (lengths_least hvalid).2.2.2.1

theorem mismatchDelay_pos : 0 < config.mismatchDelay :=
  ofSeconds_pos (lengths_least hvalid).2.2.2.2

end Valid

end TagControl.Config
