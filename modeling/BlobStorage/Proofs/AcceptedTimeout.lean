import BlobStorage.Config.Basic
import BlobStorage.Proofs.ClockTime

/-!
# The timeouts of accepted settings

Settings are accepted with no timeout, or with one that is a positive integer
(`Config.Accepted.exists_delay`).  There is no other bound on it.
-/

namespace BlobStorage

namespace Number

theorem exists_pos_of_isInteger {number : Number} (integral : number.isInteger = true)
    (positive : number.isPositive = true) :
    ∃ whole : Nat, number.toInt? = some (whole : Int) ∧ 0 < whole := by
  obtain ⟨whole, read⟩ := Option.isSome_iff_exists.mp integral
  obtain ⟨value, own, integer⟩ := Option.bind_eq_some_iff.mp read
  have above : (0 : Dyadic) < value := by
    rcases less_iff.mp positive with ⟨bottom, -⟩ | ⟨rfl, -⟩ | ⟨origin, value', start, same, above⟩
    · cases bottom
    · cases own
    · obtain rfl := Option.some.inj start
      obtain rfl := Option.some.inj (own.symm.trans same)
      exact above
  rw [← Dyadic.toRat_lt_toRat_iff, toRat_of_dyadicInt? integer, Dyadic.toRat_zero] at above
  have wholePositive : 0 < whole := Rat.intCast_lt_intCast.mp above
  obtain ⟨natural, rfl⟩ := Int.eq_ofNat_of_zero_le (Int.le_of_lt wholePositive)
  exact ⟨natural, read, by omega⟩

theorem isTruthy_of_positive {number : Number} {whole : Nat}
    (read : number.toInt? = some (whole : Int)) (positive : 0 < whole) :
    (Value.number number).isTruthy = true := by
  obtain ⟨value, own, integer⟩ := Option.bind_eq_some_iff.mp read
  have nonzero : number.isZero = false := by
    rw [isZero, own, beq_eq_false_iff_ne]
    intro same
    obtain rfl := Option.some.inj same
    have zero : (0 : Int) = whole := Option.some.inj integer
    omega
  rw [Value.isTruthy, nonzero, Bool.not_false, Bool.true_and, bne_iff_ne]
  exact (inside_of_value? own).1

end Number

namespace Verdict

variable {α β γ : Type}

theorem both_eq_valid {f : α → β → γ} {first : Verdict α} {second : Verdict β} {reading : γ}
    (valid : first.both f second = .valid reading) :
    ∃ a b, first = .valid a ∧ second = .valid b ∧ f a b = reading := by
  cases first <;> cases second <;> cases valid
  exact ⟨_, _, rfl, rfl, rfl⟩

theorem ofChecks_eq_valid {value reading : α} {issues : List Issue}
    (valid : ofChecks value issues = .valid reading) : issues = [] ∧ value = reading := by
  unfold ofChecks at valid
  split at valid
  · exact ⟨List.isEmpty_iff.mp ‹_›, Verdict.valid.inj valid⟩
  · cases valid

theorem map_eq_valid {f : α → β} {verdict : Verdict α} {reading : β}
    (valid : verdict.map f = .valid reading) : ∃ a, verdict = .valid a ∧ f a = reading := by
  cases verdict <;> cases valid
  exact ⟨_, rfl, rfl⟩

end Verdict

namespace Reader

theorem checks_of_positiveInteger {path : List Text} {value : Value} {count : Number}
    (valid : positiveInteger path value = .valid count) :
    count.isInteger = true ∧ count.isPositive = true := by
  unfold positiveInteger at valid
  split at valid
  · cases valid
  · obtain ⟨passed, rfl⟩ := Verdict.ofChecks_eq_valid valid
    simpa using passed
  · cases valid

end Reader

namespace Config

theorem positive_of_requestTimeoutReader {path : List Text} {value : Value} {count : Number}
    (valid : requestTimeoutReader path value = .valid (.milliseconds count)) :
    count.isInteger = true ∧ count.isPositive = true := by
  unfold requestTimeoutReader Reader.either Reader.map at valid
  split at valid
  · rename_i number
    rw [valid] at number
    obtain ⟨own, positive, same⟩ := Verdict.map_eq_valid number
    obtain rfl := RequestTimeout.milliseconds.inj same
    exact Reader.checks_of_positiveInteger positive
  · rename_i never _
    rw [valid] at never
    obtain ⟨-, -, same⟩ := Verdict.map_eq_valid never
    cases same
  all_goals cases valid

theorem timeout_of_reader {path : List Text} {settings : Value} {config : Config}
    (valid : reader path settings = .valid config) :
    ∃ own value, requestTimeoutReader own value = .valid config.requestTimeout := by
  unfold reader Reader.object at valid
  split at valid
  · obtain ⟨_, _, withHeaders, -, rfl⟩ := Verdict.both_eq_valid valid
    obtain ⟨_, _, withTimeout, -, rfl⟩ := Verdict.both_eq_valid withHeaders
    obtain ⟨_, timeout, withVersion, own, rfl⟩ := Verdict.both_eq_valid withTimeout
    obtain ⟨_, _, withEndpoint, -, rfl⟩ := Verdict.both_eq_valid withVersion
    obtain ⟨_, _, withAccount, -, rfl⟩ := Verdict.both_eq_valid withEndpoint
    obtain ⟨_, -, rfl⟩ := Verdict.map_eq_valid withAccount
    unfold Reader.field Reader.withDefault at own
    split at own
    · exact ⟨_, _, own⟩
    · exact ⟨_, _, own⟩
  · cases valid

/-- Settings are accepted, as a value or from an environment. -/
def Accepted (config : Config) : Prop :=
  (∃ settings, read settings = .ok config) ∨
    ∃ environment, ofEnvironment environment = .ok config

theorem Accepted.read {config : Config} (accepted : config.Accepted) :
    ∃ settings, Config.read settings = .ok config := by
  rcases accepted with own | ⟨environment, held⟩
  · exact own
  · unfold ofEnvironment at held
    split at held
    · cases held
    · unfold Outcome.bind at held
      split at held
      · exact ⟨_, held⟩
      · cases held
      · cases held

/-- The timeout of accepted settings is none, or a positive integer. -/
theorem Accepted.exists_delay {config : Config} (accepted : config.Accepted) {count : Number}
    (timeout : config.requestTimeout = .milliseconds count) :
    ∃ delay : Nat, count.toInt? = some (delay : Int) ∧ 0 < delay := by
  obtain ⟨settings, read⟩ := accepted.read
  unfold Config.read Validation.read at read
  split at read
  · rename_i valid
    obtain rfl := Outcome.ok.inj read
    obtain ⟨path, value, own⟩ := timeout_of_reader valid
    rw [timeout] at own
    obtain ⟨integral, positive⟩ := positive_of_requestTimeoutReader own
    exact Number.exists_pos_of_isInteger integral positive
  all_goals
    unfold Validation.failWith at read
    split at read <;> cases read

end Config

end BlobStorage
