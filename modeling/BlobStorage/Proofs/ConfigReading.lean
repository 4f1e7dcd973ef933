import BlobStorage.Proofs.JsonForm
import BlobStorage.Simulation.Run

/-!
# Reading settings

Settings are read as a configuration, or a failure lists the rules that they break, unless a bigint
stands in the one place that an issue shows: a timeout that is neither a number nor `false` is
reported together with its value, and the failure about it is worded as JSON.  Then the platform's
error takes the place of the failure, for the settings and for a client that is made from them.
-/

namespace BlobStorage

/-- A result, or a failure that lists broken rules: what a pair of error and data can tell. -/
def Outcome.Answers {α : Type} (outcome : Outcome α) : Prop :=
  (∃ result, outcome = .ok result) ∨
    ∃ failure : Failure, failure.kind = .request .validation ∧ outcome = .failed failure

theorem Outcome.Answers.map {α β : Type} {outcome : Outcome α} (answers : outcome.Answers)
    (f : α → β) : (outcome.map f).Answers := by
  rcases answers with ⟨result, rfl⟩ | ⟨failure, kind, rfl⟩
  · exact .inl ⟨f result, rfl⟩
  · exact .inr ⟨failure, kind, rfl⟩

namespace Issue

/-- An issue has no JSON form. -/
def Unwritten (issue : Issue) : Prop := Json.write? issue.toValue = none

theorem Textual.not_unwritten {issue : Issue} (textual : issue.Textual) : ¬issue.Unwritten := by
  obtain ⟨json, written⟩ := textual.write?_isSome
  intro unwritten
  rw [Unwritten, written] at unwritten
  cases unwritten

theorem write?_pathMember_ne_none (path : List Text) : Json.write? (pathMember path).2 ≠ none := by
  obtain ⟨text, written⟩ := write?_list_strings path
  rw [pathMember, written]
  exact Option.some_ne_none _

theorem write?_textMember_ne_none (name : String) (text : Text) :
    Json.write? (textMember name text).2 ≠ none := by
  simp [textMember, Json.write?]

/-- An issue that shows a value is spoiled by a bigint in it. -/
theorem unwritten_notFalse_iff {received : Value} {path : List Text} :
    (notFalse received path).Unwritten ↔ Json.HoldsBigint received := by
  have plain : Json.writesItself
      [("received", received), textMember "code" "invalid_literal",
        ("expected", .boolean false), pathMember path,
        textMember "message" (notFalse received path).message] = false := rfl
  have expected : Json.write? (.boolean false) ≠ none := by simp [Json.write?]
  rw [Unwritten, toValue, Json.write?_record_eq_none_iff, ← Json.write?_eq_none_iff]
  simp only [plain, List.mem_cons, List.not_mem_nil, or_false, exists_eq_or_imp, exists_eq_left,
    write?_textMember_ne_none, write?_pathMember_ne_none, expected, true_and]

theorem writeItems?_toValues_eq_none_iff {issues : List Issue} :
    Json.writeItems? (toValues issues) = none ↔ ∃ issue ∈ issues, issue.Unwritten := by
  have values : toValues issues = issues.map toValue := by
    induction issues with
    | nil => simp [toValues]
    | cons issue issues induction => simp [toValues, induction]
  rw [values, Json.writeItems?_eq_none_iff]
  constructor
  · rintro ⟨value, member, unwritten⟩
    obtain ⟨issue, listed, rfl⟩ := List.mem_map.mp member
    exact ⟨issue, listed, unwritten⟩
  · rintro ⟨issue, member, unwritten⟩
    exact ⟨issue.toValue, List.mem_map_of_mem member, unwritten⟩

theorem write?_attempt_eq_none_iff {issues : List Issue} :
    Json.write? (.record [("issues", .list (toValues issues)), textMember "name" "ZodError"]) =
        none ↔ ∃ issue ∈ issues, issue.Unwritten := by
  have plain : Json.writesItself
      [("issues", .list (toValues issues)), textMember "name" "ZodError"] = false := rfl
  rw [Json.write?_record_eq_none_iff, ← writeItems?_toValues_eq_none_iff,
    Json.writeItems?_eq_none_iff]
  simp only [plain, List.mem_cons, List.not_mem_nil, or_false, exists_eq_or_imp,
    exists_eq_left, write?_textMember_ne_none, Json.write?_list_eq_none_iff, true_and]

theorem write?_attemptValues_eq_none_iff {attempts : List (List Issue)} :
    Json.write? (.list (attemptValues attempts)) = none ↔
      ∃ issues ∈ attempts, ∃ issue ∈ issues, issue.Unwritten := by
  rw [Json.write?_list_eq_none_iff]
  induction attempts with
  | nil => simp [attemptValues]
  | cons issues attempts induction =>
      simp only [attemptValues, List.mem_cons, exists_eq_or_imp, write?_attempt_eq_none_iff,
        induction]

theorem unwritten_noAlternative_iff {attempts : List (List Issue)} {path : List Text} :
    (noAlternative attempts path).Unwritten ↔
      ∃ issues ∈ attempts, ∃ issue ∈ issues, issue.Unwritten := by
  have plain : Json.writesItself
      [textMember "code" "invalid_union", ("unionErrors", .list (attemptValues attempts)),
        pathMember path, textMember "message" "Invalid input"] = false := rfl
  rw [Unwritten, toValue, Json.write?_record_eq_none_iff]
  simp only [plain, List.mem_cons, List.not_mem_nil, or_false, exists_eq_or_imp, exists_eq_left,
    write?_textMember_ne_none, write?_pathMember_ne_none,
    write?_attemptValues_eq_none_iff, true_and, false_or]

end Issue

namespace Validation

variable {α : Type}

theorem failWith_answers {issues : List Issue} (written : ∀ issue ∈ issues, ¬issue.Unwritten)
    (message : Text) (cause : Option Value) :
    (failWith message (Issue.toValues issues) cause : Outcome α).Answers := by
  cases items : Json.writeItems? (Issue.toValues issues) with
  | none =>
      obtain ⟨issue, member, unwritten⟩ := Issue.writeItems?_toValues_eq_none_iff.mp items
      exact absurd unwritten (written issue member)
  | some _ => exact .inr (Issue.failWith_of_written items message cause)

theorem failWith_raises {issues : List Issue} (unwritten : ∃ issue ∈ issues, issue.Unwritten)
    (message : Text) (cause : Option Value) :
    (failWith message (Issue.toValues issues) cause : Outcome α) = .raised .typeError := by
  have items := Issue.writeItems?_toValues_eq_none_iff.mpr unwritten
  simp [failWith, Failure.validation?, Failure.validationMessage?, Json.write?, items]

theorem read_answers {reader : Reader α} {value : Value}
    (written : ∀ issue ∈ (reader [] value).issues, ¬issue.Unwritten) :
    (read reader value).Answers := by
  unfold read
  cases verdict : reader [] value with
  | valid reading => exact .inl ⟨reading, rfl⟩
  | unchecked issues | invalid issues =>
      rw [verdict] at written
      exact failWith_answers written _ none

theorem read_raises {reader : Reader α} {value : Value}
    (unwritten : ∃ issue ∈ (reader [] value).issues, issue.Unwritten) :
    read reader value = .raised .typeError := by
  unfold read
  cases verdict : reader [] value with
  | valid reading =>
      rw [verdict] at unwritten
      obtain ⟨issue, member, -⟩ := unwritten
      cases member
  | unchecked issues | invalid issues =>
      rw [verdict] at unwritten
      exact failWith_raises unwritten _ none

end Validation

namespace Reader

variable {α β : Type}

theorem textual_boolean : boolean.Textual := by
  intro path value
  unfold boolean
  split
  · simp [Verdict.Textual, Verdict.issues]
  · exact textual_wrongKind "boolean" path _

theorem Textual.nullable {reader : Reader α} (textual : reader.Textual) :
    reader.nullable.Textual := by
  intro path value
  unfold Reader.nullable
  split
  · simp [Verdict.Textual, Verdict.issues]
  · exact (textual path _).map some

theorem Textual.withDefault {reader : Reader α} (textual : reader.Textual) (fallback : Value) :
    (reader.withDefault fallback).Textual := by
  intro path value
  unfold Reader.withDefault
  split
  · exact textual path fallback
  · exact textual path _

theorem Textual.optionalField {reader : Reader α} (textual : reader.Textual) (name : Text)
    (path : List Text) (entries : List (Text × Value)) :
    (Reader.optionalField name reader path entries).Textual := by
  unfold Reader.optionalField
  split
  · simp [Verdict.Textual, Verdict.issues]
  · exact (textual.optional _ _).map some

theorem Textual.eachEntry {reader : Reader α} (textual : reader.Textual) (path : List Text)
    (entries : List (Text × Value)) : (Reader.eachEntry reader path entries).Textual := by
  induction entries with
  | nil => simp [Reader.eachEntry, Verdict.Textual, Verdict.issues]
  | cons entry entries induction => exact (textual _ _).both induction _

theorem Textual.recordOf {reader : Reader α} (textual : reader.Textual) :
    (recordOf reader).Textual := by
  intro path value
  unfold Reader.recordOf
  split
  · exact textual.eachEntry path _
  · exact textual_wrongKind "object" path value

theorem positiveInteger_ne_invalid {number : Number} (isNumber : number ≠ .nan)
    (path : List Text) (issues : List Issue) :
    positiveInteger path (.number number) ≠ .invalid issues := by
  have checks (found : List Issue) : Verdict.ofChecks number found ≠ .invalid issues := by
    unfold Verdict.ofChecks
    split <;> simp
  unfold positiveInteger
  cases number with
  | nan => exact absurd rfl isNumber
  | _ => exact checks _

end Reader

namespace Config

theorem textual_headersReader : headersReader.Textual := Reader.textual_text.nullable.recordOf

theorem textual_loggingReader : loggingReader.Textual := by
  intro path value
  unfold loggingReader Reader.object
  split
  · apply Verdict.Textual.both
    · exact (((Reader.textual_oneOf _).map _).withDefault _).field _ path _
    · exact (Reader.textual_boolean.withDefault _).field _ path _
  · exact Reader.textual_wrongKind "object" path value

theorem textual_positiveInteger (path : List Text) (value : Value) :
    (Reader.positiveInteger path value).Textual := by
  unfold Reader.positiveInteger
  split
  · exact Reader.textual_wrongKind "number" path _
  · rename_i number _
    rw [Verdict.Textual, Verdict.issues_ofChecks]
    intro issue member
    rcases List.mem_append.mp member with integral | positive
    · split at integral <;> simp_all [Issue.Textual]
    · split at positive <;> simp_all [Issue.Textual]
  · exact Reader.textual_wrongKind "number" path _

theorem textual_requestTimeoutReader_number {number : Number} (isNumber : number ≠ .nan)
    (path : List Text) : (requestTimeoutReader path (.number number)).Textual := by
  have positive := textual_positiveInteger path (.number number)
  unfold requestTimeoutReader Reader.either Reader.map
  cases own : Reader.positiveInteger path (.number number) with
  | valid count => simp [Verdict.map, Verdict.Textual, Verdict.issues]
  | unchecked issues =>
      rw [own] at positive
      exact positive
  | invalid issues => exact absurd own (Reader.positiveInteger_ne_invalid isNumber path issues)

/-- The timeout of settings is the one rule whose issue shows a value, and it is spoiled by a
bigint in that value. -/
theorem unwritten_requestTimeoutReader_iff {path : List Text} {value : Value} :
    (∃ issue ∈ (requestTimeoutReader path value).issues, issue.Unwritten) ↔
      Json.HoldsBigint value := by
  have rejected (refused : requestTimeoutReader path value = .invalid [.noAlternative
      [[.wrongKind "number" (Reader.kindName value) path], [.notFalse value path]] path]) :
      (∃ issue ∈ (requestTimeoutReader path value).issues, issue.Unwritten) ↔
        Json.HoldsBigint value := by
    have kind : ¬(Issue.wrongKind "number" (Reader.kindName value) path).Unwritten :=
      Issue.Textual.not_unwritten trivial
    simp only [refused, Verdict.issues, exists_eq_left,
      Issue.unwritten_noAlternative_iff, List.mem_cons, List.not_mem_nil, or_false,
      exists_eq_or_imp, kind, false_or, Issue.unwritten_notFalse_iff]
  cases value with
  | boolean truth =>
      cases truth with
      | true => exact rejected rfl
      | false =>
          constructor
          · rintro ⟨issue, member, -⟩
            cases member
          · intro holds
            cases holds
  | number number =>
      cases number with
      | nan => exact rejected rfl
      | _ =>
          constructor
          · rintro ⟨issue, member, unwritten⟩
            have textual := textual_requestTimeoutReader_number (by simp) path issue member
            exact absurd unwritten textual.not_unwritten
          · intro holds
            cases holds
  | _ => exact rejected rfl

theorem unwritten_timeoutField_iff {path : List Text} {entries : List (Text × Value)} :
    (∃ issue ∈ (Reader.field "requestTimeoutMs"
        (requestTimeoutReader.withDefault (.ofNat defaultRequestTimeout)) path entries).issues,
      issue.Unwritten) ↔
      ∃ value, Value.entry? "requestTimeoutMs" entries = some value ∧
        Json.HoldsBigint value := by
  have absent : ¬Json.HoldsBigint .undefined := by
    intro holds
    cases holds
  have fallback : ¬Json.HoldsBigint (.ofNat defaultRequestTimeout) := by
    intro holds
    cases holds
  unfold Reader.field
  cases Value.entry? "requestTimeoutMs" entries with
  | none =>
      simp only [Option.getD_none, Reader.withDefault, unwritten_requestTimeoutReader_iff,
        fallback, reduceCtorEq, false_and, exists_false]
  | some value =>
      simp only [Option.getD_some, Option.some.injEq, exists_eq_left']
      cases value with
      | undefined =>
          simp only [Reader.withDefault, unwritten_requestTimeoutReader_iff, fallback, absent]
      | _ => exact unwritten_requestTimeoutReader_iff

/-- What settings hold as their timeout. -/
def timeoutEntry? (settings : Value) : Option Value :=
  (Reader.entries? Record.membersOf settings).bind (Value.entry? "requestTimeoutMs")

/-- A bigint stands in the timeout of settings, where JSON comes to it. -/
def BigintTimeout (settings : Value) : Prop :=
  ∃ value, timeoutEntry? settings = some value ∧ Json.HoldsBigint value

/-- An issue about settings has no JSON form if and only if their timeout holds a bigint. -/
theorem unwritten_reader_iff {path : List Text} {settings : Value} :
    (∃ issue ∈ (reader path settings).issues, issue.Unwritten) ↔ BigintTimeout settings := by
  unfold BigintTimeout timeoutEntry? reader Reader.object
  cases Reader.entries? Record.membersOf settings with
  | none =>
      constructor
      · rintro ⟨issue, member, unwritten⟩
        have textual : issue.Textual :=
          Reader.textual_wrongKind "object" path settings issue member
        exact absurd unwritten textual.not_unwritten
      · rintro ⟨value, absent, -⟩
        cases absent
  | some entries =>
      rw [Option.bind_some, ← unwritten_timeoutField_iff]
      have account : accountNameReader.Textual :=
        Reader.textual_checkedText fun path => trivial
      have endpoint : addressReader.Textual := Reader.textual_checkedText fun path => trivial
      have version : someTextReader.Textual := Reader.textual_checkedText fun path => trivial
      simp only [Verdict.issues_both, Verdict.issues_map, List.mem_append]
      constructor
      · rintro ⟨issue, (((((member | member) | member) | member) | member) | member), unwritten⟩
        · exact absurd unwritten (account.field _ path entries issue member).not_unwritten
        · exact absurd unwritten (endpoint.optionalField _ path entries issue member).not_unwritten
        · exact absurd unwritten
            ((version.withDefault _).field _ path entries issue member).not_unwritten
        · exact ⟨issue, member, unwritten⟩
        · exact absurd unwritten
            (textual_headersReader.optionalField _ path entries issue member).not_unwritten
        · exact absurd unwritten
            ((textual_loggingReader.withDefault _).field _ path entries issue member).not_unwritten
      · rintro ⟨issue, member, unwritten⟩
        exact ⟨issue, .inl (.inl (.inr member)), unwritten⟩

theorem read_answers {settings : Value} (plain : ¬BigintTimeout settings) :
    (read settings).Answers := by
  apply Validation.read_answers
  intro issue member unwritten
  exact plain (unwritten_reader_iff.mp ⟨issue, member, unwritten⟩)

theorem read_raises {settings : Value} (bigint : BigintTimeout settings) :
    read settings = .raised .typeError :=
  Validation.read_raises (unwritten_reader_iff.mpr bigint)

end Config

namespace Simulation

/-- A logger that is there: the client's own, or one that was made at a level. -/
def Logger.IsMade : Logger → Prop
  | .own => True
  | .recorded level => ∃ chosen, LogLevel.choose level = .ok chosen

theorem Run.equip_checked {settings : Value} {logger : Logger} (made : logger.IsMade) :
    ∃ (level : Config → Option LogLevel) (recorded : Bool),
      Run.equip (.checked settings) logger =
        (Config.read settings).map fun config =>
          (Client.ofConfig config, level config, recorded) := by
  cases logger with
  | own =>
      refine ⟨fun config => some config.logging.level, false, ?_⟩
      simp only [Run.equip, Run.makeClient]
      cases Config.read settings <;> rfl
  | recorded level =>
      obtain ⟨chosen, made⟩ := made
      refine ⟨fun _ => chosen, true, ?_⟩
      simp only [Run.equip, Run.makeClient, made]
      cases Config.read settings <;> rfl

end Simulation

namespace Config

/-- Settings and the client that is made from them are answered with a result or with a failure
that lists broken rules, whatever the settings are, as long as no bigint stands in their timeout; if
one does, both break off with the platform's error. -/
theorem read_and_equip_answer {settings : Value} {logger : Simulation.Logger}
    (made : logger.IsMade) :
    (¬BigintTimeout settings → (read settings).Answers ∧
      (Simulation.Run.equip (.checked settings) logger).Answers) ∧
    (BigintTimeout settings → read settings = .raised .typeError ∧
      Simulation.Run.equip (.checked settings) logger = .raised .typeError) := by
  obtain ⟨level, recorded, equipped⟩ := Simulation.Run.equip_checked made
  constructor
  · intro plain
    have answers := read_answers plain
    rw [equipped]
    exact ⟨answers, answers.map _⟩
  · intro bigint
    rw [equipped, read_raises bigint]
    exact ⟨rfl, rfl⟩

/-- Settings with a bigint in another place than the timeout, and a timeout of the wrong kind. -/
def misplacedBigint : Value :=
  .record [("accountName", .bigint 5), ("headers", .list [.bigint 5]),
    ("requestTimeoutMs", .list [.symbol "five", .undefined])]

/-- Settings with a bigint deep in the timeout. -/
def nestedBigint : Value :=
  .record [("accountName", .string "devaccount"),
    ("requestTimeoutMs", .list [.undefined, .record [("seconds", .bigint 5)]])]

theorem read_and_equip_answer_samples :
    ((read misplacedBigint).Answers ∧
      (Simulation.Run.equip (.checked misplacedBigint) (.recorded (.string "debug"))).Answers) ∧
    (read nestedBigint = .raised .typeError ∧
      Simulation.Run.equip (.checked nestedBigint) .own = .raised .typeError) := by
  have plain : ¬BigintTimeout misplacedBigint := by
    rintro ⟨value, found, holds⟩
    obtain rfl := Option.some.inj found
    have written : Json.write? (.list [.symbol "five", .undefined]) ≠ none := by
      simp [Json.write?, Json.writeItems?]
    exact written holds.write?_eq_none
  have bigint : BigintTimeout nestedBigint := by
    have inner : Json.HoldsBigint (.record [("seconds", .bigint 5)]) :=
      .entry rfl List.mem_cons_self (.here 5)
    exact ⟨_, rfl, .item (List.mem_cons_of_mem _ List.mem_cons_self) inner⟩
  have made : (Simulation.Logger.recorded (.string "debug")).IsMade := ⟨some .debug, by rfl⟩
  have own : Simulation.Logger.own.IsMade := trivial
  exact ⟨(read_and_equip_answer made).1 plain, (read_and_equip_answer own).2 bigint⟩

/-- A timeout that is a bigint is not answered. -/
theorem bigint_timeout_unanswered :
    ¬∀ settings : Value, (read settings).Answers := by
  intro answered
  have bigint : BigintTimeout
      (.record [("accountName", .string "devaccount"), ("requestTimeoutMs", .bigint 5)]) :=
    ⟨.bigint 5, rfl, .here 5⟩
  rcases answered _ with ⟨config, read⟩ | ⟨failure, -, read⟩
  · rw [read_raises bigint] at read
    cases read
  · rw [read_raises bigint] at read
    cases read

end Config

end BlobStorage
