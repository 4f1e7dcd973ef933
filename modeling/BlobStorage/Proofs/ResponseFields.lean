import BlobStorage.Proofs.HeaderView
import BlobStorage.Proofs.ResponseReading

/-!
# What the header fields of a response report

Three header fields of a response can break a rule: the identifier of the request has to be there
and not empty, a date has to be readable, and the flag of a delete has to be a truth value.  If all
of them fit, the response reports what stands under five names.  Otherwise it is reported which of
them do not, each once and in this order, and the other header fields play no part in either.
-/

namespace BlobStorage

namespace Issue

/-- Callers find the path to a value that breaks a rule in the record of the issue. -/
theorem member?_path (issue : Issue) :
    issue.toValue.member? "path" = some (.list (issue.path.map .string)) := by
  cases issue <;> rfl

theorem toValues_eq_map (issues : List Issue) : toValues issues = issues.map toValue := by
  induction issues with
  | nil => rfl
  | cons issue issues induction => rw [toValues, induction, List.map_cons]

end Issue

namespace Verdict

variable {α β γ : Type}

/-- A verdict gives a reading, unless there are broken rules at some paths. -/
structure Tells (verdict : Verdict α) (reading : α) (broken : List (List Text)) : Prop where
  value?_eq : verdict.value? = if broken = [] then some reading else none
  paths_eq : verdict.issues.map Issue.path = broken

theorem tells_valid (reading : α) : (valid reading).Tells reading [] := ⟨rfl, rfl⟩

theorem Tells.map {verdict : Verdict α} {reading : α} {broken : List (List Text)}
    (tells : verdict.Tells reading broken) (f : α → β) :
    (verdict.map f).Tells (f reading) broken := by
  constructor
  · have mapped : (verdict.map f).value? = verdict.value?.map f := by
      cases verdict <;> rfl
    rw [mapped, tells.value?_eq]
    split <;> rfl
  · rw [issues_map, tells.paths_eq]

theorem Tells.both {first : Verdict α} {second : Verdict β} {left : α} {right : β}
    {brokenLeft brokenRight : List (List Text)} (tellsFirst : first.Tells left brokenLeft)
    (tellsSecond : second.Tells right brokenRight) (f : α → β → γ) :
    (both f first second).Tells (f left right) (brokenLeft ++ brokenRight) := by
  constructor
  · have together : (Verdict.both f first second).value? =
        first.value?.bind fun a => second.value?.map (f a) := by
      cases first <;> cases second <;> rfl
    rw [together, tellsFirst.value?_eq, tellsSecond.value?_eq]
    by_cases leftFits : brokenLeft = []
    · by_cases rightFits : brokenRight = []
      · simp [leftFits, rightFits]
      · simp [leftFits, rightFits]
    · simp [leftFits]
  · rw [issues_both, List.map_append, tellsFirst.paths_eq, tellsSecond.paths_eq]

end Verdict

theorem Reader.tells_oneOf (options path : List Text) (text : Text) :
    (oneOf options path (.string text)).Tells text
      (if options.contains text then [] else [path]) := by
  rw [oneOf]
  by_cases among : options.contains text = true
  · rw [if_pos among, if_pos among]
    exact Verdict.tells_valid text
  · rw [if_neg among, if_neg among]
    exact ⟨rfl, rfl⟩

namespace Validation

variable {α : Type}

theorem detail_of_failWith {message : Text} {issues : List Value} {cause : Option Value}
    {failure : Failure} (failed : (failWith message issues cause : Outcome α) = .failed failure) :
    failure.kind = .request .validation ∧ failure.detail = .issues (.list issues) := by
  unfold failWith Failure.validation? at failed
  cases worded : Failure.validationMessage? message (.list issues) with
  | none =>
      rw [worded] at failed
      cases failed
  | some text =>
      rw [worded] at failed
      cases failed
      exact ⟨rfl, rfl⟩

theorem read_eq (reader : Reader α) (value : Value) :
    read reader value =
      match (reader [] value).value? with
      | some reading => .ok reading
      | none => failWith invalidData (Issue.toValues (reader [] value).issues) none := by
  unfold read
  cases reader [] value <;> rfl

/-- A value that breaks no rule is read.  Otherwise the failure lists an issue for each rule that is
broken, at its path. -/
theorem read_tells {reader : Reader α} {value : Value} {reading : α} {broken : List (List Text)}
    (textual : reader.Textual) (tells : (reader [] value).Tells reading broken) :
    (broken = [] → read reader value = .ok reading) ∧
      (broken ≠ [] → ∃ failure items, read reader value = .failed failure ∧
        failure.kind = .request .validation ∧ failure.detail = .issues (.list items) ∧
        items.map (Value.member? "path") =
          broken.map fun path => some (.list (path.map .string))) := by
  rw [read_eq, tells.value?_eq]
  constructor
  · intro unbroken
    rw [if_pos unbroken]
  · intro someBroken
    rw [if_neg someBroken]
    obtain ⟨failure, -, failed⟩ :=
      Issue.failWith_toValues (α := α) (textual [] value) invalidData none
    obtain ⟨kind, detail⟩ := detail_of_failWith failed
    refine ⟨failure, _, failed, kind, detail, ?_⟩
    rw [Issue.toValues_eq_map, ← tells.paths_eq, List.map_map, List.map_map]
    exact List.map_congr_left fun issue _ => issue.member?_path

end Validation

theorem Failure.issuesBelow_of_validation {failure : Failure} {items : List Value}
    (kind : failure.kind = .request .validation) (detail : failure.detail = .issues (.list items)) :
    (Value.failure failure).issuesBelow = .list items := by
  obtain ⟨_, name, message, cause, _⟩ := failure
  cases kind
  cases detail
  unfold Value.issuesBelow
  rfl

namespace Headers

/-- The record of what a reader sees, as a value. -/
def viewEntries (headers : Headers) : List (Text × Value) :=
  headers.view.map fun field => (field.1, .string field.2)

/-- The record of fields has the text of a name that is in lower case, except for the one name
whose values are not joined. -/
theorem entry?_viewEntries {headers : Headers} {name : Text} (lower : Text.lower name = name)
    (joined : name ≠ cookieSetter) :
    Value.entry? name headers.viewEntries = (headers.get? name).map Value.string := by
  rw [Value.entry?, viewEntries, view, List.map_map, find?_map_named, get?, lower]
  · simp only [mem_names_iff]
    cases values : headers.valuesOf name with
    | nil => rfl
    | cons value rest => simp [joined, values]
  · intro name
    dsimp only [Function.comp]
    split <;> rfl

theorem entries?_viewEntries (headers : Headers) :
    Reader.entries? Record.membersOf (.record headers.viewEntries) = some headers.viewEntries := by
  have isObject : Reader.kindName (.record headers.viewEntries) = "object" := by
    simp only [Reader.kindName, entry?_viewEntries (by decide : Text.lower "then" = "then")
      (by decide)]
    cases headers.get? "then" <;> rfl
  rw [Reader.entries?, if_pos isObject]

end Headers

namespace DeleteBlob.Response

/-- A field as the rules see it: a text, or undefined when it is not there. -/
def fieldValue (text? : Option Text) : Value := (text?.map Value.string).getD .undefined

theorem field_viewEntries {α : Type} (headers : Headers) {name : Text} (reader : Reader α)
    (path : List Text) (lower : Text.lower name = name) (joined : name ≠ Headers.cookieSetter) :
    Reader.field name reader path headers.viewEntries =
      reader (path ++ [name]) (fieldValue (headers.get? name)) := by
  rw [Reader.field, Headers.entry?_viewEntries lower joined, fieldValue]

/-- The header fields that can break a rule. -/
inductive RuledField where
  | requestId
  | date
  | deleteTypePermanent
  deriving DecidableEq

namespace RuledField

def header : RuledField → Text
  | requestId => "x-ms-request-id"
  | date => "date"
  | deleteTypePermanent => "x-ms-delete-type-permanent"

/-- The order in which broken rules are reported. -/
def inOrder : List RuledField := [requestId, date, deleteTypePermanent]

/-- Whether a field keeps its rule, with its text if it is there at all. -/
def fits : RuledField → Option Text → Bool
  | requestId, text? => text?.any (!·.isEmpty)
  | date, text? => text?.all fun text => (Calendar.readDate? text).isSome
  | deleteTypePermanent, text? => text?.all fun text =>
      [Text.ofString "true", Text.ofString "false"].contains text

/-- The path of the issue about a field, if it breaks its rule. -/
def broken (field : RuledField) (text? : Option Text) : List (List Text) :=
  if field.fits text? then [] else [[field.header]]

end RuledField

/-- The header fields that break their rule. -/
def offending (headers : Headers) : List RuledField :=
  RuledField.inOrder.filter fun field => !field.fits (headers.get? field.header)

/-- The names of the header fields that a response is made of. -/
def reportedNames : List Text :=
  ["x-ms-request-id", "x-ms-client-request-id", "x-ms-version", "date",
    "x-ms-delete-type-permanent"]

/-- What stands under these names: texts as they are, the instant of the date, and the truth value
that the flag spells. -/
def reported (headers : Headers) : Response where
  requestId := (headers.get? "x-ms-request-id").getD []
  clientRequestId := headers.get? "x-ms-client-request-id"
  version := headers.get? "x-ms-version"
  date := (headers.get? "date").bind Calendar.readDate?
  deleteTypePermanent :=
    (headers.get? "x-ms-delete-type-permanent").map (· == Text.ofString "true")

theorem tells_requestId (text? : Option Text) :
    (requestIdReader [RuledField.requestId.header] (fieldValue text?)).Tells (text?.getD [])
      (RuledField.requestId.broken text?) := by
  rcases text? with - | - | ⟨first, rest⟩
  · exact ⟨rfl, rfl⟩
  · exact ⟨rfl, rfl⟩
  · exact ⟨rfl, rfl⟩

theorem tells_text (path : List Text) (text? : Option Text) :
    (Reader.text.optional path (fieldValue text?)).Tells text? [] := by
  cases text? <;> exact Verdict.tells_valid _

theorem tells_date (text? : Option Text) :
    (dateReader.optional [RuledField.date.header] (fieldValue text?)).Tells
      (text?.bind Calendar.readDate?) (RuledField.date.broken text?) := by
  cases text? with
  | none => exact Verdict.tells_valid none
  | some text =>
      have verdict : dateReader.optional [RuledField.date.header] (fieldValue (some text)) =
          (dateReader [RuledField.date.header] (.string text)).map some := rfl
      rw [verdict, dateReader, Reader.text, RuledField.broken, RuledField.fits]
      cases read : Calendar.readDate? text with
      | none => constructor <;> simp [read, Verdict.map, Verdict.value?, Verdict.issues, Issue.path]
      | some instant => constructor <;> simp [read, Verdict.map, Verdict.value?, Verdict.issues]

theorem tells_flag (text? : Option Text) :
    (flagReader.optional [RuledField.deleteTypePermanent.header] (fieldValue text?)).Tells
      (text?.map (· == Text.ofString "true")) (RuledField.deleteTypePermanent.broken text?) := by
  cases text? with
  | none => exact Verdict.tells_valid none
  | some text =>
      have among :=
        Reader.tells_oneOf ["true", "false"] [RuledField.deleteTypePermanent.header] text
      exact (among.map (· == Text.ofString "true")).map some

theorem reader_viewEntries (headers : Headers) :
    reader [] (.record headers.viewEntries) =
      .both (fun f a => f a)
        (.both (fun f a => f a)
          (.both (fun f a => f a)
            (.both (fun f a => f a)
              ((requestIdReader ["x-ms-request-id"]
                (fieldValue (headers.get? "x-ms-request-id"))).map Response.mk)
              (Reader.text.optional ["x-ms-client-request-id"]
                (fieldValue (headers.get? "x-ms-client-request-id"))))
            (Reader.text.optional ["x-ms-version"] (fieldValue (headers.get? "x-ms-version"))))
          (dateReader.optional ["date"] (fieldValue (headers.get? "date"))))
        (flagReader.optional ["x-ms-delete-type-permanent"]
          (fieldValue (headers.get? "x-ms-delete-type-permanent"))) := by
  rw [reader, Reader.object, Headers.entries?_viewEntries]
  simp only
  rw [field_viewEntries headers _ _ (by decide) (by decide),
    field_viewEntries headers _ _ (by decide) (by decide),
    field_viewEntries headers _ _ (by decide) (by decide),
    field_viewEntries headers _ _ (by decide) (by decide),
    field_viewEntries headers _ _ (by decide) (by decide)]
  rfl

theorem map_header_offending (headers : Headers) :
    (offending headers).map (fun field => [field.header]) =
      RuledField.inOrder.flatMap fun field => field.broken (headers.get? field.header) := by
  rw [offending]
  induction RuledField.inOrder with
  | nil => rfl
  | cons field fields induction =>
      rw [List.flatMap_cons, ← induction, RuledField.broken, List.filter_cons]
      cases field.fits (headers.get? field.header) <;> rfl

/-- The rules find what stands under the five names, or the fields that do not fit. -/
theorem tells_reader (headers : Headers) :
    (reader [] (.record headers.viewEntries)).Tells (reported headers)
      ((offending headers).map fun field => [field.header]) := by
  have identified := (tells_requestId (headers.get? "x-ms-request-id")).map Response.mk
  have repeated := identified.both
    (tells_text ["x-ms-client-request-id"] (headers.get? "x-ms-client-request-id")) fun f a => f a
  have versioned := repeated.both
    (tells_text ["x-ms-version"] (headers.get? "x-ms-version")) fun f a => f a
  have dated := versioned.both (tells_date (headers.get? "date")) fun f a => f a
  have flagged := dated.both
    (tells_flag (headers.get? "x-ms-delete-type-permanent")) fun f a => f a
  rw [List.append_nil, List.append_nil, List.append_assoc] at flagged
  rw [reader_viewEntries, map_header_offending, RuledField.inOrder, List.flatMap_cons,
    List.flatMap_cons, List.flatMap_singleton]
  exact flagged

theorem ofHeaders_eq (headers : Headers) :
    ofHeaders headers =
      match Validation.read reader (.record headers.viewEntries) with
      | .ok response => .ok response
      | .failed failure =>
          .failed (Failure.responseParse unreadableHeaders (some (.failure failure)))
      | .raised reason => .raised reason := rfl

theorem ofHeaders_of_fitting {headers : Headers} (fitting : offending headers = []) :
    ofHeaders headers = .ok (reported headers) := by
  have unbroken : (offending headers).map (fun field => [field.header]) = [] := by
    rw [fitting, List.map_nil]
  rw [ofHeaders_eq, (Validation.read_tells textual_reader (tells_reader headers)).1 unbroken]

theorem ofHeaders_congr {headers other : Headers}
    (same : ∀ name ∈ reportedNames, other.get? name = headers.get? name) :
    ofHeaders other = ofHeaders headers := by
  have agree : reader [] (.record other.viewEntries) = reader [] (.record headers.viewEntries) := by
    rw [reader_viewEntries, reader_viewEntries, same _ (by decide), same _ (by decide),
      same _ (by decide), same _ (by decide), same _ (by decide)]
  rw [ofHeaders_eq, ofHeaders_eq, Validation.read, Validation.read, agree]

/-- The header fields of a response are reported, each as what stands under its name, unless some
of them break their rule.  Then the failure lists an issue for each of these, in a fixed order, and
is caused by the failed validation.  Fields under other names make no difference. -/
theorem ofHeaders_reports (headers : Headers) :
    (offending headers = [] → ofHeaders headers = .ok (reported headers)) ∧
      (offending headers ≠ [] → ∃ failure cause items,
        ofHeaders headers = .failed failure ∧ failure.kind = .request .responseParse ∧
          failure.cause = some (.failure cause) ∧ cause.kind = .request .validation ∧
          failure.issues? = some (.list items) ∧
          items.map (Value.member? "path") =
            (offending headers).map fun field => some (.list [.string field.header])) ∧
      ∀ other : Headers, (∀ name ∈ reportedNames, other.get? name = headers.get? name) →
        ofHeaders other = ofHeaders headers := by
  refine ⟨ofHeaders_of_fitting, ?_, fun other same => ofHeaders_congr same⟩
  intro someOffending
  have broken : (offending headers).map (fun field => [field.header]) ≠ [] := by
    rw [ne_eq, List.map_eq_nil_iff]
    exact someOffending
  obtain ⟨cause, items, read, kind, detail, paths⟩ :=
    (Validation.read_tells textual_reader (tells_reader headers)).2 broken
  have issues : (Value.failure cause).issuesBelow = .list items :=
    Failure.issuesBelow_of_validation kind detail
  refine ⟨Failure.responseParse unreadableHeaders (some (.failure cause)), cause, items, ?_, rfl,
    rfl, kind, ?_, ?_⟩
  · rw [ofHeaders_eq, read]
  · rw [← issues]
    rfl
  · rw [paths, List.map_map]
    rfl

/-- One answer without an identifier of the request has three fields that do not fit; another one
has none. -/
theorem ofHeaders_of_faulty_and_fitting_fields :
    (∃ failure cause items,
      ofHeaders ⟨[("date", "soon"), ("x-ms-delete-type-permanent", "TRUE"), ("etag", "1")]⟩ =
          .failed failure ∧
        failure.kind = .request .responseParse ∧ failure.cause = some (.failure cause) ∧
        cause.kind = .request .validation ∧ failure.issues? = some (.list items) ∧
        items.map (Value.member? "path") =
          [some (.list [.string "x-ms-request-id"]), some (.list [.string "date"]),
            some (.list [.string "x-ms-delete-type-permanent"])]) ∧
      ofHeaders ⟨[("x-ms-request-id", "r1"), ("x-ms-request-id", "r2"), ("x-ms-version", ""),
          ("x-ms-delete-type-permanent", "false")]⟩ = .ok
        { requestId := "r1, r2"
          clientRequestId := none
          version := some ""
          date := none
          deleteTypePermanent := some false } := by
  constructor
  · have faulty : offending
        ⟨[("date", "soon"), ("x-ms-delete-type-permanent", "TRUE"), ("etag", "1")]⟩ =
        [.requestId, .date, .deleteTypePermanent] := by
      decide +kernel
    obtain ⟨failure, cause, items, failed, kind, caused, validation, issues, paths⟩ :=
      (ofHeaders_reports
        ⟨[("date", "soon"), ("x-ms-delete-type-permanent", "TRUE"), ("etag", "1")]⟩).2.1
        (by rw [faulty]; decide)
    rw [faulty] at paths
    exact ⟨failure, cause, items, failed, kind, caused, validation, issues, paths⟩
  · exact (ofHeaders_reports _).1 (by decide +kernel)

end DeleteBlob.Response

end BlobStorage
