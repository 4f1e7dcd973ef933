import BlobStorage.Proofs.HttpDateForms
import BlobStorage.Proofs.SentDate

/-!
# Which dates of a response are taken

The date among the header fields of a response is either taken as an instant or refused with an
issue.  All dates in the forms of header fields are taken, if they name a day and a time of day, and
so are others that are in none of these forms.
-/

namespace BlobStorage.DeleteBlob.Response

/-- Header fields are refused with an issue about their date. -/
def RefusesDate (headers : Headers) : Prop :=
  ∃ failure items, ofHeaders headers = .failed failure ∧ failure.kind = .request .responseParse ∧
    failure.issues? = some (.list items) ∧
    ∃ item ∈ items, item.member? "path" = some (.list [.string "date"]) ∧
      item.member? "message" = some (.string "invalid HTTP date")

/-- The date of header fields is taken as an instant: there is no issue about it, a response reports
the instant, and there is a response unless the flag of the delete is something else than a truth
value. -/
structure TakesDate (headers : Headers) (instant : Int) : Prop where
  unrefused : ¬RefusesDate headers
  reported : ∀ response, ofHeaders headers = .ok response → response.date = some instant
  accepted : ∀ flag : Option Bool,
    headers.get? "x-ms-delete-type-permanent" = flag.map flagText →
      ∃ response, ofHeaders headers = .ok response

theorem ofHeaders_of_offending {headers : Headers} (someOffending : offending headers ≠ []) :
    ∃ failure, ofHeaders headers = .failed failure ∧ failure.kind = .request .responseParse ∧
      failure.issues? =
        some (.list (Issue.toValues (reader [] (.record headers.viewEntries)).issues)) := by
  have unread : (reader [] (.record headers.viewEntries)).value? = none := by
    rw [(tells_reader headers).value?_eq, if_neg]
    rw [List.map_eq_nil_iff]
    exact someOffending
  obtain ⟨cause, -, failed⟩ :=
    Issue.failWith_toValues (α := Response) (textual_reader [] (.record headers.viewEntries))
      Validation.invalidData none
  obtain ⟨kind, detail⟩ := Validation.detail_of_failWith failed
  refine ⟨Failure.responseParse unreadableHeaders (some (.failure cause)), ?_, rfl, ?_⟩
  · rw [ofHeaders_eq, Validation.read_eq, unread]
    simp only [failed]
  · rw [← Failure.issuesBelow_of_validation kind detail]
    rfl

theorem date_mem_offending_iff {headers : Headers} {text : Text}
    (dated : headers.get? "date" = some text) :
    RuledField.date ∈ offending headers ↔ Calendar.readDate? text = none := by
  rw [offending, List.mem_filter]
  simp [RuledField.inOrder, RuledField.fits, RuledField.header, dated]

theorem RuledField.eq_date_of_header {field : RuledField} (named : field.header = "date") :
    field = .date := by
  cases field with
  | date => rfl
  | requestId => exact absurd named (by decide)
  | deleteTypePermanent => exact absurd named (by decide)

/-- The issue about a date that cannot be read. -/
def dateIssue : Issue := .refused "invalid HTTP date" [RuledField.date.header]

theorem dateIssue_mem_issues {headers : Headers} {text : Text}
    (dated : headers.get? "date" = some text) (unread : Calendar.readDate? text = none) :
    dateIssue ∈ (reader [] (.record headers.viewEntries)).issues := by
  have verdict : dateReader.optional ["date"] (fieldValue (headers.get? "date")) =
      .unchecked [dateIssue] := by
    rw [dated]
    change (dateReader ["date"] (.string text)).map some = _
    simp only [dateReader, Reader.text, unread]
    rfl
  rw [reader_viewEntries, verdict]
  simp only [Verdict.issues_both, List.mem_append]
  exact .inl (.inr List.mem_cons_self)

theorem refusesDate_iff {headers : Headers} {text : Text}
    (dated : headers.get? "date" = some text) :
    RefusesDate headers ↔ Calendar.readDate? text = none := by
  constructor
  · rintro ⟨failure, items, failed, -, issues, item, member, path, -⟩
    have someOffending : offending headers ≠ [] := by
      intro none
      rw [ofHeaders_of_fitting none] at failed
      cases failed
    obtain ⟨own, ownFailed, -, ownIssues⟩ := ofHeaders_of_offending someOffending
    obtain rfl := Outcome.failed.inj (failed.symm.trans ownFailed)
    obtain rfl := Value.list.inj (Option.some.inj (issues.symm.trans ownIssues))
    rw [Issue.toValues_eq_map] at member
    obtain ⟨issue, among, rfl⟩ := List.mem_map.mp member
    have broken := List.mem_map_of_mem (f := Issue.path) among
    rw [(tells_reader headers).paths_eq] at broken
    obtain ⟨field, offends, own⟩ := List.mem_map.mp broken
    rw [issue.member?_path, ← own, Option.some.injEq, Value.list.injEq, List.map_singleton,
      List.singleton_inj, Value.string.injEq] at path
    obtain rfl := RuledField.eq_date_of_header path
    exact (date_mem_offending_iff dated).mp offends
  · intro unread
    have someOffending : offending headers ≠ [] :=
      List.ne_nil_of_mem ((date_mem_offending_iff dated).mpr unread)
    obtain ⟨failure, failed, kind, issues⟩ := ofHeaders_of_offending someOffending
    refine ⟨failure, _, failed, kind, issues, dateIssue.toValue, ?_, dateIssue.member?_path, rfl⟩
    rw [Issue.toValues_eq_map]
    exact List.mem_map_of_mem (dateIssue_mem_issues dated unread)

theorem takesDate_of_read {headers : Headers} {id text : Text} {instant : Int}
    (identified : headers.get? "x-ms-request-id" = some id) (named : id ≠ [])
    (dated : headers.get? "date" = some text) (read : Calendar.readDate? text = some instant) :
    TakesDate headers instant := by
  constructor
  · rw [refusesDate_iff dated, read]
    exact Option.some_ne_none instant
  · intro response accepted
    have fitting : offending headers = [] := by
      by_contra someOffending
      obtain ⟨failure, failed, -⟩ := ofHeaders_of_offending someOffending
      rw [failed] at accepted
      cases accepted
    obtain rfl := Outcome.ok.inj ((ofHeaders_of_fitting fitting).symm.trans accepted)
    rw [reported, dated, Option.bind_some, read]
  · intro flag permanent
    exact ⟨_, ofHeaders_dated identified named dated read permanent⟩

/-- The date of header fields that name the request is taken or refused.  It is taken as the instant
that it names if it is in one of the forms of header fields, and also if it is a day in digits,
which is none of these forms; it is refused, with an issue, if it has no digit or cannot be read. -/
theorem date_taken_or_refused {headers : Headers} {id text : Text}
    (identified : headers.get? "x-ms-request-id" = some id) (named : id ≠ [])
    (dated : headers.get? "date" = some text) :
    (∀ instant, Calendar.readDate? text = some instant → TakesDate headers instant) ∧
    (Calendar.readDate? text = none → RefusesDate headers) ∧
    (∀ (form : Calendar.HttpDateForm) (stamp : Calendar.Stamp), stamp.Legal →
      text = form.write stamp → TakesDate headers (form.instant stamp)) ∧
    (∀ day : Calendar.Date, 0 ≤ day.year ∧ day.year ≤ 9999 → 1 ≤ day.month ∧ day.month ≤ 12 →
      1 ≤ day.day ∧ day.day ≤ 31 → text = Calendar.writeDigitDay day →
        ¬Calendar.IsHttpDate text ∧ TakesDate headers
          (Calendar.dayNumber day.year day.month day.day * Calendar.dayLength)) ∧
    ((∀ u ∈ text, Text.isDigit u = false) → RefusesDate headers) := by
  have takes (instant : Int) (read : Calendar.readDate? text = some instant) :
      TakesDate headers instant := takesDate_of_read identified named dated read
  refine ⟨takes, (refusesDate_iff dated).mpr, ?_, ?_, ?_⟩
  · rintro form stamp legal rfl
    exact takes _ (Calendar.HttpDateForm.readDate?_write legal)
  · rintro day year month isDay rfl
    obtain ⟨other, read⟩ := Calendar.readDate?_writeDigitDay year month isDay
    exact ⟨other, takes _ read⟩
  · intro digitless
    exact (refusesDate_iff dated).mpr (Calendar.readDate?_of_digitless digitless)

theorem date_taken_or_refused_yesterday :
    Headers.get? ⟨[("x-ms-request-id", "abc"), ("date", "yesterday-ish")]⟩ "x-ms-request-id" =
        some "abc" ∧
      Headers.get? ⟨[("x-ms-request-id", "abc"), ("date", "yesterday-ish")]⟩ "date" =
        some "yesterday-ish" ∧
      RefusesDate ⟨[("x-ms-request-id", "abc"), ("date", "yesterday-ish")]⟩ := by
  have identified : Headers.get? ⟨[("x-ms-request-id", "abc"), ("date", "yesterday-ish")]⟩
      "x-ms-request-id" = some "abc" := by
    decide +kernel
  have dated : Headers.get? ⟨[("x-ms-request-id", "abc"), ("date", "yesterday-ish")]⟩ "date" =
      some "yesterday-ish" := by
    decide +kernel
  have all : (Text.ofString "yesterday-ish").all (fun u => Text.isDigit u == false) = true := by
    decide
  have digitless : ∀ u ∈ Text.ofString "yesterday-ish", Text.isDigit u = false := by
    intro u member
    exact eq_of_beq (List.all_eq_true.mp all u member)
  exact ⟨identified, dated,
    (date_taken_or_refused identified (by decide) dated).2.2.2.2 digitless⟩

/-- A date that is in none of the forms of header fields is taken. -/
theorem date_in_no_form_taken :
    Headers.get? ⟨[("x-ms-request-id", "abc"), ("date", "2024-10-15T10:00:00Z")]⟩
        "x-ms-request-id" = some "abc" ∧
      Headers.get? ⟨[("x-ms-request-id", "abc"), ("date", "2024-10-15T10:00:00Z")]⟩ "date" =
        some "2024-10-15T10:00:00Z" ∧
      ¬Calendar.IsHttpDate "2024-10-15T10:00:00Z" ∧
      ofHeaders ⟨[("x-ms-request-id", "abc"), ("date", "2024-10-15T10:00:00Z")]⟩ = .ok
        { requestId := "abc"
          clientRequestId := none
          version := none
          date := some 1728986400000
          deleteTypePermanent := none } := by
  refine ⟨by decide +kernel, by decide +kernel, Calendar.not_isHttpDate_of_digit (by decide), ?_⟩
  exact ofHeaders_of_fitting (by decide +kernel)

end BlobStorage.DeleteBlob.Response
