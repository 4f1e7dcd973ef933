import BlobStorage.Delete.Response

/-!
# Reading a response always ends

A failure that lists issues is worded with their JSON form, and a value that has none would spoil
it.  An issue that shows no value of the reader is always written.  Every issue about the header
fields of a response is of that sort, so reading them gives a response or a failure.
-/

namespace BlobStorage

namespace Issue

/-- An issue that is made of texts alone: it does not show the value that breaks the rule. -/
def Textual : Issue → Prop
  | .notFalse _ _ | .noAlternative _ _ => False
  | _ => True

private theorem writeItems?_strings (texts : List Text) :
    ∃ items, Json.writeItems? (texts.map Value.string) = some items := by
  induction texts with
  | nil => exact ⟨[], by simp [Json.writeItems?]⟩
  | cons text texts induction =>
      obtain ⟨items, written⟩ := induction
      exact ⟨Json.quote text :: items, by simp [Json.writeItems?, Json.write?, written]⟩

theorem write?_list_strings (texts : List Text) :
    ∃ text, Json.write? (.list (texts.map .string)) = some (some text) := by
  obtain ⟨items, written⟩ := writeItems?_strings texts
  exact ⟨Json.writeList items, by simp [Json.write?, written]⟩

/-- A member that holds a text, a truth value, a number or a list of texts. -/
inductive WrittenMember : Text × Value → Prop where
  | text (name : String) (text : Text) : WrittenMember (textMember name text)
  | number (name : Text) (number : Number) : WrittenMember (name, .number number)
  | truth (name : Text) (truth : Bool) : WrittenMember (name, .boolean truth)
  | texts (name : Text) (texts : List Text) : WrittenMember (name, .list (texts.map .string))

theorem WrittenMember.write?_isSome {entry : Text × Value} (written : WrittenMember entry) :
    ∃ text, Json.write? entry.2 = some (some text) := by
  cases written with
  | text name text => exact ⟨_, by simp [textMember, Json.write?]; rfl⟩
  | number name number => exact ⟨_, by simp [Json.write?]; rfl⟩
  | truth name truth => cases truth <;> exact ⟨_, by simp [Json.write?]; rfl⟩
  | texts name texts => exact write?_list_strings texts

theorem writeMembers?_isSome {entries : List (Text × Value)}
    (written : ∀ entry ∈ entries, WrittenMember entry) :
    ∃ members, Json.writeMembers? entries = some members := by
  induction entries with
  | nil => exact ⟨[], by simp [Json.writeMembers?]⟩
  | cons entry entries induction =>
      obtain ⟨name, value⟩ := entry
      obtain ⟨text, first⟩ := (written (name, value) List.mem_cons_self).write?_isSome
      obtain ⟨members, rest⟩ :=
        induction fun later member => written later (List.mem_cons_of_mem _ member)
      exact ⟨Json.member name (some text) ++ members, by
        simp only [Json.writeMembers?, first, rest]; rfl⟩

theorem write?_record_isSome {entries : List (Text × Value)}
    (written : ∀ entry ∈ entries, WrittenMember entry) :
    ∃ json, Json.write? (.record entries) = some json := by
  obtain ⟨members, found⟩ := writeMembers?_isSome written
  by_cases own : Json.writesItself entries
  · exact ⟨none, by simp [Json.write?, own]⟩
  · exact ⟨some (Json.writeRecord members), by simp [Json.write?, own, found]⟩

theorem Textual.write?_isSome {issue : Issue} (textual : issue.Textual) :
    ∃ json, Json.write? issue.toValue = some json := by
  have path (path : List Text) : WrittenMember (pathMember path) := .texts _ path
  cases issue with
  | notFalse received path => exact textual.elim
  | noAlternative attempts path => exact textual.elim
  | _ =>
      simp only [toValue, tooSmall, Value.ofNat]
      refine write?_record_isSome ?_
      simp [WrittenMember.text, WrittenMember.number, WrittenMember.truth,
        WrittenMember.texts, path]

theorem writeItems?_toValues {issues : List Issue} (textual : ∀ issue ∈ issues, issue.Textual) :
    ∃ items, Json.writeItems? (toValues issues) = some items := by
  induction issues with
  | nil => exact ⟨[], by simp [toValues, Json.writeItems?]⟩
  | cons issue issues induction =>
      obtain ⟨json, first⟩ := (textual issue List.mem_cons_self).write?_isSome
      obtain ⟨items, rest⟩ :=
        induction fun later member => textual later (List.mem_cons_of_mem _ member)
      exact ⟨json.getD "null" :: items, by
        simp only [toValues, Json.writeItems?, first, rest]; rfl⟩

theorem failWith_of_written {α : Type} {issues : List Value} {items : List Text}
    (written : Json.writeItems? issues = some items) (message : Text) (cause : Option Value) :
    ∃ failure : Failure, failure.kind = .request .validation ∧
      (Validation.failWith message issues cause : Outcome α) = .failed failure := by
  simp [Validation.failWith, Failure.validation?, Failure.validationMessage?, Json.write?, written,
    Failure.ofRequest, Failure.withCause, Failure.plain]

theorem failWith_toValues {α : Type} {issues : List Issue}
    (textual : ∀ issue ∈ issues, issue.Textual) (message : Text) (cause : Option Value) :
    ∃ failure : Failure, failure.kind = .request .validation ∧
      (Validation.failWith message (toValues issues) cause : Outcome α) = .failed failure := by
  obtain ⟨items, written⟩ := writeItems?_toValues textual
  exact failWith_of_written written message cause

end Issue

namespace Verdict

variable {α β γ : Type}

@[simp] theorem issues_map (f : α → β) (verdict : Verdict α) :
    (verdict.map f).issues = verdict.issues := by
  cases verdict <;> rfl

@[simp] theorem issues_both (f : α → β → γ) (first : Verdict α) (second : Verdict β) :
    (both f first second).issues = first.issues ++ second.issues := by
  cases first <;> cases second <;> simp [both, issues]

@[simp] theorem issues_ofChecks (value : α) (found : List Issue) :
    (ofChecks value found).issues = found := by
  cases found <;> simp [ofChecks, issues]

/-- Every broken rule is reported by a textual issue. -/
def Textual (verdict : Verdict α) : Prop := ∀ issue ∈ verdict.issues, issue.Textual

theorem Textual.map {verdict : Verdict α} (textual : verdict.Textual) (f : α → β) :
    (verdict.map f).Textual := by
  simpa [Textual] using textual

theorem Textual.both {first : Verdict α} {second : Verdict β}
    (left : first.Textual) (right : second.Textual) (f : α → β → γ) :
    (both f first second).Textual := by
  intro issue member
  rw [issues_both, List.mem_append] at member
  exact member.elim (left issue) (right issue)

end Verdict

namespace Reader

variable {α β : Type}

/-- Every issue that a reader reports is textual. -/
def Textual (reader : Reader α) : Prop := ∀ path value, (reader path value).Textual

theorem textual_wrongKind (expected : Text) (path : List Text) (value : Value) :
    (wrongKind expected path value : Verdict α).Textual := by
  simp [wrongKind, Verdict.Textual, Verdict.issues, Issue.Textual]

theorem textual_text : text.Textual := by
  intro path value
  unfold text
  split
  · simp [Verdict.Textual, Verdict.issues]
  · exact textual_wrongKind "string" path _

theorem textual_checkedText {passes : Text → Bool} {issue : List Text → Issue}
    (textual : ∀ path, (issue path).Textual) : (checkedText passes issue).Textual := by
  intro path value
  have read := textual_text path value
  unfold checkedText
  split
  · rename_i found _
    by_cases passed : passes found
    · simp [passed, Verdict.Textual]
    · simpa [passed, Verdict.Textual] using textual path
  · exact read

theorem textual_oneOf (options : List Text) : (oneOf options).Textual := by
  intro path value
  unfold oneOf
  split
  · split <;> simp [Verdict.Textual, Verdict.issues, Issue.Textual]
  · simp [Verdict.Textual, Verdict.issues, Issue.Textual]

theorem Textual.map {reader : Reader α} (textual : reader.Textual) (f : α → β) :
    (reader.map f).Textual :=
  fun path value => (textual path value).map f

theorem Textual.optional {reader : Reader α} (textual : reader.Textual) :
    reader.optional.Textual := by
  intro path value
  unfold Reader.optional
  split
  · simp [Verdict.Textual, Verdict.issues]
  · exact (textual path _).map some

theorem Textual.field {reader : Reader α} (textual : reader.Textual) (name : Text)
    (path : List Text) (entries : List (Text × Value)) :
    (Reader.field name reader path entries).Textual :=
  textual _ _

/-- A value is read by a textual reader, or the rules that it breaks are reported. -/
theorem Textual.read_total {reader : Reader α} (textual : reader.Textual) (value : Value) :
    (∃ reading, Validation.read reader value = .ok reading) ∨
      ∃ failure : Failure, failure.kind = .request .validation ∧
        Validation.read reader value = .failed failure := by
  have issues := textual [] value
  unfold Validation.read
  cases verdict : reader [] value with
  | valid reading => exact .inl ⟨reading, rfl⟩
  | unchecked broken =>
      rw [verdict] at issues
      exact .inr (Issue.failWith_toValues issues _ none)
  | invalid broken =>
      rw [verdict] at issues
      exact .inr (Issue.failWith_toValues issues _ none)

end Reader

namespace DeleteBlob.Response

theorem textual_dateReader : dateReader.Textual := by
  intro path value
  have read := Reader.textual_text path value
  unfold dateReader
  split
  · split <;> simp [Verdict.Textual, Verdict.issues, Issue.Textual]
  · rename_i issues found
    simpa [found, Verdict.Textual, Verdict.issues] using read
  · rename_i issues found
    simpa [found, Verdict.Textual, Verdict.issues] using read

/-- The header fields of a response break rules only in ways that can be put into words. -/
theorem textual_reader : reader.Textual := by
  intro path value
  unfold reader Reader.object
  split
  · refine ((((Verdict.Textual.map ?_ Response.mk).both ?_ _).both ?_ _).both ?_ _).both ?_ _
    · have textual : requestIdReader.Textual :=
        Reader.textual_checkedText fun path => by simp [Issue.Textual]
      exact textual.field _ path _
    · exact Reader.textual_text.optional.field _ path _
    · exact Reader.textual_text.optional.field _ path _
    · exact textual_dateReader.optional.field _ path _
    · exact ((Reader.textual_oneOf _).map _).optional.field _ path _
  · exact Reader.textual_wrongKind "object" path value

theorem ofHeaders_total (headers : Headers) :
    (∃ response, ofHeaders headers = .ok response) ∨
      ∃ failure : Failure, failure.kind = .request .responseParse ∧
        ofHeaders headers = .failed failure := by
  unfold ofHeaders
  dsimp only
  generalize headers.view.map _ = fields
  rcases textual_reader.read_total (.record fields) with ⟨response, read⟩ | ⟨failure, -, read⟩
  · exact .inl ⟨response, by rw [read]⟩
  · exact .inr ⟨Failure.responseParse unreadableHeaders (some (.failure failure)), rfl,
      by rw [read]⟩

end DeleteBlob.Response

end BlobStorage
