import BlobStorage.Failure.ServiceCode
import BlobStorage.Proofs.LegalHeaders

/-!
# The code of an error

The service names the kind of an error in a header field, and in an element of the body.  `Element`
says where a text has an element with a code, without going through the text; the search finds the
first one.  An opening that starts no such element, for it is empty, holds another tag, or is never
closed, is passed over and hides no later one.
-/

namespace BlobStorage

namespace ServiceCode

/-- A text has an element that holds a code: what stands before the element, the code, and what
stands after the element. -/
structure Element (text before code after : Text) : Prop where
  whole : text = before ++ Text.ofString "<Code>" ++ code ++ Text.ofString "</Code>" ++ after
  filled : code ≠ []
  plain : Text.unit '<' ∉ code

/-- An element before which no other one starts. -/
structure FirstElement (text before code after : Text) : Prop where
  element : Element text before code after
  first : ∀ other found rest, Element text other found rest → before.length ≤ other.length

theorem behind?_eq_some_iff {opening text rest : Text} :
    behind? opening text = some rest ↔ text = opening ++ rest := by
  unfold behind?
  constructor
  · intro found
    split at found
    · rename_i starts
      obtain ⟨tail, rfl⟩ := List.isPrefixOf_iff_prefix.mp starts
      rw [List.drop_left] at found
      rw [Option.some.inj found]
    · cases found
  · rintro rfl
    rw [if_pos (List.isPrefixOf_iff_prefix.mpr (List.prefix_append _ _)), List.drop_left]

/-- A code without a tag ends where the closing tag starts. -/
theorem takeWhile_code {code : Text} (plain : Text.unit '<' ∉ code) (after : Text) :
    (code ++ (Text.ofString "</Code>" ++ after)).takeWhile (· != Text.unit '<') = code ∧
      (code ++ (Text.ofString "</Code>" ++ after)).dropWhile (· != Text.unit '<') =
        Text.ofString "</Code>" ++ after := by
  have closing : Text.ofString "</Code>" = Text.unit '<' :: Text.ofString "/Code>" := by decide
  have kept : ∀ u ∈ code, (u != Text.unit '<') = true := by
    intro u member
    rw [bne_iff_ne]
    rintro rfl
    exact plain member
  rw [List.takeWhile_append_of_pos kept, List.dropWhile_append_of_pos kept, closing]
  simp

theorem elementAt?_eq_some_iff {text code : Text} :
    elementAt? text = some code ↔ ∃ after, Element text [] code after := by
  unfold elementAt?
  constructor
  · intro found
    obtain ⟨rest, opened, found⟩ := Option.bind_eq_some_iff.mp found
    obtain ⟨after, closed, found⟩ := Option.bind_eq_some_iff.mp found
    split at found
    · cases found
    · rename_i filled
      obtain rfl := Option.some.inj found
      rw [behind?_eq_some_iff] at opened closed
      refine ⟨after, ?_, by simpa using filled, ?_⟩
      · rw [opened, List.nil_append, List.append_assoc, List.append_assoc, ← closed,
          List.takeWhile_append_dropWhile]
      · intro member
        have kept := List.all_eq_true.mp List.all_takeWhile _ member
        simp at kept
  · rintro ⟨after, element⟩
    obtain ⟨content, rest⟩ := takeWhile_code element.plain after
    have opened : behind? (Text.ofString "<Code>") text =
        some (code ++ (Text.ofString "</Code>" ++ after)) := by
      rw [behind?_eq_some_iff, element.whole]
      simp
    have closed : behind? (Text.ofString "</Code>") (Text.ofString "</Code>" ++ after) =
        some after :=
      behind?_eq_some_iff.mpr rfl
    refine Option.bind_eq_some_iff.mpr ⟨_, opened, Option.bind_eq_some_iff.mpr ⟨after, ?_, ?_⟩⟩
    · rw [rest]
      exact closed
    · rw [content, if_neg]
      simpa using element.filled

theorem element_cons_iff {u : UInt16} {text before code after : Text} :
    Element (u :: text) before code after ↔
      (before = [] ∧ Element (u :: text) [] code after) ∨
        ∃ rest, before = u :: rest ∧ Element text rest code after := by
  cases before with
  | nil => simp
  | cons v before =>
      constructor
      · intro element
        obtain ⟨rfl, whole⟩ := List.cons.inj element.whole
        exact .inr ⟨before, rfl, whole, element.filled, element.plain⟩
      · rintro (⟨empty, -⟩ | ⟨rest, same, element⟩)
        · cases empty
        · obtain ⟨rfl, rfl⟩ := List.cons.inj same
          exact ⟨congrArg (v :: ·) element.whole, element.filled, element.plain⟩

theorem Element.cons {text before code after : Text} (element : Element text before code after)
    (u : UInt16) : Element (u :: text) (u :: before) code after :=
  element_cons_iff.mpr (.inr ⟨before, rfl, element⟩)

theorem not_element_nil {before code after : Text} : ¬Element [] before code after := by
  intro element
  have opening : Text.ofString "<Code>" ≠ [] := by decide
  have whole := element.whole
  simp [opening] at whole

/-- The search finds the code of the first element. -/
theorem ofBody?_eq_some_iff {text code : Text} :
    ofBody? text = some code ↔ ∃ before after, FirstElement text before code after := by
  -- The first element begins here, or it is the first one of the rest.
  induction text with
  | nil =>
      constructor
      · intro found
        cases found
      · rintro ⟨before, after, element, -⟩
        exact absurd element not_element_nil
  | cons u text induction =>
      rw [ofBody?]
      cases here : elementAt? (u :: text) with
      | some found =>
          rw [Option.some_or]
          obtain ⟨rest, atStart⟩ := elementAt?_eq_some_iff.mp here
          constructor
          · rintro ⟨⟩
            exact ⟨[], rest, atStart, fun other found rest element => Nat.zero_le _⟩
          · rintro ⟨before, after, element, first⟩
            obtain rfl := List.eq_nil_of_length_eq_zero (Nat.le_zero.mp (first _ _ _ atStart))
            rw [← here, elementAt?_eq_some_iff]
            exact ⟨after, element⟩
      | none =>
          rw [Option.none_or, induction]
          have notHere : ∀ found rest, ¬Element (u :: text) [] found rest := by
            intro found rest element
            rw [elementAt?_eq_some_iff.mpr ⟨rest, element⟩] at here
            cases here
          constructor
          · rintro ⟨before, after, element, first⟩
            refine ⟨u :: before, after, element.cons u, ?_⟩
            intro other found rest later
            rcases element_cons_iff.mp later with ⟨-, atStart⟩ | ⟨tail, rfl, behind⟩
            · exact absurd atStart (notHere found rest)
            · exact Nat.succ_le_succ (first tail found rest behind)
          · rintro ⟨before, after, element, first⟩
            rcases element_cons_iff.mp element with ⟨-, atStart⟩ | ⟨tail, rfl, behind⟩
            · exact absurd atStart (notHere code after)
            · refine ⟨tail, after, behind, ?_⟩
              intro other found rest later
              exact Nat.le_of_succ_le_succ (first _ found rest (later.cons u))

theorem ofBody?_eq_none_iff {text : Text} :
    ofBody? text = none ↔ ∀ before code after, ¬Element text before code after := by
  induction text with
  | nil => exact ⟨fun _ _ _ _ => not_element_nil, fun _ => rfl⟩
  | cons u text induction =>
      rw [ofBody?, Option.or_eq_none_iff, induction]
      constructor
      · rintro ⟨notHere, notBehind⟩ before code after element
        rcases element_cons_iff.mp element with ⟨-, atStart⟩ | ⟨tail, -, behind⟩
        · rw [elementAt?_eq_some_iff.mpr ⟨after, atStart⟩] at notHere
          cases notHere
        · exact notBehind tail code after behind
      · intro nowhere
        constructor
        · rw [Option.eq_none_iff_forall_ne_some]
          intro code found
          obtain ⟨after, atStart⟩ := elementAt?_eq_some_iff.mp found
          exact nowhere [] code after atStart
        · intro before code after behind
          exact nowhere _ code after (behind.cons u)

/-- A front in which no element starts is passed over. -/
theorem ofBody?_append {front text : Text}
    (clear : ∀ before code after, Element (front ++ text) before code after →
      front.length ≤ before.length) : ofBody? (front ++ text) = ofBody? text := by
  induction front with
  | nil => rfl
  | cons u front induction =>
      have notHere : elementAt? (u :: (front ++ text)) = none := by
        rw [Option.eq_none_iff_forall_ne_some]
        intro code found
        obtain ⟨after, atStart⟩ := elementAt?_eq_some_iff.mp found
        exact absurd (clear [] code after atStart) (Nat.not_succ_le_zero _)
      rw [List.cons_append, ofBody?, notHere, Option.none_or]
      apply induction
      intro before code after behind
      exact Nat.le_of_succ_le_succ (clear _ code after (behind.cons u))

end ServiceCode

namespace Headers

theorem get?_copy (headers : Headers) {name : Text} (other : Text.lower name ≠ cookieSetter) :
    headers.copy.get? name = (headers.get? name).map normalizeValue := by
  have copied : headers.copy.valuesOf (Text.lower name) =
      (headers.entries.filter fun field => field.1 == Text.lower name).map
        fun field => normalizeValue field.2 := by
    rw [valuesOf, copy, List.filter_map, List.map_map]
    rfl
  rw [get?, get?, copied, filter_entries]
  by_cases inUse : Text.lower name ∈ headers.names
  · rw [if_pos inUse, entriesOf, if_neg other]
    have someValue := mem_names_iff.mp inUse
    cases values : headers.valuesOf (Text.lower name) with
    | nil => exact absurd values someValue
    | cons value values => rfl
  · rw [if_neg inUse]
    have noValue := Decidable.not_not.mp (mt mem_names_iff.mpr inUse)
    rw [noValue]
    rfl

end Headers

namespace Failure

variable {failure : Failure} {status : Value} {body : Text} {headers : Headers}

theorem errorCode_of_silent (answered : failure.detail = .response status (.string body) headers)
    (silent : ∀ code, headers.get? ServiceCode.codeHeader = some code → code = []) :
    failure.errorCode = .ok (ServiceCode.ofBody? body) := by
  rw [errorCode, answered]
  cases named : headers.get? ServiceCode.codeHeader with
  | none => simp [ServiceCode.ofResponse, named, textOrRaise, Outcome.map]
  | some code =>
      rw [silent code named] at named
      simp [ServiceCode.ofResponse, named, textOrRaise, Outcome.map]

/-- The code of a failure about a response is that of its header field, if that is there and not
empty.  Otherwise it is that of the first element in the body, and there is none if and only if the
body has no element; what stands in front of the elements makes no difference.  The header fields of
a failure are read as those that it was made from, without blanks at the ends. -/
theorem errorCode_reads (answered : failure.detail = .response status (.string body) headers) :
    (∀ code, headers.get? ServiceCode.codeHeader = some code → code ≠ [] →
      failure.errorCode = .ok (some code)) ∧
    ((∀ code, headers.get? ServiceCode.codeHeader = some code → code = []) →
      (∀ code, failure.errorCode = .ok (some code) ↔
        ∃ before after, ServiceCode.FirstElement body before code after) ∧
      (failure.errorCode = .ok none ↔
        ∀ before code after, ¬ServiceCode.Element body before code after) ∧
      ∀ front text, body = front ++ text →
        (∀ before code after, ServiceCode.Element body before code after →
          front.length ≤ before.length) →
        failure.errorCode = .ok (ServiceCode.ofBody? text)) ∧
    ∀ given : Headers, headers = given.copy →
      headers.get? ServiceCode.codeHeader =
        (given.get? ServiceCode.codeHeader).map Headers.normalizeValue := by
  refine ⟨?_, ?_, ?_⟩
  · intro code named filled
    obtain ⟨first, rest, rfl⟩ := List.exists_cons_of_ne_nil filled
    simp [errorCode, answered, ServiceCode.ofResponse, named]
  · intro silent
    rw [errorCode_of_silent answered silent]
    refine ⟨?_, ?_, ?_⟩
    · intro code
      rw [Outcome.ok.injEq, ServiceCode.ofBody?_eq_some_iff]
    · rw [Outcome.ok.injEq, ServiceCode.ofBody?_eq_none_iff]
    · rintro front text rfl clear
      rw [ServiceCode.ofBody?_append clear]
  · rintro given rfl
    exact Headers.get?_copy given (by decide)

/-- A body in which an empty element and one that is never closed stand before two others. -/
def brokenBody : Text :=
  "<Code></Code><Code>lost<Code>BlobNotFound</Code><Code>Other</Code>"

/-- A failure about that body, with a header field. -/
def brokenAnswer (code : Text) : Failure :=
  unexpectedStatus "404" (.ofNat 404) (.string brokenBody) ⟨[(ServiceCode.codeHeader, code)]⟩

theorem errorCode_reads_broken :
    (brokenAnswer "LeaseLost").errorCode = .ok (some "LeaseLost") ∧
      (brokenAnswer []).errorCode = .ok (some "BlobNotFound") ∧
      ∃ before after, ServiceCode.FirstElement brokenBody before "BlobNotFound" after := by
  have named : Headers.get? (Headers.copy ⟨[(ServiceCode.codeHeader, "LeaseLost")]⟩)
      ServiceCode.codeHeader = some (Text.ofString "LeaseLost") := by
    decide +kernel
  have silent : ∀ code, Headers.get? (Headers.copy ⟨[(ServiceCode.codeHeader, [])]⟩)
      ServiceCode.codeHeader = some code → code = [] := by
    have empty : Headers.get? (Headers.copy ⟨[(ServiceCode.codeHeader, [])]⟩)
        ServiceCode.codeHeader = some [] := by
      decide +kernel
    rw [empty]
    rintro code ⟨⟩
    rfl
  have searched : ServiceCode.ofBody? brokenBody = some (Text.ofString "BlobNotFound") := by
    decide +kernel
  obtain ⟨header, -, -⟩ := @errorCode_reads (brokenAnswer "LeaseLost") _ _ _ rfl
  obtain ⟨-, body, -⟩ := @errorCode_reads (brokenAnswer []) _ _ _ rfl
  obtain ⟨found, -, skipped⟩ := body silent
  have code : (brokenAnswer []).errorCode = .ok (some "BlobNotFound") := by
    rw [skipped [] brokenBody rfl fun _ _ _ _ => Nat.zero_le _, searched]
  exact ⟨header _ named (by decide), code, (found _).mp code⟩

end Failure

end BlobStorage
