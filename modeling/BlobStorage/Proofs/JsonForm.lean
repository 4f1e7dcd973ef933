import BlobStorage.Proofs.ResponseReading

/-!
# Values without a JSON form

Nothing but a bigint keeps a value from being written as JSON, and only one that the writing comes
to: in an item of a list, in an entry of a record that does not write itself, in the name of a
failure of this library, or in the issues of a failure.  The value of an issue is written if and
only if what it shows is.
-/

namespace BlobStorage

namespace Json

/-- A bigint stands where the writing of a value comes to it. -/
inductive HoldsBigint : Value → Prop where
  | here (n : Int) : HoldsBigint (.bigint n)
  | item {items : List Value} {item : Value} (member : item ∈ items)
      (holds : HoldsBigint item) : HoldsBigint (.list items)
  | entry {entries : List (Text × Value)} {entry : Text × Value}
      (shown : writesItself entries = false) (member : entry ∈ entries)
      (holds : HoldsBigint entry.2) : HoldsBigint (.record entries)
  | name {failure : Failure} (named : failure.kind.request?.isSome = true)
      (holds : HoldsBigint failure.name) : HoldsBigint (.failure failure)
  | issues {failure : Failure} {list : Value} (listed : failure.detail = .issues list)
      (holds : HoldsBigint list) : HoldsBigint (.failure failure)

theorem writeItems?_eq_none_iff {items : List Value} :
    writeItems? items = none ↔ ∃ item ∈ items, write? item = none := by
  induction items with
  | nil => simp [writeItems?]
  | cons item items induction =>
      cases written : write? item with
      | none => simp [writeItems?, written]
      | some text =>
          have rest : writeItems? (item :: items) = none ↔ writeItems? items = none := by
            cases writtenRest : writeItems? items <;> simp [writeItems?, written, writtenRest]
          rw [rest, induction]
          simp [written]

theorem writeMembers?_eq_none_iff {entries : List (Text × Value)} :
    writeMembers? entries = none ↔ ∃ entry ∈ entries, write? entry.2 = none := by
  induction entries with
  | nil => simp [writeMembers?]
  | cons entry entries induction =>
      obtain ⟨name, value⟩ := entry
      cases written : write? value with
      | none => simp [writeMembers?, written]
      | some text =>
          have rest : writeMembers? ((name, value) :: entries) = none ↔
              writeMembers? entries = none := by
            cases writtenRest : writeMembers? entries <;>
              simp [writeMembers?, written, writtenRest]
          rw [rest, induction]
          simp [written]

theorem write?_list_eq_none_iff {items : List Value} :
    write? (.list items) = none ↔ ∃ item ∈ items, write? item = none := by
  rw [← writeItems?_eq_none_iff]
  cases written : writeItems? items <;> simp [write?, written]

theorem write?_record_eq_none_iff {entries : List (Text × Value)} :
    write? (.record entries) = none ↔
      writesItself entries = false ∧ ∃ entry ∈ entries, write? entry.2 = none := by
  rw [← writeMembers?_eq_none_iff]
  cases own : writesItself entries <;> cases written : writeMembers? entries <;>
    simp [write?, own, written]

theorem write?_failure_eq_none_iff {failure : Failure} :
    write? (.failure failure) = none ↔
      (failure.kind.request?.isSome = true ∧ write? failure.name = none) ∨
        ∃ list, failure.detail = .issues list ∧ write? list = none := by
  obtain ⟨kind, name, message, cause, detail⟩ := failure
  cases named : kind.request?.isSome <;> cases written : write? name <;> cases detail with
    | issues list => cases listed : write? list <;> simp [write?, named, written, listed]
    | _ => simp [write?, named, written]

theorem HoldsBigint.write?_eq_none {value : Value} (holds : HoldsBigint value) :
    write? value = none := by
  induction holds with
  | here n => rw [write?]
  | item member holds induction => exact write?_list_eq_none_iff.mpr ⟨_, member, induction⟩
  | entry shown member holds induction =>
      exact write?_record_eq_none_iff.mpr ⟨shown, _, member, induction⟩
  | name named holds induction => exact write?_failure_eq_none_iff.mpr (.inl ⟨named, induction⟩)
  | issues listed holds induction =>
      exact write?_failure_eq_none_iff.mpr (.inr ⟨_, listed, induction⟩)

mutual

theorem holdsBigint_of_write? : (value : Value) → write? value = none → HoldsBigint value
  | .bigint n, _ => .here n
  | .list items, refused => by
      obtain ⟨item, member, holds⟩ :=
        holdsBigint_of_writeItems? items
          (writeItems?_eq_none_iff.mpr (write?_list_eq_none_iff.mp refused))
      exact .item member holds
  | .record entries, refused => by
      obtain ⟨shown, unwritten⟩ := write?_record_eq_none_iff.mp refused
      obtain ⟨entry, member, holds⟩ :=
        holdsBigint_of_writeMembers? entries (writeMembers?_eq_none_iff.mpr unwritten)
      exact .entry shown member holds
  | .failure ⟨kind, name, message, cause, detail⟩, refused => by
      rcases write?_failure_eq_none_iff.mp refused with
        ⟨named, unwritten⟩ | ⟨list, listed, unwritten⟩
      · exact .name named (holdsBigint_of_write? name unwritten)
      · cases detail with
        | issues list =>
            obtain rfl := DetailOf.issues.inj listed
            exact .issues rfl (holdsBigint_of_write? _ unwritten)
        | _ => cases listed
  | .undefined, refused | .null, refused | .number _, refused | .string _, refused
  | .symbol _, refused | .function, refused => by simp [write?] at refused
  | .boolean b, refused => by cases b <;> simp [write?] at refused

theorem holdsBigint_of_writeItems? :
    (items : List Value) → writeItems? items = none → ∃ item ∈ items, HoldsBigint item
  | [], refused => by simp [writeItems?] at refused
  | item :: items, refused => by
      obtain ⟨unwritten, member, refused⟩ := writeItems?_eq_none_iff.mp refused
      rcases List.mem_cons.mp member with first | later
      · exact ⟨item, List.mem_cons_self, holdsBigint_of_write? item (first ▸ refused)⟩
      · obtain ⟨found, member, holds⟩ := holdsBigint_of_writeItems? items
          (writeItems?_eq_none_iff.mpr ⟨unwritten, later, refused⟩)
        exact ⟨found, List.mem_cons_of_mem item member, holds⟩

theorem holdsBigint_of_writeMembers? :
    (entries : List (Text × Value)) → writeMembers? entries = none →
      ∃ entry ∈ entries, HoldsBigint entry.2
  | [], refused => by simp [writeMembers?] at refused
  | (name, value) :: entries, refused => by
      obtain ⟨unwritten, member, refused⟩ := writeMembers?_eq_none_iff.mp refused
      rcases List.mem_cons.mp member with first | later
      · subst unwritten
        exact ⟨(name, value), List.mem_cons_self, holdsBigint_of_write? value refused⟩
      · obtain ⟨found, member, holds⟩ := holdsBigint_of_writeMembers? entries
          (writeMembers?_eq_none_iff.mpr ⟨unwritten, later, refused⟩)
        exact ⟨found, List.mem_cons_of_mem _ member, holds⟩

end

/-- A value has no JSON form if and only if it holds a bigint. -/
theorem write?_eq_none_iff {value : Value} : write? value = none ↔ HoldsBigint value :=
  ⟨holdsBigint_of_write? value, HoldsBigint.write?_eq_none⟩

end Json

end BlobStorage
