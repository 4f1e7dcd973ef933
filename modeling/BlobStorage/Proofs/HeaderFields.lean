import BlobStorage.Headers.Options

/-!
# Looking up header fields

Setting a field changes what is read under its name, in any case, and under no other.  Merging is
followed by a lookup of the last entry of a name.
-/

namespace BlobStorage

namespace Text

theorem exists_append_trim (p : UInt16 → Bool) (text : Text) :
    ∃ before after, text = before ++ trim p text ++ after ∧ ∀ u ∈ before ++ after, p u = true := by
  refine ⟨text.takeWhile p, ((text.dropWhile p).reverse.takeWhile p).reverse, ?_, ?_⟩
  · rw [List.append_assoc, trim, trimEnd, ← List.reverse_append, List.takeWhile_append_dropWhile,
      List.reverse_reverse, List.takeWhile_append_dropWhile]
  · intro u member
    rw [List.mem_append, List.mem_reverse] at member
    rcases member with starts | ends
    · exact List.all_eq_true.mp List.all_takeWhile u starts
    · exact List.all_eq_true.mp List.all_takeWhile u ends

theorem mem_of_mem_trim {p : UInt16 → Bool} {text : Text} {u : UInt16}
    (member : u ∈ trim p text) : u ∈ text := by
  obtain ⟨before, after, whole, -⟩ := exists_append_trim p text
  rw [whole]
  exact List.mem_append_left _ (List.mem_append_right _ member)

theorem getLast?_trim (p : UInt16 → Bool) (text : Text) :
    ∀ u ∈ (trim p text).getLast?, p u = false := by
  intro u last
  rw [trim, trimEnd, List.getLast?_reverse, Option.mem_def] at last
  have stopped := List.head?_dropWhile_not p (text.dropWhile p).reverse
  rw [last] at stopped
  exact stopped

theorem head?_trim (p : UInt16 → Bool) (text : Text) :
    ∀ u ∈ (trim p text).head?, p u = false := by
  intro u first
  have stopped := List.head?_dropWhile_not p text
  have kept : trim p text <+: text.dropWhile p := by
    rw [trim, trimEnd, ← List.reverse_suffix, List.reverse_reverse]
    exact List.dropWhile_suffix p
  obtain ⟨after, whole⟩ := kept
  rw [← whole, List.head?_append, first] at stopped
  exact stopped

theorem trim_eq_self {p : UInt16 → Bool} {text : Text} (starts : ∀ u ∈ text.head?, p u = false)
    (ends : ∀ u ∈ text.getLast?, p u = false) : trim p text = text := by
  have keepsStart : text.dropWhile p = text := by
    cases text with
    | nil => rfl
    | cons first rest => simp [starts first rfl]
  have keepsEnd : text.reverse.dropWhile p = text.reverse := by
    rw [List.getLast?_eq_head?_reverse] at ends
    cases reversed : text.reverse with
    | nil => rfl
    | cons last rest =>
        rw [reversed] at ends
        simp [ends last rfl]
  rw [trim, keepsStart, trimEnd, keepsEnd, List.reverse_reverse]

end Text

namespace Headers

theorem isValidValue_normalizeValue {value : Text} (valid : isValidValue value) :
    isValidValue (normalizeValue value) := by
  unfold isValidValue at valid ⊢
  rw [List.all_eq_true] at valid ⊢
  intro u member
  exact valid u (Text.mem_of_mem_trim member)

theorem set?_eq_some_iff {headers next : Headers} {name value : Text} :
    headers.set? name value = some next ↔
      isName name ∧ isValidValue (normalizeValue value) ∧
        next = ⟨(headers.without (Text.lower name)).fields ++
          [(Text.lower name, normalizeValue value)]⟩ := by
  unfold set?
  by_cases named : isName name <;> by_cases valid : isValidValue (normalizeValue value) <;>
    simp [named, valid, eq_comm]

theorem delete?_eq_some_iff {headers next : Headers} {name : Text} :
    headers.delete? name = some next ↔
      isName name ∧ next = headers.without (Text.lower name) := by
  unfold delete?
  by_cases named : isName name <;> simp [named, eq_comm]

/-- A field that can be set among some fields can be set among any. -/
theorem set?_total {name value : Text} (named : isName name) (valid : isValidValue value)
    (headers : Headers) : ∃ next, headers.set? name value = some next :=
  ⟨_, set?_eq_some_iff.mpr ⟨named, isValidValue_normalizeValue valid, rfl⟩⟩

theorem valuesOf_without (headers : Headers) (name other : Text) :
    (headers.without name).valuesOf other =
      if other = name then [] else headers.valuesOf other := by
  unfold valuesOf without
  rw [List.filter_filter]
  by_cases same : other = name
  · subst other
    simp
  · have unaffected : ∀ field ∈ headers.fields,
        (field.1 == other && field.1 != name) = (field.1 == other) := by
      intro field _
      by_cases own : field.1 = other
      · simp [own, same]
      · simp [own]
    simp [same, List.filter_congr unaffected]

theorem valuesOf_delete? {headers next : Headers} {name : Text}
    (deleted : headers.delete? name = some next) (other : Text) :
    next.valuesOf other = if other = Text.lower name then [] else headers.valuesOf other := by
  obtain ⟨-, rfl⟩ := delete?_eq_some_iff.mp deleted
  exact valuesOf_without headers (Text.lower name) other

theorem valuesOf_set? {headers next : Headers} {name value : Text}
    (set : headers.set? name value = some next) (other : Text) :
    next.valuesOf other =
      if other = Text.lower name then [normalizeValue value] else headers.valuesOf other := by
  obtain ⟨-, -, rfl⟩ := set?_eq_some_iff.mp set
  have kept := valuesOf_without headers (Text.lower name) other
  unfold valuesOf at kept ⊢
  rw [List.filter_append, List.map_append, kept]
  by_cases same : other = Text.lower name
  · simp [same]
  · simp [same, Ne.symm same]

/-- A field that was set reads as the value without the blanks at its ends under every spelling,
and the others are as before. -/
theorem get?_set? {headers next : Headers} {name value : Text}
    (set : headers.set? name value = some next) (other : Text) :
    next.get? other =
      if Text.lower other = Text.lower name then some (normalizeValue value)
      else headers.get? other := by
  rw [get?, valuesOf_set? set, get?]
  by_cases same : Text.lower other = Text.lower name
  · simp [same, Text.join]
  · simp [same]

end Headers

namespace HeaderOptions

/-- A field with a text, or one that is taken away, as an entry of a source. -/
def fieldEntry (field : Text × Option Text) : Value × Value :=
  (.string field.1,
    match field.2 with
    | some text => .string text
    | none => .null)

/-- The last field of a name in any case: its text, or that it is taken away. -/
def lastField? (fields : List (Text × Option Text)) (name : Text) : Option (Option Text) :=
  (fields.reverse.find? fun field => Text.lower field.1 == Text.lower name).map (·.2)

theorem lastField?_cons (field : Text × Option Text) (fields : List (Text × Option Text))
    (name : Text) :
    lastField? (field :: fields) name =
      (lastField? fields name).or
        (if Text.lower name = Text.lower field.1 then some field.2 else none) := by
  unfold lastField?
  rw [List.reverse_cons, List.find?_append]
  cases fields.reverse.find? fun field => Text.lower field.1 == Text.lower name with
  | some last => rfl
  | none =>
      by_cases same : Text.lower name = Text.lower field.1
      · simp [same]
      · simp [same, Ne.symm same]

theorem lastField?_append (first second : List (Text × Option Text)) (name : Text) :
    lastField? (first ++ second) name = (lastField? second name).or (lastField? first name) := by
  unfold lastField?
  rw [List.reverse_append, List.find?_append, Option.map_or]

end HeaderOptions

end BlobStorage
