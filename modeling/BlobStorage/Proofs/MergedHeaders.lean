import BlobStorage.Proofs.LegalHeaders

/-!
# Merged header fields

Sources of header fields are merged entry by entry.  Some entries are left out, for their values
have no text to send.  Of the others one decides under each name: the last one, in any case, and
what was merged before makes no difference.  Merging fails if and only if one of these entries
cannot be sent.
-/

namespace BlobStorage

namespace HeaderOptions

/-- The entries of header fields, as a reader sees them. -/
def sourceEntries (source : Headers) : List (Value × Value) :=
  source.entries.map fun field => (.string field.1, .string field.2)

/-- The kinds of sources, with the entries that they list: nothing, a record, a list of lists whose
first two items count, and header fields as a reader sees them. -/
inductive Lists : HeaderOptions → List (Value × Value) → Prop where
  | undefined : Lists (.value .undefined) []
  | null : Lists (.value .null) []
  | record (entries : List (Text × Value)) :
      Lists (.value (.record entries)) (entries.map fun entry => (.string entry.1, entry.2))
  | list (pairs : List (List Value)) :
      Lists (.value (.list (pairs.map .list)))
        (pairs.map fun pair => (pair.getD 0 .undefined, pair.getD 1 .undefined))
  | headers (source : Headers) : Lists (.headers source) (sourceEntries source)

theorem Lists.entries? {source : HeaderOptions} {entries : List (Value × Value)}
    (lists : source.Lists entries) : source.entries? = some entries := by
  cases lists with
  | undefined => rfl
  | null => rfl
  | record entries => rfl
  | headers source => rfl
  | list pairs =>
      rw [HeaderOptions.entries?]
      induction pairs with
      | nil => rfl
      | cons pair pairs induction =>
          rw [List.map_cons, List.mapM_cons, induction]
          rfl

theorem lists_absent : absent.Lists [] := .undefined

theorem merge?_of_lists {source : HeaderOptions} {entries : List (Value × Value)}
    (lists : source.Lists entries) (second : HeaderOptions) :
    merge? source second = second.entries?.bind fun later =>
      (entries.foldlM mergeEntry .empty).bind fun between => later.foldlM mergeEntry between := by
  rw [merge?, lists.entries?]
  rfl

theorem merge?_of_both_list {first second : HeaderOptions} {before after : List (Value × Value)}
    (listsFirst : first.Lists before) (listsSecond : second.Lists after) :
    merge? first second = (before ++ after).foldlM mergeEntry .empty := by
  rw [merge?_of_lists listsFirst, listsSecond.entries?, List.foldlM_append]
  rfl

/-- Values that are left out: objects, functions and symbols. -/
def isLeftOut : Value → Bool
  | .list _ | .record _ | .failure _ | .function | .symbol _ => true
  | _ => false

/-- The entries that are not left out. -/
def remaining (entries : List (Value × Value)) : List (Value × Value) :=
  entries.filter fun entry => !isLeftOut entry.2

/-- An entry that cannot be sent: its name is no token, or it has a value whose text is refused. -/
def Refused (entry : Value × Value) : Prop :=
  (∀ name, entry.1.toText? = some name → ¬ Headers.isName name) ∨
    entry.2.isPresent ∧ ∀ text, entry.2.describe? = some text →
      ¬ Headers.isValidValue (Headers.normalizeValue text)

/-- An entry under a name in lower case, whichever case it has itself. -/
def isNamed (key : Text) (entry : Value × Value) : Bool :=
  entry.1.toText?.map Text.lower == some key

theorem isNamed_string (key own : Text) (value : Value) :
    isNamed key (.string own, value) = (Text.lower own == key) := by
  simp [isNamed]

/-- The last of the entries under a name. -/
def lastNamed? (key : Text) (entries : List (Value × Value)) : Option (Value × Value) :=
  (entries.filter (isNamed key)).getLast?

/-- What an entry leaves under its name: its text without the blanks at the ends, or nothing. -/
def heldText? (value : Value) : Option Text :=
  if value.isPresent then value.describe?.map Headers.normalizeValue else none

/-- What an entry does: it is left out, it takes a field away, or it sets one. -/
inductive Deed (value : Value) : Prop where
  | skips (leftOut : isLeftOut value = true)
      (merges : ∀ headers name, mergeEntry headers (name, value) = some headers)
  | removes (kept : isLeftOut value = false) (absent : value.isPresent = false)
      (merges : ∀ headers name,
        mergeEntry headers (name, value) = name.toText?.bind headers.delete?)
  | sets (text : Text) (kept : isLeftOut value = false) (present : value.isPresent = true)
      (described : value.describe? = some text)
      (merges : ∀ headers name, mergeEntry headers (name, value) =
        name.toText?.bind fun name => headers.set? name text)

theorem deed (value : Value) : Deed value := by
  cases value with
  | undefined => exact .removes rfl rfl fun _ _ => rfl
  | null => exact .removes rfl rfl fun _ _ => rfl
  | boolean b =>
      cases b with
      | false => exact .sets "false" rfl rfl rfl fun _ _ => rfl
      | true => exact .sets "true" rfl rfl rfl fun _ _ => rfl
  | number n => exact .sets n.toText rfl rfl (Value.describe?_number n) fun _ _ => rfl
  | bigint n => exact .sets (Text.ofInt n) rfl rfl (Value.describe?_bigint n) fun _ _ => rfl
  | string text => exact .sets text rfl rfl (Value.describe?_string text) fun _ _ => rfl
  | symbol description => exact .skips rfl fun _ _ => rfl
  | function => exact .skips rfl fun _ _ => rfl
  | list items => exact .skips rfl fun _ _ => rfl
  | record entries => exact .skips rfl fun _ _ => rfl
  | failure reported => exact .skips rfl fun _ _ => rfl

section Step

variable {headers next : Headers} {entry : Value × Value}

/-- An entry is refused for what it is, whichever fields it is merged into. -/
theorem mergeEntry_eq_none_iff :
    mergeEntry headers entry = none ↔ isLeftOut entry.2 = false ∧ Refused entry := by
  obtain ⟨name, value⟩ := entry
  cases deed value with
  | skips leftOut merges => simp [merges, leftOut]
  | removes kept absent merges => simp [merges, Refused, kept, absent, Headers.delete?]
  | sets text kept present described merges =>
      have settable : ∀ own, headers.set? own text = none ↔
          ¬ Headers.isName own ∨ ¬ Headers.isValidValue (Headers.normalizeValue text) := by
        intro own
        by_cases named : Headers.isName own <;> simp [Headers.set?, named]
      rw [merges, Option.bind_eq_none_iff]
      simp only [settable, Refused, kept, present, described, true_and, Option.some.injEq,
        forall_eq']
      cases converted : name.toText? with
      | none => simp
      | some own => simp

theorem valuesOf_mergeEntry (merged : mergeEntry headers entry = some next) (key : Text) :
    next.valuesOf key =
      if !isLeftOut entry.2 && isNamed key entry then (heldText? entry.2).toList
      else headers.valuesOf key := by
  obtain ⟨name, value⟩ := entry
  have named : ∀ own, name.toText? = some own → (isNamed key (name, value) = true ↔
      key = Text.lower own) := by
    intro own converted
    rw [isNamed, converted, Option.map_some, beq_iff_eq, Option.some.injEq, eq_comm]
  cases deed value with
  | skips leftOut merges =>
      rw [merges] at merged
      obtain rfl := Option.some.inj merged
      simp [leftOut]
  | removes kept absent merges =>
      rw [merges] at merged
      obtain ⟨own, converted, deleted⟩ := Option.bind_eq_some_iff.mp merged
      rw [Headers.valuesOf_delete? deleted, heldText?]
      simp [kept, absent, named own converted]
  | sets text kept present described merges =>
      rw [merges] at merged
      obtain ⟨own, converted, set⟩ := Option.bind_eq_some_iff.mp merged
      rw [Headers.valuesOf_set? set, heldText?]
      simp [kept, present, described, named own converted]

theorem legal_mergeEntry (legal : headers.Legal) (merged : mergeEntry headers entry = some next) :
    next.Legal := by
  obtain ⟨name, value⟩ := entry
  cases deed value with
  | skips leftOut merges =>
      rw [merges] at merged
      exact Option.some.inj merged ▸ legal
  | removes kept absent merges =>
      rw [merges] at merged
      obtain ⟨own, -, deleted⟩ := Option.bind_eq_some_iff.mp merged
      exact legal.delete? deleted
  | sets text kept present described merges =>
      rw [merges] at merged
      obtain ⟨own, -, set⟩ := Option.bind_eq_some_iff.mp merged
      exact legal.set? set

end Step

section Run

variable {headers next : Headers} {entries : List (Value × Value)}

theorem lastNamed?_remaining_cons (key : Text) (entry : Value × Value)
    (entries : List (Value × Value)) :
    lastNamed? key (remaining (entry :: entries)) =
      (lastNamed? key (remaining entries)).or
        (if !isLeftOut entry.2 && isNamed key entry then some entry else none) := by
  have counted : ∀ entries, lastNamed? key (remaining entries) =
      (entries.filter fun entry => isNamed key entry && !isLeftOut entry.2).getLast? := by
    intro entries
    rw [lastNamed?, remaining, List.filter_filter]
  rw [counted, counted, List.filter_cons, Bool.and_comm]
  by_cases counts : (!isLeftOut entry.2 && isNamed key entry) = true
  · rw [if_pos counts, if_pos counts, List.getLast?_cons]
    cases (entries.filter fun entry => isNamed key entry && !isLeftOut entry.2).getLast? <;> rfl
  · rw [if_neg counts, if_neg counts, Option.or_none]

theorem mergeEntries_eq_none_iff :
    entries.foldlM mergeEntry headers = none ↔ ∃ entry ∈ remaining entries, Refused entry := by
  have refused : ∀ entry, (entry ∈ remaining entries ∧ Refused entry) ↔
      entry ∈ entries ∧ isLeftOut entry.2 = false ∧ Refused entry := by
    intro entry
    rw [remaining, List.mem_filter, Bool.not_eq_true', and_assoc]
  simp only [refused]
  clear refused
  induction entries generalizing headers with
  | nil => simp
  | cons entry entries induction =>
      have own := @mergeEntry_eq_none_iff headers entry
      simp only [List.mem_cons, exists_eq_or_imp, ← own, List.foldlM_cons]
      cases first : mergeEntry headers entry with
      | none => simp
      | some between => simpa using induction

/-- The last of the entries that are not left out decides under each name. -/
theorem valuesOf_mergeEntries (merged : entries.foldlM mergeEntry headers = some next)
    (key : Text) :
    next.valuesOf key =
      match lastNamed? key (remaining entries) with
      | some entry => (heldText? entry.2).toList
      | none => headers.valuesOf key := by
  induction entries generalizing headers with
  | nil =>
      obtain rfl := Option.some.inj merged
      rfl
  | cons entry entries induction =>
      rw [List.foldlM_cons] at merged
      obtain ⟨between, first, rest⟩ := Option.bind_eq_some_iff.mp merged
      rw [induction rest, lastNamed?_remaining_cons]
      cases lastNamed? key (remaining entries) with
      | some last => rfl
      | none =>
          rw [valuesOf_mergeEntry first, Option.none_or]
          by_cases counts : (!isLeftOut entry.2 && isNamed key entry) = true
          · rw [if_pos counts, if_pos counts]
          · rw [if_neg counts, if_neg counts]

theorem get?_mergeEntries (merged : entries.foldlM mergeEntry headers = some next) (name : Text) :
    next.get? name =
      match lastNamed? (Text.lower name) (remaining entries) with
      | some entry => heldText? entry.2
      | none => headers.get? name := by
  rw [Headers.get?, valuesOf_mergeEntries merged]
  cases lastNamed? (Text.lower name) (remaining entries) with
  | none => rfl
  | some entry => cases held : heldText? entry.2 <;> simp [held, Text.join]

theorem get?_mergeEntries_other {name : Text}
    (merged : entries.foldlM mergeEntry headers = some next)
    (other : ∀ entry ∈ entries, ∀ own, entry.1.toText? = some own →
      Text.lower own ≠ Text.lower name) :
    next.get? name = headers.get? name := by
  have none : lastNamed? (Text.lower name) (remaining entries) = none := by
    rw [lastNamed?, List.getLast?_eq_none_iff, List.filter_eq_nil_iff]
    intro entry member named
    obtain ⟨own, converted, same⟩ := Option.map_eq_some_iff.mp (eq_of_beq named)
    exact other entry (List.mem_filter.mp member).1 own converted same
  rw [get?_mergeEntries merged, none]

theorem lastNamed?_fieldEntries (fields : List (Text × Option Text)) (name : Text) :
    lastNamed? (Text.lower name) (remaining (fields.map fieldEntry)) =
      (fields.reverse.find? fun field => Text.lower field.1 == Text.lower name).map fieldEntry := by
  have kept : remaining (fields.map fieldEntry) = fields.map fieldEntry := by
    rw [remaining, List.filter_eq_self, List.forall_mem_map]
    rintro ⟨own, text?⟩ -
    cases text? <;> rfl
  have named : isNamed (Text.lower name) ∘ fieldEntry = fun field =>
      Text.lower field.1 == Text.lower name := by
    funext field
    exact isNamed_string _ _ _
  rw [kept, lastNamed?, List.filter_map, named, List.getLast?_map, List.getLast?_eq_head?_reverse,
    ← List.filter_reverse, List.head?_filter]

theorem get?_mergeFields {fields : List (Text × Option Text)}
    (merged : (fields.map fieldEntry).foldlM mergeEntry headers = some next) (name : Text) :
    next.get? name =
      match lastField? fields name with
      | some text? => text?.map Headers.normalizeValue
      | none => headers.get? name := by
  rw [get?_mergeEntries merged, lastNamed?_fieldEntries, lastField?]
  cases fields.reverse.find? fun field => Text.lower field.1 == Text.lower name with
  | none => rfl
  | some field =>
      obtain ⟨own, text?⟩ := field
      cases text? with
      | none => rfl
      | some text => simp [heldText?, fieldEntry, Value.isPresent]

theorem legal_mergeEntries (legal : headers.Legal)
    (merged : entries.foldlM mergeEntry headers = some next) : next.Legal :=
  Headers.legal_of_foldlM (fun _ _ _ legal merged => legal_mergeEntry legal merged) legal merged

theorem entries_mergeEntries_congr {left right : Headers}
    (same : ∀ key, left.valuesOf key = right.valuesOf key) (entries : List (Value × Value)) :
    (entries.foldlM mergeEntry left).map Headers.entries =
      (entries.foldlM mergeEntry right).map Headers.entries := by
  cases leftMerged : entries.foldlM mergeEntry left with
  | none =>
      have refused := mergeEntries_eq_none_iff.mp leftMerged
      rw [mergeEntries_eq_none_iff.mpr refused]
  | some leftNext =>
      cases rightMerged : entries.foldlM mergeEntry right with
      | none =>
          have refused := mergeEntries_eq_none_iff.mp rightMerged
          rw [mergeEntries_eq_none_iff.mpr refused] at leftMerged
          cases leftMerged
      | some rightNext =>
          refine congrArg some (Headers.entries_eq_of_valuesOf ?_)
          intro key
          rw [valuesOf_mergeEntries leftMerged, valuesOf_mergeEntries rightMerged, same]

end Run

section Source

variable {source rebuilt : Headers}

theorem remaining_sourceEntries (source : Headers) :
    remaining (sourceEntries source) = sourceEntries source := by
  rw [remaining, List.filter_eq_self, sourceEntries, List.forall_mem_map]
  exact fun _ _ => rfl

/-- The last text that a reader sees of a name is the last entry under it. -/
theorem lastNamed?_sourceEntries (legal : source.Legal) (key : Text) :
    lastNamed? key (sourceEntries source) =
      if key ∈ source.names then some (.string key, .string (source.viewText key)) else none := by
  have matched : ∀ field ∈ source.entries,
      isNamed key (.string field.1, .string field.2) = (field.1 == key) := by
    intro field member
    rw [isNamed_string, (legal.legal_of_mem_entries member).1.2]
  have found : (sourceEntries source).filter (isNamed key) =
      (source.entries.filter fun field => field.1 == key).map fun field =>
        (.string field.1, .string field.2) := by
    rw [sourceEntries, List.filter_map]
    exact congrArg _ (List.filter_congr matched)
  rw [lastNamed?, found, Headers.filter_entries]
  by_cases inUse : key ∈ source.names
  · rw [if_pos inUse, if_pos inUse, List.getLast?_map, Headers.getLast?_entriesOf inUse,
      Option.map_some]
  · rw [if_neg inUse, if_neg inUse]
    rfl

/-- Legal fields are merged as they look: under each name the text of the record, without the
blanks at its ends. -/
theorem exists_mergeEntries_source (legal : source.Legal) :
    ∃ rebuilt, (sourceEntries source).foldlM mergeEntry .empty = some rebuilt ∧
      ∀ key, rebuilt.valuesOf key =
        if key ∈ source.names then [Headers.normalizeValue (source.viewText key)] else [] := by
  cases merged : (sourceEntries source).foldlM mergeEntry .empty with
  | none =>
      obtain ⟨entry, member, refused⟩ := mergeEntries_eq_none_iff.mp merged
      rw [remaining_sourceEntries] at member
      obtain ⟨field, among, rfl⟩ := List.mem_map.mp member
      obtain ⟨⟨named, -⟩, valid⟩ := legal.legal_of_mem_entries among
      rcases refused with noName | ⟨-, noValue⟩
      · exact absurd named (noName field.1 (Value.toText?_string field.1))
      · exact absurd (Headers.isValidValue_normalizeValue valid)
          (noValue field.2 (Value.describe?_string field.2))
  | some rebuilt =>
      refine ⟨rebuilt, rfl, ?_⟩
      intro key
      rw [valuesOf_mergeEntries merged, remaining_sourceEntries, lastNamed?_sourceEntries legal]
      by_cases inUse : key ∈ source.names
      · simp [inUse, heldText?, Value.isPresent]
      · simp [inUse, Headers.valuesOf, Headers.empty]

end Source

end HeaderOptions

namespace Headers

theorem viewText_of_single {headers : Headers} {name value : Text}
    (single : headers.valuesOf name = [value]) : headers.viewText name = value := by
  unfold viewText
  rw [single]
  split <;> rfl

theorem view_of_rebuilt {source rebuilt : Headers}
    (values : ∀ key, rebuilt.valuesOf key =
      if key ∈ source.names then [normalizeValue (source.viewText key)] else []) :
    rebuilt.view = source.view.map fun field => (field.1, normalizeValue field.2) := by
  have names : rebuilt.names = source.names := by
    apply names_eq_of_mem_iff
    intro name
    rw [mem_names_iff, values]
    by_cases inUse : name ∈ source.names <;> simp [inUse]
  rw [view_eq, view_eq, names, List.map_map]
  apply List.map_congr_left
  intro name inUse
  have single := values name
  rw [if_pos inUse] at single
  rw [viewText_of_single single]
  rfl

end Headers

namespace HeaderOptions

/-- Fields that were merged have one value without blanks at its ends under each name, and so come
out the same when they are merged again. -/
theorem exists_mergeEntries_again {entries : List (Value × Value)} {merged : Headers}
    (made : entries.foldlM mergeEntry .empty = some merged) :
    ∃ rebuilt, (sourceEntries merged).foldlM mergeEntry .empty = some rebuilt ∧
      ∀ key, rebuilt.valuesOf key = merged.valuesOf key := by
  have legal := legal_mergeEntries Headers.legal_empty made
  obtain ⟨rebuilt, again, values⟩ := exists_mergeEntries_source legal
  refine ⟨rebuilt, again, ?_⟩
  intro key
  have single : merged.valuesOf key = [] ∨ ∃ value, merged.valuesOf key = [value] := by
    rw [valuesOf_mergeEntries made]
    cases lastNamed? key (remaining entries) with
    | none => exact .inl rfl
    | some entry =>
        dsimp only
        cases heldText? entry.2 with
        | none => exact .inl rfl
        | some value => exact .inr ⟨value, rfl⟩
  rw [values]
  rcases single with none | ⟨value, one⟩
  · rw [none, if_neg (by rw [Headers.mem_names_iff, none]; simp)]
  · have plain : Headers.normalizeValue value = value :=
      (legal.sendable_of_mem_valuesOf (one ▸ List.mem_singleton_self value)).2
    rw [one, if_pos (by rw [Headers.mem_names_iff, one]; simp), Headers.viewText_of_single one,
      plain]

theorem view_merge?_nothing {source : Headers} {nothing : HeaderOptions} (legal : source.Legal)
    (listsNothing : nothing.Lists []) :
    (merge? (.headers source) nothing).map Headers.view =
        some (source.view.map fun field => (field.1, Headers.normalizeValue field.2)) ∧
      (merge? nothing (.headers source)).map Headers.view =
        some (source.view.map fun field => (field.1, Headers.normalizeValue field.2)) := by
  obtain ⟨rebuilt, merged, values⟩ := exists_mergeEntries_source legal
  rw [merge?_of_both_list (.headers source) listsNothing,
    merge?_of_both_list listsNothing (.headers source), List.append_nil, List.nil_append, merged,
    Option.map_some, Headers.view_of_rebuilt values]
  exact ⟨rfl, rfl⟩

/-- The last of the entries of two sources that are not left out decides under each name, and
merging fails if and only if one of them cannot be sent.  So a third source can be merged into the
result, or behind the first two; and fields that are merged with nothing keep their record, but for
blanks at the ends of its texts. -/
theorem merge_by_last_entry {first second : HeaderOptions} {before after : List (Value × Value)}
    (listsFirst : first.Lists before) (listsSecond : second.Lists after) :
    (merge? first second = none ↔ ∃ entry ∈ remaining (before ++ after), Refused entry) ∧
      (∀ merged, merge? first second = some merged →
        (∀ name, merged.get? name =
          (lastNamed? (Text.lower name) (remaining (before ++ after))).bind fun entry =>
            heldText? entry.2) ∧
        ∀ both third : HeaderOptions, both.Lists (before ++ after) →
          (merge? (.headers merged) third).map Headers.entries =
            (merge? both third).map Headers.entries) ∧
      ∀ (source : Headers) (nothing : HeaderOptions), source.Legal → nothing.Lists [] →
        (merge? (.headers source) nothing).map Headers.view =
            some (source.view.map fun field => (field.1, Headers.normalizeValue field.2)) ∧
          (merge? nothing (.headers source)).map Headers.view =
            some (source.view.map fun field => (field.1, Headers.normalizeValue field.2)) := by
  rw [merge?_of_both_list listsFirst listsSecond]
  refine ⟨mergeEntries_eq_none_iff, ?_, fun _ _ legal nothing => view_merge?_nothing legal nothing⟩
  intro merged made
  constructor
  · intro name
    rw [get?_mergeEntries made]
    cases lastNamed? (Text.lower name) (remaining (before ++ after)) <;> rfl
  · intro both third listsBoth
    obtain ⟨rebuilt, again, same⟩ := exists_mergeEntries_again made
    rw [merge?_of_lists (.headers merged), merge?_of_lists listsBoth, again, made]
    cases third.entries? with
    | none => rfl
    | some later => exact entries_mergeEntries_congr same later

/-- Entries that are overridden, taken away or left out. -/
def recordSource : List (Text × Value) :=
  [("X-A", .string " 1 "), ("b", .boolean true), ("c d", .record [])]

def listSource : List (List Value) :=
  [[.string "x-a", .number (Number.ofInt 3)], [.string "B", .null, .string "4"],
    [.symbol "e", .function]]

/-- Two values under one name, the last of which is empty. -/
def doubledFields : Headers := ⟨[("a", "x"), ("a", "")]⟩

theorem ofFields?_doubledFields :
    Headers.ofFields? [("a", "x"), ("a", "")] = some doubledFields := by
  decide

theorem view_doubledFields :
    doubledFields.view = [(Text.ofString "a", Text.ofString "x, ")] := by
  have once : (doubledFields.fields.map (·.1)).eraseDups = [Text.ofString "a"] := by
    decide
  rw [Headers.view_eq, Headers.names, once, List.mergeSort_singleton]
  decide

theorem merge_by_last_entry_mixed :
    (∃ merged, merge? (.value (.record recordSource)) (.value (.list (listSource.map .list))) =
        some merged ∧
      merged.get? "x-A" = some "3" ∧ merged.get? "b" = none) ∧
      merge? (.value (.record [("c d", .string "1")])) absent = none ∧
      (merge? (.headers doubledFields) absent).map Headers.view =
        some [(Text.ofString "a", Text.ofString "x,")] := by
  have legal := Headers.legal_ofFields? ofFields?_doubledFields
  refine ⟨?_, ?_, ?_⟩
  · have goes : (merge? (.value (.record recordSource))
        (.value (.list (listSource.map .list)))).isSome := by
      decide +kernel
    obtain ⟨merged, made⟩ := Option.isSome_iff_exists.mp goes
    obtain ⟨-, decides, -⟩ := merge_by_last_entry (.record recordSource) (.list listSource)
    obtain ⟨under, -⟩ := decides merged made
    refine ⟨merged, made, (under "x-A").trans ?_, (under "b").trans ?_⟩
    · decide +kernel
    · decide +kernel
  · obtain ⟨fails, -, -⟩ := merge_by_last_entry (.record [("c d", .string "1")]) lists_absent
    have refused : Refused (.string "c d", .string "1") := by
      left
      intro name converted
      rw [Value.toText?] at converted
      obtain rfl := Option.some.inj converted
      decide
    exact fails.mpr ⟨_, List.mem_cons_self, refused⟩
  · obtain ⟨-, -, nothing⟩ := merge_by_last_entry lists_absent lists_absent
    rw [(nothing doubledFields absent legal lists_absent).1, view_doubledFields]
    decide

/-- Fields that are merged with nothing do not always keep their record. -/
theorem doubled_fields_lose_blank :
    ∃ source, Headers.ofFields? [("a", "x"), ("a", "")] = some source ∧
      (merge? (.headers source) absent).map Headers.view ≠ some source.view := by
  have legal := Headers.legal_ofFields? ofFields?_doubledFields
  refine ⟨doubledFields, ofFields?_doubledFields, ?_⟩
  have merged := (view_merge?_nothing legal lists_absent).1
  rw [merged, view_doubledFields]
  decide

end HeaderOptions

end BlobStorage
