import BlobStorage.Proofs.DeleteAddress
import BlobStorage.Proofs.RecordOrder
import BlobStorage.Proofs.ResourceReading

/-!
# What the query of an address says

The query of a resource address holds the parameters that are defined, each as its name and its
text, in the order of the record of parameters.  Whoever decodes what stands behind the first
question mark gets them back: none is lost, none is there twice and none comes from elsewhere.
-/

namespace BlobStorage

namespace Outcome

variable {α β : Type}

theorem eq_filterMap_of_mapM {compute : α → Outcome β} {items : List α} {values : List β}
    (computed : items.mapM compute = .ok values) :
    values = items.filterMap (fun item => (compute item).toOption) ∧
      ∀ item ∈ items, (compute item).toOption.isSome := by
  have loop : ∀ items done values, List.mapM.loop compute items done = .ok values →
      values = done.reverse ++ items.filterMap (fun item => (compute item).toOption) ∧
        ∀ item ∈ items, (compute item).toOption.isSome := by
    intro items
    induction items with
    | nil =>
        intro done values looped
        obtain rfl := Outcome.ok.inj looped
        simp
    | cons item items induction =>
        intro done values looped
        obtain ⟨value, first, further⟩ := bind_eq_ok_iff.mp looped
        obtain ⟨rfl, rest⟩ := induction (value :: done) values further
        rw [List.forall_mem_cons]
        refine ⟨?_, by rw [first]; rfl, rest⟩
        rw [List.filterMap_cons, first, List.reverse_cons, List.append_assoc]
        rfl
  exact loop items [] values computed

end Outcome

namespace Value

/-- A value whose text has no lone surrogate.  Only values that are made of texts can have one. -/
def IsWellFormed : Value → Prop
  | string text => text.isWellFormed
  | symbol description => description.isWellFormed
  | list items => ∀ text, (list items).describe? = some text → text.isWellFormed
  | failure reported => ∀ text, (failure reported).describe? = some text → text.isWellFormed
  | _ => True

theorem isWellFormed_toText (n : Number) : n.toText.isWellFormed := by
  cases n with
  | finite value fits =>
      rw [Number.toText]
      split
      · exact Text.isWellFormed_ofChars _
      · exact Text.isWellFormed_ofChars _
  | infinite negative => cases negative <;> exact Text.isWellFormed_ofChars _
  | _ => exact Text.isWellFormed_ofChars _

theorem isWellFormed_ofInt (n : Int) : (Text.ofInt n).isWellFormed := by
  cases n with
  | ofNat n =>
      rw [Text.ofInt, ← Text.ofChars_toDigits]
      exact Text.isWellFormed_ofChars _
  | negSucc n =>
      rw [Text.ofInt, ← Text.ofChars_toDigits]
      exact Text.isWellFormed_ofChars ('-' :: Nat.toDigits 10 (n + 1))

/-- The text of a record does not depend on the texts in it. -/
theorem isWellFormed_of_recordText? {entries : List (Text × Value)} {text : Text}
    (described : recordText? entries = some text) : text.isWellFormed := by
  unfold recordText? at described
  split at described
  · exact Option.some.inj described ▸ Text.isWellFormed_ofChars _
  · exact Option.some.inj described ▸ Text.isWellFormed_ofChars _
  · split at described
    · exact Option.some.inj described ▸ Text.isWellFormed_ofChars _
    · cases described

theorem IsWellFormed.describe? {value : Value} (wellFormed : value.IsWellFormed) {text : Text}
    (described : value.describe? = some text) : text.isWellFormed := by
  cases value with
  | list items => exact wellFormed text described
  | failure reported => exact wellFormed text described
  | record entries =>
      rw [describe?_record] at described
      exact isWellFormed_of_recordText? described
  | symbol description =>
      obtain rfl := Option.some.inj described
      rw [← Text.ofChars_toCharsLossy wellFormed, Text.ofString, Text.ofString,
        ← Text.ofChars_append, ← Text.ofChars_append]
      exact Text.isWellFormed_ofChars _
  | string own =>
      rw [describe?_string] at described
      exact Option.some.inj described ▸ wellFormed
  | number n =>
      rw [describe?_number] at described
      exact Option.some.inj described ▸ isWellFormed_toText n
  | bigint n =>
      rw [describe?_bigint] at described
      exact Option.some.inj described ▸ isWellFormed_ofInt n
  | boolean b =>
      cases b with
      | false =>
          obtain rfl := Option.some.inj described
          exact Text.isWellFormed_ofChars _
      | true =>
          obtain rfl := Option.some.inj described
          exact Text.isWellFormed_ofChars _
  | _ =>
      obtain rfl := Option.some.inj described
      exact Text.isWellFormed_ofChars _

end Value

namespace Resource

/-- The parameters that are defined. -/
def definedEntries (search : List (Text × Value)) : List (Text × Value) :=
  search.filter fun entry => entry.2 matches .undefined |> not

/-- The name and the text of a parameter; there is no pair without a text. -/
def pairOf (entry : Text × Value) : Outcome (Text × Text) :=
  match entry.2.describe? with
  | some text => .ok (entry.1, text)
  | none => .raised .typeError

/-- The parameters that are defined, as their names and texts. -/
def definedPairs (search : List (Text × Value)) : List (Text × Text) :=
  (definedEntries search).filterMap fun entry => (pairOf entry).toOption

theorem mem_definedEntries {search : List (Text × Value)} {entry : Text × Value} :
    entry ∈ definedEntries search ↔ entry ∈ search ∧ entry.2 ≠ .undefined := by
  rw [definedEntries, List.mem_filter]
  obtain ⟨name, value⟩ := entry
  cases value <;> simp

theorem toOption_pairOf (entry : Text × Value) :
    (pairOf entry).toOption = entry.2.describe?.map (entry.1, ·) := by
  unfold pairOf
  cases entry.2.describe? <;> rfl

theorem mem_definedPairs {search : List (Text × Value)} {name text : Text} :
    (name, text) ∈ definedPairs search ↔
      ∃ value, (name, value) ∈ search ∧ value ≠ .undefined ∧ value.describe? = some text := by
  simp only [definedPairs, List.mem_filterMap, mem_definedEntries, toOption_pairOf,
    Option.map_eq_some_iff]
  constructor
  · rintro ⟨⟨own, value⟩, ⟨member, defined⟩, found, described, same⟩
    obtain ⟨rfl, rfl⟩ := Prod.mk.inj same
    exact ⟨value, member, defined, described⟩
  · rintro ⟨value, member, defined, described⟩
    exact ⟨(name, value), ⟨member, defined⟩, text, described, rfl⟩

/-- The defined parameters stand in the order of the record. -/
theorem pairwise_definedPairs {search : List (Text × Value)} {before : Text → Text → Prop}
    (ordered : search.Pairwise fun left right => before left.1 right.1) :
    (definedPairs search).Pairwise fun left right => before left.1 right.1 := by
  rw [definedPairs, List.pairwise_filterMap]
  refine (ordered.filter _).imp ?_
  intro left right first leftPair leftFound rightPair rightFound
  rw [toOption_pairOf] at leftFound rightFound
  obtain ⟨-, -, rfl⟩ := Option.map_eq_some_iff.mp leftFound
  obtain ⟨-, -, rfl⟩ := Option.map_eq_some_iff.mp rightFound
  exact first

theorem searchPairs_eq_bind (search : List (Text × Value)) :
    searchPairs search = ((definedEntries search).mapM pairOf).bind fun pairs =>
      .ok (pairs.foldl
        (fun query pair => Record.put query (Text.ofChars pair.1.toCharsLossy) pair.2) []) := rfl

/-- The names of a record are told apart and spelled without loss, so none of its parameters takes
the place of another one. -/
theorem searchPairs_eq {search : List (Text × Value)} {pairs : List (Text × Text)}
    (nodup : (search.map (·.1)).Nodup) (names : ∀ entry ∈ search, entry.1.isWellFormed)
    (written : searchPairs search = .ok pairs) :
    pairs = definedPairs search ∧
      ∀ entry ∈ search, entry.2 ≠ .undefined → entry.2.describe?.isSome := by
  rw [searchPairs_eq_bind] at written
  obtain ⟨own, computed, put⟩ := Outcome.bind_eq_ok_iff.mp written
  obtain ⟨values, each⟩ := Outcome.eq_filterMap_of_mapM computed
  have distinct : (own.map (·.1)).Nodup := by
    have apart : search.Pairwise fun left right => left.1 ≠ right.1 :=
      List.pairwise_map.mp nodup
    rw [values]
    exact List.pairwise_map.mpr (pairwise_definedPairs apart)
  have spelled : ∀ pair ∈ own, Text.ofChars pair.1.toCharsLossy = pair.1 := by
    rintro ⟨name, text⟩ member
    rw [values] at member
    obtain ⟨value, among, -, -⟩ := mem_definedPairs.mp member
    exact Text.ofChars_toCharsLossy (names _ among)
  constructor
  · obtain rfl := Outcome.ok.inj put
    have kept := Record.foldl_put_of_nodup distinct
    have sameFold : own.foldl
        (fun query pair => Record.put query (Text.ofChars pair.1.toCharsLossy) pair.2) [] =
        own.foldl (fun query pair => Record.put query pair.1 pair.2) [] := by
      apply List.foldl_ext
      intro query pair member
      rw [spelled pair member]
    rw [sameFold, kept, values, definedPairs]
  · intro entry member defined
    have some := each entry (mem_definedEntries.mpr ⟨member, defined⟩)
    rwa [toOption_pairOf, Option.isSome_map] at some

theorem questionMark_not_mem_base {url : Url} (web : url.Web) : Text.unit '?' ∉ base url := by
  obtain ⟨location, isOrigin, -, plain⟩ := web.exists_location
  obtain ⟨segments, path, settled⟩ := web.path
  obtain ⟨kept, among, trimmed⟩ := UrlPath.exists_segments_trimmed segments settled
  have inPath : withoutTrailingSlashes (Text.ofChars url.pathname) =
      Text.ofChars (kept.flatMap ('/' :: ·)) := by
    rw [Url.pathname, path]
    exact trimmed
  rw [base, inPath, ← Text.ofChars_append, Text.unit_mem_ofChars_iff (by decide), isOrigin]
  simp only [List.mem_append, not_or]
  refine ⟨⟨⟨?_, by decide⟩, ?_⟩, ?_⟩
  · rcases web.scheme with http | https
    · rw [http]
      decide
    · rw [https]
      decide
  · intro member
    exact absurd (plain '?' member) (by decide)
  · intro member
    have keptSettled : ∀ segment ∈ kept, UrlPath.Settled segment :=
      fun segment own => settled segment (among segment own)
    exact absurd (Url.isPathPlain_of_mem_path keptSettled '?' member) (by decide)

/-- What stands behind the first question mark. -/
def queryOf (address : Text) : Text := (address.dropWhile (· != Text.unit '?')).drop 1

theorem queryOf_append {front : Text} (noMark : Text.unit '?' ∉ front)
    (pairs : List (Text × Text)) :
    queryOf (front ++ querySuffix pairs) = if pairs = [] then [] else Form.encode pairs := by
  have before : ∀ u ∈ front, (u != Text.unit '?') = true := by
    intro u member
    rw [bne_iff_ne]
    rintro rfl
    exact noMark member
  rw [queryOf, List.dropWhile_append_of_pos before]
  cases pairs with
  | nil => rfl
  | cons pair pairs => rfl

theorem decode_queryOf {front : Text} (noMark : Text.unit '?' ∉ front)
    {pairs : List (Text × Text)}
    (wellFormed : ∀ pair ∈ pairs, pair.1.isWellFormed ∧ pair.2.isWellFormed) :
    Form.decode (queryOf (front ++ querySuffix pairs)) = pairs := by
  rw [queryOf_append noMark]
  split
  · rename_i none
    rw [none]
    rfl
  · exact Form.decode_encode wellFormed

theorem questionMark_not_mem_append_iff {front : Text} (noMark : Text.unit '?' ∉ front)
    (pairs : List (Text × Text)) :
    Text.unit '?' ∉ front ++ querySuffix pairs ↔ pairs = [] := by
  rw [List.mem_append, not_or, and_iff_right noMark]
  cases pairs with
  | nil => exact ⟨fun _ => rfl, fun _ => List.not_mem_nil⟩
  | cons pair pairs =>
      constructor
      · exact fun absent => absurd List.mem_cons_self absent
      · rintro ⟨⟩

theorem map_definedPairs {search : List (Text × Value)}
    (each : ∀ entry ∈ search, entry.2 ≠ .undefined → entry.2.describe?.isSome) :
    (definedPairs search).map (fun pair => (pair.1, some pair.2)) =
      (definedEntries search).map fun entry => (entry.1, entry.2.describe?) := by
  have described : ∀ entry ∈ definedEntries search, entry.2.describe?.isSome := by
    intro entry member
    obtain ⟨among, defined⟩ := mem_definedEntries.mp member
    exact each entry among defined
  rw [definedPairs]
  generalize definedEntries search = entries at described ⊢
  induction entries with
  | nil => rfl
  | cons entry entries induction =>
      rw [List.forall_mem_cons] at described
      obtain ⟨text, found⟩ := Option.isSome_iff_exists.mp described.1
      rw [List.map_cons, List.filterMap_cons, toOption_pairOf, found, Option.map_some,
        List.map_cons, induction described.2]

/-- Decoding what stands behind the first question mark of an address gives the parameters that
are defined, each as its name and its text, in the order of the record; and there is no question
mark if and only if none is defined. -/
theorem query_reads_back {endpoint container : Text} {blob? : Option Text}
    {given : List (Text × Value)} {address : Text}
    (made : uri (.string endpoint) (.string container) (blobValue blob?)
      (Record.ofEntries given) = .ok address)
    (wellFormed : ∀ entry ∈ Record.ofEntries given,
      entry.1.isWellFormed ∧ entry.2.IsWellFormed) :
    (Form.decode (queryOf address)).map (fun pair => (pair.1, some pair.2)) =
        (definedEntries (Record.ofEntries given)).map
          (fun entry => (entry.1, entry.2.describe?)) ∧
      (∀ name value, (name, value) ∈ definedEntries (Record.ofEntries given) ↔
        Record.lastAdded? given name = some value ∧ value ≠ .undefined) ∧
      (definedEntries (Record.ofEntries given)).Pairwise
        (fun left right => Record.Precedes given left.1 right.1) ∧
      (Text.unit '?' ∉ address ↔ definedEntries (Record.ofEntries given) = []) := by
  obtain ⟨url, pieces, pairs, parsed, suited, -, encoded, written, rfl⟩ := uri_eq_ok_iff.mp made
  obtain ⟨rfl, each⟩ := searchPairs_eq (Record.nodup_names_ofEntries given)
    (fun entry member => (wellFormed entry member).1) written
  have noMark : Text.unit '?' ∉ base url ++ "/" ++ Text.join "/" pieces := by
    rw [List.mem_append, List.mem_append, not_or, not_or]
    exact ⟨⟨questionMark_not_mem_base (web_of_endpointProblem? parsed suited), by decide⟩,
      DeleteBlob.Builder.questionMark_not_mem_join encoded⟩
  have texts : ∀ pair ∈ definedPairs (Record.ofEntries given),
      pair.1.isWellFormed ∧ pair.2.isWellFormed := by
    rintro ⟨name, text⟩ member
    obtain ⟨value, among, -, described⟩ := mem_definedPairs.mp member
    exact ⟨(wellFormed _ among).1, (wellFormed _ among).2.describe? described⟩
  have same := map_definedPairs each
  refine ⟨?_, ?_, (Record.pairwise_ofEntries given).filter _, ?_⟩
  · rw [decode_queryOf noMark texts, same]
  · intro name value
    rw [mem_definedEntries, Record.mem_ofEntries_iff]
  · rw [questionMark_not_mem_append_iff noMark, ← List.map_eq_nil_iff, same, List.map_eq_nil_iff]

/-- Parameters that are set twice, are indices, or look like the marks of a query. -/
def repeatedSearch : List (Text × Value) :=
  [("b", .number (Number.ofInt 1)), ("2", .boolean true), ("", .string ""), ("c", .undefined),
    ("10", .string "x y"), ("&=", .null), ("b", .string "é+%&=")]

def repeatedRecord : List (Text × Value) :=
  [("2", .boolean true), ("10", .string "x y"), ("b", .string "é+%&="), ("", .string ""),
    ("c", .undefined), ("&=", .null)]

def repeatedAddress : Text := "https://h/a?2=true&10=x+y&b=%C3%A9%2B%25%26%3D&=&%26%3D=null"

def repeatedPairs : List (Text × Text) :=
  [("2", "true"), ("10", "x y"), ("b", "é+%&="), ("", ""), ("&=", "null")]

theorem query_reads_back_mixed :
    uri (.string "https://h") (.string "a") (blobValue none) (Record.ofEntries repeatedSearch) =
        .ok repeatedAddress ∧
      (Form.decode (queryOf repeatedAddress)).map (fun pair => (pair.1, some pair.2)) =
        repeatedPairs.map fun pair => (pair.1, some pair.2) := by
  let indexed : List (Nat × Text × Value) :=
    [(2, "2", .boolean true), (10, "10", .string "x y")]
  have sorted : (indexed.mergeSort fun left right => left.1 ≤ right.1) = indexed :=
    List.mergeSort_of_pairwise (by simp [indexed])
  have record : Record.ofEntries repeatedSearch = repeatedRecord :=
    congrArg (fun indexed => indexed.map (·.2) ++ repeatedRecord.drop 2) sorted
  have made : uri (.string "https://h") (.string "a") (blobValue none) repeatedRecord =
      .ok repeatedAddress := by
    rw [← Outcome.toOption_eq_some_iff]
    decide +kernel
  have wellFormed : ∀ entry ∈ Record.ofEntries repeatedSearch,
      entry.1.isWellFormed ∧ entry.2.IsWellFormed := by
    rw [record]
    simp only [repeatedRecord, List.forall_mem_cons, Value.IsWellFormed, and_true,
      Text.ofString, Text.isWellFormed_ofChars]
    simp
  rw [← record] at made
  refine ⟨made, (query_reads_back made wellFormed).1.trans ?_⟩
  rw [record]
  decide +kernel

end Resource

end BlobStorage
