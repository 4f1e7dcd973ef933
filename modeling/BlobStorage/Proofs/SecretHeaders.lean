import BlobStorage.Headers.Redaction
import BlobStorage.Proofs.SentRequest

/-!
# Secret header fields

What a log shows of header fields does not depend on the values of the secret ones.  Fields are
veiled by putting the mark in the place of every secret value; setting, taking away and merging
fields can be followed on veiled fields, as long as each secret that is set can be sent.
-/

namespace BlobStorage

namespace Headers

/-- Whether a name is that of a secret, in any case. -/
def isSecret (name : Text) : Bool := secretNames.contains (Text.lower name)

/-- A text that is a field value once the blanks at its ends are gone. -/
def isSendable (value : Text) : Bool := isValidValue (normalizeValue value)

/-- Fields with the mark in the place of every secret value. -/
def veiled (headers : Headers) : Headers := ⟨headers.fields.map redactField⟩

theorem redactField_fst (field : Text × Text) : (redactField field).1 = field.1 := by
  unfold redactField
  split <;> rfl

theorem redactField_of_open {name : Text} (isOpen : secretNames.contains name = false)
    (value : Text) : redactField (name, value) = (name, value) := by
  rw [redactField, if_neg (Bool.eq_false_iff.mp isOpen)]

theorem redactField_of_secret {name : Text} (secret : secretNames.contains name = true)
    (value : Text) : redactField (name, value) = (name, redactionMark) := by
  rw [redactField, if_pos secret]

theorem names_veiled (headers : Headers) : headers.veiled.names = headers.names := by
  have same : headers.veiled.fields.map (·.1) = headers.fields.map (·.1) := by
    rw [veiled, List.map_map]
    exact List.map_congr_left fun field _ => redactField_fst field
  rw [names, same, names]

theorem valuesOf_veiled (headers : Headers) {name : Text}
    (isOpen : secretNames.contains name = false) :
    headers.veiled.valuesOf name = headers.valuesOf name := by
  obtain ⟨fields⟩ := headers
  unfold valuesOf veiled
  induction fields with
  | nil => rfl
  | cons field fields induction =>
      dsimp only at induction ⊢
      rw [List.map_cons, List.filter_cons, List.filter_cons, redactField_fst]
      by_cases same : (field.1 == name) = true
      · have own : redactField field = field :=
          redactField_of_open (by rw [eq_of_beq same]; exact isOpen) field.2
        rw [if_pos same, if_pos same, List.map_cons, List.map_cons, own, induction]
      · rw [if_neg same, if_neg same, induction]

/-- A log shows the same of fields whether they are veiled or not. -/
theorem redacted_veiled (headers : Headers) : headers.veiled.redacted = headers.redacted := by
  unfold redacted view
  rw [names_veiled, List.map_map, List.map_map]
  apply List.map_congr_left
  intro name _
  cases secret : secretNames.contains name with
  | true =>
      dsimp only [Function.comp]
      split <;> rw [redactField_of_secret secret, redactField_of_secret secret]
  | false =>
      dsimp only [Function.comp]
      rw [valuesOf_veiled headers secret]

theorem veiled_without (headers : Headers) (name : Text) :
    (headers.without name).veiled = headers.veiled.without name := by
  unfold veiled without
  rw [List.filter_map]
  congr 2
  apply List.filter_congr
  intro field _
  simp only [Function.comp, redactField_fst]

theorem veiled_put (headers : Headers) (name value : Text) :
    veiled ⟨(headers.without name).fields ++ [(name, value)]⟩ =
      ⟨(headers.veiled.without name).fields ++ [redactField (name, value)]⟩ := by
  rw [← veiled_without, veiled, List.map_append]
  rfl

theorem delete?_veiled (headers : Headers) (name : Text) :
    (headers.delete? name).map veiled = headers.veiled.delete? name := by
  unfold delete?
  split
  · rw [Option.map_some, veiled_without]
  · rfl

/-- What is set in the place of a value: the mark for a secret that can be sent. -/
def veilText (name value : Text) : Text :=
  if isSecret name && isSendable value then redactionMark else value

theorem veilText_of_secret {name value : Text} (secret : isSecret name = true)
    (sendable : isSendable value = true) : veilText name value = redactionMark := by
  rw [veilText, secret, sendable]
  rfl

theorem set?_veiled (headers : Headers) (name value : Text) :
    (headers.set? name value).map veiled = headers.veiled.set? name (veilText name value) := by
  have mark : normalizeValue redactionMark = redactionMark := by decide
  have valid : isValidValue redactionMark = true := by decide
  unfold set? veilText isSecret isSendable
  cases sendable : isValidValue (normalizeValue value) with
  | false => simp [sendable]
  | true =>
      cases secret : secretNames.contains (Text.lower name) with
      | false =>
          simp only [Bool.and_true, Bool.false_eq_true, if_false, sendable]
          split
          · rw [Option.map_some, veiled_put, redactField_of_open secret]
          · rfl
      | true =>
          simp only [Bool.and_true, if_true, mark, valid]
          split
          · rw [Option.map_some, veiled_put, redactField_of_secret secret]
          · rfl

end Headers

namespace HeaderOptions

/-- Two entries of a source are the same, or hold texts of one secret that can be sent. -/
inductive EntryAlike : Value × Value → Value × Value → Prop where
  | same (entry : Value × Value) : EntryAlike entry entry
  | secret {name left right : Value} {nameText leftText rightText : Text}
      (named : name.toText? = some nameText) (secret : Headers.isSecret nameText = true)
      (leftThere : valueText? left = some leftText)
      (leftSendable : Headers.isSendable leftText = true)
      (rightThere : valueText? right = some rightText)
      (rightSendable : Headers.isSendable rightText = true) :
      EntryAlike (name, left) (name, right)

theorem mergeEntry_of_text {name value : Value} {text : Text} (there : valueText? value = some text)
    (headers : Headers) :
    mergeEntry headers (name, value) = name.toText?.bind fun name => headers.set? name text := by
  unfold mergeEntry
  cases value with
  | undefined | null => cases there
  | _ => simp only [there]

/-- What an entry does to fields can be followed on veiled fields. -/
theorem mergeEntry_same {first second : Headers} (veiled : first.veiled = second.veiled)
    (entry : Value × Value) :
    (mergeEntry first entry).map Headers.veiled = (mergeEntry second entry).map Headers.veiled := by
  have deleted (name : Text) :
      (first.delete? name).map Headers.veiled = (second.delete? name).map Headers.veiled := by
    rw [Headers.delete?_veiled, veiled, Headers.delete?_veiled]
  have set (name text : Text) :
      (first.set? name text).map Headers.veiled = (second.set? name text).map Headers.veiled := by
    rw [Headers.set?_veiled, veiled, Headers.set?_veiled]
  unfold mergeEntry
  split
  · cases entry.1.toText? with
    | none => rfl
    | some name => exact deleted name
  · cases entry.1.toText? with
    | none => rfl
    | some name => exact deleted name
  · split
    · cases entry.1.toText? with
      | none => rfl
      | some name => exact set name _
    · rw [Option.map_some, veiled, Option.map_some]

theorem mergeEntry_alike {first second : Headers} {left right : Value × Value}
    (veiled : first.veiled = second.veiled) (alike : EntryAlike left right) :
    (mergeEntry first left).map Headers.veiled = (mergeEntry second right).map Headers.veiled := by
  cases alike with
  | same => exact mergeEntry_same veiled _
  | secret named secret leftThere leftSendable rightThere rightSendable =>
      rw [mergeEntry_of_text leftThere, mergeEntry_of_text rightThere, named, Option.bind_some,
        Option.bind_some, Headers.set?_veiled, Headers.set?_veiled, veiled,
        Headers.veilText_of_secret secret leftSendable,
        Headers.veilText_of_secret secret rightSendable]

theorem mergeEntries_alike {first second : Headers} {left right : List (Value × Value)}
    (veiled : first.veiled = second.veiled) (alike : List.Forall₂ EntryAlike left right) :
    (left.foldlM mergeEntry first).map Headers.veiled =
      (right.foldlM mergeEntry second).map Headers.veiled := by
  induction alike generalizing first second with
  | nil => exact congrArg some veiled
  | @cons entry other entries others own rest induction =>
      have merged := mergeEntry_alike veiled own
      rw [List.foldlM_cons, List.foldlM_cons]
      cases next : mergeEntry first entry <;> cases otherNext : mergeEntry second other
      · rfl
      · simp [next, otherNext] at merged
      · simp [next, otherNext] at merged
      · rw [next, otherNext] at merged
        exact induction (Option.some.inj merged)

/-- Two sources are taken apart into entries that are alike, or cannot be taken apart. -/
def Alike (left right : HeaderOptions) : Prop :=
  Option.Rel (List.Forall₂ EntryAlike) left.entries? right.entries?

end HeaderOptions

namespace Client

/-- Two clients are the same but for secrets among their header fields, which are there in both and
can be sent. -/
structure Alike (left right : Client) : Prop where
  others : { left with headers := .absent } = { right with headers := .absent }
  headers : left.headers.Alike right.headers

theorem Alike.blobEndpoint_eq {left right : Client} (alike : left.Alike right) :
    left.blobEndpoint = right.blobEndpoint := by
  have same := congrArg (fun client => client.blobEndpoint) alike.others
  exact same

theorem Alike.requestTimeout_eq {left right : Client} (alike : left.Alike right) :
    left.requestTimeout = right.requestTimeout := by
  have same := congrArg (fun client => client.requestTimeout) alike.others
  exact same

/-- The fields of every request of clients that are alike are the same but for secrets. -/
theorem Alike.baseHeaders?_veiled {left right : Client} (alike : left.Alike right)
    (instant : Option Int) :
    (left.baseHeaders? instant).map Headers.veiled =
      (right.baseHeaders? instant).map Headers.veiled := by
  have version : left.apiVersion = right.apiVersion := by
    have same := congrArg (fun client => client.apiVersion) alike.others
    exact same
  unfold baseHeaders? HeaderOptions.merge?
  rw [version]
  have entries := alike.headers
  unfold HeaderOptions.Alike at entries
  generalize left.headers.entries? = own? at entries ⊢
  generalize right.headers.entries? = other? at entries ⊢
  cases entries with
  | none => rfl
  | some entries =>
      dsimp only [Option.bind_eq_bind, Option.bind_some, HeaderOptions.entries?]
      generalize List.foldlM HeaderOptions.mergeEntry Headers.empty _ = below?
      cases below? with
      | none => rfl
      | some below => exact HeaderOptions.mergeEntries_alike rfl entries

/-- A field of settings and one that is the same but for a secret that can be sent. -/
inductive FieldAlike : Text × Option Text → Text × Option Text → Prop where
  | same (field : Text × Option Text) : FieldAlike field field
  | secret {name left right : Text} (secret : Headers.isSecret name = true)
      (leftSendable : Headers.isSendable left = true)
      (rightSendable : Headers.isSendable right = true) :
      FieldAlike (name, some left) (name, some right)

theorem alike_ofConfig {left right : Config}
    (others : { left with headers := none } = { right with headers := none })
    (fields : List.Forall₂ FieldAlike left.fields right.fields) :
    (ofConfig left).Alike (ofConfig right) := by
  constructor
  · have same := congrArg (fun config => { ofConfig config with headers := .absent }) others
    exact same
  · unfold HeaderOptions.Alike ofConfig
    rw [entries?_headersValue, entries?_headersValue]
    apply Option.Rel.some
    rw [List.forall₂_map_left_iff, List.forall₂_map_right_iff]
    apply fields.imp
    intro own other alike
    cases alike with
    | same field => exact .same _
    | secret secret leftSendable rightSendable =>
        exact .secret rfl secret rfl leftSendable rfl rightSendable

/-- Two operations that treat fields alike which are the same but for secrets. -/
def Mutator.Alike (left right : Mutator) : Prop :=
  ∀ first second : Headers, first.veiled = second.veiled →
    (left first).map Headers.veiled = (right second).map Headers.veiled

theorem assemble_alike {left right : Client} {instant : Option Int}
    {leftMutator rightMutator : Mutator}
    (base : (left.baseHeaders? instant).map Headers.veiled =
      (right.baseHeaders? instant).map Headers.veiled)
    (mutators : Mutator.Alike leftMutator rightMutator) :
    (left.assemble instant leftMutator).map Headers.veiled =
      (right.assemble instant rightMutator).map Headers.veiled := by
  unfold assemble
  cases first : left.baseHeaders? instant <;> cases second : right.baseHeaders? instant
  · rfl
  · simp [first, second] at base
  · simp [first, second] at base
  · rw [first, second] at base
    exact mutators _ _ (Option.some.inj base)

end Client

end BlobStorage
