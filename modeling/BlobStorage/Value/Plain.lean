import BlobStorage.Value.Json

/-!
# Plain values

A value that was written as JSON and read again is plain: it holds nothing but `null`, truth
values, numbers, texts, lists and records.  `ofValue` is what is left of a value.  A value that has
no JSON form because of a bigint in it is written in another way, which takes bigints for numbers,
goes only some levels down, and keeps only so many entries of each record and items of each list.
-/

namespace BlobStorage.Plain

def ofNumber : Number → Value
  | .nan | .infinite _ => .null
  | .negativeZero => .number .zero
  | number => .number number

/-- An entry, unless nothing is left of its value. -/
def entry (name : Text) (value : Option Value) : List (Text × Value) :=
  match value with
  | some value => [(name, value)]
  | none => []

mutual

/-- What is left of a value that has a JSON form: refused (`none`), nothing (`some none`), or a
value. -/
def read? : Value → Option (Option Value)
  | .undefined | .symbol _ | .function => some none
  | .null => some (some .null)
  | .boolean b => some (some (.boolean b))
  | .number n => some (some (ofNumber n))
  | .bigint _ => none
  | .string text => some (some (.string text))
  | .list items => do return some (.list (← readItems? items))
  | .record entries =>
      if Json.writesItself entries then some none
      else do return some (.record (← readEntries? entries))
  | .failure ⟨kind, name, _, _, .issues list⟩ => do
      let named ← if kind.request?.isSome then (read? name).map (entry "name") else some []
      let list ← read? list
      return some (.record (named ++ entry "issues" list))
  | .failure ⟨kind, name, _, _, _⟩ => do
      let named ← if kind.request?.isSome then (read? name).map (entry "name") else some []
      return some (.record named)

/-- What is left of the items of a list, `null` where nothing is. -/
def readItems? : List Value → Option (List Value)
  | [] => some []
  | item :: items => do
      let value ← read? item
      return value.getD .null :: (← readItems? items)

def readEntries? : List (Text × Value) → Option (List (Text × Value))
  | [] => some []
  | (name, value) :: entries => do
      let value ← read? value
      return entry name value ++ (← readEntries? entries)

end

/-- How many levels are written of a value with a bigint in it. -/
def maximumDepth : Nat := 5

/-- How many entries are written of a record, and items of a list, with a bigint in it. -/
def maximumBreadth : Nat := 100

def omissionNote (count : Nat) : Text :=
  Text.ofNat count ++ (if count = 1 then " item" else " items") ++ " not stringified"

/-- The first entries of a record by name, with a note about the others. -/
def cutEntries (entries : List (Text × Option Value)) : Value :=
  let sorted := entries.mergeSort fun left right => Text.lessOrEqual left.1 right.1
  let kept := (sorted.take maximumBreadth).flatMap fun (name, value) => entry name value
  .record <|
    if maximumBreadth < entries.length then
      Record.put kept "..." (.string (omissionNote (entries.length - maximumBreadth)))
    else kept

/-- The first items of a list, with a note about the others unless it is only one. -/
def cutItems (items : List Value) : Value :=
  .list <|
    items.take maximumBreadth ++
      if maximumBreadth + 1 < items.length then
        [.string ("... " ++ omissionNote (items.length - maximumBreadth - 1))]
      else []

mutual

/-- What is left of a value at some level when bigints are taken for numbers. -/
def cut? (level : Nat) : Value → Option Value
  | .undefined | .symbol _ | .function => none
  | .null => some .null
  | .boolean b => some (.boolean b)
  | .number n => some (ofNumber n)
  | .bigint n => some (.number (.ofInt n))
  | .string text => some (.string text)
  | .list items =>
      if items.isEmpty then some (.list [])
      else if maximumDepth < level then some (.string "[Array]")
      else some (cutItems (itemsAt (level + 1) items))
  | .record entries =>
      if Json.writesItself entries then none
      else if entries.isEmpty then some (.record [])
      else if maximumDepth < level then some (.string "[Object]")
      else some (cutEntries (entriesAt (level + 1) entries))
  | .failure ⟨kind, name, _, _, .issues list⟩ =>
      if maximumDepth < level then some (.string "[Object]")
      else
        let named := if kind.request?.isSome then entry "name" (cut? (level + 1) name) else []
        some (.record (named ++ entry "issues" (cut? (level + 1) list)))
  | .failure ⟨kind, name, _, _, _⟩ =>
      if kind.request?.isNone then some (.record [])
      else if maximumDepth < level then some (.string "[Object]")
      else some (.record (entry "name" (cut? (level + 1) name)))

/-- What is left of items at some level, `null` where nothing is. -/
def itemsAt (level : Nat) : List Value → List Value
  | [] => []
  | item :: items => (cut? level item).getD .null :: itemsAt level items

/-- What is left of the values of entries at some level. -/
def entriesAt (level : Nat) : List (Text × Value) → List (Text × Option Value)
  | [] => []
  | (name, value) :: entries => (name, cut? level value) :: entriesAt level entries

end

def ofValue (value : Value) : Option Value :=
  match read? value with
  | some value? => value?
  | none => cut? 1 value

end BlobStorage.Plain
