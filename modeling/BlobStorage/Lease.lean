import BlobStorage.Schema.Validation

/-!
# Leases

A lease on a blob is named by a token: hexadecimal digits in groups of eight, four, four, four and
twelve, with single hyphens between the groups.
-/

namespace BlobStorage.Lease

def groupLengths : List Nat := [8, 4, 4, 4, 12]

def isToken (text : Text) : Bool :=
  let groups := Text.split (Text.unit '-') text
  groups.map List.length == groupLengths && groups.all fun group => group.all Text.isHexDigit

def reader : Reader Text :=
  .checkedText isToken (.malformed "uuid" "lease id must be a GUID")

def read (value : Value) : Outcome Text := Validation.read reader value

end BlobStorage.Lease
