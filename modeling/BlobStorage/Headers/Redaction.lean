import BlobStorage.Headers.Basic

/-!
# Header fields in logs

The values of some fields are secrets and never reach a log; a mark stands in their place.
-/

namespace BlobStorage.Headers

def secretNames : List Text :=
  ["authorization", "x-ms-lease-id", "x-ms-copy-source-authorization"]

def redactionMark : Text := "[redacted]"

def redactField (field : Text × Text) : Text × Text :=
  if secretNames.contains field.1 then (field.1, redactionMark) else field

def redacted (headers : Headers) : List (Text × Text) := headers.view.map redactField

end BlobStorage.Headers
