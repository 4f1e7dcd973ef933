import BlobStorage.Text.Percent

/-!
# Form-encoded pairs

The query of a resource address holds name and value pairs in the form encoding: a blank is written
as `+`, letters, digits and `* - . _` stand for themselves, and every other byte is percent-encoded.
Pairs are joined by `&`, the two halves of a pair by `=`.  `decode` reads such a query back.
-/

namespace BlobStorage.Form

/-- The characters that stand for themselves in a form-encoded half. -/
def isPlain (character : Char) : Bool :=
  Percent.isAlphanumeric character || "*-._".toList.contains character

def encodeHalf (characters : List Char) : List Char :=
  characters.flatMap fun character =>
    if isPlain character then [character]
    else if character = ' ' then ['+']
    else Percent.encodeChar character

/-- Pairs as a query; a surrogate that stands alone is written as U+FFFD. -/
def encode (pairs : List (Text × Text)) : Text :=
  Text.join (Text.ofString "&") <| pairs.map fun (name, value) =>
    Text.ofChars (encodeHalf name.toCharsLossy) ++ Text.ofString "=" ++
      Text.ofChars (encodeHalf value.toCharsLossy)

def decodeHalf (half : Text) : Text :=
  Text.ofChars (Percent.decode (half.toCharsLossy.map fun c => if c = '+' then ' ' else c))

def decode (query : Text) : List (Text × Text) :=
  ((Text.split (Text.unit '&') query).filter fun piece => !piece.isEmpty).map fun piece =>
    (decodeHalf (piece.takeWhile fun u => u != Text.unit '='),
      decodeHalf ((piece.dropWhile fun u => u != Text.unit '=').drop 1))

end BlobStorage.Form
