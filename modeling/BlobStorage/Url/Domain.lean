import BlobStorage.Url.Idna.Label
import BlobStorage.Url.Idna.Punycode

/-!
# Domain names

A domain name is written in ASCII and in lower case.  Characters beyond ASCII are first replaced as
the mapping table says and put into composed form; then each label that still has some is encoded
behind `xn--`.  A label that comes encoded already has to be one that encoding could have led to.
-/

namespace BlobStorage.Domain

def isAscii (characters : List Char) : Bool := characters.all Punycode.isBasic

/-- Whether the text behind `xn--` encodes a label, which neither mapping nor composing would
change.  The mark is not there twice. -/
def isEncodedLabel (text : List Char) : Bool :=
  !Idna.encodedMark.isPrefixOf text &&
  match Punycode.decode? text with
  | none => false
  | some label =>
      Idna.map? label == some label && Idna.normalize label == label && Idna.isLabel label

def labelToAscii? (label : List Char) : Option (List Char) :=
  if Idna.encodedMark.isPrefixOf label then
    if isAscii label && isEncodedLabel (label.drop 4) then some label else none
  else if isAscii label then some label
  else if Idna.isLabel label then some (Idna.encodedMark ++ Punycode.encode label)
  else none

def prepare? (name : List Char) : Option (List Char) :=
  if isAscii name then some (name.map Host.lowerChar) else (Idna.map? name).map Idna.normalize

/-- A domain name in ASCII; none for a name that has no such form. -/
def toAscii? (name : List Char) : Option (List Char) := do
  let name ← prepare? name
  let labels ← (Text.split '.' name).mapM labelToAscii?
  return List.intercalate ['.'] labels

end BlobStorage.Domain
