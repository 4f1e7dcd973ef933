import BlobStorage.Url.Domain
import BlobStorage.Url.Path

/-!
# Reading addresses

An address is cut into its parts from the outside in: blanks at the ends and line ends anywhere are
dropped, the scheme ends at the first colon, the fragment starts at the first number sign behind it
and the query at the first question mark before that.  What is left is the authority and the path,
or plain text under a scheme without a hierarchy.
-/

namespace BlobStorage.Url

/-- Characters that do not count at the two ends of an address. -/
def isEdge (character : Char) : Bool := character ≤ ' '

/-- Characters that do not count anywhere in an address. -/
def isBreak (character : Char) : Bool :=
  character == '\t' || character == '\n' || character == '\r'

def clean (text : List Char) : List Char :=
  (((text.dropWhile isEdge).reverse.dropWhile isEdge).reverse).filter fun c => !isBreak c

def isSchemeChar (character : Char) : Bool :=
  Percent.isAlphanumeric character || character == '+' || character == '-' || character == '.'

/-- The scheme in lower case, and what follows its colon. -/
def splitScheme? (text : List Char) : Option (List Char × List Char) :=
  match text.takeWhile isSchemeChar, text.dropWhile isSchemeChar with
  | letter :: scheme, ':' :: rest =>
      if UrlPath.isLetter letter then some ((letter :: scheme).map Host.lowerChar, rest) else none
  | _, _ => none

/-- The text before the first occurrence of a character, and the text behind it if it occurs. -/
def cutAt (mark : Char) (text : List Char) : List Char × Option (List Char) :=
  match text.dropWhile (· != mark) with
  | [] => (text, none)
  | _ :: behind => (text.takeWhile (· != mark), some behind)

/-- The text before and behind the last occurrence of a character; all of it is behind when the
character does not occur. -/
def cutAtLast (mark : Char) (text : List Char) : Option (List Char) × List Char :=
  let behind := (text.reverse.takeWhile (· != mark)).reverse
  if text.contains mark then (some (text.take (text.length - behind.length - 1)), behind)
  else (none, behind)

/-- The host of an authority up to the colon before a port; colons in brackets belong to the host.
-/
def hostPart (inBrackets : Bool) : List Char → List Char × Option (List Char)
  | [] => ([], none)
  | c :: rest =>
      if c = ':' ∧ inBrackets = false then ([], some rest)
      else
        let inBrackets := if c = '[' then true else if c = ']' then false else inBrackets
        let (host, port) := hostPart inBrackets rest
        (c :: host, port)

/-- A port: no digits, or a number of sixteen bits; the usual port of the scheme is not kept. -/
def readPort? (scheme digits : List Char) : Option (Option Nat) :=
  if digits.all fun c => '0' ≤ c && c ≤ '9' then
    if digits.isEmpty then some none
    else
      match Host.digitsValue? 10 digits with
      | some port =>
          if 65535 < port then none
          else if defaultPort? scheme = some port then some none
          else some (some port)
      | none => none
  else none

def readBracketed? (text : List Char) : Option Host :=
  if text.getLast? = some ']' then Host.readIpv6? text.dropLast else none

def readDomain? (text : List Char) : Option Host := do
  let name ← Domain.toAscii? (Percent.decode text)
  if name.isEmpty || name.any Host.isForbiddenInDomain then none
  else if Host.endsInNumber name then Host.readIpv4? name
  else some (.domain name)

def readSpecialHost? : List Char → Option Host
  | '[' :: rest => readBracketed? rest
  | text => readDomain? text

def readOtherHost? : List Char → Option Host
  | '[' :: rest => readBracketed? rest
  | text =>
      if text.any Host.isForbidden then none else some (.named (Percent.encode isPrintable text))

/-- User name, password, host and port of an authority. -/
structure Authority where
  username : List Char
  password : List Char
  host : Host
  port : Option Nat

/-- An authority; only another than a special scheme may have an empty host, and then neither user
nor port. -/
def readAuthority? (scheme text : List Char) : Option Authority := do
  let (user?, location) := cutAtLast '@' text
  let (hostText, portText?) := hostPart false location
  if hostText.isEmpty && (isSpecial scheme || user?.isSome || portText?.isSome) then none
  else
    let host ← if isSpecial scheme then readSpecialHost? hostText else readOtherHost? hostText
    let port ← readPort? scheme (portText?.getD [])
    let (username, password?) := cutAt ':' (user?.getD [])
    return {
      username := Percent.encode isUserPlain username
      password := Percent.encode isUserPlain (password?.getD [])
      host, port }

def withAuthority? (scheme text : List Char) (query fragment : Option (List Char)) :
    Option Url := do
  let special := isSpecial scheme
  let isEnd := fun c => c == '/' || (special && c == '\\')
  let authority ← readAuthority? scheme (text.takeWhile (!isEnd ·))
  let rest := text.dropWhile (!isEnd ·)
  return {
    scheme
    username := authority.username
    password := authority.password
    host := some authority.host
    port := authority.port
    path := if special then .ofSpecial false rest else .ofOther rest
    query, fragment }

def withHost (scheme : List Char) (host : Option Host) (path : UrlPath)
    (query fragment : Option (List Char)) : Url :=
  { scheme, username := [], password := [], host, port := none, path, query, fragment }

/-- The address of a file; the local host counts as none, and a drive is no host. -/
def readFile? (text : List Char) (query fragment : Option (List Char)) : Option Url :=
  let scheme := "file".toList
  let noHost : Host := .named []
  match UrlPath.withSlashes text with
  | '/' :: '/' :: behind =>
      let hostText := behind.takeWhile (· != '/')
      if UrlPath.isDrive hostText then
        some (withHost scheme noHost (.ofSpecial true ('/' :: behind)) query fragment)
      else if hostText.isEmpty then
        some (withHost scheme noHost (.ofSpecial true behind) query fragment)
      else
        (readSpecialHost? hostText).map fun host =>
          let host := if host = .domain "localhost".toList then noHost else host
          withHost scheme host (.ofSpecial true (behind.dropWhile (· != '/'))) query fragment
  | path => some (withHost scheme noHost (.ofSpecial true path) query fragment)

def ofChars? (text : List Char) : Option Url := do
  let (scheme, rest) ← splitScheme? (clean text)
  let (rest, fragment?) := cutAt '#' rest
  let (rest, query?) := cutAt '?' rest
  let query := query?.map (Percent.encode (isQueryPlain (isSpecial scheme)))
  let fragment := fragment?.map (Percent.encode isFragmentPlain)
  if scheme = "file".toList then readFile? rest query fragment
  else if isSpecial scheme then
    withAuthority? scheme (rest.dropWhile fun c => c == '/' || c == '\\') query fragment
  else
    match rest with
    | '/' :: '/' :: rest => withAuthority? scheme rest query fragment
    | '/' :: rest => some (withHost scheme none (.ofOther ('/' :: rest)) query fragment)
    | rest =>
        some (withHost scheme none (.plain (Percent.encode isPrintable rest)) query fragment)

/-- The address that a text spells; a surrogate that stands alone counts as U+FFFD. -/
def ofText? (text : Text) : Option Url := ofChars? text.toCharsLossy

end BlobStorage.Url
