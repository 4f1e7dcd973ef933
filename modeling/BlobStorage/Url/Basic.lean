import BlobStorage.Text.Percent

/-!
# Addresses

An address has a scheme, an authority with an optional user, a host and a port, a path, and an
optional query and fragment.  This module holds the type, the parts of an address that callers look
at, and the sets of characters that each part keeps as they are.
-/

namespace BlobStorage

/-- The host of an address.  A host with a name under a scheme that does not know hosts keeps its
characters. -/
inductive Host where
  | domain (name : List Char)
  | ipv4 (address : Nat)
  | ipv6 (pieces : List Nat)
  | named (name : List Char)
  deriving DecidableEq

/-- The path of an address: segments behind slashes, or, under a scheme without a hierarchy, plain
text. -/
inductive UrlPath where
  | segments (segments : List (List Char))
  | plain (text : List Char)
  deriving DecidableEq

/-- An address in its parts.  A port that is the usual one of the scheme is not kept. -/
structure Url where
  scheme : List Char
  username : List Char
  password : List Char
  host : Option Host
  port : Option Nat
  path : UrlPath
  query : Option (List Char)
  fragment : Option (List Char)
  deriving DecidableEq

namespace Url

/-- A scheme whose addresses have a host, and where a backslash counts as a slash. -/
def isSpecial (scheme : List Char) : Bool :=
  ["http", "https", "ws", "wss", "ftp", "file"].any fun name => name.toList == scheme

def defaultPort? (scheme : List Char) : Option Nat :=
  if scheme = "http".toList ∨ scheme = "ws".toList then some 80
  else if scheme = "https".toList ∨ scheme = "wss".toList then some 443
  else if scheme = "ftp".toList then some 21
  else none

/-- Printable characters of ASCII; no part of an address keeps any other. -/
def isPrintable (character : Char) : Bool := ' ' ≤ character && character ≤ '~'

def isFragmentPlain (character : Char) : Bool :=
  isPrintable character && !(" \"<>\x60".toList.contains character)

/-- The characters that a query keeps; under a special scheme the apostrophe is not one. -/
def isQueryPlain (special : Bool) (character : Char) : Bool :=
  isPrintable character && !(" \"#<>".toList.contains character) &&
    !(special && character == '\'')

def isPathPlain (character : Char) : Bool :=
  isPrintable character && !(" \"#<>?\x60\x7b\x7d".toList.contains character)

def isUserPlain (character : Char) : Bool :=
  isPathPlain character && !("/:;=@[\\]^|".toList.contains character)

end Url

namespace Host

/-- The four bytes of an address of thirty-two bits, between dots. -/
def writeIpv4 (address : Nat) : List Char :=
  let byte (shift : Nat) : List Char := Nat.toDigits 10 (address / shift % 256)
  byte 16777216 ++ '.' :: byte 65536 ++ '.' :: byte 256 ++ '.' :: byte 1

/-- The length of the run of zeros at the start of a list. -/
def zeroRun : List Nat → Nat
  | 0 :: pieces => zeroRun pieces + 1
  | _ => 0

/-- Where the first longest run of zeros starts, and its length. -/
def longestZeroRun : List Nat → Nat × Nat
  | [] => (0, 0)
  | piece :: pieces =>
      let here := zeroRun (piece :: pieces)
      let later := longestZeroRun pieces
      if later.2 ≤ here then (0, here) else (later.1 + 1, later.2)

def writePieces (pieces : List Nat) : List Char :=
  List.intercalate [':'] (pieces.map (Nat.toDigits 16))

/-- An address of eight pieces; its first longest run of at least two zeros is left out. -/
def writeIpv6 (pieces : List Nat) : List Char :=
  let (start, length) := longestZeroRun pieces
  if length < 2 then writePieces pieces
  else writePieces (pieces.take start) ++ ':' :: ':' :: writePieces (pieces.drop (start + length))

def write : Host → List Char
  | domain name | named name => name
  | ipv4 address => writeIpv4 address
  | ipv6 pieces => '[' :: writeIpv6 pieces ++ [']']

end Host

namespace Url

def protocol (url : Url) : List Char := url.scheme ++ [':']

/-- The scheme, the host, and the port where it is not the usual one. -/
def origin (url : Url) : List Char :=
  url.scheme ++ "://".toList ++ (url.host.map Host.write).getD [] ++
    match url.port with
    | some port => ':' :: Nat.toDigits 10 port
    | none => []

/-- The path with a slash before each segment. -/
def pathname (url : Url) : List Char :=
  match url.path with
  | .segments segments => segments.flatMap ('/' :: ·)
  | .plain text => text

/-- The query with its question mark; an empty query shows nothing. -/
def search (url : Url) : List Char :=
  match url.query with
  | some (character :: query) => '?' :: character :: query
  | _ => []

/-- The fragment with its number sign; an empty fragment shows nothing. -/
def hash (url : Url) : List Char :=
  match url.fragment with
  | some (character :: fragment) => '#' :: character :: fragment
  | _ => []

end Url

end BlobStorage
