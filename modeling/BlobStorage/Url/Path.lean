import BlobStorage.Url.Host

/-!
# Reading paths

A path is cut into segments at its slashes.  A segment of one dot stands for nothing and one of two
dots takes the segment before it away; where such a segment ends the path, an empty one stands in
its place.  A dot may be percent-encoded.
-/

namespace BlobStorage.UrlPath

def isSingleDot (segment : List Char) : Bool :=
  let segment := segment.map Host.lowerChar
  segment == ".".toList || segment == "%2e".toList

def isDoubleDot (segment : List Char) : Bool :=
  let segment := segment.map Host.lowerChar
  ["..", ".%2e", "%2e.", "%2e%2e"].any fun dots => dots.toList == segment

def isLetter (character : Char) : Bool :=
  'a' ≤ Host.lowerChar character && Host.lowerChar character ≤ 'z'

/-- A letter of a drive and a colon or a bar. -/
def isDrive : List Char → Bool
  | [letter, mark] => isLetter letter && (mark == ':' || mark == '|')
  | _ => false

def isNormalDrive : List Char → Bool
  | [letter, mark] => isLetter letter && mark == ':'
  | _ => false

/-- Segments without the last one; the drive of a file stays. -/
def shorten (isFile : Bool) (segments : List (List Char)) : List (List Char) :=
  match segments with
  | [only] => if isFile && isNormalDrive only then [only] else []
  | _ => segments.dropLast

/-- One more segment, with its drive in normal form if it is the first one of a file. -/
def push (isFile : Bool) (segments : List (List Char)) (segment : List Char) :
    List (List Char) :=
  match segments, segment with
  | [], [letter, _] =>
      if isFile && isDrive segment then [[letter, ':']]
      else segments ++ [Percent.encode Url.isPathPlain segment]
  | _, _ => segments ++ [Percent.encode Url.isPathPlain segment]

/-- The segments that pieces of text between slashes stand for, after some that were read. -/
def resolve (isFile : Bool) (segments : List (List Char)) :
    List (List Char) → List (List Char)
  | [] => segments
  | [last] =>
      if isDoubleDot last then shorten isFile segments ++ [[]]
      else if isSingleDot last then segments ++ [[]]
      else push isFile segments last
  | piece :: pieces =>
      if isDoubleDot piece then resolve isFile (shorten isFile segments) pieces
      else if isSingleDot piece then resolve isFile segments pieces
      else resolve isFile (push isFile segments piece) pieces

def withSlashes (text : List Char) : List Char :=
  text.map fun c => if c = '\\' then '/' else c

def afterSlash : List Char → List Char
  | '/' :: rest => rest
  | rest => rest

/-- The path of a special scheme, which has at least one segment. -/
def ofSpecial (isFile : Bool) (text : List Char) : UrlPath :=
  .segments (resolve isFile [] (Text.split '/' (afterSlash (withSlashes text))))

/-- The path behind the authority of another scheme, which may be missing. -/
def ofOther (text : List Char) : UrlPath :=
  if text.isEmpty then .segments []
  else .segments (resolve false [] (Text.split '/' (afterSlash text)))

end BlobStorage.UrlPath
