import BlobStorage.Text.Units

/-!
# UTF-8

Writing characters as bytes, and reading bytes back with U+FFFD in place of everything that is not
UTF-8.  A malformed sequence is cut at the first byte that cannot continue it, and that byte is
looked at again; so one bad byte never swallows a good character behind it.
-/

namespace BlobStorage.Utf8

def encode (characters : List Char) : List UInt8 := characters.flatMap String.utf8EncodeChar

/-- A byte `10xxxxxx`, which continues a sequence. -/
def isContinuation (byte : UInt8) : Bool := 0x80 ≤ byte && byte ≤ 0xBF

def payload (byte : UInt8) : Nat := byte.toNat % 64

/-- The range of the byte after a lead byte of three or four bytes.  It is narrower than that of a
continuation byte where the wider one would spell a surrogate, a character above U+10FFFF, or a
character that fits into fewer bytes. -/
def secondByteAllowed (lead second : UInt8) : Bool :=
  if lead = 0xE0 then 0xA0 ≤ second && second ≤ 0xBF
  else if lead = 0xED then 0x80 ≤ second && second ≤ 0x9F
  else if lead = 0xF0 then 0x90 ≤ second && second ≤ 0xBF
  else if lead = 0xF4 then 0x80 ≤ second && second ≤ 0x8F
  else isContinuation second

/-- The characters that bytes spell, with U+FFFD for each maximal malformed piece. -/
def decode : List UInt8 → List Char
  | [] => []
  | lead :: rest =>
      if lead < 0x80 then Char.ofNat lead.toNat :: decode rest
      else if 0xC2 ≤ lead && lead ≤ 0xDF then
        match rest with
        | [] => ['\uFFFD']
        | second :: tail =>
            if isContinuation second then
              Char.ofNat (lead.toNat % 32 * 64 + payload second) :: decode tail
            else '\uFFFD' :: decode (second :: tail)
      else if 0xE0 ≤ lead && lead ≤ 0xEF then
        match rest with
        | [] => ['\uFFFD']
        | [second] =>
            if secondByteAllowed lead second then ['\uFFFD'] else '\uFFFD' :: decode [second]
        | second :: third :: tail =>
            if secondByteAllowed lead second then
              if isContinuation third then
                Char.ofNat (lead.toNat % 16 * 4096 + payload second * 64 + payload third) ::
                  decode tail
              else '\uFFFD' :: decode (third :: tail)
            else '\uFFFD' :: decode (second :: third :: tail)
      else if 0xF0 ≤ lead && lead ≤ 0xF4 then
        match rest with
        | [] => ['\uFFFD']
        | [second] =>
            if secondByteAllowed lead second then ['\uFFFD'] else '\uFFFD' :: decode [second]
        | [second, third] =>
            if secondByteAllowed lead second then
              if isContinuation third then ['\uFFFD'] else '\uFFFD' :: decode [third]
            else '\uFFFD' :: decode [second, third]
        | second :: third :: fourth :: tail =>
            if secondByteAllowed lead second then
              if isContinuation third then
                if isContinuation fourth then
                  Char.ofNat
                      (lead.toNat % 8 * 262144 + payload second * 4096 + payload third * 64 +
                        payload fourth) ::
                    decode tail
                else '\uFFFD' :: decode (fourth :: tail)
              else '\uFFFD' :: decode (third :: fourth :: tail)
            else '\uFFFD' :: decode (second :: third :: fourth :: tail)
      else '\uFFFD' :: decode rest

/-- Characters without a byte order mark at the start. -/
def dropMark : List Char → List Char
  | '\uFEFF' :: characters => characters
  | characters => characters

/-- Reading a document: the characters of the bytes.  A byte order mark at the start is dropped
twice over, once from the bytes and once in reading them. -/
def decodeDocument (bytes : List UInt8) : List Char := dropMark (dropMark (decode bytes))

end BlobStorage.Utf8
