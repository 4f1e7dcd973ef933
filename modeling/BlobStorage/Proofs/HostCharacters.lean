import BlobStorage.Url.Parser

/-!
# The characters of a host

A host that was read under a special scheme is written without any character that ends an authority
or a user, and without blanks.  The same goes for the host with a port behind it, which is the part
of an origin behind its scheme.
-/

namespace BlobStorage

namespace Url

/-- Whether host and port may be written with a character: it is no blank, and it ends neither an
authority nor a user. -/
def isLocationPlain (character : Char) : Bool :=
  !isEdge character && !("/\\?#@".toList.contains character)

theorem isLocationPlain_of_allowed {character : Char}
    (allowed : Host.isForbiddenInDomain character = false) : isLocationPlain character := by
  simp only [Host.isForbiddenInDomain, Host.isForbidden, Bool.or_eq_false_iff] at allowed
  obtain ⟨⟨⟨unlisted, notControl⟩, -⟩, -⟩ := allowed
  have notListed (mark : Char) (listed : mark ∈ "\x00\t\n\r #/:<>?@[\\]^|".toList) :
      character ≠ mark := by
    rintro rfl
    rw [List.contains_iff_mem.mpr listed] at unlisted
    cases unlisted
  unfold isLocationPlain
  rw [Bool.and_eq_true, Bool.not_eq_true', Bool.not_eq_true']
  constructor
  · rw [isEdge, decide_eq_false_iff_not]
    intro blank
    have control := of_decide_eq_false notControl
    apply notListed ' ' (by decide)
    rw [Char.le_def, UInt32.le_iff_toNat_le] at blank control
    apply Char.toNat_inj.mp
    exact Nat.le_antisymm blank (Nat.lt_of_not_le control)
  · rw [← Bool.not_eq_true, List.contains_iff_mem]
    intro member
    have among : "/\\?#@".toList.all
        (fun mark => "\x00\t\n\r #/:<>?@[\\]^|".toList.contains mark) := by
      decide
    have listed := List.contains_iff_mem.mp (List.all_eq_true.mp among character member)
    exact notListed character listed rfl

end Url

namespace Host

private theorem mem_toDigits {base number : Nat} (large : 1 < base) (small : base ≤ 16)
    {digit : Char} (member : digit ∈ Nat.toDigits base number) :
    ∃ value < 16, digit = Nat.digitChar value := by
  induction number using Nat.strongRecOn with
  | ind number induction =>
      by_cases single : number < base
      · rw [Nat.toDigits_of_lt_base single, List.mem_singleton] at member
        exact ⟨number, by omega, member⟩
      · rw [Nat.toDigits_of_base_le large (by omega), List.mem_append, List.mem_singleton] at member
        rcases member with earlier | last
        · exact induction _ (Nat.div_lt_self (by omega) large) earlier
        · have below := Nat.mod_lt number (show base > 0 by omega)
          exact ⟨_, by omega, last⟩

theorem isLocationPlain_of_mem_toDigits {base number : Nat} (large : 1 < base)
    (small : base ≤ 16) {digit : Char} (member : digit ∈ Nat.toDigits base number) :
    Url.isLocationPlain digit := by
  obtain ⟨value, bound, rfl⟩ := mem_toDigits large small member
  have every : ∀ value < 16, Url.isLocationPlain (Nat.digitChar value) := by decide
  exact every value bound

theorem isLocationPlain_writeIpv4 (address : Nat) :
    ∀ character ∈ writeIpv4 address, Url.isLocationPlain character := by
  have byte (number : Nat) :
      ∀ character ∈ Nat.toDigits 10 number, Url.isLocationPlain character :=
    fun _ member => isLocationPlain_of_mem_toDigits (by decide) (by decide) member
  have dot : Url.isLocationPlain '.' := by decide
  simp only [writeIpv4, List.forall_mem_append, List.forall_mem_cons]
  exact ⟨⟨⟨byte _, dot, byte _⟩, dot, byte _⟩, dot, byte _⟩

theorem isLocationPlain_writePieces (pieces : List Nat) :
    ∀ character ∈ writePieces pieces, Url.isLocationPlain character := by
  have piecePlain (piece : Nat) :
      ∀ character ∈ Nat.toDigits 16 piece, Url.isLocationPlain character :=
    fun _ member => isLocationPlain_of_mem_toDigits (by decide) (by decide) member
  unfold writePieces
  induction pieces with
  | nil => simp
  | cons piece pieces induction =>
      cases pieces with
      | nil => simpa using piecePlain piece
      | cons next pieces =>
          have colon : Url.isLocationPlain ':' := by decide
          simp only [List.map_cons, List.intercalate_cons_cons, List.forall_mem_append,
            List.forall_mem_singleton] at induction ⊢
          exact ⟨⟨piecePlain piece, colon⟩, induction⟩

theorem isLocationPlain_writeIpv6 (pieces : List Nat) :
    ∀ character ∈ writeIpv6 pieces, Url.isLocationPlain character := by
  have colon : Url.isLocationPlain ':' := by decide
  unfold writeIpv6
  split
  split
  · exact isLocationPlain_writePieces pieces
  · simp only [List.forall_mem_append, List.forall_mem_cons]
    exact ⟨isLocationPlain_writePieces _, colon, colon, isLocationPlain_writePieces _⟩

/-- A host that can stand in an address under a special scheme. -/
structure Located (host : Host) : Prop where
  named : host.write ≠ []
  plain : ∀ character ∈ host.write, Url.isLocationPlain character

theorem located_ipv4 (address : Nat) : (ipv4 address).Located where
  named := by simp [write, writeIpv4]
  plain := isLocationPlain_writeIpv4 address

theorem located_ipv6 (pieces : List Nat) : (ipv6 pieces).Located where
  named := by simp [write]
  plain := by
    have opening : Url.isLocationPlain '[' := by decide
    have closing : Url.isLocationPlain ']' := by decide
    rw [write, List.forall_mem_append, List.forall_mem_cons, List.forall_mem_singleton]
    exact ⟨⟨opening, isLocationPlain_writeIpv6 pieces⟩, closing⟩

theorem located_readIpv4? {name : List Char} {host : Host} (read : readIpv4? name = some host) :
    host.Located := by
  simp only [readIpv4?, Option.bind_eq_bind] at read
  split at read
  · cases read
  · obtain ⟨numbers, -, written⟩ := Option.bind_eq_some_iff.mp read
    obtain ⟨address, -, rfl⟩ := Option.map_eq_some_iff.mp written
    exact located_ipv4 address

theorem located_readIpv6? {text : List Char} {host : Host} (read : readIpv6? text = some host) :
    host.Located := by
  unfold readIpv6? at read
  split at read
  · obtain ⟨pieces, -, rfl⟩ := Option.map_eq_some_iff.mp read
    exact located_ipv6 pieces
  · simp only [Option.bind_eq_bind] at read
    split at read
    · cases read
    · simp only [Option.bind_eq_some_iff] at read
      obtain ⟨left, -, right, -, joined⟩ := read
      split at joined
      · cases joined
        exact located_ipv6 _
      · cases joined

end Host

namespace Url

theorem located_readDomain? {text : List Char} {host : Host}
    (read : readDomain? text = some host) : host.Located := by
  simp only [readDomain?, Option.bind_eq_bind, Option.bind_eq_some_iff] at read
  obtain ⟨name, -, read⟩ := read
  split at read
  · cases read
  · rename_i accepted
    split at read
    · exact Host.located_readIpv4? read
    · cases read
      rw [Bool.not_eq_true, Bool.or_eq_false_iff] at accepted
      obtain ⟨someName, allowed⟩ := accepted
      constructor
      · exact List.isEmpty_eq_false_iff.mp someName
      · intro character member
        have unforbidden := List.any_eq_false.mp allowed character member
        exact isLocationPlain_of_allowed (Bool.eq_false_iff.mpr unforbidden)

/-- The host of a special scheme can stand in an address again. -/
theorem located_readSpecialHost? {text : List Char} {host : Host}
    (read : readSpecialHost? text = some host) : host.Located := by
  unfold readSpecialHost? at read
  split at read
  · unfold readBracketed? at read
    split at read
    · exact Host.located_readIpv6? read
    · cases read
  · exact located_readDomain? read

end Url

end BlobStorage
