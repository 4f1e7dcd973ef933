import BlobStorage.Client.Basic
import BlobStorage.Proofs.AddressParts
import BlobStorage.Proofs.ConfigFields
import BlobStorage.Proofs.EndpointBase

/-!
# The endpoint of an account

Without an endpoint of their own, settings lead to the public one of their account.  The name of an
account is of lower-case letters and digits, which a host keeps as they are; and what stands behind
it keeps the host from being read as an address in numbers.  So the endpoint is read as it is
written, and every address below it begins with it.
-/

namespace BlobStorage

namespace Percent

theorem decode_of_not_mem {characters : List Char} (noMark : '%' ∉ characters) :
    decode characters = characters := by
  have plain : ∀ character ∈ characters, (character != '%') = true := by
    intro character member
    rw [bne_iff_ne]
    rintro rfl
    exact noMark member
  have read : decode (encode (· != '%') characters) = characters := decode_encode rfl characters
  rwa [encode_of_plain plain] at read

end Percent

namespace Host

/-- The characters of a name that needs no rewriting: lower-case letters, digits, and dots. -/
def isNamePlain (character : Char) : Bool :=
  ('a' ≤ character && character ≤ 'z') || ('0' ≤ character && character ≤ '9') || character == '.'

theorem ascii_of_isNamePlain (character : Char) (plain : isNamePlain character) :
    character.toNat < 128 := by
  rw [isNamePlain, Bool.or_eq_true, beq_iff_eq] at plain
  rcases plain with alphanumeric | rfl
  · apply Percent.ascii_of_isAlphanumeric
    rw [Percent.isAlphanumeric, Bool.or_eq_true, Bool.or_comm]
    exact .inl alphanumeric
  · decide

theorem lowerChar_of_isNamePlain (character : Char) (plain : isNamePlain character) :
    lowerChar character = character := by
  have same := @forall_of_ascii isNamePlain (fun character => lowerChar character == character)
    ascii_of_isNamePlain (by decide +kernel) character plain
  exact beq_iff_eq.mp same

theorem not_isForbiddenInDomain_of_isNamePlain (character : Char)
    (plain : isNamePlain character) : isForbiddenInDomain character = false := by
  have allowed := @forall_of_ascii isNamePlain (fun character => !isForbiddenInDomain character)
    ascii_of_isNamePlain (by decide +kernel) character plain
  simpa using allowed

/-- A name that needs no rewriting, and is no address in numbers because its last label is none. -/
structure IsPlainName (name : List Char) : Prop where
  plain : ∀ character ∈ name, isNamePlain character
  noNumber : endsInNumber name = false
  someName : name ≠ []

theorem endsInNumber_append {label : List Char} (noDot : '.' ∉ label) (someLabel : label ≠ [])
    (noDigits : (label.all fun c => '0' ≤ c && c ≤ '9') = false)
    (noPart : ipv4Part? label = none) (name : List Char) :
    endsInNumber (name ++ '.' :: label) = false := by
  have last : (Text.split '.' (name ++ '.' :: label)).getLast? = some label := by
    rw [Text.split_append_separator, Text.split_of_not_mem noDot, List.getLast?_concat]
  simp [endsInNumber, last, someLabel, noDigits, noPart]

end Host

namespace Domain

open Host (isNamePlain IsPlainName)

/-- A name of lower-case letters, digits and dots is written in ASCII as it stands. -/
theorem toAscii?_of_plain {name : List Char} (plain : ∀ character ∈ name, isNamePlain character) :
    toAscii? name = some name := by
  have ascii (piece : List Char) (inside : ∀ character ∈ piece, character ∈ name) :
      isAscii piece = true := by
    refine List.all_eq_true.mpr fun character member => decide_eq_true ?_
    exact Host.ascii_of_isNamePlain character (plain character (inside character member))
  have prepared : prepare? name = some name := by
    rw [prepare?, if_pos (ascii name fun _ => id), Option.some.injEq]
    exact (List.map_congr_left fun character member =>
      Host.lowerChar_of_isNamePlain character (plain character member)).trans (List.map_id' name)
  have labels : (Text.split '.' name).mapM labelToAscii? = some (Text.split '.' name) := by
    rw [Text.mapM_eq_some_iff, List.forall₂_same]
    intro label member
    have inside : ∀ character ∈ label, character ∈ name :=
      fun character within => (Text.mem_piece member within).1
    have noMark : Idna.encodedMark.isPrefixOf label = false := by
      rw [← Bool.not_eq_true, List.isPrefixOf_iff_prefix]
      intro starts
      have hyphen := plain '-' (inside '-' (starts.subset (by decide)))
      exact absurd hyphen (by decide)
    rw [labelToAscii?, noMark, ascii label inside]
    rfl
  rw [toAscii?, prepared, Option.bind_eq_bind, Option.bind_some, labels]
  exact congrArg some (Text.intercalate_split '.' name)

end Domain

namespace Url

open Host (isNamePlain IsPlainName)

variable {name : List Char}

theorem not_mem_of_isPlainName (named : IsPlainName name) {mark : Char}
    (other : isNamePlain mark = false) : mark ∉ name := by
  intro member
  rw [named.plain mark member] at other
  cases other

theorem not_isEdge_of_isNamePlain (character : Char) (plain : isNamePlain character) :
    isEdge character = false := by
  have visible := @forall_of_ascii isNamePlain (fun character => !isEdge character)
    Host.ascii_of_isNamePlain (by decide +kernel) character plain
  simpa using visible

theorem not_isSlash_of_isNamePlain (character : Char) (plain : isNamePlain character) :
    isSlash character = false := by
  have goesOn := @forall_of_ascii isNamePlain (fun character => !isSlash character)
    Host.ascii_of_isNamePlain (by decide +kernel) character plain
  simpa using goesOn

theorem cutAtLast_of_not_mem {mark : Char} {text : List Char} (absent : mark ∉ text) :
    cutAtLast mark text = (none, text) := by
  have whole : (text.reverse.takeWhile (· != mark)).reverse = text := by
    rw [List.takeWhile_eq_self_iff.mpr, List.reverse_reverse]
    intro character member
    rw [bne_iff_ne]
    rintro rfl
    exact absent (List.mem_reverse.mp member)
  have notThere : text.contains mark = false := by simpa using absent
  simp only [cutAtLast, whole, notThere, Bool.false_eq_true, if_false]

theorem readDomain?_of_isPlainName (named : IsPlainName name) :
    readDomain? name = some (.domain name) := by
  have allowed : name.any Host.isForbiddenInDomain = false :=
    List.any_eq_false.mpr fun character member =>
      Bool.not_eq_true _ ▸
        Host.not_isForbiddenInDomain_of_isNamePlain character (named.plain character member)
  have someName : name.isEmpty = false := List.isEmpty_eq_false_iff.mpr named.someName
  rw [readDomain?, Percent.decode_of_not_mem (not_mem_of_isPlainName named (by decide)),
    Domain.toAscii?_of_plain named.plain, Option.bind_eq_bind, Option.bind_some, allowed, someName,
    named.noNumber]
  rfl

/-- The authority that a plain name is: its host, without a user and without a port. -/
def Authority.ofName (name : List Char) : Authority := ⟨[], [], .domain name, none⟩

theorem readAuthority?_of_isPlainName {scheme : List Char} (web : IsWeb scheme)
    (named : IsPlainName name) : readAuthority? scheme name = some (.ofName name) := by
  have special := isSpecial_of_isWeb web
  have noUser : cutAtLast '@' name = (none, name) :=
    cutAtLast_of_not_mem (not_mem_of_isPlainName named (by decide))
  have noPort : hostPart false name = (name, none) := by
    refine (hostPart_cases false name).resolve_right ?_
    rintro ⟨host, port, -, cut⟩
    exact not_mem_of_isPlainName named (by decide : isNamePlain ':' = false) (by simp [cut])
  have host : readSpecialHost? name = some (.domain name) := by
    rw [readSpecialHost?]
    · exact readDomain?_of_isPlainName named
    · rintro rest rfl
      exact not_mem_of_isPlainName named (by decide : isNamePlain '[' = false) List.mem_cons_self
  have someName : name.isEmpty = false := List.isEmpty_eq_false_iff.mpr named.someName
  simp only [readAuthority?, noUser, noPort, someName, special, host, Bool.false_and,
    Bool.false_eq_true, if_false, if_true]
  rfl

theorem visible_of_all {text : List Char} (all : text.all fun character => !isEdge character) :
    ∀ character ∈ text, isEdge character = false := by
  simpa using all

/-- An address of a scheme and a plain name is read as it is written. -/
theorem ofChars?_of_isPlainName {scheme : List Char} (web : IsWeb scheme)
    (named : IsPlainName name) :
    ofChars? (scheme ++ "://".toList ++ name) =
      some ((Authority.ofName name).under scheme (.segments [[]]) none none) := by
  have visible : ∀ character ∈ scheme ++ "://".toList ++ name, isEdge character = false := by
    simp only [List.forall_mem_append]
    refine ⟨⟨?_, visible_of_all (by decide)⟩, fun character member =>
      not_isEdge_of_isNamePlain character (named.plain character member)⟩
    rcases web with rfl | rfl <;> exact visible_of_all (by decide)
  have split : splitScheme? (clean (scheme ++ "://".toList ++ name)) =
      some (scheme, "//".toList ++ name) := by
    rw [clean_of_visible visible, List.append_assoc]
    exact splitScheme?_of_isWeb web _
  have cut : Cut ("//".toList ++ name) ("//".toList ++ name) none none := by
    have absent {mark : Char} (other : isNamePlain mark = false) (noSlash : mark ≠ '/') :
        mark ∉ "//".toList ++ name := by
      simp [noSlash, not_mem_of_isPlainName named other]
    exact ⟨by simp [querySuffix, fragmentSuffix], absent (by decide) (by decide),
      absent (by decide) (by decide), by simp⟩
  have parts : Parts ("//".toList ++ name) "//".toList name [] := by
    exact ⟨by simp, List.all_eq_true.mp (by decide), fun character member =>
      not_isSlash_of_isNamePlain character (named.plain character member), by simp, by simp⟩
  rw [cut.ofChars? web split, readWeb?, parts.eq.1, parts.eq.2,
    readAuthority?_of_isPlainName web named]
  rfl

end Url

namespace Client

open Host (isNamePlain IsPlainName)

/-- The host of an account. -/
def hostOf (letters : List Char) : List Char := letters ++ ".blob.core.windows.net".toList

theorem isPlainName_hostOf {letters : List Char}
    (plain : ∀ character ∈ letters, isNamePlain character) : IsPlainName (hostOf letters) := by
  have suffixPlain : ∀ character ∈ ".blob.core.windows.net".toList, isNamePlain character :=
    List.all_eq_true.mp (by decide)
  refine ⟨?_, ?_, by simp [hostOf]⟩
  · rw [hostOf, List.forall_mem_append]
    exact ⟨plain, suffixPlain⟩
  · have last : hostOf letters =
        (letters ++ ".blob.core.windows".toList) ++ '.' :: "net".toList := by
      rw [hostOf, List.append_assoc]
      rfl
    rw [last]
    exact Host.endsInNumber_append (by decide) (by decide) (by decide) (by decide) _

theorem exists_letter {u : UInt16} (allowed : Text.isLowerLetter u || Text.isDigit u) :
    ∃ letter, Text.ofChar letter = [u] ∧ isNamePlain letter := by
  have small : u.toNat < 128 := by
    have bounded : u ≤ Text.unit 'z' ∨ u ≤ Text.unit '9' := by
      simp only [Text.isLowerLetter, Text.isDigit, Bool.or_eq_true, Bool.and_eq_true,
        decide_eq_true_eq] at allowed
      exact allowed.imp And.right And.right
    have z : (Text.unit 'z').toNat < 128 := by decide
    have nine : (Text.unit '9').toNat < 128 := by decide
    rcases bounded with below | below
    · exact Nat.lt_of_le_of_lt (UInt16.le_iff_toNat_le.mp below) z
    · exact Nat.lt_of_le_of_lt (UInt16.le_iff_toNat_le.mp below) nine
  have checked : ∀ number < 128,
      (Text.isLowerLetter (.ofNat number) || Text.isDigit (.ofNat number)) = true →
        Text.ofChar (Char.ofNat number) = [.ofNat number] ∧ isNamePlain (Char.ofNat number) := by
    decide +kernel
  have same : UInt16.ofNat u.toNat = u := UInt16.ofNat_toNat
  rw [← same] at allowed ⊢
  exact ⟨_, checked u.toNat small allowed⟩

theorem exists_letters {name : Text} (accepted : Config.isAccountName name) :
    ∃ letters, name = Text.ofChars letters ∧ ∀ character ∈ letters, isNamePlain character := by
  have allowed := List.all_eq_true.mp (Bool.and_eq_true_iff.mp accepted).2
  clear accepted
  induction name with
  | nil => exact ⟨[], rfl, by simp⟩
  | cons u name induction =>
      rw [List.forall_mem_cons] at allowed
      obtain ⟨letter, spelled, plain⟩ := exists_letter allowed.1
      obtain ⟨letters, rfl, allPlain⟩ := induction allowed.2
      refine ⟨letter :: letters, by rw [Text.ofChars_cons, spelled]; rfl, ?_⟩
      rw [List.forall_mem_cons]
      exact ⟨plain, allPlain⟩

theorem defaultBlobEndpoint_ofChars (letters : List Char) :
    Resource.defaultBlobEndpoint (Text.ofChars letters) =
      Text.ofChars ("https".toList ++ "://".toList ++ hostOf letters) := by
  rw [hostOf, ← List.append_assoc, Text.ofChars_append, Text.ofChars_append]
  rfl

theorem withoutTrailingSlashes_default (name : Text) :
    Resource.withoutTrailingSlashes (Resource.defaultBlobEndpoint name) =
      Resource.defaultBlobEndpoint name := by
  have last : Resource.defaultBlobEndpoint name =
      "https://" ++ name ++ ".blob.core.windows.ne" ++ [Text.unit 't'] := by
    rw [List.append_assoc]
    rfl
  rw [last]
  exact Text.trimEnd_append_of_neg (· == Text.unit '/') (by decide) _

theorem blobEndpoint_ofConfig {config : Config} (ungiven : config.blobEndpoint.join = none) :
    (ofConfig config).blobEndpoint = Resource.defaultBlobEndpoint config.accountName := by
  rw [ofConfig, endpointOf]
  split
  · rename_i endpoint given
    rw [given] at ungiven
    cases ungiven
  · exact withoutTrailingSlashes_default _

/-- The endpoint of a client that was given none is read as the host of its account. -/
theorem ofText?_defaultBlobEndpoint {name : Text} (accepted : Config.isAccountName name) :
    ∃ letters, name = Text.ofChars letters ∧
      Url.ofText? (Resource.defaultBlobEndpoint name) =
        some ((Url.Authority.ofName (hostOf letters)).under "https".toList (.segments [[]])
          none none) := by
  obtain ⟨letters, rfl, plain⟩ := exists_letters accepted
  refine ⟨letters, rfl, ?_⟩
  rw [defaultBlobEndpoint_ofChars, Url.ofText?, Text.toCharsLossy_ofChars]
  exact Url.ofChars?_of_isPlainName (.inr rfl) (isPlainName_hostOf plain)

theorem origin_defaultBlobEndpoint {name : Text} (accepted : Config.isAccountName name) :
    ∃ url, Url.ofText? (Resource.defaultBlobEndpoint name) = some url ∧
      Text.ofChars url.origin = Resource.defaultBlobEndpoint name ∧
      Resource.endpointProblem? url = none ∧
      Resource.base url = Resource.defaultBlobEndpoint name := by
  obtain ⟨letters, rfl, read⟩ := ofText?_defaultBlobEndpoint accepted
  have origin : ((Url.Authority.ofName (hostOf letters)).under "https".toList (.segments [[]])
      none none).origin = "https".toList ++ "://".toList ++ hostOf letters :=
    List.append_nil _
  refine ⟨_, read, ?_, Resource.endpointProblem?_eq_none_iff.mpr ⟨.inr rfl, rfl, rfl⟩, ?_⟩
  · rw [origin, defaultBlobEndpoint_ofChars]
  · rw [Resource.base, origin, ← defaultBlobEndpoint_ofChars]
    exact List.append_nil _

end Client

namespace Resource

variable {endpoint : Text} {url : Url}

def Condition.onEndpoint : List Condition := [.endpointParses, .protocolSupported, .endpointBare]

/-- The conditions on the names below an endpoint. -/
def Condition.onNames : List Condition :=
  [.containerNamed, .blobNamed, .segmentsKept, .namesEncodable]

theorem Condition.inOrder_eq : inOrder = onEndpoint ++ onNames := rfl

theorem holds_onEndpoint (read : Url.ofText? endpoint = some url)
    (suited : endpointProblem? url = none) (container : Text) (blob? : Option Text) :
    ∀ condition ∈ Condition.onEndpoint, condition.Holds endpoint container blob? := by
  obtain ⟨web, bare⟩ := endpointProblem?_eq_none_iff.mp suited
  simp only [Condition.onEndpoint, List.forall_mem_cons, List.not_mem_nil, false_implies,
    implies_true, and_true]
  exact holds_of_parsed read (url.protocol_iff_isWeb.mpr web) bare

/-- Below an endpoint that can be used the names decide: either there is an address, which begins as
the endpoint does, or a condition on the names is reported. -/
theorem names_decide (read : Url.ofText? endpoint = some url)
    (suited : endpointProblem? url = none) (container : Text) (blob? : Option Text)
    {search : List (Text × Value)} (parameters : ∀ entry ∈ search, IsParameter entry.2) :
    let outcome := uri (.string endpoint) (.string container) (blobValue blob?) search
    ((∀ condition ∈ Condition.onNames, condition.Holds endpoint container blob?) →
      ∃ address, outcome = .ok address ∧ (base url ++ "/" : Text) <+: address) ∧
    ((¬∀ condition ∈ Condition.onNames, condition.Holds endpoint container blob?) →
      ∃ condition ∈ Condition.onNames, ¬condition.Holds endpoint container blob? ∧
        outcome = .failed (condition.report endpoint container)) := by
  have onEndpoint := holds_onEndpoint read suited container blob?
  constructor
  · intro named
    have conditions : ∀ condition ∈ Condition.inOrder,
        condition.Holds endpoint container blob? := by
      rw [Condition.inOrder_eq, List.forall_mem_append]
      exact ⟨onEndpoint, named⟩
    obtain ⟨address, made⟩ := uri_of_conditions conditions parameters
    exact ⟨address, made,
      base_prefix_of_uri (baseOf?_eq_some_iff.mpr ⟨url, read, suited, rfl⟩) made⟩
  · intro unnamed
    have failing : ¬∀ condition ∈ Condition.inOrder,
        condition.Holds endpoint container blob? := by
      rw [Condition.inOrder_eq, List.forall_mem_append]
      exact fun both => unnamed both.2
    obtain ⟨condition, passed, fails⟩ := exists_first_failing failing
    have among : condition ∈ Condition.onEndpoint ++ Condition.onNames := by
      cases condition <;> decide
    have onNames : condition ∈ Condition.onNames :=
      (List.mem_append.mp among).resolve_left fun early => fails (onEndpoint condition early)
    exact ⟨condition, onNames, fails, uri_of_first_failing passed fails search⟩

end Resource

namespace Client

open Resource (Condition)

/-- The client of an account without an endpoint of its own never fails for its endpoint: that is
read as the host of the account, as it is written.  With names that pass their conditions there is
an address, which begins with that host and a slash; otherwise one of these conditions is
reported. -/
theorem addresses_below_account {settings : Value} {config : Config}
    (accepted : Config.read settings = .ok config) (ungiven : config.blobEndpoint.join = none)
    (container : Text) (blob? : Option Text) {search : List (Text × Value)}
    (parameters : ∀ entry ∈ search, Resource.IsParameter entry.2) :
    let own := (ofConfig config).blobEndpoint
    let outcome :=
      Resource.uri (.string own) (.string container) (Resource.blobValue blob?) search
    (∃ url, Url.ofText? own = some url ∧ Text.ofChars url.origin = own) ∧
    ((∀ condition ∈ Condition.onNames, condition.Holds own container blob?) →
      ∃ address, outcome = .ok address ∧
        ("https://" ++ config.accountName ++ ".blob.core.windows.net/" : Text) <+: address) ∧
    ((¬∀ condition ∈ Condition.onNames, condition.Holds own container blob?) →
      ∃ condition ∈ Condition.onNames, ¬condition.Holds own container blob? ∧
        outcome = .failed (condition.report own container)) := by
  intro own outcome
  obtain ⟨entries, -, -, sound⟩ := Config.read_eq_ok_iff.mp accepted
  have derived : own = Resource.defaultBlobEndpoint config.accountName :=
    blobEndpoint_ofConfig ungiven
  obtain ⟨url, read, origin, suited, begins⟩ := origin_defaultBlobEndpoint sound.accountName
  rw [← derived] at read origin begins
  have account : (own ++ "/" : Text) =
      "https://" ++ config.accountName ++ ".blob.core.windows.net/" := by
    rw [derived, Resource.defaultBlobEndpoint, List.append_assoc]
    rfl
  have decided := Resource.names_decide read suited container blob? parameters
  rw [begins, account] at decided
  exact ⟨⟨url, read, origin⟩, decided⟩

/-- Settings of an account whose name looks like a number. -/
def numberedSettings : Value :=
  .record [("accountName", .string "0x7f"), ("blobEndpoint", .undefined)]

def numberedConfig : Config where
  accountName := "0x7f"
  blobEndpoint := some none
  apiVersion := Config.defaultApiVersion
  requestTimeout := .milliseconds (.ofInt Config.defaultRequestTimeout)
  headers := none
  logging := ⟨.info, false⟩

/-- A name that looks like a number stays a name, and a blob below it has an address. -/
theorem addresses_below_account_numbered :
    (∃ url, Url.ofText? (ofConfig numberedConfig).blobEndpoint = some url ∧
      Text.ofChars url.origin = (ofConfig numberedConfig).blobEndpoint) ∧
    ∃ address,
      Resource.uri (.string (ofConfig numberedConfig).blobEndpoint) (.string "$web")
        (.string "a b/c.txt") [("timeout", .ofNat 5)] = .ok address ∧
      ("https://0x7f.blob.core.windows.net/" : Text) <+: address := by
  have accepted : Config.read numberedSettings = .ok numberedConfig := rfl
  have parameters : ∀ entry ∈ [(("timeout" : Text), Value.ofNat 5)],
      Resource.IsParameter entry.2 := by
    rw [List.forall_mem_singleton]
    trivial
  have named : ∀ condition ∈ Condition.onNames,
      condition.Holds (ofConfig numberedConfig).blobEndpoint "$web" (some "a b/c.txt") := by
    simp only [Condition.onNames, List.forall_mem_cons, List.not_mem_nil, false_implies,
      implies_true, and_true, Condition.Holds]
    decide +kernel
  obtain ⟨read, addressed, -⟩ :=
    addresses_below_account accepted rfl "$web" (some "a b/c.txt") parameters
  exact ⟨read, addressed named⟩

end Client

end BlobStorage
