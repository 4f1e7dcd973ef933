import BlobStorage.Failure.Basic
import BlobStorage.Text.Form
import BlobStorage.Url.Parser
import BlobStorage.Value.Record

/-!
# Addresses of resources

A resource is a container, or a blob in one, below the endpoint of a service.  Its address is the
endpoint, a slash, the percent-encoded container, the percent-encoded segments of the blob name, and
a query if there are parameters.  The conditions on endpoint and names are checked in a fixed order,
and the first one that fails is reported.
-/

namespace BlobStorage.Resource

/-- A segment that a reader of addresses would take away. -/
def isDotSegment (segment : Text) : Bool := segment == "." || segment == ".."

def defaultBlobEndpoint (accountName : Text) : Text :=
  "https://" ++ accountName ++ ".blob.core.windows.net"

/-- An endpoint that does not end in slashes. -/
def withoutTrailingSlashes (endpoint : Text) : Text := Text.trimEnd (· == Text.unit '/') endpoint

/-- The part of an address before its query. -/
def withoutQuery (uri : Text) : Text := uri.takeWhile (· != Text.unit '?')

/-- Why an address could not be built. -/
inductive Problem where
  | invalidEndpoint
  | unsupportedProtocol (protocol : Text)
  | endpointHasQuery
  | emptyContainer
  | emptyBlob
  | dotSegment
  | unencodable (cause : Failure)

def Problem.message : Problem → Text
  | invalidEndpoint => "error constructing URI, invalid endpoint"
  | unsupportedProtocol protocol => "error constructing URI, unsupported protocol " ++ protocol
  | endpointHasQuery => "error constructing URI, endpoint contains query or fragment"
  | emptyContainer => "error constructing URI, container name is empty"
  | emptyBlob => "error constructing URI, blob name is empty"
  | dotSegment => "error constructing URI, name has a . or .. segment"
  | unencodable _ => "error constructing URI, name cannot be encoded"

def Problem.cause : Problem → Option Value
  | invalidEndpoint => some .typeError
  | unencodable failure => some (.failure failure)
  | _ => none

/-- The failure that reports a problem with a text that was looked at. -/
def Problem.report (problem : Problem) (url : Value) : Outcome α :=
  .failed (Failure.constructUrl problem.message url problem.cause)

def endpointOf? (endpoint : Value) : Option Url := endpoint.toText?.bind Url.ofText?

def endpointProblem? (url : Url) : Option Problem :=
  if url.protocol ≠ "https:".toList ∧ url.protocol ≠ "http:".toList then
    some (.unsupportedProtocol (Text.ofChars url.protocol))
  else if url.search ≠ [] ∨ url.hash ≠ [] then some .endpointHasQuery
  else none

def base (url : Url) : Text :=
  Text.ofChars url.origin ++ withoutTrailingSlashes (Text.ofChars url.pathname)

def blobSegments (blob : Text) : List Text := Text.split (Text.unit '/') blob

def encodeName (name : Value) : Except Failure Text :=
  match name.toText? with
  | none => .error (Failure.ofPlatform .typeError)
  | some text =>
      match Percent.encodeComponent? text with
      | some encoded => .ok encoded
      | none => .error (Failure.ofPlatform .uriError)

/-- The encoded container and segments of a blob, joined by slashes.  A blob that is no text cannot
be taken apart. -/
def encodeNames (container blob : Value) : Except Failure Text := do
  let first ← encodeName container
  match blob with
  | .undefined => return first
  | .string text =>
      let segments ← (blobSegments text).mapM fun segment => encodeName (.string segment)
      return first ++ "/" ++ Text.join "/" segments
  | _ => throw (Failure.ofPlatform .typeError)

/-- The parameters that appear in a query, with their texts; one that is undefined does not. -/
def searchPairs (search : List (Text × Value)) : Outcome (List (Text × Text)) := do
  let pairs ← (search.filter fun entry => entry.2 matches .undefined |> not).mapM fun entry =>
    match entry.2.describe? with
    | some text => Outcome.ok (entry.1, text)
    | none => .raised .typeError
  return pairs.foldl
    (fun query pair => Record.put query (Text.ofChars pair.1.toCharsLossy) pair.2) []

def querySuffix (pairs : List (Text × Text)) : Text :=
  if pairs.isEmpty then [] else "?" ++ Form.encode pairs

/-- The segments of a name that could be taken away: the name of a container is one, that of a blob
is as many as it has.  A blob that is present and no text cannot be taken apart, unless it brings a
way of its own, which is a function and so leads to nothing. -/
def nameSegments (container blob : Value) : Outcome (List Text) :=
  let first :=
    match container with
    | .string text => [text]
    | _ => []
  match blob with
  | .undefined | .null => .ok first
  | .string text => .ok (first ++ blobSegments text)
  | other =>
      if other.member? "split" matches some .function then .ok first else .raised .typeError

/-- The text that is reported for an empty blob name: endpoint and container. -/
def emptyBlobUrl (endpoint container : Value) : Outcome Value :=
  match endpoint.toText?, container.toText? with
  | some endpoint, some container => .ok (.string (endpoint ++ "/" ++ container))
  | _, _ => .raised .typeError

def isEmptyText : Value → Bool
  | .string [] => true
  | _ => false

/-- The address of a container (when `blob` is undefined) or of a blob, with a query. -/
def uri (endpoint container blob : Value) (search : List (Text × Value)) : Outcome Text :=
  match endpointOf? endpoint with
  | none => Problem.invalidEndpoint.report endpoint
  | some url =>
      match endpointProblem? url with
      | some problem => problem.report endpoint
      | none =>
          if !container.isTruthy then Problem.emptyContainer.report endpoint
          else if isEmptyText blob then
            (emptyBlobUrl endpoint container).bind Problem.emptyBlob.report
          else
            (nameSegments container blob).bind fun segments =>
              if segments.any isDotSegment then Problem.dotSegment.report endpoint
              else
                match encodeNames container blob with
                | .error failure => (Problem.unencodable failure).report endpoint
                | .ok names =>
                    (searchPairs search).map fun pairs =>
                      base url ++ "/" ++ names ++ querySuffix pairs

end BlobStorage.Resource
