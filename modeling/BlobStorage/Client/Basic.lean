import BlobStorage.Calendar.HttpDate
import BlobStorage.Config.Basic
import BlobStorage.Headers.Options
import BlobStorage.Resource.Uri

/-!
# Clients

A client holds the account and the endpoint that requests go to, the header fields that each of them
carries, and how long it may take.  `Client.ofConfig` takes checked settings; `Client.ofSettings`
takes any value at its word, as long as an endpoint can be had from it.
-/

namespace BlobStorage

/-- A client.  Version, timeout and header fields may be anything when its settings were not
checked. -/
structure Client where
  accountName : Value
  blobEndpoint : Text
  apiVersion : Value
  requestTimeout : Value
  headers : HeaderOptions

namespace RequestTimeout

def toValue : RequestTimeout → Value
  | never => .boolean false
  | milliseconds count => .number count

end RequestTimeout

namespace Client

def headersValue (headers : Option (Option (List (Text × Option Text)))) : Value :=
  match headers with
  | some (some fields) =>
      .record (fields.map fun (name, text?) =>
        (name, match text? with
          | some text => .string text
          | none => .null))
  | _ => .undefined

/-- The endpoint of settings: a given one without slashes at its end, or the public one. -/
def endpointOf (config : Config) : Text :=
  Resource.withoutTrailingSlashes
    (match config.blobEndpoint with
      | some (some endpoint) => endpoint
      | _ => Resource.defaultBlobEndpoint config.accountName)

def ofConfig (config : Config) : Client where
  accountName := .string config.accountName
  blobEndpoint := endpointOf config
  apiVersion := .string config.apiVersion
  requestTimeout := config.requestTimeout.toValue
  headers := .value (headersValue config.headers)

def settingsEndpoint? (accountName blobEndpoint : Value) : Option Text :=
  match blobEndpoint with
  | .string endpoint => some (Resource.withoutTrailingSlashes endpoint)
  | .undefined | .null =>
      accountName.toText?.map fun name =>
        Resource.withoutTrailingSlashes (Resource.defaultBlobEndpoint name)
  | _ => none

/-- The header fields of unchecked settings.  A failure that a response led to has those of the
response. -/
def settingsHeaders (settings : Value) : HeaderOptions :=
  match settings with
  | .failure ⟨_, _, _, _, .response _ _ headers⟩ => .headers headers.copy
  | _ => .value ((settings.member? "headers").getD .undefined)

/-- A client with unchecked settings, which may be anything that can be asked for its members. -/
def ofSettings (settings : Value) : Outcome Client :=
  if !settings.isPresent then .raised .typeError
  else
    let get (name : Text) : Value := (settings.member? name).getD .undefined
    match settingsEndpoint? (get "accountName") (get "blobEndpoint") with
    | some blobEndpoint => .ok {
        accountName := get "accountName"
        blobEndpoint
        apiVersion := get "apiVersion"
        requestTimeout := get "requestTimeoutMs"
        headers := settingsHeaders settings }
    | none => .raised .typeError

def versionHeader : Text := "x-ms-version"

def dateHeader : Text := "x-ms-date"

/-- The header fields of every request at an instant: version and date, and then the client's own,
which may change them or take them away.  There are none when one is refused. -/
def baseHeaders? (client : Client) (instant : Option Int) : Option Headers :=
  HeaderOptions.merge?
    (.value (.record [(versionHeader, client.apiVersion),
      (dateHeader, .string (Calendar.writeHttpDate? instant))]))
    client.headers

/-- What an operation does to the header fields of its request. -/
abbrev Mutator := Headers → Completion Headers

def assemble (client : Client) (instant : Option Int) (mutator : Mutator) : Completion Headers :=
  match client.baseHeaders? instant with
  | some headers => mutator headers
  | none => .threw .typeError

end Client

end BlobStorage
