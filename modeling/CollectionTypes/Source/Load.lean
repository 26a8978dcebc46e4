import CollectionTypes.Source.Files
import CollectionTypes.Source.Http
import CollectionTypes.Source.Url
import CollectionTypes.Value.Reader

/-!
# Loading a schema

A schema is a JSON object. It may come as a text, from a file, or over the
network, and it may be wrapped in another object under `data`. `loadText`,
`loadFile` and `loadUrl` give the schema together with what it came from,
and tell in the journal what they met with; `load` picks one of the last
two. `loadContent` is for a text that comes as bytes, which need not be one.
-/

namespace CollectionTypes

/-- **Why there is no schema.** -/
inductive SourceError where
  /-- A schema is an object. -/
  | notObject (kind : Kind)
  /-- A text that is no JSON. -/
  | badText (source : String) (m : Misspelling)
  /-- A file that holds no JSON. -/
  | badFile (path : Path) (m : Misspelling)
  /-- A text that exceeds a limit of what can be read. -/
  | excess (e : Excess)
  /-- A file that cannot be read. -/
  | unreadable (path : Path) (fault : FileFault)
  /-- No file there. -/
  | missingFile (path : Path)
  /-- A path that cannot be looked up. -/
  | barred (path : Path) (fault : FileFault)
  /-- A file whose bytes are no text. -/
  | notText (e : Text.Utf8Error)
  /-- A web address without scheme or authority. -/
  | incompleteUrl (url : Value)
  /-- No web address. -/
  | badUrl (e : UrlError)
  | timeout (url : Value)
  | noConnection (url : Value)
  | badStatus (status : Int) (url : Value)
  | badRequest (url : Value) (reason : String)
  | badResponse (url : Value) (reason : String)
  /-- A failure of no known kind. -/
  | raised (f : Failure)
  | noSource
  | twoSources
  | misuse (m : Misuse)

/-- The wording of the error. -/
def SourceError.message : SourceError → String
  | notObject kind => "Schema must be a JSON object, got " ++ kind.label
  | badText source m => "Invalid JSON from " ++ source ++ ": " ++ m.message
  | badFile path m => "Invalid JSON in file " ++ path.text ++ ": " ++ m.message
  | excess e => e.message
  | unreadable path fault =>
    "Error reading file " ++ path.text ++ ": " ++ fault.message path.text
  | missingFile path => "File not found: " ++ path.text
  | barred path fault => fault.message path.text
  | notText e => e.message
  | incompleteUrl url => "Invalid URL: " ++ url.shown
  | badUrl e => e.message
  | timeout url => "Request timeout for URL: " ++ url.shown
  | noConnection url => "Connection error for URL: " ++ url.shown
  | badStatus status url => "HTTP error " ++ toString status ++ " for URL: " ++ url.shown
  | badRequest url reason => "Request error for URL " ++ url.shown ++ ": " ++ reason
  | badResponse url reason =>
    "Invalid JSON response from URL " ++ url.shown ++ ": " ++ reason
  | raised f => f.text
  | noSource => "Either file_path or url must be provided"
  | twoSources => "Cannot specify both file_path and url"
  | misuse m => m.message

/-- **A schema and what it came from.** -/
structure Loaded where
  source : String
  schema : List (String × Value)

/-- What a loader does. -/
abbrev Loading (α : Type) := Traced SourceError α

namespace Loading

/-- An error, told in the journal in its own words. -/
def fail {α : Type} (e : SourceError) : Loading α :=
  ⟨[⟨.error, e.message⟩], .error e⟩

/-- An error, told in the journal in other words. -/
def failSaying {α : Type} (text : String) (e : SourceError) : Loading α :=
  ⟨[⟨.error, text⟩], .error e⟩

end Loading

/-- What is under `data`, unless the object has collections itself. -/
def unwrapped (v : Value) : Value :=
  match v with
  | .object ms =>
    match Table.lookup "data" ms, Table.lookup "collections" ms with
    | some inner, none => inner
    | _, _ => v
  | _ => v

/-- **The schema that a value wraps.** -/
def unwrap (v : Value) : Except SourceError (List (String × Value)) :=
  match unwrapped v with
  | .object ms => .ok ms
  | other => .error (.notObject other.kind)

/-- **A schema from a text.** -/
def loadText (text source : String) : Loading Loaded :=
  match Value.read text with
  | .error (.misspelt m) => Loading.fail (.badText source m)
  | .error (.excess e) => .silent (.error (.excess e))
  | .ok v => .silent ((unwrap v).map fun schema => ⟨source, schema⟩)

/-- A schema from a text that comes as a content. -/
def loadContent (content : Content) (source : String) : Loading Loaded :=
  match content.chars with
  | .error e => .silent (.error (.notText e))
  | .ok cs => loadText (String.ofList cs) source

/-- The value that a file holds. -/
def readFile (files : Files) (path : Path) : Loading Value :=
  match files.content path with
  | .error fault => Loading.fail (.unreadable path fault)
  | .ok content =>
    match content.read with
    | .error e => .silent (.error (.notText e))
    | .ok cs =>
      match Value.readChars cs with
      | .error (.misspelt m) => Loading.fail (.badFile path m)
      | .error (.excess e) => .silent (.error (.excess e))
      | .ok v => pure v

/-- **A schema from the file that a path leads to.** What keeps the path from
being looked up is not put into other words. -/
def loadPath (files : Files) (path : Path) : Loading Loaded := do
  Traced.note .debug ("Attempting to load schema from file: " ++ path.text)
  let there ← (files.has path).mapError (SourceError.barred path)
  if !there then Loading.fail (.missingFile path)
  else
    if !path.isJson then
      Traced.note .warning ("File does not have .json extension: " ++ path.text)
    let v ← readFile files path
    Traced.note .info ("Successfully loaded schema from " ++ path.text)
    let schema ← unwrap v
    return ⟨path.text, schema⟩

/-- A schema from a file under a loosely typed path. -/
def loadFile (files : Files) (path : Value) : Loading Loaded :=
  match path with
  | .text s => loadPath files (.ofString s)
  | v => .silent (.error (.misuse (.notPath v.kind)))

/-- The web address of a loosely typed text; what is not present has
neither scheme nor authority. -/
def urlOf (url : Value) : Except SourceError Url :=
  match url with
  | .text s => (Url.ofString s).mapError .badUrl
  | v => if v.truthy then .error (.misuse (.lacks v.kind "decode")) else .ok ⟨[], []⟩

/-- The value of an answer of the network. -/
def readResponse (url : Value) : Response → Loading Value
  | .reply status body =>
    if isErrorStatus status then Loading.fail (.badStatus status url)
    else
      match Value.readChars (bodyChars body) with
      | .error (.misspelt m) => Loading.fail (.badRequest url m.message)
      | .error (.excess (.digits count)) =>
        Loading.fail (.badResponse url (Excess.digits count).message)
      | .error (.excess (.depth isList)) => .silent (.error (.excess (.depth isList)))
      | .ok v => pure v
  | .raises f =>
    match f.kind? with
    | some .timeout => Loading.fail (.timeout url)
    | some .noConnection =>
      Loading.failSaying ("Connection error for URL " ++ url.shown ++ ": " ++ f.text)
        (.noConnection url)
    | some .badStatus =>
      -- a failure that comes without an answer has no status to be told
      match f.status? with
      | some status => Loading.fail (.badStatus status url)
      | none => .silent (.error (.misuse (.lacks .null "status_code")))
    | some .badRequest => Loading.fail (.badRequest url f.text)
    | some .badResponse => Loading.fail (.badResponse url f.text)
    | none => .silent (.error (.raised f))

/-- Whether a web address is asked for at all. -/
def isRequested (url : Value) : Bool :=
  match urlOf url with
  | .ok u => u.isComplete
  | .error _ => false

/-- **A schema from a web address**, and the request that was made. -/
def loadUrl (response : Response) (url : Value) : Loading Loaded := do
  Traced.note .debug ("Attempting to load schema from URL: " ++ url.shown)
  let u ← urlOf url
  if !u.isComplete then
    Loading.failSaying ("Invalid URL format: " ++ url.shown) (.incompleteUrl url)
  else
    let v ← readResponse url response
    Traced.note .info ("Successfully loaded schema from " ++ url.shown)
    let schema ← unwrap v
    return ⟨url.shown, schema⟩

/-- The requests that loading from a web address makes. -/
def requestsFor (url token timeout : Value) : List Request :=
  if isRequested url then [⟨url, Request.headersFor token, timeout⟩] else []

/-- **A schema from a file or from a web address**, whichever is given. -/
def load (files : Files) (response : Response) (path url : Value) : Loading Loaded :=
  if !path.truthy && !url.truthy then
    Loading.failSaying "Neither file_path nor url provided" .noSource
  else if path.truthy && url.truthy then
    Loading.failSaying "Both file_path and url provided" .twoSources
  else if path.truthy then loadFile files path
  else loadUrl response url

/-- The requests that `load` makes. -/
def loadRequests (path url token timeout : Value) : List Request :=
  if path.truthy then [] else requestsFor url token timeout

end CollectionTypes
