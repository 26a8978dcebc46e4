import CollectionTypes.Generation
import CollectionTypes.Value.Reader

/-!
# Requests over the network

A request asks for a web address, with headers and a limit of time. The
network answers with a status and a body, or fails. A failure may be of
several kinds at once (`Failure.kinds`), and it is taken for the first of them
in the order in which the kinds are asked for (`Failure.kind?`).
-/

namespace CollectionTypes

/-- **A request.** -/
structure Request where
  url : Value
  headers : List (String × String)
  /-- The limit of time, in seconds. -/
  timeout : Value

/-- The headers of a request with a token, which may be absent. -/
def Request.headersFor (token : Value) : List (String × String) :=
  ("Accept", "application/json")
    :: if token.truthy then [("Authorization", "Bearer " ++ token.shown)] else []

/-- **How the network fails**: the kinds of failures that are told apart. -/
inductive NetworkFault where
  | timeout
  | noConnection
  /-- A status that stands for an error. -/
  | badStatus
  /-- Any other fault of a request. -/
  | badRequest
  /-- A value that makes no sense, be it asked for or answered. -/
  | badResponse
  deriving DecidableEq, Repr

namespace NetworkFault

/-- **The kinds in the order in which they are asked for.** -/
def inOrder : List NetworkFault :=
  [timeout, noConnection, badStatus, badRequest, badResponse]

@[simp] theorem mem_inOrder (kind : NetworkFault) : kind ∈ inOrder := by
  cases kind <;> decide

/-- The classes of requests that time out. -/
def timeoutClasses : List String :=
  ["Timeout", "ConnectTimeout", "ReadTimeout"]

/-- The classes of connections that are not made. -/
def connectionClasses : List String :=
  ["ConnectionError", "ConnectTimeout", "SSLError", "ProxyError"]

/-- The classes of requests that hold a bad value. -/
def valueClasses : List String :=
  ["MissingSchema", "InvalidSchema", "InvalidURL", "InvalidHeader", "InvalidProxyURL",
    "JSONDecodeError"]

/-- The classes that a kind is made of. A class may be of several kinds. -/
def classes : NetworkFault → List String
  | timeout => timeoutClasses
  | noConnection => connectionClasses
  | badStatus => ["HTTPError"]
  | badRequest => timeoutClasses ++ connectionClasses ++ valueClasses
      ++ ["HTTPError", "RequestException", "InvalidJSONError", "URLRequired", "TooManyRedirects",
        "ChunkedEncodingError", "ContentDecodingError", "StreamConsumedError", "RetryError",
        "UnrewindableBodyError"]
  | badResponse => "ValueError" :: valueClasses

/-- **The kinds of a class.** -/
def ofClass (className : String) : List NetworkFault :=
  inOrder.filter fun kind => kind.classes.contains className

/-- What a fault of a request says: a number and a text, perhaps with a
file or two, are worded as faults of the system are. -/
def text : List Value → String
  | [number, text] => "[Errno " ++ number.shown ++ "] " ++ text.shown
  | [number, text, file] => fileText number text file
  | [number, text, file, _] => fileText number text file
  | [number, text, file, _, other] =>
    if other.isNull then fileText number text file
    else fileText number text file ++ " -> " ++ other.quoted
  | args => Raised.argsText args
where
  /-- The wording with a file. -/
  fileText (number text file : Value) : String :=
    "[Errno " ++ number.shown ++ "] " ++ text.shown
      ++ if file.isNull then "" else ": " ++ file.quoted

/-- What a failure of a request says. One that was met with in reading a
text tells the place in it. -/
def wording (r : Raised) : String :=
  match r.className, r.args with
  | "JSONDecodeError", [said, .text document, .int (.ofNat offset)] =>
    said.shown ++ ": " ++ (Place.after (document.toList.take offset)).text
  | _, args => text args

end NetworkFault

/-- **A failure of the network.** Of which kinds it is, is for its class to
say and for the classes above that. -/
structure Failure where
  className : String
  /-- What it says. -/
  text : String
  kinds : List NetworkFault
  /-- The status of the answer that it comes with, if it comes with one. -/
  status? : Option Int := none

namespace Failure

/-- **The kind that a failure is taken for**: the first that it is of. -/
def kind? (f : Failure) : Option NetworkFault :=
  NetworkFault.inOrder.find? f.kinds.contains

/-- A failure is taken for nothing if it is of no kind. -/
theorem kind?_eq_none_iff {f : Failure} : f.kind? = none ↔ f.kinds = [] := by
  simp [kind?, List.find?_eq_none, List.eq_nil_iff_forall_not_mem]

/-- A failure of a class of requests, or of the class of bad values itself,
without an answer. -/
def ofRaised (r : Raised) : Failure where
  className := r.className
  text := if NetworkFault.badRequest.classes.contains r.className then
      NetworkFault.wording r
    else r.message
  kinds := NetworkFault.ofClass r.className

end Failure

/-- **What becomes of a request.** -/
inductive Response where
  /-- A status and a body. -/
  | reply (status : Int) (body : String)
  /-- A failure. -/
  | raises (f : Failure)

/-- A request that fails, by the class of the failure. -/
def Response.fails (r : Raised) : Response :=
  raises (.ofRaised r)

/-- Whether a status stands for an error. -/
def isErrorStatus (status : Int) : Bool :=
  400 ≤ status && status < 600

/-- A body without the mark of its byte order. -/
def bodyChars (body : String) : List Char :=
  match body.toList with
  | '\uFEFF' :: rest => rest
  | cs => cs

end CollectionTypes
