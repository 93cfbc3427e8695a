import ProfilePolicy.Mishap
import ProfilePolicy.Text.Blank
import ProfilePolicy.Text.LetterCase
import ProfilePolicy.Text.Search

/-!
# Request headers

Header names are compared without regard to letter case. Two headers carry ids for tracing: one for
the chain of requests that a request belongs to, and one for the request itself. A third one tells
what the body of a request is written in.
-/

namespace ProfilePolicy.Http

abbrev Headers := List (String × String)

namespace Headers

def get? (headers : Headers) (name : String) : Option String :=
  (headers.find? fun header => Text.lower header.1 == Text.lower name).map (·.2)

def correlationId? (headers : Headers) : Option String :=
  headers.get? "X-Correlation-ID"

def requestId? (headers : Headers) : Option String :=
  headers.get? "X-Request-ID"

/-- The correlation id, or the empty text. -/
def correlationId (headers : Headers) : String :=
  headers.correlationId?.getD ""

/-- What is wrong with headers of a request that is sent: they must be ASCII. -/
def problem? (headers : Headers) : Option Mishap :=
  headers.findSome? fun header => (Mishap.ofForeign? header.1).or (Mishap.ofForeign? header.2)

/-- Whether a content type stands for JSON; what follows a semicolon does not matter. -/
def isJsonType (type : String) : Bool :=
  let name := Text.lower (Text.strip (String.ofList (type.toList.takeWhile (· != ';'))))
  match (Text.splitAt '/' name.toList).map String.ofList with
  | [main, kind] =>
    main == "application" && (kind == "json" || "+json".toList.isSuffixOf kind.toList)
  | _ => false

/-- Whether the body of a request is written in JSON; without a content type it is not. -/
def holdJson (headers : Headers) : Bool :=
  ((headers.get? "Content-Type").map isJsonType).getD false

end Headers

end ProfilePolicy.Http
