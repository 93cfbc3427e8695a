import ProfilePolicy.Text.Search

/-!
# Routes

The places of the service: the collection of organizations, a single organization, its management by
an administrator, the health of the service, the guide to it, and the pages that show the guide.
Each place answers to some methods only.
-/

namespace ProfilePolicy.Api

/-- A place of the service. The identifier is as the path spells it. -/
inductive Route
  | collection
  | organization (id : String)
  | management (id : String)
  | health
  | guide
  | page
  deriving DecidableEq, Repr, Inhabited

namespace Route

def segments (path : String) : List String :=
  (Text.splitAt '/' path.toList).map String.ofList

/-- Segments without a line break at the end of the last one. -/
def withoutBreak (segments : List String) : List String :=
  match segments.getLast? with
  | none => []
  | some last =>
    if last.toList.getLast? == some '\n' then
      segments.dropLast ++ [String.ofList last.toList.dropLast]
    else segments

/-- The places whose last segment is fixed. -/
def ofFixed (segments : List String) : Option Route :=
  match segments with
  | ["", "health"] => some health
  | ["", "openapi.json"] => some guide
  | ["", "docs"] | ["", "docs", "oauth2-redirect"] | ["", "redoc"] => some page
  | ["", "api", "organizations"] => some collection
  | ["", "api", "organizations", id, "manage"] => if id == "" then none else some (management id)
  | _ => none

/-- The place of a path. A line break after a fixed last segment does not matter, but belongs to an
identifier that comes last. -/
def ofPath (path : String) : Option Route :=
  match ofFixed (withoutBreak (segments path)) with
  | some route => some route
  | none =>
    match segments path with
    | ["", "api", "organizations", id] => if id == "" then none else some (organization id)
    | _ => none

def withoutSlashes (path : String) : String :=
  String.ofList (path.toList.reverse.dropWhile (· == '/')).reverse

/-- Whether a path leads to a place once the slashes at its end are dropped. -/
def isRedirected (path : String) : Bool :=
  path != "/" && path.toList.getLast? == some '/' && (ofPath (withoutSlashes path)).isSome

def methods : Route → List String
  | collection => ["POST"]
  | organization _ => ["GET", "PUT", "DELETE"]
  | management _ => ["PUT"]
  | health => ["GET"]
  | guide | page => ["GET", "HEAD"]

end Route

end ProfilePolicy.Api
