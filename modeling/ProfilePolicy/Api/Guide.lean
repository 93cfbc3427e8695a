import ProfilePolicy.Log.Service
import ProfilePolicy.Value.Parts

/-!
# The guide to the service

The description that the service gives of itself: its operations, what they take and answer, and the
shapes of the records that pass through them. A path names its variable part between braces.
-/

namespace ProfilePolicy.Api.Guide

/-! ## Shapes -/

def texts (fields : List (String × String)) : Value :=
  .record (fields.map fun field => (field.1, .text field.2))

def textShape : Value := texts [("type", "string")]

def orNull (shape : Value) : Value := .list [shape, texts [("type", "null")]]

def listOf (shape : Value) : Value := .record [("items", shape), ("type", .text "array")]

def titled (title : String) (shape : Value) : Value :=
  .record (shape.entries ++ [("title", .text title)])

def optional (title : String) (shape : Value) : Value :=
  titled title (.record [("anyOf", orNull shape)])

def named (name : String) : Value := texts [("$ref", "#/components/schemas/" ++ name)]

def attributesShape : Value :=
  titled "Attributes" (.record [
    ("additionalProperties", listOf textShape), ("type", .text "object")])

def recordShape (title : String) (required : List String) (fields : List (String × Value)) :
    Value :=
  .record ([("properties", .record fields), ("type", .text "object"), ("title", .text title)] ++
    if required.isEmpty then [] else [("required", .ofTexts required)])

def idShape : Value := texts [("type", "string"), ("format", "uuid")]

def creationShape : Value :=
  recordShape "OrganizationCreate" ["name"] [
    ("name", titled "Name" (.record [
      ("type", .text "string"), ("maxLength", .int 255), ("minLength", .int 1)])),
    ("displayName", optional "Displayname" textShape),
    ("attributes", attributesShape)]

def changeShape : Value :=
  recordShape "OrganizationUpdate" [] [
    ("name", optional "Name" textShape),
    ("displayName", optional "Displayname" textShape),
    ("attributes", attributesShape)]

def organizationShape : Value :=
  recordShape "OrganizationResponse" ["id", "name", "displayName", "attributes", "createdAt"] [
    ("id", titled "Id" idShape),
    ("name", titled "Name" textShape),
    ("displayName", optional "Displayname" textShape),
    ("attributes", attributesShape),
    ("createdAt", optional "Createdat" (texts [("type", "string"), ("format", "date-time")]))]

def problemShape : Value :=
  recordShape "ValidationError" ["loc", "msg", "type"] [
    ("loc", titled "Location" (listOf (.record [
      ("anyOf", .list [textShape, texts [("type", "integer")]])]))),
    ("msg", titled "Message" textShape),
    ("type", titled "Error Type" textShape),
    ("input", titled "Input" (.record [])),
    ("ctx", titled "Context" (texts [("type", "object")]))]

def problemsShape : Value :=
  recordShape "HTTPValidationError" [] [
    ("detail", titled "Detail" (listOf (named "ValidationError")))]

/-! ## Operations -/

def content (shape : Value) : String × Value :=
  ("content", .record [("application/json", .record [("schema", shape)])])

structure Operation where
  method : String
  path : String
  /-- The name of the operation in words. -/
  words : List String
  description : String
  /-- Whether the path names an organization. -/
  namesOne : Bool := true
  /-- The name of the shape that it takes. -/
  takes : Option String := none
  status : String
  /-- The name of the shape that it answers. -/
  answers : Option String := none

def collectionPath : String := "/api/organizations"

def organizationPath : String := collectionPath ++ "/\x7borg_id\x7d"

def managementPath : String := organizationPath ++ "/manage"

def operations : List Operation := [
  { method := "post", path := collectionPath, words := ["create", "organization"]
    description := "Create an organization with its initial attributes.\n\n" ++
      "Initial attributes are stored as given, read-only ones included."
    namesOne := false
    takes := some "OrganizationCreate"
    status := "201"
    answers := some "OrganizationResponse" },
  { method := "get", path := organizationPath, words := ["get", "organization"]
    description := "Get an organization with all its attributes."
    status := "200"
    answers := some "OrganizationResponse" },
  { method := "put", path := organizationPath, words := ["update", "organization"]
    description := "Update an organization as one of its managers.\n\n" ++
      "The name and read-only attributes cannot be changed here. Attributes\n" ++
      "left out of the submission are removed unless they are read-only."
    takes := some "OrganizationUpdate"
    status := "204" },
  { method := "delete", path := organizationPath, words := ["delete", "organization"]
    description := "Delete an organization and its attributes."
    status := "204" },
  { method := "put", path := managementPath, words := ["manage", "organization"]
    description := "Update an organization as a platform administrator.\n\n" ++
      "The name and attributes outside the admin read-only patterns can be\n" ++
      "changed."
    takes := some "OrganizationUpdate"
    status := "204" }
]

/-- The name of an operation, unique among all: its words, its path and its method. -/
def identifier (words : List String) (path method : String) : String :=
  let plain (c : Char) : Char := if c.isAlphanum then c else '_'
  String.ofList (("_".intercalate words ++ path).toList.map plain) ++ "_" ++ method

def titleOf (words : List String) : String :=
  " ".intercalate (words.map String.capitalize)

def success (shape : Option Value) : Value :=
  .record (("description", .text "Successful Response") :: (shape.map content).toList)

def idParameter : Value :=
  .record [
    ("name", .text "org_id"), ("in", .text "path"), ("required", .bool true),
    ("schema", titled "Org Id" idShape)]

def Operation.toRecord (operation : Operation) : Value :=
  .record ([
    ("tags", .ofTexts ["organizations"]),
    ("summary", .text (titleOf operation.words)),
    ("description", .text operation.description),
    ("operationId", .text (identifier operation.words operation.path operation.method)),
    ("responses", .record [
      (operation.status, success (operation.answers.map named)),
      ("422", .record [
        ("description", .text "Validation Error"), content (named "HTTPValidationError")])])] ++
    (if operation.namesOne then [("parameters", .list [idParameter])] else []) ++
    match operation.takes with
    | some shape => [("requestBody", .record [content (named shape), ("required", .bool true)])]
    | none => [])

def healthOperation : Value :=
  let words := ["health", "check"]
  .record [
    ("summary", .text (titleOf words)),
    ("operationId", .text (identifier words "/health" "get")),
    ("responses", .record [("200", success (some (.record [])))])]

def operationsAt (path : String) : Value :=
  .record ((operations.filter (·.path == path)).map fun operation =>
    (operation.method, operation.toRecord))

/-! ## The guide -/

def toRecord : Value :=
  .record [
    ("openapi", .text "3.1.0"),
    ("info", texts [
      ("title", "Organization Profile API"),
      ("description", "Organization attributes with per-context read-only rules"),
      ("version", Log.serviceVersion)]),
    ("paths", .record ([collectionPath, organizationPath, managementPath].map (fun path =>
      (path, operationsAt path)) ++ [("/health", .record [("get", healthOperation)])])),
    ("components", .record [("schemas", .record [
      ("HTTPValidationError", problemsShape),
      ("OrganizationCreate", creationShape),
      ("OrganizationResponse", organizationShape),
      ("OrganizationUpdate", changeShape),
      ("ValidationError", problemShape)])])]

end ProfilePolicy.Api.Guide
