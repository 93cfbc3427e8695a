import ProfilePolicy.Provider
import ProfilePolicy.Value.Parts

/-!
# Descriptions

What the library works with, as values that can be printed and compared. The order in which names
are visited means nothing, so the description of a rejection lists its errors in a canonical order.
-/

namespace ProfilePolicy

/-- Items in ascending order of their keys, texts being ordered by their code points. -/
def sortedBy {α : Type} (key : α → List String) (items : List α) : List α :=
  let codes (item : α) : List (List Nat) := (key item).map fun text => Text.codes text.toList
  items.mergeSort fun left right => !decide (codes right < codes left)

def FieldError.description (error : FieldError) : Value :=
  .record [
    ("validator", .text error.validator),
    ("attribute", .text error.field),
    ("message", .text error.message),
    ("params", .list error.parameters),
    ("status", .int error.status)]

def FieldError.descriptions (errors : List FieldError) : Value :=
  .list (errors.map FieldError.description)

def ErrorCode.description (code : ErrorCode) : Value :=
  .record [
    ("name", .text code.name),
    ("value", .int code.number),
    ("http_status", .int code.httpStatus),
    ("category", .text code.category)]

def Context.description (context : Context) : Value :=
  .record [
    ("name", .text context.name),
    ("value", .text context.value),
    ("admin", .bool context.isAdmin)]

def AppError.description (error : AppError) : Keyed Value := [
  ("code", .text error.code.name),
  ("code_num", .int error.code.number),
  ("message", error.message),
  ("category", .text error.code.category),
  ("http_status", .int error.code.httpStatus),
  ("metadata", error.metadata),
  ("origin", error.context.origin),
  ("request_id", error.context.requestId),
  ("cause", .ofText? error.cause)]

def AppError.fullDescription (error : AppError) : Keyed Value :=
  error.description ++ [
    ("correlation_id", error.context.correlationId),
    ("timestamp", .text error.context.timestamp)]

/-- A response body whose errors, if it lists several, are in canonical order. -/
def canonicalBody (body : Value) : Value :=
  match body with
  | .record [("errors", .list items)] =>
    .record [("errors", .list (sortedBy
      (fun item => [item.textPart "field", item.textPart "errorMessage"]) items))]
  | body => body

/-- A rejection: its status, its errors in canonical order and the body it is answered with. -/
def Report.description (report : Report) : Keyed Value := [
  ("status", .int report.status),
  ("errors", FieldError.descriptions
    (sortedBy (fun error => [error.field, error.message, error.validator]) report.errors)),
  ("payload", canonicalBody report.toRecord)]

def Mishap.description (cause : Mishap) : Value :=
  .record [("error", .text cause.typeName), ("message", .text cause.message)]

def StoredValues.description (values : StoredValues) : Value :=
  .list values

def Organization.description (organization : Organization) : Value :=
  .record [
    ("name", organization.name),
    ("attributes", .list (organization.attributes.map fun entry =>
      .list [.text entry.1, StoredValues.description entry.2]))]

def Organization.rowsDescription (organization : Organization) : Value :=
  match organization.storage with
  | .rows held => .list (held.map fun row =>
      .list [.text row.name, row.value, .int row.position])
  | .entries _ => .list []

def AttributeValues.description (values : AttributeValues) : Value :=
  .list (values.map fun entry => .list [.text entry.1, .list entry.2])

def Config.description (config : Config) : Value :=
  .record [
    ("read_only", .ofTexts config.readOnly),
    ("admin_read_only", .ofTexts config.adminReadOnly)]

def Rule.description (rule : Rule) : Value :=
  .record (("id", .text rule.validator) ::
    match rule.config.pattern with
    | .compiled pattern => [("pattern", .text pattern.text)]
    | .nothing => [("pattern", .null)]
    | .unset | .foreign _ => [])

def AttributeMetadata.description (metadata : AttributeMetadata) : Value :=
  .record [
    ("name", .text metadata.name),
    ("validators", .list (metadata.rules.map Rule.description))]

def AttributeMetadata.decision (metadata : AttributeMetadata) (situation : Situation) : Value :=
  let allowed := metadata.canEdit situation
  .record [
    ("can_edit", .bool allowed),
    ("read_only", .bool !allowed),
    ("attribute", .list [.text situation.name, .list situation.value]),
    ("repr", .text (situation.line metadata.name))]

def ProfileMetadata.description (metadata : ProfileMetadata) (catalog : Catalog) : Value :=
  .record [
    ("context", .text metadata.context.name),
    ("attributes", .list (metadata.attributes.map fun handle =>
      (catalog.entry handle).description))]

def MetadataRegistry.description (registry : MetadataRegistry) : Value :=
  .list (registry.contexts.map fun entry => entry.2.description registry.catalog)

def Episode.namesDescription (episode : Episode) : Value :=
  let names := episode.values.names
  .record [
    ("sorted", .ofTexts (sortedTexts names)),
    ("order", .ofTexts names),
    ("len", .int names.length)]

def Policy.description (policy : Policy) (episode : Episode) : Value :=
  .record [
    ("context", .text policy.context.name),
    ("admin", .bool policy.context.isAdmin),
    ("same_org", .bool true),
    ("has_org", .bool episode.organization.isSome),
    ("validated", .bool episode.validated)]

namespace Log.Record

def description (record : Log.Record) : Value :=
  .list [.text record.level.name, .text record.event, .record record.fields]

/-- The content of a note of an outside rule. -/
def noted? : Log.Record → Option Value
  | note _ content => some content
  | _ => none

/-- The records of the library itself. -/
def ownRecords (records : List Log.Record) : List Log.Record :=
  records.filter fun record => record.noted?.isNone

end Log.Record

end ProfilePolicy
