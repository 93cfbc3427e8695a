import ProfilePolicy.Api.Form
import ProfilePolicy.Api.Guide
import ProfilePolicy.Api.Route
import ProfilePolicy.Api.Service
import ProfilePolicy.AppError
import ProfilePolicy.Calendar
import ProfilePolicy.Calendar.Moment
import ProfilePolicy.Config
import ProfilePolicy.Context
import ProfilePolicy.Declared.AppError
import ProfilePolicy.Declared.FieldError
import ProfilePolicy.Declared.Operands
import ProfilePolicy.Declared.Organization
import ProfilePolicy.Declared.RequestProblem
import ProfilePolicy.Declared.Rule
import ProfilePolicy.Description
import ProfilePolicy.Directory
import ProfilePolicy.Fault
import ProfilePolicy.FieldError
import ProfilePolicy.Http.Answer
import ProfilePolicy.Http.Headers
import ProfilePolicy.Http.Host
import ProfilePolicy.Http.Label
import ProfilePolicy.Http.Status
import ProfilePolicy.Http.Target
import ProfilePolicy.Http.Tracing
import ProfilePolicy.Json.Encoding
import ProfilePolicy.Json.Reader
import ProfilePolicy.Json.Writer
import ProfilePolicy.Keyed
import ProfilePolicy.Log.Record
import ProfilePolicy.Log.Redaction
import ProfilePolicy.Log.Service
import ProfilePolicy.Metadata
import ProfilePolicy.Metadata.Labels
import ProfilePolicy.Mishap
import ProfilePolicy.Number.Binary64
import ProfilePolicy.Organization
import ProfilePolicy.Outcome
import ProfilePolicy.Pattern
import ProfilePolicy.Persistence
import ProfilePolicy.Policy
import ProfilePolicy.Profile
import ProfilePolicy.Provider
import ProfilePolicy.Report
import ProfilePolicy.Session
import ProfilePolicy.Settings
import ProfilePolicy.Submission
import ProfilePolicy.Text.Blank
import ProfilePolicy.Text.CaseContext
import ProfilePolicy.Text.Digits
import ProfilePolicy.Text.Direction
import ProfilePolicy.Text.Half
import ProfilePolicy.Text.LetterCase
import ProfilePolicy.Text.Mark
import ProfilePolicy.Text.NormalForm
import ProfilePolicy.Text.Punycode
import ProfilePolicy.Text.Quoted
import ProfilePolicy.Text.Search
import ProfilePolicy.Text.Utf8
import ProfilePolicy.Text.Visible
import ProfilePolicy.Uuid
import ProfilePolicy.Uuid.Column
import ProfilePolicy.Uuid.Parameter
import ProfilePolicy.Validator
import ProfilePolicy.Value
import ProfilePolicy.Value.Parts
import ProfilePolicy.Yaml.Bytes
import ProfilePolicy.Yaml.Cursor
import ProfilePolicy.Yaml.Document
import ProfilePolicy.Yaml.Graph
import ProfilePolicy.Yaml.Graph.Merge
import ProfilePolicy.Yaml.Numeral
import ProfilePolicy.Yaml.Problem
import ProfilePolicy.Yaml.Scalar
import ProfilePolicy.Yaml.Single
import ProfilePolicy.Yaml.Tag
import ProfilePolicy.Yaml.Timestamp
import ProfilePolicy.Yaml.Token
import ProfilePolicy.Proofs.Contents
import ProfilePolicy.Proofs.Keyed
import ProfilePolicy.Proofs.Storage
import ProfilePolicy.Proofs.Action
import ProfilePolicy.Proofs.Builtin
import ProfilePolicy.Proofs.Findings
import ProfilePolicy.Proofs.Acceptance
import ProfilePolicy.Proofs.Validation
import ProfilePolicy.Proofs.Writes
import ProfilePolicy.Proofs.Update
import ProfilePolicy.Proofs.Protection
import ProfilePolicy.Proofs.Creation
import ProfilePolicy.Proofs.Edits
import ProfilePolicy.Proofs.Rewriting
import ProfilePolicy.Proofs.Moves
import ProfilePolicy.Proofs.Violations
import ProfilePolicy.Proofs.Calls
import ProfilePolicy.Proofs.Plan
import ProfilePolicy.Proofs.Asking
import ProfilePolicy.Proofs.Difference
import ProfilePolicy.Proofs.Authority
import ProfilePolicy.Proofs.Retry
import ProfilePolicy.Proofs.MissingRules
import ProfilePolicy.Proofs.Idempotence
import ProfilePolicy.Proofs.Restating
import ProfilePolicy.Proofs.Visiting
import ProfilePolicy.Proofs.Matching
import ProfilePolicy.Proofs.Strictness
import ProfilePolicy.Proofs.Interchange
import ProfilePolicy.Proofs.Restoring
import ProfilePolicy.Proofs.Rows
import ProfilePolicy.Proofs.Reading
import ProfilePolicy.Proofs.Directory
import ProfilePolicy.Proofs.Serving
import ProfilePolicy.Proofs.Keeping
import ProfilePolicy.Proofs.Requests
import ProfilePolicy.Proofs.Renaming
import ProfilePolicy.Proofs.Denial
import ProfilePolicy.Proofs.Queries
import ProfilePolicy.Proofs.Bounds
import ProfilePolicy.Proofs.Snapshots
import ProfilePolicy.Proofs.Configuration
import ProfilePolicy.Proofs.Transcription
import ProfilePolicy.Proofs.Coverage
import ProfilePolicy.Proofs.Listening
import ProfilePolicy.Proofs.Runs
import ProfilePolicy.Proofs.Accounting
import ProfilePolicy.Proofs.Amendments
import ProfilePolicy.Proofs.Invariants
import ProfilePolicy.Proofs.Sharing
import ProfilePolicy.Proofs.Resubmitting
import ProfilePolicy.Proofs.Reserved
import ProfilePolicy.Proofs.Positions
import ProfilePolicy.Proofs.Grouping
import ProfilePolicy.Proofs.Redaction
import ProfilePolicy.Proofs.Identifiers
