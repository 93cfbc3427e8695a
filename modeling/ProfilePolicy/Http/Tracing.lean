import ProfilePolicy.Http.Answer

/-!
# Tracing

Every request is served under a correlation id: its own, or a generated one when it has none. While
it is served the log carries the ids and the place of the request; before and afterwards it carries
nothing. The answer goes out with the correlation id, and one record tells how the request went.
-/

namespace ProfilePolicy.Http

/-- What the log carries while a request is served. -/
structure Binding where
  correlationId : String
  requestId : Option String
  method : String
  path : String
  deriving Repr, Inhabited

def Binding.fields (binding : Binding) : Keyed Value := [
  ("correlation_id", .text binding.correlationId),
  ("request_id", .ofText? binding.requestId),
  ("method", .text binding.method),
  ("path", .text binding.path)]

structure Response where
  status : Nat
  /-- The correlation id in the headers. -/
  correlation : Option String
  body : Option Value
  deriving Repr, Inhabited

structure Trace where
  result : Except Fault Response
  /-- What the log carried while the request was served. -/
  inside : Keyed Value
  /-- What the log carries afterwards. -/
  left : Keyed Value
  records : List Log.Record

/-- The binding of a request; an empty correlation id counts as none. -/
def bindingOf (headers : Headers) (generated method path : String) : Binding :=
  { correlationId := match headers.correlationId? with
      | some id => if id == "" then generated else id
      | none => generated
    requestId := headers.requestId?
    method
    path }

def servedRecord (slow : Bool) (status : Nat) : Log.Record :=
  if slow then .slowRequest status else .requestCompleted status

def trace (binding : Binding) (slow : Bool) (serve : Except Fault Answer) : Trace :=
  match serve with
  | .ok answer =>
    { result := .ok {
        status := answer.status
        correlation := some binding.correlationId
        body := answer.body }
      inside := binding.fields
      left := []
      records := answer.records ++ [servedRecord slow answer.status] }
  | .error fault =>
    { result := .error fault
      inside := binding.fields
      left := []
      records := [.requestFailed fault.typeName] }

end ProfilePolicy.Http
