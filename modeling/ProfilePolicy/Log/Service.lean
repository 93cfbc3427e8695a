import ProfilePolicy.Keyed
import ProfilePolicy.Mishap

/-!
# The service in the log

Every event names the service and its version, unless it does so itself.
-/

namespace ProfilePolicy.Log

def serviceName : String := "orgprofile-backend"

def serviceVersion : String := "0.1.0"

/-- An event with a field added when it has none of that name. -/
def withDefault (event : Keyed Value) (name : String) (value : Value) : Keyed Value :=
  if event.holds name then event else event.put name value

/-- An event that names the service and its version. An event is a record. -/
def withService : Value → Except Mishap Value
  | .record event =>
    .ok (.record (withDefault (withDefault event "service" (.text serviceName))
      "version" (.text serviceVersion)))
  | event => .error (.noOperation event.typeName "setdefault")

end ProfilePolicy.Log
