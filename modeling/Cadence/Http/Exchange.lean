/-
# Requests and what comes of them

A `Request` posts a form to an address with a user and a password. An `Exchange` is what comes of
it: a response, or none because of the time or because the connection broke.

The content of a response is the value that its body holds as JSON. A body that is not JSON counts
as an object whose message is the body, so that failures told in plain text reach whoever asked.

Key definitions: `Http.Request`, `Http.Response`, `Http.Response.content`, `Http.Exchange`.
-/
import Cadence.Delivery.Basic
import Cadence.Http.Address
import Cadence.Http.Form
import Cadence.Json.Body

namespace Cadence
namespace Http

/-- A form to be posted. -/
structure Request where
  address : Address
  user : String
  password : String
  form : Form
  deriving Repr, DecidableEq, Inhabited

/-- A response: its status code and its body. -/
structure Response where
  status : Nat
  body : String
  deriving Repr, DecidableEq, Inhabited

/-- The failure to read a body that has too many values open at once. -/
def tooDeep (isList : Bool) : Failure :=
  .other "RecursionError" ("maximum recursion depth exceeded while decoding a JSON " ++
    (if isList then "array" else "object") ++ " from a unicode string")

/-- What the body of a response says. -/
def Response.content (r : Response) : Except Failure Json :=
  match Json.parseBody r.body with
  | .ok value => .ok value
  | .error (.tooDeep isList) => .error (tooDeep isList)
  | .error _ => .ok (.obj [("message", .str r.body)])

/-- What comes of a request. -/
inductive Exchange where
  /-- A response came. -/
  | received (response : Response)
  /-- Nothing came in time. -/
  | timedOut
  /-- The connection broke, with a message. -/
  | broken (message : String)
  deriving Repr, DecidableEq, Inhabited

end Http
end Cadence
