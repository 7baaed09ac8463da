/-
# Connectors

A connector delivers messages by posting a form to a provider of a real service. `settle` says
what an exchange with a provider amounts to: refusals by their status codes, with the provider's
own words where it gives any, and else the content of the response. `Provider.deliver` makes the
exchange and writes the receipt.

What a provider answers must be an object as soon as something is looked up in it; one that is not
is a failure of its own.

Key definitions: `Connector.settle`, `Connector.Provider`, `Connector.Provider.deliver`.
-/
import Cadence.Http.Network
import Cadence.Http.Reason
import Cadence.Json.Display

namespace Cadence
namespace Connector

open Http

/-- The members of a value in which something is looked up. -/
def membersOf : Json → Except Failure Json.Fields
  | .obj fields => .ok fields
  | j => .error (.other "AttributeError" (Text.quoted j.nature ++ " object has no attribute 'get'"))

/-- What a provider says about a request that it refused: its message, or its error, or else the
phrase of the status code. -/
def detail (r : Response) (content : Json) : Except Failure Json :=
  (membersOf content).map fun f =>
    ((f.getD "message").truthy?.or (f.getD "error").truthy?).getD (.str (reason r.status))

/-- What a response of a provider amounts to. -/
def settleResponse (name : String) (r : Response) : Except Failure Json := do
  let content ← r.content
  if r.status = 429 then throw (.service (name ++ " rate limit hit") "rate_limit")
  if r.status = 401 ∨ r.status = 403 then
    throw (.service (name ++ " rejected the credentials") "permission_denied")
  if 400 ≤ r.status then
    let detail ← detail r content
    throw (.service (name ++ " API error " ++ toString r.status ++ ": " ++ detail.display)
      "connector_error")
  return content

/-- What an exchange with a provider amounts to: the content of its response, or a failure. -/
def settle (name : String) : Exchange → Except Failure Json
  | .timedOut => .error (.service (name ++ " request timed out") "timeout")
  | .broken message =>
    .error (.service (name ++ " request failed: " ++ message) "connector_error")
  | .received r => settleResponse name r

/-- A provider: its name and how a receipt is written from its answer. -/
structure Provider where
  name : String
  receipt : Json.Fields → Json.Fields

namespace Provider

/-- The receipt for a request, or why there is none. -/
def receiptFor (p : Provider) (e : Except Failure Exchange) : Except Failure Json := do
  let content ← settle p.name (← e)
  return .obj (p.receipt (← membersOf content))

/-- The failure of a request to what is no address. -/
def misaddressed (flaw : Address.Flaw) : Failure := .other "InvalidURL" flaw.message

/-- The reply to a delivery that is made by posting a request to an address. -/
def deliver (p : Provider) (address : String) (request : Address → Request) (n : Network) :
    Reply × Network :=
  match Address.read address with
  | .error flaw => (.failed (misaddressed flaw), n)
  | .ok address =>
    let (e, n) := n.post (request address)
    match p.receiptFor e with
    | .ok receipt => (.returned receipt, n)
    | .error failure => (.failed failure, n)

end Provider
end Connector
end Cadence
