/-
# A network with prepared answers

For trying out connectors without any service behind them, a `Network` holds what is to come of
the requests: each request uses up one answer, and the last one is given for ever. The requests
are kept in order. Instead of an exchange there may be a failure of another kind, which is no
matter of HTTP and goes to whoever asked as it is. An address that is not complete is taken as a
path, and a response from there cannot be made use of.

Key definitions: `Http.Network`, `Http.Network.post`.
-/
import Cadence.Http.Exchange

namespace Cadence
namespace Http

/-- The answers that are left and the requests so far. -/
structure Network where
  answers : List (Except Failure Exchange)
  requests : List Request
  deriving Inhabited

namespace Network

/-- A network that nobody has used yet. -/
def fresh (answers : List (Except Failure Exchange)) : Network := ⟨answers, []⟩

/-- The next answer and those that are left. Without any answer the connection is broken. -/
def next : List (Except Failure Exchange) → Except Failure Exchange × List (Except Failure Exchange)
  | [] => (.ok (.broken ""), [])
  | [last] => (last, [last])
  | a :: rest => (a, rest)

/-- What can be made of an answer from an address. -/
def taken (a : Address) : Except Failure Exchange → Except Failure Exchange
  | .ok (.received response) =>
    if a.isComplete then .ok (.received response)
    else .error (.other "ValueError" ("unknown url type: " ++ Text.quoted a.text))
  | answer => answer

/-- What comes of a request. -/
def post (r : Request) (n : Network) : Except Failure Exchange × Network :=
  let r := { r with address := r.address.resolvedAt .nowhere }
  let (answer, answers) := next n.answers
  (taken r.address answer, ⟨answers, n.requests ++ [r]⟩)

end Network
end Http
end Cadence
