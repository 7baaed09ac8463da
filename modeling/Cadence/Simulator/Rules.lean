/-
# Failures of the simulator

The simulator can be told to fail deliveries. A `Rule` says for one kind of delivery how it fails,
and how often: at most a number of times, after which deliveries go through again. A `Tally` counts
the failures so far.

Key definitions: `Simulator.FailureKind`, `Simulator.Rule`, `Simulator.Rules`, `Simulator.Tally`,
`Simulator.Rules.check`.
-/
import Cadence.Decode.Scalar
import Cadence.Delivery.Basic

namespace Cadence
namespace Simulator

open Decode

/-- A type of failure that can be asked for. -/
inductive FailureKind where
  | deliveryFailed
  | rateLimit
  | timeout
  | permissionDenied
  | connectorError
  | missingRecipient
  | invalidNumber
  deriving Repr, DecidableEq, Inhabited

namespace FailureKind

/-- The name of a type of failure. -/
def name : FailureKind → String
  | deliveryFailed => "delivery_failed"
  | rateLimit => "rate_limit"
  | timeout => "timeout"
  | permissionDenied => "permission_denied"
  | connectorError => "connector_error"
  | missingRecipient => "missing_recipient"
  | invalidNumber => "invalid_number"

/-- What a failure of a type says unless it is told what to say. -/
def defaultMessage : FailureKind → String
  | deliveryFailed => "Delivery failed."
  | rateLimit => "Provider rate limit exceeded."
  | timeout => "Provider did not respond in time."
  | permissionDenied => "Provider rejected the credentials."
  | connectorError => "Provider rejected the request."
  | missingRecipient => "No recipient could be resolved for this lead."
  | invalidNumber => "The number is not a valid mobile number."

/-- All types of failure, by their names. -/
def names : List (String × FailureKind) :=
  [deliveryFailed, rateLimit, timeout, permissionDenied, connectorError, missingRecipient,
    invalidNumber].map fun k => (k.name, k)

end FailureKind

/-- How deliveries of one kind fail. A probability is zero or one: deliveries never fail or always,
until the number of times is reached. -/
structure Rule where
  kind : FailureKind
  message : Option String
  probability : Binary64
  times : Option Int
  deriving Repr, DecidableEq, Inhabited

namespace Rule

/-- A number between zero and one. Not-a-number is not at most one. -/
def fraction (j : Json) : Checked Binary64 :=
  (number j).andThen fun x =>
    if x = .nan || x.gtInt 1 then .fail (.above 1)
    else if x.ltInt 0 then .fail (.below 0) else .ok x

/-- A positive integer. -/
def count (j : Json) : Checked Int :=
  (integer j).andThen fun i => if i < 1 then .fail (.below 1) else .ok i

/-- A rule as a document. -/
def toJson (r : Rule) : Json :=
  .obj [("error_type", .str r.kind.name), ("message", .ofText? r.message),
    ("probability", .float r.probability), ("times", (r.times.map Json.int).getD .null)]

/-- Reads a rule. -/
def decode : Json → Checked Rule := record "FailureRule" fun f =>
  Rule.mk <$> fieldOr ["error_type"] .deliveryFailed (choiceOf FailureKind.names) f <*>
    fieldOr ["message"] none (nullable text) f <*>
    fieldOr ["probability"] (.ofInt 1) fraction f <*> fieldOr ["times"] none (nullable count) f

/-- The failure that a rule asks for. A message that is empty is none. -/
def failure (r : Rule) : Failure :=
  let message := (r.message.filter (· ≠ "")).getD r.kind.defaultMessage
  match r.kind with
  | .missingRecipient => .recipient message
  | kind => .service message kind.name

/-- Whether a rule fails a delivery after a number of failures. -/
def applies (r : Rule) (failed : Nat) : Bool :=
  !(r.times.any fun n => n ≤ (failed : Int)) && !r.probability.ltInt 1

end Rule

/-- The rules for the kinds of delivery. The seed would make probabilities repeatable. -/
structure Rules where
  rules : List (Action × Rule)
  seed : Option Int
  deriving Repr, DecidableEq, Inhabited

/-- How many deliveries of each kind have been failed. -/
structure Tally where
  sms : Nat
  email : Nat
  handoff : Nat
  deriving Repr, DecidableEq, Inhabited

namespace Tally

/-- Nothing has failed. -/
def zero : Tally := ⟨0, 0, 0⟩

/-- The failures of a kind of delivery. -/
def get (t : Tally) : Action → Nat
  | .sms => t.sms
  | .email => t.email
  | .handoff => t.handoff

/-- One more failure of a kind of delivery. -/
def bump (t : Tally) : Action → Tally
  | .sms => { t with sms := t.sms + 1 }
  | .email => { t with email := t.email + 1 }
  | .handoff => { t with handoff := t.handoff + 1 }

end Tally

namespace Rules

/-- No rules. -/
def none : Rules := ⟨[], .none⟩

/-- Rules as a document. -/
def toJson (r : Rules) : Json :=
  .obj [("rules", .obj (r.rules.map fun (a, rule) => (a.name, rule.toJson))),
    ("seed", (r.seed.map Json.int).getD .null)]

/-- Reads the rules by the names of kinds of delivery. What is wrong with a name is reported before
what is wrong with its rule. -/
def decodeEntries : Json.Fields → Checked (List (Action × Rule))
  | [] => .ok []
  | (name, j) :: rest =>
    List.cons <$> ((Prod.mk <$> (choiceOf Action.names (.str name)).within (.key "[key]") <*>
      Rule.decode j).within (.key name)) <*> decodeEntries rest

/-- Reads rules. -/
def decode : Json → Checked Rules := record "FailureConfig" fun f =>
  Rules.mk <$> fieldOr ["rules"] [] (fun j => (dictionary j).andThen decodeEntries) f <*>
    fieldOr ["seed"] .none (nullable integer) f

/-- The rule for a kind of delivery. -/
def get? (r : Rules) (a : Action) : Option Rule := r.rules.lookup a

/-- The failure of a delivery, if it is to fail, and the tally after it. -/
def check (r : Rules) (a : Action) (t : Tally) : Option Failure × Tally :=
  match r.get? a with
  | some rule => if rule.applies (t.get a) then (some rule.failure, t.bump a) else (.none, t)
  | .none => (.none, t)

end Rules
end Simulator
end Cadence
