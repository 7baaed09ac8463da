/-
# The language model

A `Query` asks a model to write something. The model answers with messages and may break off with a
failure; of its messages the texts and the result count. The reply of a model is what it wrote, its
texts on lines of their own and without blanks at both ends, unless it broke off.

Key definitions: `Agent.Query`, `Agent.Answer`, `Agent.Answer.events`, `Agent.Answer.reply`.
-/
import Cadence.Delivery.Basic
import Cadence.Settings
import Cadence.Text.Blank

namespace Cadence
namespace Agent

/-- What an agent is asked to write, and what it is told about its work. -/
structure Briefing where
  prompt : String
  systemPrompt : String
  deriving Repr, DecidableEq, Inhabited

/-- A question to a model: what to write, which model is to write it, how often it may go on, and
the environment it gets. It has no tools. -/
structure Query where
  briefing : Briefing
  model : String
  maxTurns : Nat
  environment : List (String × String)
  deriving Repr, DecidableEq, Inhabited

/-- The query for a briefing as the settings have it. -/
def Query.ofSettings (s : Settings) (b : Briefing) : Query :=
  let key := s.anthropicApiKey.filter (· ≠ "")
  ⟨b, s.defaultModel, 1, (key.map fun k => ("ANTHROPIC_API_KEY", k)).toList⟩

/-- What a model tells on the way: a message of blocks, of which some are texts, a result with its
cost and its session, or something else. -/
inductive Message where
  | blocks (texts : List (Option String))
  | result (subtype : String) (cost : Json) (session : String)
  | other
  deriving Repr, DecidableEq, Inhabited

/-- The messages of a model, and the failure with which it broke off if it did. -/
structure Answer where
  messages : List Message
  failure : Option String
  deriving Repr, DecidableEq, Inhabited

/-- What is noticed of an answer. -/
inductive Event where
  | text (content : String)
  | result (subtype : String) (cost : Json) (session : String)
  | error (message : String)
  deriving Repr, DecidableEq, Inhabited

/-- What is noticed of a message. -/
def Message.events : Message → List Event
  | blocks texts => texts.filterMap fun t => t.map Event.text
  | result subtype cost session => [.result subtype cost session]
  | other => []

/-- The text of an event that brings one. -/
def Event.text? : Event → Option String
  | text content => some content
  | _ => none

namespace Answer

/-- What is noticed of an answer, in order. -/
def events (a : Answer) : List Event :=
  a.messages.flatMap Message.events ++ (a.failure.map Event.error).toList

/-- What a model wrote, or why there is nothing. -/
def reply (a : Answer) : Except Failure String :=
  match a.failure with
  | some message => .error (.service ("Agent failed: " ++ message) "agent_error")
  | none => .ok (Text.trim ("\n".intercalate (a.events.filterMap Event.text?)))

end Answer
end Agent
end Cadence
