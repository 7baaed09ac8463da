/-
# Calls

A `Call` is what a client may ask for. `Call.read` makes one of a request: the path and the method
say which call it is, and what the request brings is read into it. A request whose path belongs to
no call, whose method is none of those for the path, or which brings something that cannot be
read, is refused.

The body of a request counts as JSON if its content type says so, and else as a text. A body that
is empty counts as none, and so does null where a call needs no body.

Who is told that something cannot be read is also shown what it is; where that cannot be sent, the
refusal itself fails.

Key definitions: `Api.Request`, `Api.Call`, `Api.Refusal`, `Api.endpoints`, `Api.Call.read`.
-/
import Cadence.Api.Requests
import Cadence.Api.Target
import Cadence.Json.Body
import Cadence.Text.Blank
import Cadence.Text.Split

namespace Cadence
namespace Api

open Decode

/-- A request. -/
structure Request where
  method : String
  target : Target
  contentType : String
  body : String
  deriving Repr, DecidableEq, Inhabited

/-- What a client may ask for. -/
inductive Call where
  | health
  | validate (definition : Json.Fields)
  | makeWorkflow (r : NewWorkflow)
  | changeWorkflow (id : String) (r : WorkflowChange)
  | allWorkflows
  | showWorkflow (id : String)
  | dropWorkflow (id : String)
  | tryOut (id : String) (r : Trial)
  | enroll (id : String) (r : NewEnrollment)
  | enrollmentsOf (id : String) (limit : Int)
  | wakeDue
  | showEnrollment (id : String)
  | report (id : String)
  | advance (id : String) (r : Advancement)
  | dropEnrollment (id : String)
  deriving Repr, DecidableEq, Inhabited

/-- Why a request is no call. -/
inductive Refusal where
  | unknownPath
  | wrongMethod
  | unreadable
  | invalid (issues : List Issue)
  | unspeakable
  deriving Repr, DecidableEq, Inhabited

/-- Whether a content type says that a body is JSON. -/
def saysJson (contentType : String) : Bool :=
  let essence := (Text.trim (String.ofList (contentType.toList.takeWhile (· ≠ ';')))).toLower
  match Text.splitOn '/' essence with
  | [kind, form] => kind = "application" && (form = "json" || form.endsWith "+json")
  | _ => false

/-- What a request brings in its body. -/
def Request.content (r : Request) : Except Refusal (Option Json) :=
  if r.body = "" then .ok none
  else if !saysJson r.contentType then .ok (some (.str r.body))
  else match Json.parseBody r.body with
    | .ok value => .ok (some value)
    | .error (.unexpected position) =>
      .error (.invalid [⟨[.key "body", .index position], .badJson⟩])
    | .error _ => .error .unreadable

/-- An issue as clients are told of it, to whom the names of records say nothing. -/
def told (i : Issue) : Issue :=
  match i.defect with
  | .notRecord _ => ⟨i.path, .notTagged⟩
  | _ => i

/-- The value at a path in a value, as far as the path leads. -/
def valueAt (value : Json) : List Place → Json
  | [] => value
  | .key name :: rest =>
    match value with
    | .obj fields => ((Json.Fields.get? fields name).map fun v => valueAt v rest).getD value
    | _ => value
  | .index i :: rest =>
    match value with
    | .arr items => ((items[i]?).map fun v => valueAt v rest).getD value
    | _ => value

/-- Whether an issue of a value can be shown with what it is about. A missing member is shown by the
record that does not have it. -/
def canBeShown (value : Json) (i : Issue) : Bool :=
  i.defect ≠ .brokenText && (valueAt value i.path).isSendable

/-- The refusal of a value that has issues. -/
def refusalOf (value : Json) (issues : List Issue) : Refusal :=
  if issues.all (canBeShown value) then
    .invalid (issues.map fun i => told ⟨.key "body" :: i.path, i.defect⟩)
  else .unspeakable

/-- A value of the body. -/
def ofBody {α : Type} (check : Json → Checked α) (value : Json) : Except Refusal α :=
  (check value).toExcept.mapError (refusalOf value)

/-- How a request is read into a call. -/
abbrev Reader := Request → Except Refusal Call

/-- A call that needs nothing from the body. -/
def plain (c : Call) : Reader := fun _ => .ok c

/-- A call that needs a body. -/
def withBody {α : Type} (check : Json → Checked α) (f : α → Call) : Reader := fun r => do
  match ← r.content with
  | some value => return f (← ofBody check value)
  | none => throw (.invalid [⟨[.key "body"], .missing⟩])

/-- A call that has a body of its own where the request has none. -/
def withBodyOr {α : Type} (default : α) (check : Json → Checked α) (f : α → Call) : Reader :=
  fun r => do
    match ← r.content with
    | none | some .null => return f default
    | some value => return f (← ofBody check value)

/-- A call that may be given a limit. -/
def withLimit (default : Int) (f : Int → Call) : Reader := fun r =>
  match r.target.value? "limit" with
  | none => .ok (f default)
  | some text =>
    ((((integer (.str text)).within (.key "limit")).within (.key "query")).map f).toExcept.mapError
      .invalid

/-- The methods for a path, each with what it reads. -/
def endpoints : List String → List (String × Reader)
  | ["api", "health"] => [("GET", plain .health)]
  | ["api", "workflows"] =>
    [("POST", withBody NewWorkflow.decode .makeWorkflow), ("GET", plain .allWorkflows)]
  | ["api", "workflows", id] =>
    (if id = "validate" then [("POST", withBody dictionary .validate)] else []) ++
    [("PUT", withBody WorkflowChange.decode (.changeWorkflow id)),
      ("GET", plain (.showWorkflow id)), ("DELETE", plain (.dropWorkflow id))]
  | ["api", "workflows", id, "preview"] =>
    [("POST", withBodyOr ⟨.unknown, .none⟩ Trial.decode (.tryOut id))]
  | ["api", "workflows", id, "enrollments"] =>
    [("POST", withBody NewEnrollment.decode (.enroll id)),
      ("GET", withLimit 50 (.enrollmentsOf id))]
  | ["api", "enrollments", id] =>
    (if id = "resume-due" then [("POST", plain .wakeDue)] else []) ++
    [("GET", plain (.showEnrollment id)), ("DELETE", plain (.dropEnrollment id))]
  | ["api", "enrollments", id, "report"] => [("GET", plain (.report id))]
  | ["api", "enrollments", id, "advance"] =>
    [("POST", withBodyOr ⟨none, none⟩ Advancement.decode (.advance id))]
  | _ => []

/-- The last parts of paths that are no ids. -/
def lastWords : List String :=
  ["health", "workflows", "validate", "preview", "enrollments", "resume-due", "report", "advance"]

/-- A path without the line break that may follow its last part, if that is no id. -/
def withoutBreak (path : List String) : List String :=
  let last := path.getLast?.getD ""
  match lastWords.find? fun word => last = word ++ "\n" with
  | some word => path.dropLast ++ [word]
  | none => path

/-- Reads a request into a call. No part of a path is empty. -/
def Call.read (r : Request) : Except Refusal Call :=
  let path := withoutBreak r.target.path
  match if path.contains "" then [] else endpoints path with
  | [] => .error .unknownPath
  | methods =>
    match methods.lookup r.method with
    | none => .error .wrongMethod
    | some reader => reader r

end Api
end Cadence
