/-
# Profiles of agents

What an agent is told about its work is its profile. Profiles are files named by the agents' ids. An
agent without a file of its own has the default profile, and without that file too the text `plain`.

Key definitions: `Agent.Profiles`, `Agent.Profiles.read?`, `Agent.Profiles.load`.
-/
import Cadence.Delivery.Basic
import Cadence.Path
import Cadence.Text.Split

namespace Cadence
namespace Agent

/-- The files of a directory of profiles: their names and their texts. -/
abbrev Profiles := List (String × String)

namespace Profiles

/-- The profile of last resort. -/
def plain : String :=
  "You are a friendly sales assistant following up with a lead on behalf of the\n" ++
  "business. Write one short, natural reply (max 3 sentences) that moves the\n" ++
  "conversation forward. Reply with the message text only, no preamble.\n"

/-- The profiles that come with the service. -/
def standard : Profiles :=
  [("default.md",
    "You are a friendly sales assistant following up with a lead on behalf of the\n" ++
    "business. Read the lead's last message if there is one and answer it directly.\n" ++
    "Write one short, natural reply (max 3 sentences) that moves the conversation\n" ++
    "toward a call or a visit. Never invent prices, availability or promises.\n" ++
    "Reply with the message text only, no greeting line or signature block.\n")]

/-- What is known of the directory of profiles. -/
def tree (p : Profiles) : Tree where
  homeName := none
  hasFile d name := d = .home && p.any (·.1 = name)

/-- The text of the file at a path, if there is one. Only a path with too long a name in it is an
error. -/
def read? (p : Profiles) (path : String) : Except Failure (Option String) :=
  if Path.hasNul path then .ok none
  else match p.tree.locate path with
    | .ok (folder, name) =>
      .ok (if folder = .home then (p.lookup name).map Text.unifyNewlines else none)
    | .error .longName => .error (.other "OSError" "File name too long")
    | .error _ => .ok none

/-- The profile of the agent with an id. -/
def load (p : Profiles) (id : String) : Except Failure String := do
  match ← p.read? (id ++ ".md") with
  | some text => return text
  | none => return (← p.read? "default.md").getD plain

end Profiles
end Agent
end Cadence
