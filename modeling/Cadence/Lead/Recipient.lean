/-
# Whom a message goes to

The recipient of a message is the override if there is one, else what the node is configured with,
else the lead. A node may also be configured with a token in place of an address, which means the
lead as well. The channel on which an agent answers is the one the lead prefers, else the one of the
last delivery, else the one on which the lead can be reached.

Key definitions: `emailRecipient`, `smsRecipient`, `handoffChannel`.
-/
import Cadence.Lead.Basic

namespace Cadence

/-- The spellings of a token for a word. -/
def tokenSpellings (word : String) : List String :=
  let braced (s : String) := "\x7b\x7b" ++ s ++ "\x7d\x7d"
  ["lead." ++ word, "lead_" ++ word].flatMap fun s => [braced s, braced (" " ++ s ++ " "), s]

/-- The recipient of a message: an override, a configured text unless it is blank or a spelling of
the lead's own word, or what the lead has. -/
def recipient (word : String) (override configured own : Option String) : String :=
  let override := Text.trim (override.getD "")
  let raw := Text.trim (configured.getD "")
  if override ≠ "" then override
  else if raw = "" || (tokenSpellings word).contains (Text.lower raw) then Text.trim (own.getD "")
  else raw

/-- The recipient of an email. -/
def emailRecipient (configured : Option String) (o : Overrides) (lead : Lead) : String :=
  recipient "email" o.email configured lead.email

/-- The recipient of a text message. -/
def smsRecipient (configured : Option String) (o : Overrides) (lead : Lead) : String :=
  recipient "phone" o.sms configured lead.phone

/-- The channel with a name. -/
def Channel.ofName? (name : String) : Option Channel :=
  [Channel.sms, Channel.email].find? (·.name = name)

/-- The channel on which an agent answers, given the name of the channel of the last delivery. -/
def handoffChannel (lead : Lead) (last : Option String) : Channel :=
  match lead.channel.or (last.bind Channel.ofName?) with
  | some c => c
  | none =>
    let has (value : Option String) := value.any (· ≠ "")
    if has lead.email && !has lead.phone then .email else .sms

end Cadence
