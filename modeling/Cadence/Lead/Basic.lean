/-
# Leads

A `Lead` is the person a workflow run is addressed to. All of what is known about a lead may be
missing. `Lead.normalized` trims every text, writes the email address in small letters and drops
what is empty; `Lead.update` lets the fields that are given win over those that are stored.

`Overrides` are explicit recipients that win over anything configured on the nodes.

Key definitions: `Lead`, `Channel`, `Lead.normalized`, `Lead.update`, `Overrides`.
-/
import Cadence.Decode.Scalar
import Cadence.Text.Blank
import Cadence.Text.Lower

namespace Cadence

/-- A way to talk to a lead. -/
inductive Channel where
  | sms
  | email
  deriving Repr, DecidableEq, Inhabited

/-- The name of a channel in documents. -/
def Channel.name : Channel → String
  | .sms => "SMS"
  | .email => "EMAIL"

/-- The person a workflow run is addressed to. -/
structure Lead where
  name : Option String
  email : Option String
  phone : Option String
  contactId : Option String
  conversationId : Option String
  channel : Option Channel
  lastMessage : Option String
  deriving Repr, DecidableEq, Inhabited

namespace Lead

open Decode

/-- A lead of whom nothing is known. -/
def unknown : Lead := ⟨none, none, none, none, none, none, none⟩

/-- The members of a lead's document. -/
def fields (lead : Lead) : Json.Fields :=
  [("name", .ofText? lead.name), ("email", .ofText? lead.email), ("phone", .ofText? lead.phone),
    ("contactId", .ofText? lead.contactId), ("conversationId", .ofText? lead.conversationId),
    ("channel", .ofText? (lead.channel.map Channel.name)),
    ("lastMessage", .ofText? lead.lastMessage)]

/-- A lead as a document. -/
def toJson (lead : Lead) : Json := .obj lead.fields

/-- An optional text of a lead. -/
def optionalText (name : String) : Json.Fields → Checked (Option String) :=
  fieldOr (spellings name) none (nullable text)

/-- The channel a lead prefers. -/
def channelChoice : Json → Checked Channel :=
  choiceOf [(Channel.sms.name, .sms), (Channel.email.name, .email)]

/-- Reads a lead. -/
def decode : Json → Checked Lead := record "Lead" fun f =>
  Lead.mk <$> optionalText "name" f <*> optionalText "email" f <*> optionalText "phone" f <*>
    optionalText "contactId" f <*> optionalText "conversationId" f <*>
    fieldOr ["channel"] none (nullable channelChoice) f <*> optionalText "lastMessage" f

/-- The lead with every text trimmed, the email address in small letters and empty texts
dropped. -/
def normalized (lead : Lead) : Lead :=
  let clean (value : Option String) : Option String := value.bind Text.trimmed?
  { lead with
    name := clean lead.name
    email := (clean lead.email).map Text.lower
    phone := clean lead.phone
    contactId := clean lead.contactId
    conversationId := clean lead.conversationId
    lastMessage := clean lead.lastMessage }

/-- The lead with the fields that `news` has in their place. -/
def update (lead news : Lead) : Lead :=
  { name := news.name.or lead.name
    email := news.email.or lead.email
    phone := news.phone.or lead.phone
    contactId := news.contactId.or lead.contactId
    conversationId := news.conversationId.or lead.conversationId
    channel := news.channel.or lead.channel
    lastMessage := news.lastMessage.or lead.lastMessage }

end Lead

/-- Recipients that win over those of the nodes and the lead. -/
structure Overrides where
  email : Option String
  sms : Option String
  deriving Repr, DecidableEq, Inhabited

namespace Overrides

/-- No overrides. -/
def none : Overrides := ⟨.none, .none⟩

/-- Overrides as a document. -/
def toJson (o : Overrides) : Json :=
  .obj [("emailToOverride", .ofText? o.email), ("smsToOverride", .ofText? o.sms)]

/-- Reads overrides. -/
def decode : Json → Checked Overrides := Decode.record "RecipientOverrides" fun f =>
  Overrides.mk <$> Lead.optionalText "emailToOverride" f <*> Lead.optionalText "smsToOverride" f

end Overrides
end Cadence
