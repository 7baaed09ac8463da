/-
# The connectors there are

Every channel has one kind of connector. A channel's connector can be had from settings that hold
all it needs; asked twice, the same settings give the same connector.

Key definitions: `Connector`, `Connector.available`, `Connector.ofChannel?`, `Connector.find?`.
-/
import Cadence.Connector.Mailgun
import Cadence.Connector.Twilio

namespace Cadence

/-- A connector of one of the channels. -/
inductive Connector where
  | email (domain : Connector.Mailgun)
  | sms (account : Connector.Twilio)
  deriving Repr, DecidableEq, Inhabited

namespace Connector

open Http

/-- The name of a connector's provider. -/
def providerName : Connector → String
  | email _ => Mailgun.provider.name
  | sms _ => Twilio.provider.name

/-- Whether everything is known that a connector needs. -/
def isComplete : Connector → Bool
  | email domain => domain.isComplete
  | sms account => account.isComplete

/-- Makes a delivery, if it is one for the connector's channel. -/
def deliver? : Connector → Delivery → Network → Option (Reply × Network)
  | email domain, .email receiver subject body, n => some (domain.deliver receiver subject body n)
  | sms account, .sms receiver message, n => some (account.deliver receiver message n)
  | _, _, _ => none

/-- The channels that have connectors, in order. -/
def available : List String := ["email", "sms"]

/-- The connector of a channel as the settings have it, be it complete or not. -/
def ofChannel? (s : Settings) (channel : String) : Option Connector :=
  if channel = "email" then some (.email (.ofSettings s))
  else if channel = "sms" then some (.sms (.ofSettings s))
  else none

/-- The connector of a channel that can be used. -/
def find? (s : Settings) (channel : String) : Option Connector :=
  (ofChannel? s channel).filter isComplete

end Connector
end Cadence
