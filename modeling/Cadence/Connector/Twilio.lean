/-
# Text messages by Twilio

An account sends text messages from a number or by a messaging service; the messaging service wins
where both are known. It can be used once its id, its token and one of these two are known.

Key definitions: `Connector.Twilio`, `Connector.Twilio.ofSettings`, `Connector.Twilio.deliver`.
-/
import Cadence.Connector.Basic
import Cadence.Settings

namespace Cadence
namespace Connector

open Http

/-- An account that sends text messages. What is not known is empty. -/
structure Twilio where
  accountSid : String
  authToken : String
  fromNumber : String
  messagingServiceSid : String
  deriving Repr, DecidableEq, Inhabited

namespace Twilio

/-- The account in the settings. -/
def ofSettings (s : Settings) : Twilio :=
  ⟨s.twilioAccountSid.getD "", s.twilioAuthToken.getD "", s.twilioFromNumber.getD "",
    s.twilioMessagingServiceSid.getD ""⟩

/-- Whether everything is known that an account needs. -/
def isComplete (t : Twilio) : Bool :=
  t.accountSid ≠ "" && t.authToken ≠ "" && (t.fromNumber ≠ "" || t.messagingServiceSid ≠ "")

/-- The form of a message: to whom, what, and who sends it. -/
def form (t : Twilio) (receiver message : Json) : Form :=
  let sender := if t.messagingServiceSid ≠ "" then ("MessagingServiceSid", t.messagingServiceSid)
    else ("From", t.fromNumber)
  Form.ofFields [("To", receiver), ("Body", message)] ++ [sender]

/-- The address that takes an account's messages. -/
def address (t : Twilio) : String :=
  "https://api.twilio.com/2010-04-01/Accounts/" ++ t.accountSid ++ "/Messages.json"

/-- The request for a message. -/
def request (t : Twilio) (receiver message : Json) (address : Address) : Request :=
  ⟨address, t.accountSid, t.authToken, t.form receiver message⟩

/-- The provider and its receipts. -/
def provider : Provider where
  name := "twilio"
  receipt f := [("provider", .str "twilio"), ("providerMessageId", f.getD "sid"),
    ("status", f.getD "status"), ("from", f.getD "from"),
    ("messagingServiceSid", f.getD "messaging_service_sid")]

/-- Sends a message. -/
def deliver (t : Twilio) (receiver message : Json) : Network → Reply × Network :=
  provider.deliver t.address (t.request receiver message)

end Twilio
end Connector
end Cadence
