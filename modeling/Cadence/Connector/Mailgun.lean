/-
# Emails by Mailgun

A domain sends emails by a key. Unless a sender is set they come from the domain's address that
takes no replies. The domain can be used once it and its key are known.

Key definitions: `Connector.Mailgun`, `Connector.Mailgun.ofSettings`, `Connector.Mailgun.deliver`.
-/
import Cadence.Connector.Basic
import Cadence.Settings

namespace Cadence
namespace Connector

open Http

/-- A domain that sends emails. What is not known is empty. -/
structure Mailgun where
  apiKey : String
  domain : String
  sender : String
  baseUrl : String
  deriving Repr, DecidableEq, Inhabited

namespace Mailgun

/-- The domain in the settings. -/
def ofSettings (s : Settings) : Mailgun :=
  let domain := s.mailgunDomain.getD ""
  let sender := (s.mailgunFrom.filter (· ≠ "")).getD ("no-reply@" ++ domain)
  ⟨s.mailgunApiKey.getD "", domain, sender, s.mailgunBaseUrl⟩

/-- Whether everything is known that a domain needs. -/
def isComplete (m : Mailgun) : Bool := m.apiKey ≠ "" && m.domain ≠ ""

/-- A text without the slashes at its end. -/
def withoutSlashes (s : String) : String :=
  String.ofList (s.toList.reverse.dropWhile (· = '/')).reverse

/-- The address that takes a domain's emails. -/
def address (m : Mailgun) : String :=
  withoutSlashes m.baseUrl ++ "/v3/" ++ m.domain ++ "/messages"

/-- The request for an email. -/
def request (m : Mailgun) (receiver subject body : Json) (address : Address) : Request :=
  ⟨address, "api", m.apiKey,
    ("from", m.sender) :: Form.ofFields [("to", receiver), ("subject", subject), ("text", body)]⟩

/-- The provider and its receipts. -/
def provider : Provider where
  name := "mailgun"
  receipt f := [("provider", .str "mailgun"), ("providerMessageId", f.getD "id"),
    ("status", .str "queued")]

/-- Sends an email. -/
def deliver (m : Mailgun) (receiver subject body : Json) : Network → Reply × Network :=
  provider.deliver m.address (m.request receiver subject body)

end Mailgun
end Connector
end Cadence
