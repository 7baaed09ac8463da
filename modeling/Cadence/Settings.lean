/-
# Settings

The settings are read from values given by name and from the environment, where the case of names
does not matter; a value given by name wins. A value whose name belongs to no setting is an issue,
but the environment may hold anything.

Some values whose names start with an underscore are no settings: they say how to read settings, and
the `Reading` that they amount to is about the environment alone.

Key definitions: `Mode`, `Settings`, `Reading`, `Settings.load`.
-/
import Cadence.Decode.Scalar
import Cadence.Run.Context
import Cadence.Text.Lower
import Cadence.Text.Split

namespace Cadence

open Decode

/-- Whether deliveries go to the simulator, or to real services where there are credentials. -/
inductive Mode where
  | simulator
  | hybrid
  | real
  deriving Repr, DecidableEq, Inhabited

namespace Mode

/-- The name of a mode in documents. -/
def name : Mode → String
  | simulator => "simulator"
  | hybrid => "hybrid"
  | real => "real"

/-- Reads a mode. -/
def decode : Json → Checked Mode :=
  choiceOf [(simulator.name, simulator), (hybrid.name, hybrid), (real.name, real)]

end Mode

/-- The settings. Credentials that are missing or empty leave a channel without a real service. -/
structure Settings where
  anthropicApiKey : Option String
  defaultModel : String
  mode : Mode
  twilioAccountSid : Option String
  twilioAuthToken : Option String
  twilioFromNumber : Option String
  twilioMessagingServiceSid : Option String
  mailgunApiKey : Option String
  mailgunDomain : Option String
  mailgunFrom : Option String
  mailgunBaseUrl : String
  defaultTimezone : String
  maxWaitDelayMs : Int
  timeout : Binary64
  dataDir : Option String
  logLevel : String
  deriving Repr, DecidableEq, Inhabited

/-- The greatest time a timer is set for unless something else is said: a week. -/
def defaultDelayCeiling : Int := 7 * 24 * 60 * 60 * 1000

/-- A path in its plain form: no empty and no dot parts; two slashes at the start are kept. -/
def plainPath (path : String) : String :=
  let parts := (Text.splitOn '/' path).filter fun p => p ≠ "" && p ≠ "."
  let start := if path.startsWith "//" && !path.startsWith "///" then "//"
    else if path.startsWith "/" then "/" else ""
  let joined := start ++ "/".intercalate parts
  if joined = "" then "." else joined

namespace Settings

/-- The names of all settings. -/
def names : List String :=
  ["anthropic_api_key", "default_model", "connector_mode", "twilio_account_sid",
    "twilio_auth_token", "twilio_from_number", "twilio_messaging_service_sid", "mailgun_api_key",
    "mailgun_domain", "mailgun_from", "mailgun_base_url", "default_timezone", "max_wait_delay_ms",
    "side_effect_timeout_seconds", "data_dir", "log_level"]

/-- Settings as a document. -/
def toJson (s : Settings) : Json :=
  .obj [("anthropic_api_key", .ofText? s.anthropicApiKey), ("default_model", .str s.defaultModel),
    ("connector_mode", .str s.mode.name), ("twilio_account_sid", .ofText? s.twilioAccountSid),
    ("twilio_auth_token", .ofText? s.twilioAuthToken),
    ("twilio_from_number", .ofText? s.twilioFromNumber),
    ("twilio_messaging_service_sid", .ofText? s.twilioMessagingServiceSid),
    ("mailgun_api_key", .ofText? s.mailgunApiKey), ("mailgun_domain", .ofText? s.mailgunDomain),
    ("mailgun_from", .ofText? s.mailgunFrom), ("mailgun_base_url", .str s.mailgunBaseUrl),
    ("default_timezone", .str s.defaultTimezone), ("max_wait_delay_ms", .int s.maxWaitDelayMs),
    ("side_effect_timeout_seconds", .float s.timeout), ("data_dir", .ofText? s.dataDir),
    ("log_level", .str s.logLevel)]

/-- A path, in its plain form. -/
def path : Json → Checked String
  | .str s => .ok (plainPath s)
  | _ => .fail .notPath

/-- Reads settings from members under their names. -/
def decode (f : Json.Fields) : Checked Settings :=
  let optional (name : String) := fieldOr [name] none (nullable text) f
  Settings.mk <$> optional "anthropic_api_key" <*> fieldOr ["default_model"] "haiku" text f <*>
    fieldOr ["connector_mode"] .simulator Mode.decode f <*> optional "twilio_account_sid" <*>
    optional "twilio_auth_token" <*> optional "twilio_from_number" <*>
    optional "twilio_messaging_service_sid" <*> optional "mailgun_api_key" <*>
    optional "mailgun_domain" <*> optional "mailgun_from" <*>
    fieldOr ["mailgun_base_url"] "https://api.mailgun.net" text f <*>
    fieldOr ["default_timezone"] Workflow.homeZone text f <*>
    fieldOr ["max_wait_delay_ms"] defaultDelayCeiling integer f <*>
    fieldOr ["side_effect_timeout_seconds"] Context.defaultTimeout number f <*>
    fieldOr ["data_dir"] none (nullable path) f <*> fieldOr ["log_level"] "INFO" text f

end Settings

/-- How the environment is read: whether names have to be written in small letters, what stands
before each name, whether an empty text counts as none, and which text stands for null. -/
structure Reading where
  mindsCase : Bool
  start : String
  skipsEmpty : Bool
  nullText : Option String
  deriving Repr, DecidableEq, Inhabited

namespace Reading

/-- The names of the values that say how settings are read. Most of them are about sources other
than the environment, and have no effect. -/
def names : List String :=
  ["_case_sensitive", "_nested_model_default_partial_update", "_env_prefix", "_env_prefix_target",
    "_env_file", "_env_file_encoding", "_env_ignore_empty", "_env_nested_delimiter",
    "_env_nested_max_split", "_env_parse_none_str", "_env_parse_enums", "_cli_prog_name",
    "_cli_parse_args", "_cli_settings_source", "_cli_parse_none_str", "_cli_hide_none_type",
    "_cli_avoid_json", "_cli_enforce_required", "_cli_use_class_docs_for_groups",
    "_cli_exit_on_error", "_cli_prefix", "_cli_flag_prefix_char", "_cli_implicit_flags",
    "_cli_ignore_unknown_args", "_cli_kebab_case", "_cli_shortcuts", "_secrets_dir"]

/-- What stands before each name of the environment. It is a text that may be said to be for other
names; anything else with a length fails where it is put before a name, and the rest has none. -/
def startOf (start target : Json) : Except Fault String :=
  match start with
  | .null => .ok ""
  | .str s => .ok (if [.null, .str "variable", .str "all"].contains target then s else "")
  | .arr _ | .obj _ => .error (.other "SettingsError" "")
  | _ => .error .mismatched

/-- How the environment is read, as values say. -/
def ofValues (values : Json.Fields) : Except Fault Reading := do
  let value (name : String) := Json.Fields.getD values name
  return ⟨(value "_case_sensitive").isTruthy,
    ← startOf (value "_env_prefix") (value "_env_prefix_target"),
    (value "_env_ignore_empty").isTruthy, (value "_env_parse_none_str").asText?⟩

/-- The names of a list of members in small letters; of members that then have one name, the last
comes first. -/
def lowered (f : Json.Fields) : Json.Fields := (f.map fun m => (Text.lower m.1, m.2)).reverse

/-- The value of a member of the environment. -/
def value (r : Reading) (j : Json) : Json :=
  if r.nullText.isSome && j.asText? = r.nullText then .null else j

/-- The settings that an environment holds, under their names. -/
def environment (r : Reading) (f : Json.Fields) : Json.Fields :=
  let f := f.filter fun m => !(r.skipsEmpty && m.2 == .str "")
  let f := if r.mindsCase then f else lowered f
  let start := if r.mindsCase then r.start else Text.lower r.start
  Settings.names.filterMap fun name =>
    (Json.Fields.get? f (start ++ name)).map fun j => (name, r.value j)

end Reading

namespace Settings

/-- The issue of every value whose name belongs to no setting. -/
def strangers (values : Json.Fields) : Checked Unit :=
  match values.filter fun m => !names.contains (Text.lower m.1) with
  | [] => .ok ()
  | m :: rest => .bad ⟨[.key m.1], .unknownField⟩ (rest.map fun m => ⟨[.key m.1], .unknownField⟩)

/-- The settings that values given by name and an environment amount to. -/
def load (values environment : Json.Fields) : Except Fault Settings := do
  let reading ← Reading.ofValues values
  let values := values.filter fun m => !Reading.names.contains m.1
  ((fun s _ => s) <$> decode (Reading.lowered values ++ reading.environment environment) <*>
    strangers values).toExcept.mapError .invalid

/-- The settings that are there when nothing is said. -/
def standard : Settings :=
  ⟨none, "haiku", .simulator, none, none, none, none, none, none, none, "https://api.mailgun.net",
    Workflow.homeZone, defaultDelayCeiling, Context.defaultTimeout, none, "INFO"⟩

end Settings
end Cadence
