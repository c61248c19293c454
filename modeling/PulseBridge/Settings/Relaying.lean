import PulseBridge.ChatSink
import PulseBridge.Settings.CommandLine
import PulseBridge.Settings.File

/-!
# Settings of the relay

The relay takes alerts and posts them to the chat. Each of its settings comes from the command line
or its variable if given there, else from the file, else it has a usual value, which is the same
with a file that leaves it out and without a file. Times are in seconds.
-/

namespace PulseBridge.Settings

/-- The settings of the relay. -/
structure Relaying where
  listen : Net.SocketAddress
  /-- Where messages are posted. -/
  webhook : String
  timeout : UInt64
  /-- How many alerts may wait for delivery. -/
  room : UInt64
  /-- The name under which messages are posted. -/
  username : String
  /-- Where the history of the chat is searched, if not at the usual address. -/
  historyUrl? : Option String
  /-- What admits to the history. Without it nothing is looked up. -/
  historyToken? : Option String
  deriving DecidableEq, Repr

namespace Relaying

/-- Where alerts come in. -/
def usualListen : Net.SocketAddress := .v4 ⟨0, 0, 0, 0⟩ 8080

/-- How many alerts may wait for delivery. -/
def usualRoom : UInt64 := 100000

/-- The name under which messages are posted. -/
def usualUsername : String := "Rad Alert"

/-- The usual settings, if there is no file. -/
def usual : Relaying where
  listen := usualListen
  webhook := ""
  timeout := usualTimeout
  room := usualRoom
  username := usualUsername
  historyUrl? := none
  historyToken? := none

/-- What each setting is if a file leaves it out. Settings without a usual value of their own are
what their kind is by default. -/
def omitted : Relaying where
  listen := usualListen
  webhook := default
  timeout := usualTimeout
  room := usualRoom
  username := usualUsername
  historyUrl? := default
  historyToken? := default

/-- Reads a socket address from a text. -/
def readListen : Json.Reader Net.SocketAddress :=
  .textAs .socketAddress fun text =>
    match Net.SocketAddress.ofText? text with
    | some address => .ok address
    | none => .error .badSocketAddress

/-- How the settings are read from a file. -/
def record : Json.Record Relaying where
  title := "RelayConfig"
  blank := omitted
  fields :=
    [ .of "listen" [] false readListen fun v s => { s with listen := v },
      .of "slack_webhook_url" [] false .text fun v s => { s with webhook := v },
      .of "timeout" [] false .u64 fun v s => { s with timeout := v },
      .of "alert_channel_capacity" [] false .usize fun v s => { s with room := v },
      .of "username" [] false .text fun v s => { s with username := v },
      .of "slack_api_url" [] false (.nullable .text) fun v s => { s with historyUrl? := v },
      .of "slack_token" [] false (.nullable .text) fun v s => { s with historyToken? := v } ]

/-- What is given on the command line or by variables. -/
structure Given where
  file : Option String
  listen : Option Net.SocketAddress
  webhook : Option String
  timeout : Option UInt64
  username : Option String
  historyUrl : Option String
  historyToken : Option String
  deriving DecidableEq, Repr

/-- Nothing is given. -/
def Given.nothing : Given := ⟨none, none, none, none, none, none, none⟩

/-- The command line of the relay. -/
def program : Program Given where
  name := "taut"
  purpose := "Relay pacemaker alerts to Slack"
  blank := .nothing
  flags :=
    [ .of "file" (some 'f') "FILE" none "JSON config file" readPath
        fun v g => { g with file := some v },
      .of "listen" none "LISTEN" (some "LISTEN") "Address to listen on" readAddress
        fun v g => { g with listen := some v },
      .of "slack-webhook" none "SLACK_WEBHOOK" (some "SLACK_WEBHOOK")
        "Slack incoming webhook URL" .ok
        fun v g => { g with webhook := some v },
      .of "timeout" none "TIMEOUT" (some "TIMEOUT") "Per-call timeout in seconds" readNumber
        fun v g => { g with timeout := some v },
      .of "username" none "USERNAME" (some "SLACK_USERNAME") "Bot name shown in Slack" .ok
        fun v g => { g with username := some v },
      .of "slack-api" none "SLACK_API" (some "SLACK_API") "Slack Web API base URL" .ok
        fun v g => { g with historyUrl := some v },
      .of "slack-token" none "SLACK_TOKEN" (some "SLACK_TOKEN")
        "Slack Web API token, enables the history lookup" .ok
        fun v g => { g with historyToken := some v } ]

/-- The settings with what is given in place of what they had. -/
def overlay (s : Relaying) (given : Given) : Relaying where
  listen := given.listen.getD s.listen
  webhook := given.webhook.getD s.webhook
  timeout := given.timeout.getD s.timeout
  room := s.room
  username := given.username.getD s.username
  historyUrl? := given.historyUrl.or s.historyUrl?
  historyToken? := given.historyToken.or s.historyToken?

/-- The rules, in the order in which they are looked at. -/
def rules (s : Relaying) : List (Rule × Bool) :=
  [(.timeoutNotZero, s.timeout != 0), (.roomForAlerts, s.room != 0)]

/-- The settings that all sources together give. -/
def resolve (files : Files) (given : Given) : Except SettingsFault Relaying := do
  let s := (← fromFile usual record files given.file).overlay given
  require s.rules s

/-- What is told about settings that are accepted. -/
def notices (s : Relaying) : List Notice := if s.webhook.isEmpty then [.noWebhook] else []

/-- The usual address at which the history of the chat is searched. -/
def usualHistoryUrl : String := "https://slack.com/api"

/-- The address at which the history of the chat is searched. -/
def historyUrl (s : Relaying) : String := s.historyUrl?.getD usualHistoryUrl

/-- Where the history of the chat is searched, if it is. -/
def archive? (s : Relaying) : Option Archive := s.historyToken?.map (⟨s.historyUrl, ·⟩)

/-- The chat that alerts are posted to. -/
def chat (s : Relaying) : Chat := ⟨s.webhook, s.username⟩

end Relaying

end PulseBridge.Settings
