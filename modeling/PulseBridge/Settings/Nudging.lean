import PulseBridge.CheckKeeper
import PulseBridge.Polling
import PulseBridge.Settings.CommandLine
import PulseBridge.Settings.File

/-!
# Settings of the nudger

The nudger keeps a list of checks, polls them, and nudges the receiver of their heartbeats. Each of
its settings comes from the command line or its variable if given there, else from the file, else
it has a usual value, which is the same with a file that leaves it out and without a file. Times are
in seconds.
-/

namespace PulseBridge.Settings

/-- The settings of the nudger. -/
structure Nudging where
  masterKey : String
  /-- Where the list of checks is published. -/
  checksUrl : String
  /-- The template of the provider's addresses. -/
  providerUrl : String
  /-- Where heartbeats go. -/
  receiverUrl : String
  pollInterval : UInt64
  refreshInterval : UInt64
  timeout : UInt64
  deliveryTimeout : UInt64
  ttl : UInt64
  /-- How many heartbeats may wait for delivery. -/
  room : UInt64
  /-- How many polls may run at once. -/
  pollLimit : Option UInt64
  deriving DecidableEq, Repr

namespace Nudging

/-- Where the list of checks is published. -/
def usualChecksUrl : String := "https://radalert.io/api/v1/checks/new_relic.nudger"

/-- The template of the provider's addresses. -/
def usualProviderUrl : String := "https://api.newrelic.com/v2/applications/\x7bid\x7d.json"

/-- Where heartbeats go. -/
def usualReceiverUrl : String := "http://127.0.0.1:7223"

/-- How long it takes to the next poll, and to the next refresh. -/
def usualInterval : UInt64 := 30

/-- How many heartbeats may wait for delivery. -/
def usualRoom : UInt64 := 1024

/-- The usual settings, if there is no file. -/
def usual : Nudging where
  masterKey := ""
  checksUrl := usualChecksUrl
  providerUrl := usualProviderUrl
  receiverUrl := usualReceiverUrl
  pollInterval := usualInterval
  refreshInterval := usualInterval
  timeout := usualTimeout
  deliveryTimeout := usualTimeout
  ttl := 0
  room := usualRoom
  pollLimit := none

/-- What each setting is if a file leaves it out. Settings without a usual value of their own are
what their kind is by default. -/
def omitted : Nudging where
  masterKey := default
  checksUrl := usualChecksUrl
  providerUrl := usualProviderUrl
  receiverUrl := usualReceiverUrl
  pollInterval := usualInterval
  refreshInterval := usualInterval
  timeout := usualTimeout
  deliveryTimeout := usualTimeout
  ttl := default
  room := usualRoom
  pollLimit := default

/-- How the settings are read from a file. -/
def record : Json.Record Nudging where
  title := "NudgerConfig"
  blank := omitted
  fields :=
    [ .of "master_api_key" [] false .text fun v s => { s with masterKey := v },
      .of "checks_url" [] false .text fun v s => { s with checksUrl := v },
      .of "provider_url" [] false .text fun v s => { s with providerUrl := v },
      .of "pacemaker_url" [] false .text fun v s => { s with receiverUrl := v },
      .of "poll_interval" [] false .u64 fun v s => { s with pollInterval := v },
      .of "refresh_interval" [] false .u64 fun v s => { s with refreshInterval := v },
      .of "timeout" [] false .u64 fun v s => { s with timeout := v },
      .of "dispatch_timeout" [] false .u64 fun v s => { s with deliveryTimeout := v },
      .of "sample_ttl" [] false .u64 fun v s => { s with ttl := v },
      .of "sample_channel_capacity" [] false .usize fun v s => { s with room := v },
      .of "max_concurrent_polls" [] false (.nullable .usize) fun v s => { s with pollLimit := v } ]

/-- What is given on the command line or by variables. -/
structure Given where
  file : Option String
  masterKey : Option String
  checksUrl : Option String
  providerUrl : Option String
  receiverUrl : Option String
  pollInterval : Option UInt64
  refreshInterval : Option UInt64
  timeout : Option UInt64
  deliveryTimeout : Option UInt64
  ttl : Option UInt64
  pollLimit : Option UInt64
  deriving DecidableEq, Repr

/-- Nothing is given. -/
def Given.nothing : Given :=
  ⟨none, none, none, none, none, none, none, none, none, none, none⟩

/-- The command line of the nudger. -/
def program : Program Given where
  name := "nudger"
  purpose := "Poll New Relic and nudge pacemaker"
  blank := .nothing
  flags :=
    [ .of "file" (some 'f') "FILE" none "JSON config file" readPath
        fun v g => { g with file := some v },
      .of "apikey" none "APIKEY" (some "APIKEY")
        "Master API key for authenticating to the console" .ok
        fun v g => { g with masterKey := some v },
      .of "endpoint" none "ENDPOINT" (some "API") "API endpoint to fetch checks" .ok
        fun v g => { g with checksUrl := some v },
      .of "provider" none "PROVIDER" (some "PROVIDER_URL")
        "Provider URL template, `\x7bid\x7d` is replaced with the target id" .ok
        fun v g => { g with providerUrl := some v },
      .of "pacemaker" none "PACEMAKER" (some "PACEMAKER")
        "Pacemaker instance to submit heartbeats to" .ok
        fun v g => { g with receiverUrl := some v },
      .of "interval" none "INTERVAL" (some "POLL_INTERVAL") "Poll interval in seconds" readNumber
        fun v g => { g with pollInterval := some v },
      .of "refresh-interval" none "REFRESH_INTERVAL" (some "REFRESH_INTERVAL")
        "Check list refresh interval in seconds" readNumber
        fun v g => { g with refreshInterval := some v },
      .of "timeout" none "TIMEOUT" (some "TIMEOUT") "Per-call timeout in seconds" readNumber
        fun v g => { g with timeout := some v },
      .of "dispatch-timeout" none "DISPATCH_TIMEOUT" (some "DISPATCH_TIMEOUT")
        "Heartbeat delivery timeout in seconds" readNumber
        fun v g => { g with deliveryTimeout := some v },
      .of "ttl" none "TTL" (some "SAMPLE_TTL") "TTL attached to every sample, in seconds" readNumber
        fun v g => { g with ttl := some v },
      .of "max-concurrent-polls" none "MAX_CONCURRENT_POLLS" (some "MAX_CONCURRENT_POLLS")
        "Cap on concurrent polls per tick" readNumber
        fun v g => { g with pollLimit := some v } ]

/-- The settings with what is given in place of what they had. -/
def overlay (s : Nudging) (given : Given) : Nudging where
  masterKey := given.masterKey.getD s.masterKey
  checksUrl := given.checksUrl.getD s.checksUrl
  providerUrl := given.providerUrl.getD s.providerUrl
  receiverUrl := given.receiverUrl.getD s.receiverUrl
  pollInterval := given.pollInterval.getD s.pollInterval
  refreshInterval := given.refreshInterval.getD s.refreshInterval
  timeout := given.timeout.getD s.timeout
  deliveryTimeout := given.deliveryTimeout.getD s.deliveryTimeout
  ttl := given.ttl.getD s.ttl
  room := s.room
  pollLimit := given.pollLimit.or s.pollLimit

/-- The rules, in the order in which they are looked at. -/
def rules (s : Nudging) : List (Rule × Bool) :=
  [ (.intervalsNotZero, s.pollInterval != 0 && s.refreshInterval != 0),
    (.timeoutsNotZero, s.timeout != 0 && s.deliveryTimeout != 0),
    (.roomForHeartbeats, s.room != 0),
    (.pollsAllowed, s.pollLimit != some 0) ]

/-- The settings that all sources together give. -/
def resolve (files : Files) (given : Given) : Except SettingsFault Nudging := do
  let s := (← fromFile usual record files given.file).overlay given
  require s.rules s

/-- What is told about settings that are accepted. -/
def notices (s : Nudging) : List Notice := if s.masterKey.isEmpty then [.noMasterKey] else []

/-- Where the list of checks is published. -/
def checkSource (s : Nudging) : CheckSource := ⟨s.checksUrl, s.masterKey⟩

/-- How checks are polled. -/
def pollPlan (s : Nudging) : PollPlan := ⟨s.providerUrl, s.ttl⟩

end Nudging

end PulseBridge.Settings
