import PulseBridge.Calendar
import PulseBridge.Http.Replay
import PulseBridge.Http.Wire
import PulseBridge.Launch
import PulseBridge.Relay.Wire
import PulseBridge.StartUp
import Std.Async.DNS
import Std.Async.Signal
import Std.Async.TCP
import Std.Time.DateTime.Timestamp

/-!
# The programs

The outer layer: it looks at the environment, the clock, files and connections, and leaves every
decision to the services. The first argument names the program, `nudger` or `taut`; the others are
its command line. A program that has gone to work stops when it is interrupted.

Only plain connections are made; an address that asks for an encrypted one is not reached.
-/

namespace PulseBridge.Main

open Http (Answer Sent Web)
open Settings (Environment Files Nudging Relaying ReadFault)
open Std.Async (AsyncTask)

/-- How long to sleep between two looks at what is awaited, in milliseconds. -/
def nap : UInt32 := 10

/-- Wait for a task until a point in time. -/
partial def awaitUntil {α : Type} (deadline : Nat) (task : AsyncTask α) : IO (Option α) := do
  if ← IO.hasFinished task then return some (← task.block)
  else if deadline ≤ (← IO.monoMsNow) then return none
  else
    IO.sleep nap
    awaitUntil deadline task

/-! ## Connections -/

/-- An address of version 4 as the system has it. -/
def systemIpv4 (x : Net.Ipv4) : Std.Net.IPv4Addr := .ofParts x.a x.b x.c x.d

/-- An address of version 6 as the system has it. -/
def systemIpv6 (x : Net.Ipv6) : Std.Net.IPv6Addr :=
  ⟨⟨x.groups.toArray, by simp [x.eight]⟩⟩

/-- A socket address as the system has it. -/
def systemAddress : Net.SocketAddress → Std.Net.SocketAddress
  | .v4 address port => .v4 ⟨systemIpv4 address, port⟩
  | .v6 address _ port => .v6 ⟨systemIpv6 address, port⟩

/-- A socket address of the system. -/
def ownAddress : Std.Net.SocketAddress → Net.SocketAddress
  | .v4 x => .v4 ⟨x.addr.octets[0], x.addr.octets[1], x.addr.octets[2], x.addr.octets[3]⟩ x.port
  | .v6 x => .v6 ⟨x.addr.segments.toList, by simp⟩ 0 x.port

/-- Where a URL leads, if its host is known. -/
def addressOf? (deadline : Nat) (url : Net.Url) : IO (Option Std.Net.SocketAddress) := do
  let port := url.portOrUsual.getD 80
  match url.host? with
  | none => return none
  | some (.ipv4 x) => return some (systemAddress (.v4 x port))
  | some (.ipv6 x) => return some (systemAddress (.v6 x 0 port))
  | some (.name name) =>
      let found : Option (Array Std.Net.IPAddr) ←
        awaitUntil deadline (← (Std.Async.DNS.getAddrInfo name "").toIO)
      return (found.bind (·[0]?)).map fun
        | .v4 x => .v4 ⟨x, port⟩
        | .v6 x => .v6 ⟨x, port⟩

/-- The octets of an array of the system. -/
def octetsOf (bytes : ByteArray) : Octets := bytes.data.toList

/-- How much is taken from a connection at once. -/
def portion : UInt64 := 65536

/-- Take from a connection until what has arrived makes sense, or nothing more comes. When the time
is up, what has come so far is returned. -/
partial def receive {ε α : Type} (read : Bool → Octets → Http.Arrival ε α) (deadline : Nat)
    (client : Std.Async.TCP.Socket.Client) (sofar : Octets) :
    IO (Except Octets (Http.Arrival ε α)) := do
  match read false sofar with
  | .unfinished =>
      match ← awaitUntil deadline (← (client.recv? portion).toIO) with
      | none => return .error sofar
      | some none => return .ok (read true sofar)
      | some (some bytes) => receive read deadline client (sofar ++ octetsOf bytes)
  | done => return .ok done

/-- Send a request over a connection and wait for the answer. -/
def converse (deadline : Nat) (client : Std.Async.TCP.Socket.Client) (sent : Sent) : IO Answer := do
  let message := Http.Wire.writeMessage (Http.Wire.ofSent sent)
  let some () ← awaitUntil deadline (← (client.send ⟨message.toArray⟩).toIO) | return .stalled
  match ← receive (Http.Wire.readReply sent) deadline client [] with
  | .error sofar => return Http.Wire.answerInTime sent sofar
  | .ok arrival => return Http.Wire.answerOf arrival

/-- Make a request and wait for its answer, at most so many milliseconds. -/
def ask (patience : Nat) (sent : Sent) : IO Answer := do
  let deadline := (← IO.monoMsNow) + patience
  if sent.url.scheme != "http" then return .refused
  try
    let some address ← addressOf? deadline sent.url | return .refused
    let client ← Std.Async.TCP.Socket.Client.mk
    let some () ← awaitUntil deadline (← (client.connect address).toIO) | return .stalled
    tryCatch (converse deadline client sent) fun _ => return .closed
  catch _ => return .refused

/-- Do a piece of work on the real web. -/
partial def onWeb {α : Type} (patience : Sent → Nat) (work : Web → α × List Sent)
    (answers : List Answer) : IO α := do
  let (result, log) := work (.known answers)
  match Http.openQuestion? answers log with
  | none => return result
  | some sent => onWeb patience work (answers ++ [← ask (patience sent) sent])

/-! ## Surroundings -/

/-- The number by which the system tells that a name is too long. -/
def nameTooLong : UInt32 := 36

/-- What is found at a path. -/
def readFile (path : String) : IO (Except ReadFault Octets) := do
  try
    return .ok (octetsOf (← IO.FS.readBinFile path))
  catch
    | .noFileOrDirectory .. => return .error .absent
    | .inappropriateType .. => return .error .isDirectory
    | .invalidArgument _ code _ =>
        return .error (if code == nameTooLong then .nameTooLong else .other "Invalid argument")
    | e => return .error (.other (toString e))

/-- The one file that a command line names, as the only one there is. -/
def filesFor (path : Option String) : IO Files := do
  match path with
  | none => return fun _ => .error .absent
  | some path =>
      let content ← readFile path
      return fun _ => content

/-- The words of a text that may be the names of variables. -/
def wordsOf (text : String) : List String :=
  (text.splitToList fun c => !(c.isAlphanum || c == '_' || c == '.')).filter (!·.isEmpty)

/-- The variables of some names that are set. -/
def variablesOf (names : List String) : IO Environment :=
  names.filterMapM fun name => do return (← IO.getEnv name).map (name, ·)

/-- The environment file of this directory, or of the nearest one above it that has one. -/
partial def environmentFile (path : String) (depth : Nat) : IO (Option String) := do
  match ← readFile (path ++ ".env") with
  | .ok content => return some (Octets.lossyText content)
  | .error _ =>
      match depth with
      | 0 => return none
      | depth + 1 => environmentFile ("../" ++ path) depth

/-- How far above this directory an environment file is looked for. -/
def environmentDepth : Nat := 32

/-- The environment, as far as it concerns some options. -/
def environmentOf (names : List String) : IO Environment := do
  let file ← environmentFile "" environmentDepth
  return fullEnvironment (← variablesOf (names ++ wordsOf (file.getD ""))) file

/-- What time it is. -/
def now : IO String := do
  let time ← Std.Time.Timestamp.now
  return (Calendar.momentOf time.toSecondsSinceUnixEpoch.val).text

/-- The time on the clock that never goes back. -/
def clockTime : IO ClockTime := do
  let seconds := (← IO.monoMsNow) / 1000
  return if shown : seconds < clockEnd then ⟨seconds, shown⟩ else ⟨0, by decide⟩

/-- Write entries into the journal. -/
def tell (entries : List Entry) : IO Unit := do
  let time ← now
  for entry in entries do
    IO.eprintln (time ++ " " ++ entry.line)

/-- End as a program has decided. -/
def finish (ending : Ending) : IO UInt32 := do
  IO.print ending.output
  for line in ending.complaints do
    IO.eprintln line
  return ending.code.toUInt32

/-- Told once the program is interrupted. -/
def interruption : IO (AsyncTask Int) := do
  (← Std.Async.Signal.Waiter.mk .sigint false).wait

/-! ## The nudger -/

/-- How long to wait for an answer: deliveries are posts. -/
def nudgerPatience (settings : Nudging) (sent : Sent) : Nat :=
  1000 * (if sent.method == "POST" then settings.deliveryTimeout else settings.timeout).toNat

/-- Let the timers of the nudger fire until it is interrupted. -/
partial def nudge (stop : AsyncTask Int) (started : Nat) (nudger : Nudger)
    (timers : Nudger.Timers) : IO Nudger := do
  if ← IO.hasFinished stop then return nudger
  else if started + 1000 * min timers.refreshAt timers.pollAt ≤ (← IO.monoMsNow) then
    let work (web : Web) : (Nudger × Nudger.Timers × List Entry) × List Sent :=
      let done := Nudger.fire web { nudger with log := [] } timers
      (done, done.1.log)
    let (nudger, timers, told) ← onWeb (nudgerPatience nudger.settings) work []
    tell told
    nudge stop started nudger timers
  else
    IO.sleep nap
    nudge stop started nudger timers

/-- The nudger as a program. -/
def runNudger (arguments : List String) : IO UInt32 := do
  let environment ← environmentOf (Nudging.program.flags.filterMap (·.envVar))
  let file := match Nudging.program.read environment arguments with
    | .ok (given, _) => given.file
    | .error _ => none
  match launchNudger (← filesFor file) environment arguments with
  | .error ending => finish ending
  | .ok settings =>
      let stop ← interruption
      tell (Nudger.opening settings)
      match Nudger.setUp settings (← clockTime) with
      | .panicked panic => finish (.panicked panic)
      | .finished nudger =>
          let nudger ← nudge stop (← IO.monoMsNow) nudger (.start settings)
          tell [Nudger.farewell]
          match nudger.stop with
          | .error failure => finish (.failed [] failure)
          | .ok nudger =>
              tell [nudger.summary]
              return 0

/-! ## The bridge -/

/-- Answer whoever has connected. -/
def serve (client : Std.Async.TCP.Socket.Client) (patience : Nat) (bridge : ChatBridge) :
    IO (ChatBridge × List Entry) := do
  try
    match ← receive Relay.Inquiry.read ((← IO.monoMsNow) + patience) client [] with
    | .ok (.arrived inquiry) =>
        let (response, bridge, told) := bridge.answer (← now) inquiry
        let message := Http.Wire.writeMessage response.message
        let deadline := (← IO.monoMsNow) + patience
        let _ ← awaitUntil deadline (← (client.send ⟨message.toArray⟩).toIO)
        let _ ← awaitUntil deadline (← client.shutdown.toIO)
        return (bridge, told)
    | _ => return (bridge, [])
  catch _ => return (bridge, [])

/-- Answer inquiries, and deliver alerts while there are none, until the program is interrupted. -/
partial def bridgeOver (stop : AsyncTask Int) (settings : Relaying)
    (server : Std.Async.TCP.Socket.Server) (bridge : ChatBridge) : IO ChatBridge := do
  if ← IO.hasFinished stop then return bridge
  else
    let patience := 1000 * settings.timeout.toNat
    match ← server.tryAccept with
    | some client =>
        let (bridge, told) ← serve client patience bridge
        tell told
        bridgeOver stop settings server bridge
    | none =>
        if bridge.intake.queue.isEmpty then
          IO.sleep nap
          bridgeOver stop settings server bridge
        else
          let work (web : Web) : (ChatBridge × List Entry) × List Sent :=
            let done := ChatBridge.deliverNext web settings.chat
              (ChatBridge.enricher web settings) { bridge with log := [] }
            (done, done.1.log)
          let (bridge, told) ← onWeb (fun _ => patience) work []
          tell told
          bridgeOver stop settings server bridge

/-- How many connections may wait to be accepted. -/
def backlog : UInt32 := 1024

/-- Listen on an address. -/
def listenOn (server : Std.Async.TCP.Socket.Server) (address : Net.SocketAddress) :
    IO (Except ListenFault Net.SocketAddress) := do
  try
    server.bind (systemAddress address)
    server.listen backlog
    return .ok (ownAddress (← server.getSockName))
  catch
    | .resourceBusy .. => return .error .inUse
    | .unsupportedOperation .. => return .error .notHere
    | .permissionDenied .. => return .error .forbidden
    | e => return .error (.other (toString e))

/-- The bridge as a program. -/
def runBridge (arguments : List String) : IO UInt32 := do
  let environment ← environmentOf (Relaying.program.flags.filterMap (·.envVar))
  let file := match Relaying.program.read environment arguments with
    | .ok (given, _) => given.file
    | .error _ => none
  match launchBridge (← filesFor file) environment arguments with
  | .error ending => finish ending
  | .ok settings =>
      match ChatBridge.setUp settings with
      | .panicked panic =>
          tell (ChatBridge.greeting settings)
          finish (.panicked panic)
      | .finished bridge =>
          let server ← Std.Async.TCP.Socket.Server.mk
          match openBridge settings (← listenOn server settings.listen) with
          | .error ending => finish ending
          | .ok told =>
              let stop ← interruption
              tell told
              let bridge ← bridgeOver stop settings server bridge
              tell [ChatBridge.farewell, bridge.summary]
              return 0

end PulseBridge.Main

/-- Run the program that the first argument names. -/
def main (arguments : List String) : IO UInt32 := do
  match arguments with
  | "nudger" :: rest => PulseBridge.Main.runNudger rest
  | "taut" :: rest => PulseBridge.Main.runBridge rest
  | _ =>
      IO.eprintln "usage: pulsebridge (nudger | taut) [OPTIONS]"
      return 2
