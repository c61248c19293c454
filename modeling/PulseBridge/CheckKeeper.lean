import PulseBridge.Containment
import PulseBridge.Http.Client

/-!
# Keeping the checks current

The checks to be polled are published as a list at some address. The keeper fetches that list at
the beginning, at regular times and on demand. A new list replaces the old one as a whole, less the
checks that cannot be polled; whatever goes wrong leaves the old one as it was.
-/

namespace PulseBridge

open Http (Web Sent Fetched CallError)

/-- Where the list of checks is published. -/
structure CheckSource where
  url : String
  masterKey : String
  deriving DecidableEq, Repr

/-- The request for the list. The master key is the user; there is no password. -/
def CheckSource.request (source : CheckSource) : Http.Request :=
  { Http.Request.get source.url with user := some source.masterKey }

/-- The checks of a list that can be polled. -/
def keepValid (checks : List Check) : List Check := checks.filter (·.isValid)

/-- What is told about a list from which checks may be dropped. -/
def keepNotices (checks : List Check) : List Notice :=
  let dropped := checks.filter (!·.isValid)
  let kept := keepValid checks
  dropped.map .checkDropped
    ++ if dropped.isEmpty then [] else [.checksKept kept.length checks.length]

/-- The checks that an answer lists. -/
def checksOfAnswer : Except CallError Fetched → Except Failure (List Check) × List Notice
  | .error e => (.error ((Failure.ofCall e).during "failed to fetch check list"), [])
  | .ok fetched =>
      match fetched.requireSuccess with
      | .error e =>
          (.error ((Failure.ofCall e).during "check list endpoint rejected the request"), [])
      | .ok fetched =>
          match Check.decodeList fetched.body with
          | .error e =>
              (.error ((Failure.of e.message).during "failed to decode checks"),
                [.undecodableChecks fetched.text])
          | .ok checks => (.ok (keepValid checks), keepNotices checks)

/-- Fetch the list once. -/
def CheckSource.fetch (web : Web) (source : CheckSource) (earlier : List Sent) :
    Except Failure (List Check) × List Notice × List Sent :=
  let (answer, log) := Http.call web earlier source.request
  let (result, notices) := checksOfAnswer answer
  (result, notices, log)

/-- The keeper between two refreshes. -/
structure CheckKeeper where
  checks : List Check
  running : Bool
  deriving DecidableEq, Repr

namespace CheckKeeper

/-- A keeper that begins with some checks. -/
def start (checks : List Check) : CheckKeeper := ⟨checks, true⟩

/-- Take over the list of a refresh that succeeded. -/
def conclude (keeper : CheckKeeper) : Outcome (Except Failure (List Check)) → CheckKeeper
  | .finished (.ok checks) => { keeper with checks }
  | _ => keeper

/-- What someone who asked for a refresh is told: how many checks there are now. -/
def reply : Outcome (Except Failure (List Check)) → Except Failure Nat
  | .finished (.ok checks) => .ok checks.length
  | .finished (.error failure) => .error failure
  | .panicked _ => .error (.of "refresh panicked")

/-- What is told about a refresh that nobody asked for. -/
def timerNotices : Outcome (Except Failure (List Check)) → List Notice
  | .finished (.error failure) => [.refreshFailed failure]
  | outcome => outcome.notices "refresh"

/-- The result of a refresh, with the keeper, the notices and the requests after it. -/
structure Refreshed (α : Type) where
  result : α
  keeper : CheckKeeper
  notices : List Notice
  log : List Sent

/-- The timer fires. -/
def tick (web : Web) (source : CheckSource) (keeper : CheckKeeper) (earlier : List Sent) :
    Refreshed Unit :=
  if keeper.running then
    let (result, notices, log) := source.fetch web earlier
    let outcome := Outcome.finished result
    ⟨(), keeper.conclude outcome, notices ++ timerNotices outcome, log⟩
  else ⟨(), keeper, [], earlier⟩

/-- Someone asks for a refresh. -/
def refreshNow (web : Web) (source : CheckSource) (keeper : CheckKeeper) (earlier : List Sent) :
    Refreshed (Except Failure Nat) :=
  if keeper.running then
    let (result, notices, log) := source.fetch web earlier
    let outcome := Outcome.finished result
    ⟨reply outcome, keeper.conclude outcome, notices ++ outcome.notices "refresh", log⟩
  else ⟨.error (.unreachable "RefreshNow"), keeper, [], earlier⟩

/-- Tell the keeper to stop. -/
def shutdown (keeper : CheckKeeper) : Except Failure Unit × CheckKeeper :=
  (if keeper.running then .ok () else .error (.unreachable "Shutdown"),
    { keeper with running := false })

end CheckKeeper

end PulseBridge
