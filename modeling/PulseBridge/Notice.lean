import PulseBridge.Check
import PulseBridge.Failure

/-!
# Notices

What the services tell about their work while they do it. A `Notice` is an occurrence; its level
and wording follow from what occurred.
-/

namespace PulseBridge

/-- How grave a notice is. -/
inductive Level where
  | info
  | warning
  | error
  deriving DecidableEq, Repr

/-- The name of a level. -/
def Level.name : Level → String
  | .info => "INFO"
  | .warning => "WARN"
  | .error => "ERROR"

/-- Something worth telling. -/
inductive Notice where
  /-- A piece of work ended in a panic. -/
  | contained (operation text : String)
  | deliveryFailed (sink reason : String)
  | courierGone
  | refreshFailed (failure : Failure)
  | undecodableChecks (body : String)
  | checkDropped (check : Check)
  | checksKept (kept total : Nat)
  | pollFailed (check : Check) (failure : Failure)
  | heartbeatsDropped (check : Check)
  | alertRefused (reason : String)
  | alertSuppressed (state : Option String) (check : String)
  | intakeFull
  | intakeClosed (check : String)
  /-- The intake closed while an alert was waiting for room. -/
  | waitingAlertLost
  | lookupFailed (failure : Failure)
  | lookupTimedOut
  | noMasterKey
  | noWebhook
  deriving DecidableEq, Repr

namespace Notice

/-- How grave an occurrence is. -/
def level : Notice → Level
  | .contained .. | .deliveryFailed .. | .refreshFailed _ | .undecodableChecks _ | .pollFailed ..
  | .intakeClosed _ | .waitingAlertLost => .error
  | .courierGone | .checkDropped _ | .heartbeatsDropped _ | .alertRefused _ | .intakeFull
  | .lookupFailed _ | .lookupTimedOut | .noMasterKey | .noWebhook => .warning
  | .checksKept .. | .alertSuppressed .. => .info

/-- An occurrence in words. -/
def message : Notice → String
  | .contained operation text =>
      operation ++ ": unhandled panic, continuing with next tick: " ++ text
  | .deliveryFailed sink reason => "delivery to " ++ sink ++ " failed: " ++ reason
  | .courierGone => "dispatcher already stopped"
  | .refreshFailed failure => "failed to refresh check list: " ++ failure.text
  | .undecodableChecks body => "response body: " ++ body
  | .checkDropped check => "dropping invalid check: " ++ check.detail
  | .checksKept kept total => "kept " ++ toString kept ++ " of " ++ toString total ++ " checks"
  | .pollFailed check failure => "failed to poll " ++ check.title ++ ": " ++ failure.text
  | .heartbeatsDropped check =>
      "sample channel closed, dropping samples for " ++ check.title
  | .alertRefused reason => "rejecting alert body: " ++ reason
  | .alertSuppressed state check =>
      "suppressing " ++ state.getD "state-less" ++ " alert for " ++ check
  | .intakeFull => "alert channel full, deferring send"
  | .intakeClosed check => "alert channel closed, dropping alert for " ++ check
  | .waitingAlertLost => "alert channel closed, dropping alert"
  | .lookupFailed failure => "history lookup failed, posting without it: " ++ failure.text
  | .lookupTimedOut => "history lookup timed out, posting without it"
  | .noMasterKey =>
      "no master API key configured, check list requests will likely be rejected"
  | .noWebhook => "no Slack webhook configured, alerts will not be delivered"

/-- An occurrence in one line, after its level. -/
def line (notice : Notice) : String := notice.level.name ++ " " ++ notice.message

end Notice

end PulseBridge
