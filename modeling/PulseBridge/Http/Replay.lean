import PulseBridge.Http.Web

/-!
# Replaying the web

Work that asks the web is a function of what the web answers. To do it for real, it is done over
and over: with the answers received so far it comes to the first question that has not been asked
yet; that question is asked, and its answer joins the others. When no question is left open, the
work is done.
-/

namespace PulseBridge.Http

/-- The web of which only the first answers are known. -/
def Web.known (answers : List Answer) : Web := fun earlier _ => answers.getD earlier.length .stalled

/-- The first request of a log whose answer is not known. -/
def openQuestion? (answers : List Answer) (log : List Sent) : Option Sent := log[answers.length]?

end PulseBridge.Http
