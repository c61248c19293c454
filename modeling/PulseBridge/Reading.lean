import PulseBridge.Json.Pick
import PulseBridge.Text.Blank

/-!
# Readings

What the metrics provider answers about a target. Usually the vital figures come inside a
description of the application; an answer of the figures alone is understood as well.
-/

namespace PulseBridge

/-- The figures of an application. -/
structure Vitals where
  responseTime : Float
  throughput : Float
  errorRate : Float
  apdexTarget : Float
  apdexScore : Float
  hostCount : Float
  instanceCount : Float

namespace Vitals

/-- No figures. -/
def blank : Vitals := ⟨0, 0, 0, 0, 0, 0, 0⟩

/-- The first three figures are needed. -/
def slots : List (Json.Slot Vitals) :=
  [ .of "response_time" true .f64 fun v x => { x with responseTime := v },
    .of "throughput" true .f64 fun v x => { x with throughput := v },
    .of "error_rate" true .f64 fun v x => { x with errorRate := v },
    .of "apdex_target" false .f64 fun v x => { x with apdexTarget := v },
    .of "apdex_score" false .f64 fun v x => { x with apdexScore := v },
    .of "host_count" false .f64 fun v x => { x with hostCount := v },
    .of "instance_count" false .f64 fun v x => { x with instanceCount := v } ]

/-- Take figures out of a tree. -/
def pick : Json.Pick Vitals := .record slots blank

end Vitals

/-- An application and its figures. -/
structure Application where
  id : Option UInt64
  name : Option String
  reporting : Bool
  vitals : Vitals

namespace Application

/-- An application of which nothing is known. -/
def blank : Application := ⟨none, none, false, .blank⟩

/-- Only the figures are needed. -/
def slots : List (Json.Slot Application) :=
  [ .of "id" false (.nullable .u64) fun v x => { x with id := v },
    .of "name" false (.nullable .text) fun v x => { x with name := v },
    .of "reporting" false .boolean fun v x => { x with reporting := v },
    .of "application_summary" true Vitals.pick fun v x => { x with vitals := v } ]

/-- Take an application out of a tree. -/
def pick : Json.Pick Application := .record slots blank

end Application

/-- An answer of the provider. -/
inductive Reading where
  | application (application : Application)
  | bare (vitals : Vitals)

namespace Reading

/-- An application that is the one member `application` of an object. -/
def pickApplication : Json.Pick Application :=
  .members [.of "application" true Application.pick fun v _ => v] .blank

/-- Take an answer out of a tree: an application if there is one, figures otherwise. -/
def pick (v : Json.Value) : Option Reading :=
  match pickApplication v with
  | some a => some (.application a)
  | none => (Vitals.pick v).map .bare

/-- Read an answer. The whole of it is built as a tree first. -/
def reader : Json.Reader Reading := fun room s =>
  match Json.readValue room s with
  | .error fault => .error fault
  | .ok (v, rest) =>
      match pick v with
      | some reading => .ok (reading, rest)
      | none => .error ⟨.noVariant "ProviderResponse", .pending rest⟩

/-- The answer in a body. -/
def decode (body : Octets) : Except Json.Error Reading := Json.decode reader body

/-- The figures of an answer. -/
def vitals : Reading → Vitals
  | .application a => a.vitals
  | .bare v => v

/-- The name that an answer gives its application, if it is not blank. -/
def name? : Reading → Option String
  | .application a => a.name.filter fun name => !Text.isBlankText name
  | .bare _ => none

end Reading

end PulseBridge
