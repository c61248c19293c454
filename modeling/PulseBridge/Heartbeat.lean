import PulseBridge.Check
import PulseBridge.Reading

/-!
# Heartbeats

A heartbeat is one observation of one metric, in the form in which it is sent on. Every reading of
a check gives three of them, always in the same order.
-/

namespace PulseBridge

/-- One observation of one metric. -/
structure Heartbeat where
  routingKey : String
  /-- The name of the metric. -/
  check : String
  metric : Float
  /-- How long the observation holds, in seconds; zero leaves that to the receiver. -/
  ttl : UInt64
  tags : List String

/-- The metrics that every reading gives. -/
inductive Metric where
  | responseTime
  | throughput
  | errorRate
  deriving DecidableEq, Repr

namespace Metric

/-- The metrics in the order of their heartbeats. -/
def all : List Metric := [.responseTime, .throughput, .errorRate]

/-- The name of a metric in the names of heartbeats. -/
def label : Metric → String
  | .responseTime => "response time"
  | .throughput => "throughput"
  | .errorRate => "error rate"

/-- The figure of a metric. -/
def value (vitals : Vitals) : Metric → Float
  | .responseTime => vitals.responseTime
  | .throughput => vitals.throughput
  | .errorRate => vitals.errorRate

end Metric

namespace Heartbeat

/-- The heartbeat of one metric of a check that goes by `name`. -/
def ofMetric (check : Check) (name : String) (vitals : Vitals) (ttl : UInt64) (m : Metric) :
    Heartbeat :=
  ⟨check.routingKey, name ++ ": " ++ m.label, m.value vitals, ttl, check.tags.toList⟩

/-- The heartbeats of a check that goes by `name`. -/
def ofVitals (check : Check) (name : String) (vitals : Vitals) (ttl : UInt64) : List Heartbeat :=
  Metric.all.map (ofMetric check name vitals ttl)

/-- The heartbeats that a reading of a check gives. The check goes by the name of its application,
or else by its target. -/
def ofReading (check : Check) (reading : Reading) (ttl : UInt64) : List Heartbeat :=
  ofVitals check (reading.name?.getD check.target) reading.vitals ttl

/-- The heartbeat in JSON. -/
def encode (h : Heartbeat) : Octets :=
  Json.writeMembers
    [ ("api_key", Json.writeText h.routingKey),
      ("check", Json.writeText h.check),
      ("metric", Octets.ofText (Json.numberLayout.text h.metric)),
      ("ttl", Octets.ofText (toString h.ttl.toNat)),
      ("tags", Json.writeList (h.tags.map Json.writeText)) ]

/-- A heartbeat of which nothing is known. -/
def blank : Heartbeat := ⟨"", "", 0, 0, []⟩

/-- How a heartbeat is read. -/
def record : Json.Record Heartbeat where
  title := "Sample"
  blank := blank
  fields :=
    [ .of "api_key" [] true .text fun v h => { h with routingKey := v },
      .of "check" [] true .text fun v h => { h with check := v },
      .of "metric" [] true .f64 fun v h => { h with metric := v },
      .of "ttl" [] true .u64 fun v h => { h with ttl := v },
      .of "tags" [] true (.list .text) fun v h => { h with tags := v } ]

/-- The heartbeat that a body describes. -/
def decode (body : Octets) : Except Json.Error Heartbeat := Json.decode record.reader body

/-- Whether two heartbeats agree in every member; metrics are compared as numbers. -/
def agrees (h k : Heartbeat) : Bool :=
  h.routingKey == k.routingKey && h.check == k.check && h.metric == k.metric && h.ttl == k.ttl
    && h.tags == k.tags

end Heartbeat

end PulseBridge
