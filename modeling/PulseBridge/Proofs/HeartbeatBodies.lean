import PulseBridge.Proofs.Calls.Carried
import PulseBridge.Proofs.Decimal
import PulseBridge.Proofs.Json.Trees

/-!
# What a heartbeat is posted as

The body of a heartbeat is one document: an object of five members in a fixed order, whatever its
names and tags hold. The metric, if it is finite, stands there as a number, and every other member
is read back as what it was written from. So heartbeats that differ in any of these have different
bodies.

## Main statements

* `Heartbeat.members_of_encode`: the members of a body, and what they are read as.
* `bodies_of_heartbeat`: what is posted when a heartbeat is delivered.
-/

namespace PulseBridge

open Http (Web Sent Posts IsReachable)
open Json (Passes Reader IsNumber writeText)

namespace Heartbeat

/-- The members that are written of a heartbeat. -/
def members (h : Heartbeat) : List (String × Octets) :=
  [ ("api_key", writeText h.routingKey), ("check", writeText h.check),
    ("metric", Octets.ofText (Json.numberLayout.text h.metric)),
    ("ttl", Octets.ofText (toString h.ttl.toNat)),
    ("tags", Json.writeList (h.tags.map writeText)) ]

theorem encode_eq (h : Heartbeat) : h.encode = Json.writeMembers h.members := rfl

/-- Every member is passed over as one value. -/
theorem passes_members {h : Heartbeat} (finite : h.metric.isFinite = true) :
    ∀ member ∈ h.members, Passes member.2 := by
  have ttl := Json.isNumber_toString h.ttl.toNat
  simp only [members, List.forall_mem_cons, List.not_mem_nil, false_imp_iff, implies_true, and_true]
  exact ⟨(Json.isLeaf_writeText h.routingKey).passes, (Json.isLeaf_writeText h.check).passes,
    (Decimal.isNumber_text finite).isLeaf.passes, ttl.isLeaf.passes, Json.passes_writeTexts h.tags⟩

/-- A body is an object with the members that were written, in their order, and no others. -/
theorem decode_members {h : Heartbeat} (finite : h.metric.isFinite = true) :
    Json.decode (.object .raw) h.encode = .ok h.members := by
  rw [encode_eq]
  apply Json.decode_object
  rw [List.forall₂_same]
  intro member hmember
  exact ⟨rfl, (passes_members finite member hmember).reads_raw 126⟩

/-- The members of a body, and what they are read as. -/
theorem members_of_encode {h : Heartbeat} (finite : h.metric.isFinite = true) :
    ∃ key check metric ttl tags,
      Json.decode (.object .raw) h.encode =
        .ok [("api_key", key), ("check", check), ("metric", metric), ("ttl", ttl), ("tags", tags)] ∧
      Json.decode .text key = .ok h.routingKey ∧ Json.decode .text check = .ok h.check ∧
      IsNumber metric ∧ Json.decode .u64 ttl = .ok h.ttl ∧
      Json.decode (.list .text) tags = .ok h.tags := by
  refine ⟨_, _, _, _, _, decode_members finite, ?_, ?_, ?_, ?_, ?_⟩
  · exact Json.decode_of_reads (Json.reads_text _ h.routingKey)
  · exact Json.decode_of_reads (Json.reads_text _ h.check)
  · exact Decimal.isNumber_text finite
  · exact Json.decode_of_reads (Json.reads_u64 _ h.ttl)
  · exact Json.decode_of_reads (Json.reads_texts 126 h.tags)

/-- Heartbeats with one body agree in all that is read back. -/
theorem eq_of_encode {h k : Heartbeat} (finite : h.metric.isFinite = true)
    (finite' : k.metric.isFinite = true) (same : h.encode = k.encode) :
    h.routingKey = k.routingKey ∧ h.check = k.check ∧ h.ttl = k.ttl ∧ h.tags = k.tags := by
  obtain ⟨_, _, _, _, _, members, key, check, -, ttl, tags⟩ := members_of_encode finite
  obtain ⟨_, _, _, _, _, members', key', check', -, ttl', tags'⟩ := members_of_encode finite'
  rw [same, members'] at members
  cases members
  refine ⟨?_, ?_, ?_, ?_⟩
  · exact Except.ok.inj (key.symm.trans key')
  · exact Except.ok.inj (check.symm.trans check')
  · exact Except.ok.inj (ttl.symm.trans ttl')
  · exact Except.ok.inj (tags.symm.trans tags')

/-- Heartbeats with one body agree as soon as their metrics are one number. -/
theorem agrees_of_encode {h k : Heartbeat} (finite : h.metric.isFinite = true)
    (finite' : k.metric.isFinite = true) (same : h.encode = k.encode) :
    h.agrees k = (h.metric == k.metric) := by
  obtain ⟨key, check, ttl, tags⟩ := eq_of_encode finite finite' same
  simp only [agrees, key, check, ttl, tags, BEq.rfl, Bool.true_and, Bool.and_true]

end Heartbeat

/-- What is posted when a heartbeat of a finite metric is delivered: nothing but its body, which is
posted first if the address can be reached. The body is one document, an object of exactly five
members, of which the metric is a number and the others are read back as what the heartbeat holds.
Another heartbeat that has the same body holds the same. -/
theorem bodies_of_heartbeat (web : Web) (url : String) (earlier : List Sent) (h : Heartbeat)
    (finite : h.metric.isFinite = true) :
    (∃ outcome asked, (heartbeatSink web url).deliver earlier h = (outcome, [], earlier ++ asked) ∧
      (∀ out ∈ asked, out.method = "POST" → out.body = h.encode) ∧
      (IsReachable url → ∃ out more, asked = out :: more ∧ Posts url h.encode out) ∧
      (¬IsReachable url → asked = [])) ∧
    (∃ key check metric ttl tags,
      Json.decode (.object .raw) h.encode =
        .ok [("api_key", key), ("check", check), ("metric", metric), ("ttl", ttl), ("tags", tags)] ∧
      Json.decode .text key = .ok h.routingKey ∧ Json.decode .text check = .ok h.check ∧
      IsNumber metric ∧ Json.decode .u64 ttl = .ok h.ttl ∧
      Json.decode (.list .text) tags = .ok h.tags) ∧
    ∀ k : Heartbeat, k.metric.isFinite = true → h.encode = k.encode →
      h.routingKey = k.routingKey ∧ h.check = k.check ∧ h.ttl = k.ttl ∧ h.tags = k.tags := by
  refine ⟨?_, Heartbeat.members_of_encode finite, fun k => Heartbeat.eq_of_encode finite⟩
  obtain ⟨asked, hlog, hasked, hfirst, hnone⟩ :=
    Http.requests_of_post web earlier url (.json h.encode)
  have deliver : (heartbeatSink web url).deliver earlier h =
      (.finished (.ofCall (acceptance (Http.call web earlier (h.request url)).1)), [],
        (Http.call web earlier (h.request url)).2) := rfl
  exact ⟨_, asked, deliver.trans (by rw [← hlog]; rfl), hasked, hfirst, hnone⟩

/-- A heartbeat whose tag tries to add a member. -/
def forged : Heartbeat := ⟨"def", "shop: throughput", 3.4, 0, ["\"],\"ttl\":9"]⟩

/-- The receiver of heartbeats on this machine is posted the body, and its tag adds nothing. -/
theorem bodies_of_forged :
    forged.metric.isFinite = true ∧
      (∃ outcome out more, (heartbeatSink (fun _ _ => .closed) "http://[::1]/hb").deliver [] forged =
        (outcome, [], out :: more) ∧ out.body = forged.encode) ∧
      ∃ key check metric ttl tags,
        Json.decode (.object .raw) forged.encode =
          .ok [("api_key", key), ("check", check), ("metric", metric), ("ttl", ttl),
            ("tags", tags)] ∧
        Json.decode .u64 ttl = .ok 0 ∧ Json.decode (.list .text) tags = .ok forged.tags := by
  have finite : forged.metric.isFinite = true := by decide
  have reachable : IsReachable "http://[::1]/hb" := by
    apply @Http.isReachable_of_isSome _ (.json [])
    decide
  obtain ⟨⟨outcome, asked, deliver, -, posted, -⟩, members, -⟩ :=
    bodies_of_heartbeat (fun _ _ => .closed) "http://[::1]/hb" [] forged finite
  obtain ⟨out, more, rfl, -, body, -⟩ := posted reachable
  obtain ⟨key, check, metric, ttl, tags, object, -, -, -, noTtl, tag⟩ := members
  exact ⟨finite, ⟨outcome, out, more, deliver, body⟩, key, check, metric, ttl, tags, object, noTtl,
    tag⟩

end PulseBridge
