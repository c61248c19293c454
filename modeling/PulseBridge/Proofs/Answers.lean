import PulseBridge.Proofs.Json.Texts
import PulseBridge.Proofs.Passage

/-!
# What is answered to those who bring alerts

An alert can be brought to either of two paths, and it makes no difference to which. Whoever brings
one that can be read is told that all is well, whether it is active or not. Whoever brings anything
else is told what is wrong with it, in a form from which the message can be read again.
-/

namespace PulseBridge.Relay

/-- Where alerts are brought to. -/
def alertPaths : List String := ["/pacemaker", "/integrations/pacemaker"]

theorem route?_eq_alerts {path : String} : route? path = some .alerts ↔ path ∈ alertPaths := by
  constructor
  · intro h
    by_contra other
    simp only [alertPaths, List.mem_cons, List.not_mem_nil, or_false, not_or] at other
    unfold route? at h
    simp only [beq_iff_eq, Bool.or_eq_true, other.1, other.2, or_self, if_false] at h
    split at h
    · cases h
    · split at h <;> cases h
  · intro h
    rcases List.mem_pair.mp h with rfl | rfl <;> decide

/-- What somebody posts to where alerts are brought to. -/
structure Inquiry.BringsAlert (inquiry : Inquiry) : Prop where
  method : inquiry.method = "POST"
  path : pathOf inquiry.target ∈ alertPaths

variable {now : String} {intake : Intake} {inquiry : Inquiry}

theorem answer_of_bringsAlert (h : inquiry.BringsAlert) :
    answer now intake inquiry = receiveAlert intake inquiry.body := by
  simp [answer, route?_eq_alerts.mpr h.path, h.method]

/-- What brings an active alert is a body that can be read as one, posted to one of the paths. -/
theorem Inquiry.alert?_eq_some_iff {alert : Alert} :
    inquiry.alert? = some alert ↔
      inquiry.BringsAlert ∧ inquiry.body.length ≤ bodyLimit ∧
        Alert.decode inquiry.body = .ok alert ∧ alert.isActive = true := by
  unfold Inquiry.alert?
  constructor
  · intro h
    split at h
    case isTrue hpost =>
        obtain ⟨hroute, hmethod, hlength⟩ := hpost
        cases hdecode : Alert.decode inquiry.body with
        | error e => simp [hdecode] at h
        | ok decoded =>
            simp only [hdecode, Option.ite_none_right_eq_some, Option.some.injEq] at h
            obtain ⟨hactive, rfl⟩ := h
            exact ⟨⟨hmethod, route?_eq_alerts.mp hroute⟩, hlength, rfl, hactive⟩
    case isFalse => cases h
  · rintro ⟨brings, fits, decoded, active⟩
    rw [if_pos ⟨route?_eq_alerts.mpr brings.path, brings.method, fits⟩, decoded]
    exact if_pos active

/-- Only the body counts: neither the path nor anything else makes a difference. -/
theorem answer_eq_of_body {other : Inquiry} (h : inquiry.BringsAlert) (h' : other.BringsAlert)
    (same : inquiry.body = other.body) (now' : String) :
    answer now intake inquiry = answer now' intake other := by
  rw [answer_of_bringsAlert h, answer_of_bringsAlert h', same]

/-- An alert that can be read is acknowledged, whether it is active or not. -/
theorem answer_of_decoded (h : inquiry.BringsAlert) (fits : inquiry.body.length ≤ bodyLimit)
    {alert : Alert} (decoded : Alert.decode inquiry.body = .ok alert) :
    (answer now intake inquiry).1 = .text 200 "OK" := by
  rw [answer_of_bringsAlert h, receiveAlert, if_neg (Nat.not_lt.mpr fits), decoded]
  dsimp only
  split <;> rfl

/-- What is no alert is refused with the reason. -/
theorem answer_of_undecoded (h : inquiry.BringsAlert) (fits : inquiry.body.length ≤ bodyLimit)
    {e : Json.Error} (undecoded : Alert.decode inquiry.body = .error e) :
    (answer now intake inquiry).1.status = 400 ∧
      (answer now intake inquiry).1.contentType = some Http.jsonType ∧
      Json.decode Json.readValue (answer now intake inquiry).1.body =
        .ok (.object [("error", .text ("invalid alert payload: " ++ e.message))]) := by
  rw [answer_of_bringsAlert h, receiveAlert, if_neg (Nat.not_lt.mpr fits), undecoded]
  exact ⟨rfl, rfl, Json.decode_writeTexts [("error", "invalid alert payload: " ++ e.message)]⟩

end PulseBridge.Relay
