import PulseBridge.Proofs.Answers
import PulseBridge.Proofs.Json.Numbers

/-!
# Alerts come back as they were written

The members that an alert leaves out are those whose absence is read as no value, so whatever an
alert holds, reading what was written of it gives the same alert again. Posted to where alerts are
brought to, an active alert is therefore put into the intake as it was, unless its body is longer
than what is accepted.

## Main statements

* `Alert.decode_encode`: what is written of an alert is read back.
* `Relay.intake_of_encoded`: an active alert that is posted enters the intake.
-/

namespace PulseBridge

open Json (Reads)

namespace Alert

/-- The members that are written of an alert. -/
def members (alert : Alert) : List (String × Octets) :=
  optionalMember "state" alert.state Json.writeText
    ++ [("org", Json.writeText alert.org), ("check", Json.writeText alert.check)]
    ++ optionalMember "anomaly_start" alert.anomalyStart writeInt
    ++ optionalMember "anomaly_duration" alert.anomalyDuration writeInt
    ++ [("tags", Json.writeList (alert.tags.map Json.writeText))]

theorem encode_eq (alert : Alert) : alert.encode = Json.writeMembers alert.members := rfl

/-- How a member that may be left out changes an alert. -/
def optionalFill {α : Type} (value : Option α) (set : Option α → Alert → Alert) :
    List (Alert → Alert) :=
  (value.map fun v => set (some v)).toList

/-- How the members of an alert build it up. -/
def fills (alert : Alert) : List (Alert → Alert) :=
  optionalFill alert.state (fun v a => { a with state := v })
    ++ [fun a => { a with org := alert.org }, fun a => { a with check := alert.check }]
    ++ optionalFill alert.anomalyStart (fun v a => { a with anomalyStart := v })
    ++ optionalFill alert.anomalyDuration (fun v a => { a with anomalyDuration := v })
    ++ [fun a => { a with tags := alert.tags }]

theorem filled_fills (alert : Alert) : Json.Record.filled alert.fills blank = alert := by
  obtain ⟨state, org, check, start, duration, tags⟩ := alert
  cases state <;> cases start <;> cases duration <;> rfl

/-- The names of the members of an alert, those that may be left out included. -/
def memberNames : List String :=
  ["state", "org", "check", "anomaly_start", "anomaly_duration", "tags"]

theorem names_optionalMember {α : Type} (name : String) (value : Option α) (write : α → Octets) :
    ((optionalMember name value write).map Prod.fst).Sublist [name] := by
  cases value with
  | none => exact List.nil_sublist _
  | some v => exact List.Sublist.refl _

theorem names_members (alert : Alert) : (alert.members.map Prod.fst).Sublist memberNames := by
  simp only [members, List.map_append]
  exact ((((names_optionalMember "state" alert.state Json.writeText).append
    (List.Sublist.refl ["org", "check"])).append
    (names_optionalMember "anomaly_start" alert.anomalyStart writeInt)).append
    (names_optionalMember "anomaly_duration" alert.anomalyDuration writeInt)).append
    (List.Sublist.refl ["tags"])

theorem nodup_members (alert : Alert) : (alert.members.map Prod.fst).Nodup :=
  (names_members alert).nodup (by decide)

/-- A member that may be left out fills its field if it is there. -/
theorem fills_optionalMember {α : Type} {name : String} {room : Nat} {reader : Json.Reader α}
    {set : Option α → Alert → Alert} {write : α → Octets}
    (found : record.field? name = some (.of name [] false (.nullable reader) set))
    (reads : ∀ v, Reads (Json.Reader.nullable reader) room (write v) (some v)) (value : Option α) :
    List.Forall₂ (record.Fills room) (optionalMember name value write) (optionalFill value set) := by
  cases value with
  | none => exact .nil
  | some v => exact .cons (Json.Record.fills_of found (reads v) rfl) .nil

/-- A text does not begin like `null`. -/
theorem reads_optionalText (room : Nat) (s : String) :
    Reads (Json.Reader.nullable Json.Reader.text) room (Json.writeText s) (some s) :=
  Json.reads_nullable (Json.reads_text room s) rfl (by decide)

/-- An integer does not begin like `null`. -/
theorem reads_optionalInt (room : Nat) (n : Int64) :
    Reads (Json.Reader.nullable Json.Reader.i64) room (writeInt n) (some n) := by
  have read := Json.reads_i64 room n
  obtain ⟨b, tail, octets, notBlank, notNull⟩ := Json.begins_ofText_toString n.toInt
  rw [octets] at read
  rw [writeInt, octets]
  exact Json.reads_nullable read notBlank notNull

/-- Every member that is written of an alert fills the field of its name. -/
theorem fills_members (alert : Alert) (room : Nat) :
    List.Forall₂ (record.Fills (room + 1)) alert.members alert.fills := by
  have names : List.Forall₂ (record.Fills (room + 1))
      [("org", Json.writeText alert.org), ("check", Json.writeText alert.check)]
      [fun a => { a with org := alert.org }, fun a => { a with check := alert.check }] :=
    .cons (Json.Record.fills_of rfl (Json.reads_text _ alert.org) rfl)
      (.cons (Json.Record.fills_of rfl (Json.reads_text _ alert.check) rfl) .nil)
  have tags : List.Forall₂ (record.Fills (room + 1))
      [("tags", Json.writeList (alert.tags.map Json.writeText))]
      [fun a => { a with tags := alert.tags }] :=
    .cons (Json.Record.fills_of rfl (Json.reads_texts room alert.tags) rfl) .nil
  unfold members fills
  apply List.rel_append _ tags
  apply List.rel_append _ (fills_optionalMember rfl (reads_optionalInt _) alert.anomalyDuration)
  apply List.rel_append _ (fills_optionalMember rfl (reads_optionalInt _) alert.anomalyStart)
  exact List.rel_append (fills_optionalMember rfl (reads_optionalText _) alert.state) names

/-- What is written of an alert is read back. -/
theorem decode_encode (alert : Alert) : decode alert.encode = .ok alert := by
  have reads := Json.Record.reads_written (fills_members alert 125) (nodup_members alert) rfl
  rw [show record.blank = blank from rfl, filled_fills] at reads
  rw [encode_eq]
  exact Json.decode_of_reads reads

end Alert

/-! ## Alerts that are posted -/

namespace Relay

open Json (writeText)

/-- A member of a written object is no longer than the object. -/
theorem length_le_writeMembers {members : List (String × Octets)} {member : String × Octets}
    (h : member ∈ members) : member.2.length ≤ (Json.writeMembers members).length := by
  have part : (Json.writeMember member).length ≤
      (Json.joinWithCommas (members.map Json.writeMember)).length :=
    Json.length_le_joinWithCommas (List.mem_map_of_mem h)
  simp only [Json.writeMember, Json.writeMembers_eq, List.length_append, List.length_cons] at part ⊢
  omega

/-- What is written of an alert is longer than the name of its organisation. -/
theorem length_lt_encode (alert : Alert) :
    (Octets.ofText alert.org).length < alert.encode.length := by
  have member : ("org", writeText alert.org) ∈ alert.members := by
    simp [Alert.members]
  calc (Octets.ofText alert.org).length
      < (writeText alert.org).length := Json.length_lt_writeText alert.org
    _ ≤ alert.encode.length := length_le_writeMembers member

/-- An inquiry that brings what is written of an alert. -/
def posting (alert : Alert) : Inquiry := ⟨"POST", "/pacemaker", some Http.jsonType, alert.encode⟩

/-- An active alert of an organisation whose name alone is as long as a body may be. -/
def overlong : Alert :=
  ⟨some "CRITICAL", String.ofList (List.replicate bodyLimit 'a'), "", none, none, []⟩

/-- An active alert that is longer than what is accepted does not enter the intake, though there is
a place for it. -/
theorem overlong_refused :
    overlong.isActive = true ∧ (Intake.start 1).hasRoom = true ∧
      answer "" (Intake.start 1) (posting overlong) = (.tooLarge, Intake.start 1, []) := by
  have octets : Octets.ofText overlong.org = List.replicate bodyLimit 0x61 := by
    rw [overlong, Octets.ofText_ascii, List.map_replicate]
    · rfl
    · intro c hc
      rw [List.eq_of_mem_replicate hc]
      decide
  have long : bodyLimit < (posting overlong).body.length := by
    have longer := length_lt_encode overlong
    rwa [octets, List.length_replicate] at longer
  have brings : (posting overlong).BringsAlert := ⟨rfl, by decide⟩
  refine ⟨rfl, rfl, ?_⟩
  rw [answer_of_bringsAlert brings, receiveAlert, if_pos long]

/-- Reading what was written of an alert gives the same alert, with the same members left out. An
active alert that is posted so is offered to the intake as it was: as long as somebody takes alerts,
it stands at the end of the channel if there is a place, and otherwise at the end of those who wait
for one. Only a body longer than what is accepted is refused, and then nothing changes. -/
theorem intake_of_encoded (alert : Alert) :
    Alert.decode alert.encode = .ok alert ∧
      ∀ (now : String) (intake : Intake) (inquiry : Inquiry), inquiry.BringsAlert →
        inquiry.body = alert.encode → alert.isActive = true →
        (bodyLimit < alert.encode.length → answer now intake inquiry = (.tooLarge, intake, [])) ∧
        (alert.encode.length ≤ bodyLimit →
          answer now intake inquiry = (.text 200 "OK", intake.offer alert) ∧
          (intake.receiving = true →
            intake.offer alert =
              if intake.queued < intake.capacity then
                ({ intake with queue := intake.queue ++ [alert] }, [])
              else ({ intake with waiting := intake.waiting ++ [alert] }, [.intakeFull]))) := by
  refine ⟨alert.decode_encode, ?_⟩
  intro now intake inquiry brings body active
  rw [answer_of_bringsAlert brings, body, receiveAlert]
  constructor
  · intro long
    rw [if_pos long]
  · intro fits
    constructor
    · rw [if_neg (Nat.not_lt.mpr fits), alert.decode_encode]
      simp only [active, if_true]
    · intro receiving
      by_cases room : intake.queued < intake.capacity
      · rw [Intake.offer_of_room receiving room, if_pos room]
      · rw [Intake.offer_of_full receiving (Nat.not_lt.mp room), if_neg room]

/-- An active alert without a beginning, with an octet that has to be escaped. -/
def quoted : Alert := ⟨some "CRITICAL", "My\"Co", "disk", none, some (-7), ["a,b"]⟩

theorem intake_of_quoted :
    Alert.decode quoted.encode = .ok quoted ∧
      answer "" (Intake.start 1) (posting quoted) =
        (.text 200 "OK", { Intake.start 1 with queue := [quoted] }, []) := by
  obtain ⟨decoded, enters⟩ := intake_of_encoded quoted
  obtain ⟨answered, offered⟩ :=
    (enters "" (Intake.start 1) (posting quoted) ⟨rfl, by decide⟩ rfl rfl).2 (by decide)
  exact ⟨decoded, answered.trans (by rw [offered rfl]; rfl)⟩

end Relay

end PulseBridge
