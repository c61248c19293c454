import PulseBridge.ChatSink
import PulseBridge.Proofs.Anomalies
import PulseBridge.Proofs.Form
import PulseBridge.Proofs.Json.Texts

/-!
# Messages about alerts

What the message about an alert says can be written down in one piece: the headline, what the alert
says about its state, its organisation, its check, the time and its tags, and a further line if
there is one. It goes out as a form within which it stands as JSON, and undoing both codings gives
it back.

## Main definitions

* `Alert.announcement`: the text about an alert, in one piece.
* `Chat.Carries`: whether a body is decoded as a message.

## Main statements

* `ChatMessage.ofAlert_eq`: the message about an alert has this text.
* `Chat.carries_bodyOf`: the body of a message is decoded as the message.
-/

namespace PulseBridge

open Octets (IsText)

/-! ## The text about an alert -/

namespace Alert

/-- What is said about the time of the anomaly: when it began, or else how long it has lasted. -/
def timing (alert : Alert) : String :=
  match alert.anomalyStart, alert.anomalyDuration with
  | some start, _ => " anomalous since " ++ Calendar.instantText start.toInt
  | none, some duration => " anomalous for " ++ toString duration.toInt ++ "s"
  | none, none => ""

/-- The text of the message about an alert, with a further line if there is one. -/
def announcement (alert : Alert) (further : Option String) : String :=
  ":rotating_light: Anomaly detected" ++ "\n"
    ++ "[" ++ (alert.state.map Text.trim).getD "UNKNOWN" ++ "] *" ++ alert.org ++ "* `"
    ++ alert.check ++ "`" ++ alert.timing
    ++ (match alert.tags with
        | [] => ""
        | tags => " (" ++ ", ".intercalate tags ++ ")")
    ++ (match further with
        | none => ""
        | some line => "\n" ++ line)

theorem timing_eq (alert : Alert) :
    (alert.anomaly?.map (" anomalous " ++ ·)).getD "" = alert.timing := by
  cases start : alert.anomalyStart with
  | some time =>
      rw [anomaly?_of_start start, timing, start, Option.map_some, Option.getD_some,
        ← String.append_assoc]
      rfl
  | none =>
      cases duration : alert.anomalyDuration with
      | none => simp [anomaly?, timing, start, duration]
      | some time =>
          rw [anomaly?, timing, start, duration, Option.map_some, Option.map_some,
            Option.getD_some, ← String.append_assoc, ← String.append_assoc]
          rfl

end Alert

/-- The message about an alert has the text that is written down here in one piece. -/
theorem ChatMessage.ofAlert_eq (username : String) (alert : Alert) (further : Option String) :
    ofAlert username alert further = ⟨username, alert.announcement further⟩ := by
  unfold ofAlert ofLines alertLines headline Alert.announcement Alert.summary
  rw [Alert.timing_eq]
  cases further <;> cases alert.tags <;> simp [-String.reduceAppend, String.append_assoc]

/-! ## The body of a post -/

namespace Json

open Ascii

/-- What is written for an octet of ASCII is written in ASCII. -/
theorem isText_escapeOctet {b : UInt8} (small : b < 0x80) : IsText (escapeOctet b) := by
  have ascii : b < 0x80 → (escapeOctet b).all (· < 0x80) = true := by
    apply Octets.forall_octet _ b
    decide +kernel
  apply Octets.isText_of_ascii
  intro c hc
  exact of_decide_eq_true (List.all_eq_true.mp (ascii small) c hc)

/-- An octet beyond ASCII is written as it is. -/
theorem escapeOctet_beyond {b : UInt8} : 0x80 ≤ b → escapeOctet b = [b] := by
  apply Octets.forall_octet _ b
  decide +kernel

/-- A text in quotes is a text. -/
theorem isText_writeText (s : String) : IsText (writeText s) := by
  have inside : IsText ((Octets.ofText s).flatMap escapeOctet) :=
    Octets.isText_flatMap (fun _ => isText_escapeOctet) (fun _ => escapeOctet_beyond) s
  have mark : IsText [quote] := ⟨"\"", rfl⟩
  exact (mark.append inside).append mark

theorem isText_writeMember {member : String × Octets} (h : IsText member.2) :
    IsText (writeMember member) := by
  have mark : IsText [colon] := ⟨":", rfl⟩
  exact (isText_writeText member.1).append (mark.append h)

theorem isText_flatMap_comma {parts : List Octets} (h : ∀ part ∈ parts, IsText part) :
    IsText (parts.flatMap (comma :: ·)) := by
  have mark : IsText [comma] := ⟨",", rfl⟩
  induction parts with
  | nil => exact Octets.isText_ofText ""
  | cons part parts ih =>
      obtain ⟨first, further⟩ := List.forall_mem_cons.mp h
      exact (mark.append first).append (ih further)

/-- An object whose members are texts is a text. -/
theorem isText_writeMembers {members : List (String × Octets)}
    (h : ∀ member ∈ members, IsText member.2) : IsText (writeMembers members) := by
  have opening : IsText [openBrace] := ⟨"\x7b", rfl⟩
  have closing : IsText [closeBrace] := ⟨"\x7d", rfl⟩
  have each : ∀ part ∈ members.map writeMember, IsText part := by
    intro part hpart
    obtain ⟨member, hmember, rfl⟩ := List.mem_map.mp hpart
    exact isText_writeMember (h member hmember)
  have inside : IsText (joinWithCommas (members.map writeMember)) := by
    cases members with
    | nil => exact Octets.isText_ofText ""
    | cons member members =>
        rw [List.map_cons, List.forall_mem_cons] at each
        obtain ⟨first, further⟩ := each
        rw [List.map_cons, joinWithCommas_cons]
        exact first.append (isText_flatMap_comma further)
  exact (opening.append inside).append closing

end Json

/-- A message in JSON is a text. -/
theorem ChatMessage.isText_encode (message : ChatMessage) : IsText message.encode := by
  apply Json.isText_writeMembers
  simp only [List.forall_mem_cons, List.not_mem_nil, false_imp_iff, implies_true, and_true]
  exact ⟨Json.isText_writeText message.username, Json.isText_writeText message.text⟩

namespace Chat

/-- The body of the post that carries a message. -/
def bodyOf (message : ChatMessage) : Octets :=
  Http.Body.octets (some (.form [("payload", Octets.lossyText message.encode)]))

/-- Whether a body consists of what may stand in a form and is decoded as a message: as one pair,
the value of which is an object of the two members of the message. -/
structure Carries (message : ChatMessage) (body : Octets) : Prop where
  octets : ∀ b ∈ body, Form.isFormOctet b = true
  decoded : ∃ value, Form.decode body = [("payload", value)] ∧
    Json.decode Json.readValue (Octets.ofText value) =
      .ok (.object [("username", .text message.username), ("text", .text message.text)])

/-- The body of a message is decoded as the message. -/
theorem carries_bodyOf (message : ChatMessage) : Carries message (bodyOf message) where
  octets := fun _ => Form.isFormOctet_of_mem_encode
  decoded := by
    refine ⟨Octets.lossyText message.encode, Form.decode_encode _, ?_⟩
    rw [Octets.ofText_lossyText message.isText_encode]
    exact Json.decode_writeTexts [("username", message.username), ("text", message.text)]

end Chat

end PulseBridge
