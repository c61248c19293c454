import Mathlib.Algebra.Ring.Nat
import PulseBridge.ChatSink
import PulseBridge.Proofs.AlertBodies
import PulseBridge.Proofs.Anomalies

/-!
# The lines of a message about an alert

A message about an alert consists of the headline and the summary of the alert, which is meant to be
one line. The summary takes over what the alert says about its state, its organisation, its check
and its tags. A line break in any of these breaks the summary, and so the message may have more
lines than two, and look like the messages about two alerts.

## Main definitions

* `Text.linesOf`, `Text.breaks`: the lines of a text and the line breaks between them.
* `Alert.spliced`: what a summary takes over.
* `Alert.joined`: an alert that looks like two.

## Main statements

* `lines_of_message`: how many lines a message has, and that any two messages may be one.
-/

namespace PulseBridge

/-! ## Lines -/

namespace Text

/-- The characters at which a line ends. -/
def lineBreaks : List Char := ['\n', '\x0b', '\x0c', '\r', '\u0085', '\u2028', '\u2029']

/-- Whether a line ends at a character. -/
def breaksLine (c : Char) : Bool := lineBreaks.contains c

/-- The lines of a text. -/
def linesOf (text : String) : List (List Char) := text.toList.splitOnP breaksLine

/-- How often a line ends in a text. -/
def breaks (text : String) : Nat := text.toList.countP breaksLine

@[simp] theorem breaks_append (s t : String) : breaks (s ++ t) = breaks s + breaks t := by
  rw [breaks, String.toList_append, List.countP_append, breaks, breaks]

theorem breaks_eq_zero_iff {text : String} :
    breaks text = 0 ↔ ∀ c ∈ text.toList, breaksLine c = false := by
  simp [breaks, List.countP_eq_zero]

theorem breaks_intercalate {mark : String} (unbroken : breaks mark = 0) (texts : List String) :
    breaks (mark.intercalate texts) = (texts.map breaks).sum := by
  induction texts with
  | nil => rfl
  | cons text more ih =>
      cases more with
      | nil => simp
      | cons next more =>
        rw [String.intercalate_cons_cons, breaks_append, breaks_append, ih, unbroken]
        simp

/-- There is one line more than there are breaks. -/
theorem length_linesOf (text : String) : (linesOf text).length = breaks text + 1 := by
  rw [linesOf, breaks]
  induction text.toList with
  | nil => simp
  | cons c cs ih =>
      rw [List.splitOnP_cons_eq_if_modifyHead, List.countP_cons]
      split_ifs with h
      · simp [ih]
      · simp [ih]

/-- A text is one line if no line ends in it. -/
theorem linesOf_eq_singleton_iff {text : String} :
    linesOf text = [text.toList] ↔ breaks text = 0 := by
  constructor
  · intro one
    have length := length_linesOf text
    rw [one, List.length_singleton] at length
    omega
  · exact fun unbroken => List.splitOnP_eq_singleton (breaks_eq_zero_iff.mp unbroken)

/-- Where a line ends another one begins. -/
theorem linesOf_append_newline {text : String} (unbroken : breaks text = 0) (more : String) :
    linesOf (text ++ "\n" ++ more) = text.toList :: linesOf more := by
  have split : (text ++ "\n" ++ more).toList = text.toList ++ '\n' :: more.toList := by simp
  rw [linesOf, split]
  exact List.splitOnP_append_cons_of_forall_mem (breaks_eq_zero_iff.mp unbroken) '\n' (by decide) _

end Text

open Text

/-! ## What is said about the time -/

namespace Calendar

theorem breaksLine_of_isDigit {c : Char} (digit : c.isDigit) : breaksLine c = false := by
  have none : lineBreaks.all (fun c => !c.isDigit) = true := by decide
  by_contra ends
  rw [Bool.not_eq_false, breaksLine, List.contains_iff_mem] at ends
  simpa [digit] using List.all_eq_true.mp none c ends

theorem Writes.unbroken {width n : Nat} {cs : List Char} (h : Writes width cs n) :
    ∀ c ∈ cs, breaksLine c = false :=
  fun c hc => breaksLine_of_isDigit (h.digits c hc)

theorem WritesInt.unbroken {cs : List Char} {n : Int} (h : WritesInt cs n) :
    ∀ c ∈ cs, breaksLine c = false := by
  cases h with
  | plain h => exact h.unbroken
  | negative _ h => exact List.forall_mem_cons.mpr ⟨by decide, h.unbroken⟩

theorem WritesYear.unbroken {cs : List Char} {year : Int} (h : WritesYear cs year) :
    ∀ c ∈ cs, breaksLine c = false := by
  cases h with
  | plain _ h => exact h.unbroken
  | later _ h => exact List.forall_mem_cons.mpr ⟨by decide, h.unbroken⟩
  | before _ h => exact List.forall_mem_cons.mpr ⟨by decide, h.unbroken⟩

theorem Moment.Spells.unbroken {m : Moment} {text : String} (h : m.Spells text) :
    breaks text = 0 := by
  obtain ⟨year, month, day, hour, minute, second, hyear, hmonth, hday, hhour, hminute, hsecond,
    htext⟩ := h
  have zone : breaks "+00:00" = 0 := by decide
  rw [breaks_eq_zero_iff] at zone ⊢
  rw [htext]
  simp only [List.forall_mem_append, List.forall_mem_cons]
  exact ⟨⟨⟨⟨⟨⟨hyear.unbroken, by decide, hmonth.unbroken⟩, by decide, hday.unbroken⟩, by decide,
    hhour.unbroken⟩, by decide, hminute.unbroken⟩, by decide, hsecond.unbroken⟩, zone⟩

theorem Tells.unbroken {seconds : Int} {text : String} (h : Tells seconds text) :
    breaks text = 0 := by
  obtain ⟨m, -, -, told⟩ := h
  split_ifs at told
  · exact told.unbroken
  · exact breaks_eq_zero_iff.mpr told.unbroken

end Calendar

namespace Alert

open Calendar

/-- What is said about the time is one line. -/
theorem breaks_anomaly {alert : Alert} {text : String} (h : alert.anomaly? = some text) :
    breaks text = 0 := by
  cases known : alert.anomalyStart with
  | some start =>
      rw [anomaly?_of_start known, Option.some_inj] at h
      rw [← h, breaks_append, (tells_instantText _).unbroken]
      rfl
  | none =>
      rw [anomaly?, known, Option.map_eq_some_iff] at h
      obtain ⟨duration, -, rfl⟩ := h
      rw [breaks_append, breaks_append, breaks_eq_zero_iff.mpr (writesInt_toString _).unbroken]
      rfl

/-- What a summary takes over from the alert. -/
def spliced (alert : Alert) : List String :=
  (alert.state.map Text.trim).getD "UNKNOWN" :: alert.org :: alert.check :: alert.tags

/-- The end of a summary. -/
def ending (alert : Alert) : String :=
  (alert.anomaly?.map (" anomalous " ++ ·)).getD ""
    ++ if alert.tags.isEmpty then "" else " (" ++ ", ".intercalate alert.tags ++ ")"

theorem summary_eq (alert : Alert) :
    alert.summary = "[" ++ (alert.state.map Text.trim).getD "UNKNOWN" ++ "] *" ++ alert.org ++ "* `"
      ++ alert.check ++ "`" ++ alert.ending := by
  simp only [summary, ending, String.append_assoc]

theorem breaks_ending (alert : Alert) : breaks alert.ending = (alert.tags.map breaks).sum := by
  have time : breaks ((alert.anomaly?.map (" anomalous " ++ ·)).getD "") = 0 := by
    cases h : alert.anomaly? with
    | none => rfl
    | some text =>
      rw [Option.map_some, Option.getD_some, breaks_append, breaks_anomaly h]
      rfl
  rw [ending, breaks_append, time, Nat.zero_add]
  split_ifs with none
  · rw [List.isEmpty_iff.mp none]
    rfl
  · rw [breaks_append, breaks_append, breaks_intercalate (by decide)]
    exact Nat.zero_add _

/-- A summary has the line breaks of what it takes over. -/
theorem breaks_summary (alert : Alert) :
    breaks alert.summary = (alert.spliced.map breaks).sum := by
  have marks : breaks "[" = 0 ∧ breaks "] *" = 0 ∧ breaks "* `" = 0 ∧ breaks "`" = 0 := by decide
  obtain ⟨h₁, h₂, h₃, h₄⟩ := marks
  simp only [summary_eq, spliced, breaks_append, breaks_ending, h₁, h₂, h₃, h₄, List.map_cons,
    List.sum_cons]
  omega

/-- An alert whose message looks like those about two alerts. -/
def joined (first second : Alert) : Alert where
  state := first.state
  org := first.org
  check := first.check ++ "`" ++ first.ending ++ "\n" ++ ChatMessage.headline ++ "\n["
    ++ (second.state.map Text.trim).getD "UNKNOWN" ++ "] *" ++ second.org ++ "* `" ++ second.check
  anomalyStart := second.anomalyStart
  anomalyDuration := second.anomalyDuration
  tags := second.tags

theorem summary_joined (first second : Alert) :
    (joined first second).summary =
      first.summary ++ "\n" ++ (ChatMessage.headline ++ "\n" ++ second.summary) := by
  have same : (joined first second).ending = second.ending := rfl
  have ends : "\n[" = "\n" ++ "[" := by decide
  rw [summary_eq, same, summary_eq first, summary_eq second]
  simp only [joined, ends, String.append_assoc]

end Alert

/-! ## Messages -/

namespace ChatMessage

theorem text_ofAlert (username : String) (alert : Alert) :
    (ofAlert username alert none).text = headline ++ "\n" ++ alert.summary := by
  rw [ofAlert, ofLines]
  simp [alertLines, String.intercalate_cons_cons]

end ChatMessage

open ChatMessage in
/-- A message about an alert consists of the headline and of the lines of the summary, which are
more than one if there is a line break in what the summary takes over. The messages about any two
alerts are the message about one alert, which is worth a message if the first one is, and which is
decoded from a body. -/
theorem lines_of_message (chat : Chat) (alert : Alert) (earlier : List Http.Sent) :
    let text (alert : Alert) := (chat.messageFor .none alert earlier).1.text
    linesOf (text alert) = headline.toList :: linesOf alert.summary ∧
      (linesOf (text alert)).length = 2 + (alert.spliced.map breaks).sum ∧
      (linesOf (text alert) = [headline.toList, alert.summary.toList] ↔
        ∀ part ∈ alert.spliced, ∀ c ∈ part.toList, breaksLine c = false) ∧
      ∀ other : Alert, ∃ both : Alert, Alert.decode both.encode = .ok both ∧
        both.isActive = alert.isActive ∧ text both = text alert ++ "\n" ++ text other := by
  have text_eq (alert : Alert) : (chat.messageFor .none alert earlier).1.text =
    headline ++ "\n" ++ alert.summary := text_ofAlert chat.username alert
  have lines : linesOf (headline ++ "\n" ++ alert.summary) =
      headline.toList :: linesOf alert.summary :=
    linesOf_append_newline (by decide) _
  simp only [text_eq]
  refine ⟨lines, ?_, ?_, ?_⟩
  · rw [lines, List.length_cons, length_linesOf, Alert.breaks_summary]
    omega
  · rw [lines, List.cons_inj_right, linesOf_eq_singleton_iff, Alert.breaks_summary,
      List.sum_eq_zero_iff_forall_eq_nat, List.forall_mem_map]
    simp only [breaks_eq_zero_iff]
  · intro other
    refine ⟨.joined alert other, Alert.decode_encode _, rfl, ?_⟩
    rw [Alert.summary_joined]
    simp only [String.append_assoc]

namespace Forged

/-- A chat. -/
def chat : Chat := ⟨"http://[::1]/hook", "radalert"⟩

/-- The text of the message about an alert. -/
def textOf (alert : Alert) : String := (chat.messageFor .none alert []).1.text

/-- An alert about one check of one organisation. -/
def alert : Alert :=
  ⟨some "CRITICAL", "MyCo", "disk`\n:rotating_light: Anomaly detected\n[CRITICAL] *MyCo* `cpu",
    none, none, []⟩

/-- What follows the first line of the text is not one line, and the text is that of the messages
about two alerts. -/
theorem lines_of_forged :
    Alert.decode alert.encode = .ok alert ∧ alert.isActive = true ∧
      (linesOf alert.summary).length = 3 ∧ (linesOf (textOf alert)).length = 4 ∧
      textOf alert = textOf { alert with check := "disk" } ++ "\n"
        ++ textOf { alert with check := "cpu" } :=
  ⟨Alert.decode_encode alert, by decide, by decide +kernel, by decide +kernel, by decide +kernel⟩

end Forged

end PulseBridge
