import PulseBridge.Alert
import PulseBridge.Proofs.Calendar.Timestamps

/-!
# Since when a check is anomalous

An alert that knows when the anomaly began tells it, as a timestamp or, if no timestamp is written
for it, as a number of seconds. Either way the beginning can be told from the text.

## Main definitions

* `Calendar.Tells`: the texts for an instant.

## Main statements

* `anomaly_tells`: what an alert says about the time of its anomaly.
-/

namespace PulseBridge

namespace Calendar

/-- Whether a text tells an instant: as RFC 3339 writes its moment if timestamps are written for the
year, and by the number of its seconds otherwise. -/
def Tells (seconds : Int) (text : String) : Prop :=
  ∃ m : Moment, m.IsValid ∧ m.IsSecond seconds ∧
    if m.IsWithinYears then m.Spells text else WritesInt text.toList seconds

/-- The text for an instant. -/
def instantText (seconds : Int) : String := (timestamp? seconds).getD (toString seconds)

theorem timestamp?_eq (seconds : Int) :
    timestamp? seconds =
      if (momentOf seconds).IsWithinYears then some (momentOf seconds).text else none := by
  simp only [timestamp?, Bool.and_eq_true, decide_eq_true_eq]
  congr

theorem tells_instantText (seconds : Int) : Tells seconds (instantText seconds) := by
  refine ⟨momentOf seconds, isValid_momentOf seconds, isSecond_momentOf seconds, ?_⟩
  rw [instantText, timestamp?_eq]
  split_ifs
  · exact spells_text _
  · exact writesInt_toString seconds

/-- There is a colon in every timestamp. -/
theorem Moment.Spells.colon {m : Moment} {text : String} (h : m.Spells text) :
    ':' ∈ text.toList := by
  obtain ⟨_, _, _, _, _, _, -, -, -, -, -, -, htext⟩ := h
  simp [htext]

/-- There is none in an integer. -/
theorem WritesInt.colon {cs : List Char} {n : Int} (h : WritesInt cs n) : ':' ∉ cs := by
  have digits {cs : List Char} {n : Nat} (h : Writes 1 cs n) : ':' ∉ cs := fun colon =>
    absurd (h.digits _ colon) (by decide)
  cases h with
  | plain h => exact digits h
  | negative _ h => simpa using digits h

/-- The instant can be told from the text. -/
theorem Tells.unique {seconds seconds' : Int} {text : String} (h : Tells seconds text)
    (h' : Tells seconds' text) : seconds = seconds' := by
  obtain ⟨m, valid, second, told⟩ := h
  obtain ⟨m', valid', second', told'⟩ := h'
  split_ifs at told told'
  · obtain rfl := told.unique valid told' valid'
    exact second.unique second'
  · exact absurd told.colon told'.colon
  · exact absurd told'.colon told.colon
  · exact told.unique told'

end Calendar

namespace Alert

open Calendar

theorem anomaly?_of_start {alert : Alert} {start : Int64} (h : alert.anomalyStart = some start) :
    alert.anomaly? = some ("since " ++ instantText start.toInt) := by
  rw [anomaly?, h, instantText]
  dsimp only
  cases timestamp? start.toInt with
  | none => rfl
  | some time => rfl

/-- Two alerts that say the same know the same beginning. -/
theorem start_of_anomaly? {alert other : Alert} {start start' : Int64}
    (h : alert.anomalyStart = some start) (h' : other.anomalyStart = some start')
    (same : other.anomaly? = alert.anomaly?) : start' = start := by
  rw [anomaly?_of_start h, anomaly?_of_start h'] at same
  have texts : instantText start'.toInt = instantText start.toInt := by
    simpa [String.ext_iff] using same
  have told := tells_instantText start'.toInt
  rw [texts] at told
  exact Int64.toInt_inj.mp (told.unique (tells_instantText start.toInt))

/-- The summary says what the alert says about the time of the anomaly, and nothing else of it
depends on that. -/
theorem summary_of_anomaly (alert : Alert) : ∃ before after, ∀ start duration,
    let told := { alert with anomalyStart := start, anomalyDuration := duration }
    told.summary = before ++ (told.anomaly?.map (" anomalous " ++ ·)).getD "" ++ after :=
  ⟨"[" ++ (alert.state.map Text.trim).getD "UNKNOWN" ++ "] *" ++ alert.org ++ "* `"
      ++ alert.check ++ "`",
    if alert.tags.isEmpty then "" else " (" ++ ", ".intercalate alert.tags ++ ")", fun _ _ => rfl⟩

end Alert

open Calendar in
/-- An alert that knows when the anomaly began tells this instant, and no other beginning is told in
the same way, whatever else the alert says. Without a beginning it tells the duration, if it knows
one. This, and nothing more, is what the summary says about the time. -/
theorem anomaly_tells (alert : Alert) :
    (match alert.anomalyStart, alert.anomalyDuration with
      | some start, _ =>
          ∃ text, alert.anomaly? = some ("since " ++ text) ∧ Tells start.toInt text ∧
            ∀ (other : Alert) (start' : Int64), other.anomalyStart = some start' →
              other.anomaly? = alert.anomaly? → start' = start
      | none, some duration =>
          ∃ text, alert.anomaly? = some ("for " ++ text ++ "s") ∧
            WritesInt text.toList duration.toInt
      | none, none => alert.anomaly? = none) ∧
    ∃ before after, ∀ start duration,
      let told := { alert with anomalyStart := start, anomalyDuration := duration }
      told.summary = before ++ (told.anomaly?.map (" anomalous " ++ ·)).getD "" ++ after := by
  refine ⟨?_, alert.summary_of_anomaly⟩
  split
  · next start _ known =>
      exact ⟨_, Alert.anomaly?_of_start known, tells_instantText _, fun _ _ known' same =>
        Alert.start_of_anomaly? known known' same⟩
  · next duration unknown known =>
      rw [Alert.anomaly?, unknown, known]
      exact ⟨_, rfl, writesInt_toString _⟩
  · next unknown unknown' => rw [Alert.anomaly?, unknown, unknown', Option.map_none]

example : { Alert.blank with anomalyStart := some 951782400 }.anomaly? =
    some "since 2000-02-29T00:00:00+00:00" := by
  decide +kernel

end PulseBridge
