import PulseBridge.Proofs.Settings.Layers
import PulseBridge.Settings.Nudging
import PulseBridge.Settings.Relaying

/-!
# Settings come in layers

Each setting of the services is what is given for it, else what the file has for it, else the usual
one, whatever the other settings are. The rules are only looked at afterwards: a value in the file
that would break a rule does no harm where something else is given in its place.

## Main definitions

* `Nudging.Filed`, `Relaying.Filed`: what a file may have, and when it stands there.
* `Nudging.Given.onto`, `Relaying.Given.onto`: what results of what is given and what the file has.
* `Nudging.KeepsRules`, `Relaying.KeepsRules`: what settings must be like.

## Main statements

* `resolve_layered`: how the settings of the services come about.
-/

namespace PulseBridge.Settings

open Json (Exact OrNull Reader Record Tree Uniform Sound)

/-! ## The nudger -/

namespace Nudging

/-- What a file may have. That there is no limit is something that it may have, as `null`. -/
structure Filed where
  masterKey : Option String
  checksUrl : Option String
  providerUrl : Option String
  receiverUrl : Option String
  pollInterval : Option UInt64
  refreshInterval : Option UInt64
  timeout : Option UInt64
  deliveryTimeout : Option UInt64
  ttl : Option UInt64
  room : Option UInt64
  pollLimit : Option (Option UInt64)

/-- Whether this is what stands in the members of a file: for each member what it means, and nothing
for those that are not there. -/
structure Filed.StandsIn (filed : Filed) (members : List (String × Tree)) : Prop where
  masterKey : Option.Rel Tree.IsText (members.lookup "master_api_key") filed.masterKey
  checksUrl : Option.Rel Tree.IsText (members.lookup "checks_url") filed.checksUrl
  providerUrl : Option.Rel Tree.IsText (members.lookup "provider_url") filed.providerUrl
  receiverUrl : Option.Rel Tree.IsText (members.lookup "pacemaker_url") filed.receiverUrl
  pollInterval : Option.Rel Tree.IsCount (members.lookup "poll_interval") filed.pollInterval
  refreshInterval :
    Option.Rel Tree.IsCount (members.lookup "refresh_interval") filed.refreshInterval
  timeout : Option.Rel Tree.IsCount (members.lookup "timeout") filed.timeout
  deliveryTimeout :
    Option.Rel Tree.IsCount (members.lookup "dispatch_timeout") filed.deliveryTimeout
  ttl : Option.Rel Tree.IsCount (members.lookup "sample_ttl") filed.ttl
  room : Option.Rel Tree.IsCount (members.lookup "sample_channel_capacity") filed.room
  pollLimit :
    Option.Rel (OrNull Tree.IsCount) (members.lookup "max_concurrent_polls") filed.pollLimit

/-- The settings that result. How many heartbeats may wait cannot be given. -/
def Given.onto (given : Given) (filed : Filed) : Nudging where
  masterKey := topmost given.masterKey filed.masterKey usual.masterKey
  checksUrl := topmost given.checksUrl filed.checksUrl usual.checksUrl
  providerUrl := topmost given.providerUrl filed.providerUrl usual.providerUrl
  receiverUrl := topmost given.receiverUrl filed.receiverUrl usual.receiverUrl
  pollInterval := topmost given.pollInterval filed.pollInterval usual.pollInterval
  refreshInterval := topmost given.refreshInterval filed.refreshInterval usual.refreshInterval
  timeout := topmost given.timeout filed.timeout usual.timeout
  deliveryTimeout := topmost given.deliveryTimeout filed.deliveryTimeout usual.deliveryTimeout
  ttl := topmost given.ttl filed.ttl usual.ttl
  room := topmost none filed.room usual.room
  pollLimit := topmost (given.pollLimit.map some) filed.pollLimit usual.pollLimit

/-- Whether settings keep the rules. -/
structure KeepsRules (s : Nudging) : Prop where
  pollInterval : s.pollInterval ≠ 0
  refreshInterval : s.refreshInterval ≠ 0
  timeout : s.timeout ≠ 0
  deliveryTimeout : s.deliveryTimeout ≠ 0
  room : 1 ≤ s.room
  pollLimit : s.pollLimit ≠ some 0

/-- What a file leaves out is as it is without a file. -/
theorem omitted_eq_usual : omitted = usual := rfl

theorem isOptional : record.IsOptional := by
  constructor <;> decide

theorem independent : record.Independent := by
  simp only [Record.Independent, record, List.pairwise_cons, List.forall_mem_cons,
    List.not_mem_nil, false_implies, implies_true, and_true, List.Pairwise.nil]
  and_intros <;> exact Json.Field.commutes_of fun _ _ _ => rfl

theorem exact_limit : Exact (Reader.nullable .usize) (OrNull Tree.IsCount) :=
  Json.exact_usize.nullable Json.not_isCount_null

theorem exact_fields : ∀ f ∈ record.fields, Uniform f.read ∧ Sound f.read := by
  simp only [record, List.forall_mem_cons, List.not_mem_nil, false_implies, implies_true, and_true]
  exact ⟨Json.exact_text.field, Json.exact_text.field, Json.exact_text.field, Json.exact_text.field,
    Json.exact_u64.field, Json.exact_u64.field, Json.exact_u64.field, Json.exact_u64.field,
    Json.exact_u64.field, Json.exact_usize.field, exact_limit.field⟩

/-- Each field is filled with what stands in its member, or stays as usual. -/
theorem filledFrom_iff (room : Nat) (members : List (String × Tree)) (x : Nudging) :
    Record.FilledFrom room members record.fields omitted x ↔
      ∃ filed : Filed, filed.StandsIn members ∧ x = Given.nothing.onto filed := by
  constructor
  · intro h
    obtain ⟨masterKey, h₁, h⟩ := (Record.filledFrom_of_iff Json.exact_text masterKey
      fun _ => rfl).mp h
    obtain ⟨checksUrl, h₂, h⟩ := (Record.filledFrom_of_iff Json.exact_text checksUrl
      fun _ => rfl).mp h
    obtain ⟨providerUrl, h₃, h⟩ := (Record.filledFrom_of_iff Json.exact_text providerUrl
      fun _ => rfl).mp h
    obtain ⟨receiverUrl, h₄, h⟩ := (Record.filledFrom_of_iff Json.exact_text receiverUrl
      fun _ => rfl).mp h
    obtain ⟨pollInterval, h₅, h⟩ := (Record.filledFrom_of_iff Json.exact_u64 pollInterval
      fun _ => rfl).mp h
    obtain ⟨refreshInterval, h₆, h⟩ := (Record.filledFrom_of_iff Json.exact_u64 refreshInterval
      fun _ => rfl).mp h
    obtain ⟨timeout, h₇, h⟩ := (Record.filledFrom_of_iff Json.exact_u64 timeout
      fun _ => rfl).mp h
    obtain ⟨deliveryTimeout, h₈, h⟩ := (Record.filledFrom_of_iff Json.exact_u64 deliveryTimeout
      fun _ => rfl).mp h
    obtain ⟨ttl, h₉, h⟩ := (Record.filledFrom_of_iff Json.exact_u64 ttl fun _ => rfl).mp h
    obtain ⟨places, h₁₀, h⟩ := (Record.filledFrom_of_iff Json.exact_usize Nudging.room
      fun _ => rfl).mp h
    obtain ⟨pollLimit, h₁₁, h⟩ := (Record.filledFrom_of_iff exact_limit pollLimit
      fun _ => rfl).mp h
    exact ⟨⟨masterKey, checksUrl, providerUrl, receiverUrl, pollInterval, refreshInterval, timeout,
      deliveryTimeout, ttl, places, pollLimit⟩,
      ⟨h₁, h₂, h₃, h₄, h₅, h₆, h₇, h₈, h₉, h₁₀, h₁₁⟩, h⟩
  · rintro ⟨filed, stands, rfl⟩
    refine (Record.filledFrom_of_iff Json.exact_text masterKey fun _ => rfl).mpr
      ⟨_, stands.masterKey, ?_⟩
    refine (Record.filledFrom_of_iff Json.exact_text checksUrl fun _ => rfl).mpr
      ⟨_, stands.checksUrl, ?_⟩
    refine (Record.filledFrom_of_iff Json.exact_text providerUrl fun _ => rfl).mpr
      ⟨_, stands.providerUrl, ?_⟩
    refine (Record.filledFrom_of_iff Json.exact_text receiverUrl fun _ => rfl).mpr
      ⟨_, stands.receiverUrl, ?_⟩
    refine (Record.filledFrom_of_iff Json.exact_u64 pollInterval fun _ => rfl).mpr
      ⟨_, stands.pollInterval, ?_⟩
    refine (Record.filledFrom_of_iff Json.exact_u64 refreshInterval fun _ => rfl).mpr
      ⟨_, stands.refreshInterval, ?_⟩
    refine (Record.filledFrom_of_iff Json.exact_u64 timeout fun _ => rfl).mpr
      ⟨_, stands.timeout, ?_⟩
    refine (Record.filledFrom_of_iff Json.exact_u64 deliveryTimeout fun _ => rfl).mpr
      ⟨_, stands.deliveryTimeout, ?_⟩
    refine (Record.filledFrom_of_iff Json.exact_u64 ttl fun _ => rfl).mpr ⟨_, stands.ttl, ?_⟩
    refine (Record.filledFrom_of_iff Json.exact_usize Nudging.room fun _ => rfl).mpr
      ⟨_, stands.room, ?_⟩
    refine (Record.filledFrom_of_iff exact_limit pollLimit fun _ => rfl).mpr
      ⟨_, stands.pollLimit, ?_⟩
    rfl

theorem overlay_onto (given : Given) (filed : Filed) :
    (Given.nothing.onto filed).overlay given = given.onto filed := by
  simp only [overlay, Given.onto, Given.nothing, Option.map_none, getD_topmost, or_topmost]

theorem rules_iff (s : Nudging) : (∀ r ∈ s.rules, r.2 = true) ↔ s.KeepsRules := by
  have room : s.room ≠ 0 ↔ 1 ≤ s.room := one_le_iff.symm
  simp only [rules, List.forall_mem_cons, List.not_mem_nil, false_implies, implies_true, and_true,
    Bool.and_eq_true, bne_iff_ne, room]
  constructor
  · rintro ⟨⟨polls, refreshes⟩, ⟨calls, deliveries⟩, room, limit⟩
    exact ⟨polls, refreshes, calls, deliveries, room, limit⟩
  · rintro ⟨polls, refreshes, calls, deliveries, room, limit⟩
    exact ⟨⟨polls, refreshes⟩, ⟨calls, deliveries⟩, room, limit⟩

theorem layers :
    Layered resolve Given.file record Filed.StandsIn Given.onto KeepsRules :=
  layered_of_filled omitted_eq_usual isOptional independent exact_fields filledFrom_iff
    overlay_onto rules_iff

end Nudging

/-! ## The relay -/

/-- Whether a tree is a text that names an address, and which. -/
def IsAddress (t : Tree) (address : Net.SocketAddress) : Prop :=
  ∃ text, t.IsText text ∧ Net.SocketAddress.ofText? text = some address

namespace Relaying

/-- What a file may have. That there is no history is something that it may have, as `null`. -/
structure Filed where
  listen : Option Net.SocketAddress
  webhook : Option String
  timeout : Option UInt64
  room : Option UInt64
  username : Option String
  historyUrl : Option (Option String)
  historyToken : Option (Option String)

/-- Whether this is what stands in the members of a file: for each member what it means, and nothing
for those that are not there. -/
structure Filed.StandsIn (filed : Filed) (members : List (String × Tree)) : Prop where
  listen : Option.Rel IsAddress (members.lookup "listen") filed.listen
  webhook : Option.Rel Tree.IsText (members.lookup "slack_webhook_url") filed.webhook
  timeout : Option.Rel Tree.IsCount (members.lookup "timeout") filed.timeout
  room : Option.Rel Tree.IsCount (members.lookup "alert_channel_capacity") filed.room
  username : Option.Rel Tree.IsText (members.lookup "username") filed.username
  historyUrl :
    Option.Rel (OrNull Tree.IsText) (members.lookup "slack_api_url") filed.historyUrl
  historyToken :
    Option.Rel (OrNull Tree.IsText) (members.lookup "slack_token") filed.historyToken

/-- The settings that result. How many alerts may wait cannot be given. -/
def Given.onto (given : Given) (filed : Filed) : Relaying where
  listen := topmost given.listen filed.listen usual.listen
  webhook := topmost given.webhook filed.webhook usual.webhook
  timeout := topmost given.timeout filed.timeout usual.timeout
  room := topmost none filed.room usual.room
  username := topmost given.username filed.username usual.username
  historyUrl? := topmost (given.historyUrl.map some) filed.historyUrl usual.historyUrl?
  historyToken? := topmost (given.historyToken.map some) filed.historyToken usual.historyToken?

/-- Whether settings keep the rules. -/
structure KeepsRules (s : Relaying) : Prop where
  timeout : s.timeout ≠ 0
  room : 1 ≤ s.room

/-- What a file leaves out is as it is without a file. -/
theorem omitted_eq_usual : omitted = usual := rfl

theorem isOptional : record.IsOptional := by
  constructor <;> decide

theorem independent : record.Independent := by
  simp only [Record.Independent, record, List.pairwise_cons, List.forall_mem_cons,
    List.not_mem_nil, false_implies, implies_true, and_true, List.Pairwise.nil]
  and_intros <;> exact Json.Field.commutes_of fun _ _ _ => rfl

theorem exact_listen : Exact readListen IsAddress := by
  apply Json.exact_textAs.congr
  intro t address
  apply exists_congr
  intro text
  apply and_congr_right
  intro _
  cases Net.SocketAddress.ofText? text <;> simp

theorem exact_history : Exact (Reader.nullable .text) (OrNull Tree.IsText) :=
  Json.exact_text.nullable Json.not_isText_null

theorem exact_fields : ∀ f ∈ record.fields, Uniform f.read ∧ Sound f.read := by
  simp only [record, List.forall_mem_cons, List.not_mem_nil, false_implies, implies_true, and_true]
  exact ⟨exact_listen.field, Json.exact_text.field, Json.exact_u64.field, Json.exact_usize.field,
    Json.exact_text.field, exact_history.field, exact_history.field⟩

/-- Each field is filled with what stands in its member, or stays as usual. -/
theorem filledFrom_iff (room : Nat) (members : List (String × Tree)) (x : Relaying) :
    Record.FilledFrom room members record.fields omitted x ↔
      ∃ filed : Filed, filed.StandsIn members ∧ x = Given.nothing.onto filed := by
  constructor
  · intro h
    obtain ⟨listen, h₁, h⟩ := (Record.filledFrom_of_iff exact_listen listen fun _ => rfl).mp h
    obtain ⟨webhook, h₂, h⟩ := (Record.filledFrom_of_iff Json.exact_text webhook fun _ => rfl).mp h
    obtain ⟨timeout, h₃, h⟩ := (Record.filledFrom_of_iff Json.exact_u64 timeout fun _ => rfl).mp h
    obtain ⟨places, h₄, h⟩ := (Record.filledFrom_of_iff Json.exact_usize Relaying.room
      fun _ => rfl).mp h
    obtain ⟨username, h₅, h⟩ := (Record.filledFrom_of_iff Json.exact_text username
      fun _ => rfl).mp h
    obtain ⟨url, h₆, h⟩ := (Record.filledFrom_of_iff exact_history historyUrl? fun _ => rfl).mp h
    obtain ⟨token, h₇, h⟩ := (Record.filledFrom_of_iff exact_history historyToken?
      fun _ => rfl).mp h
    exact ⟨⟨listen, webhook, timeout, places, username, url, token⟩,
      ⟨h₁, h₂, h₃, h₄, h₅, h₆, h₇⟩, h⟩
  · rintro ⟨filed, stands, rfl⟩
    refine (Record.filledFrom_of_iff exact_listen listen fun _ => rfl).mpr ⟨_, stands.listen, ?_⟩
    refine (Record.filledFrom_of_iff Json.exact_text webhook fun _ => rfl).mpr
      ⟨_, stands.webhook, ?_⟩
    refine (Record.filledFrom_of_iff Json.exact_u64 timeout fun _ => rfl).mpr
      ⟨_, stands.timeout, ?_⟩
    refine (Record.filledFrom_of_iff Json.exact_usize Relaying.room fun _ => rfl).mpr
      ⟨_, stands.room, ?_⟩
    refine (Record.filledFrom_of_iff Json.exact_text username fun _ => rfl).mpr
      ⟨_, stands.username, ?_⟩
    refine (Record.filledFrom_of_iff exact_history historyUrl? fun _ => rfl).mpr
      ⟨_, stands.historyUrl, ?_⟩
    refine (Record.filledFrom_of_iff exact_history historyToken? fun _ => rfl).mpr
      ⟨_, stands.historyToken, ?_⟩
    rfl

theorem overlay_onto (given : Given) (filed : Filed) :
    (Given.nothing.onto filed).overlay given = given.onto filed := by
  simp only [overlay, Given.onto, Given.nothing, Option.map_none, getD_topmost, or_topmost]

theorem rules_iff (s : Relaying) : (∀ r ∈ s.rules, r.2 = true) ↔ s.KeepsRules := by
  have room : s.room ≠ 0 ↔ 1 ≤ s.room := one_le_iff.symm
  simp only [rules, List.forall_mem_cons, List.not_mem_nil, false_implies, implies_true, and_true,
    bne_iff_ne, room]
  exact ⟨fun ⟨calls, room⟩ => ⟨calls, room⟩, fun ⟨calls, room⟩ => ⟨calls, room⟩⟩

theorem layers :
    Layered resolve Given.file record Filed.StandsIn Given.onto KeepsRules :=
  layered_of_filled omitted_eq_usual isOptional independent exact_fields filledFrom_iff
    overlay_onto rules_iff

end Relaying

/-- Both services come to their settings in layers. There are settings exactly if the file, where
one is given, is a text and a spelling of a tree of the right shape, and if what results keeps the
rules: for the nudger neither an interval nor a timeout is zero, at least one heartbeat may wait,
and if polls are limited then not to none at once; for the relay the timeout is not zero and at
least one alert may wait. Each setting is what is given for it, else what the file has for it, else
the usual, whatever the others are and however the members of the file are arranged. The rules go by
what results and by nothing else. -/
theorem resolve_layered :
    Layered Nudging.resolve Nudging.Given.file Nudging.record Nudging.Filed.StandsIn
        Nudging.Given.onto Nudging.KeepsRules ∧
      Layered Relaying.resolve Relaying.Given.file Relaying.record Relaying.Filed.StandsIn
        Relaying.Given.onto Relaying.KeepsRules :=
  ⟨Nudging.layers, Relaying.layers⟩

namespace Overridden

/-- A number as it is written. -/
def count (n : Nat) : Tree :=
  .number ⟨Json.digitOctets n, .unsigned (Json.isUnsigned_digitOctets n)⟩

/-- An object of numbers. -/
def tree (ms : List (String × Nat)) : Tree := .object (ms.map fun m => (.written m.1, count m.2))

/-- That object as it is written. -/
def content (ms : List (String × Nat)) : Octets :=
  Json.writeMembers (ms.map fun m => (m.1, Json.digitOctets m.2))

/-- Files that all hold that object. -/
def files (ms : List (String × Nat)) : Files := fun _ => .ok (content ms)

theorem holds_files {ms : List (String × Nat)} (isText : (Octets.text? (content ms)).isSome)
    (path : String) : (files ms).Holds path (tree ms) := by
  have spells : (tree ms).Spells (content ms) := by
    apply Json.spells_writeMembers
    rw [List.forall₂_map_left_iff, List.forall₂_map_right_iff, List.forall₂_same]
    exact fun m _ => ⟨rfl, rfl⟩
  exact ⟨_, rfl, isText, [], _, [], by decide, spells, by decide, (List.append_nil _).symm⟩

/-- No time between two polls, which breaks a rule, and a timeout. -/
def ms : List (String × Nat) := [("poll_interval", 0), ("timeout", 7)]

/-- The same members the other way around. -/
def turned : List (String × Nat) := [("timeout", 7), ("poll_interval", 0)]

/-- A file is given. -/
def named : Nudging.Given := { Nudging.Given.nothing with file := some "nudger.json" }

/-- A file is given, and a good value in place of its bad one. -/
def corrected : Nudging.Given := { named with pollInterval := some 60 }

/-- What the file has. -/
def filed : Nudging.Filed :=
  ⟨none, none, none, none, some 0, none, some 7, none, none, none, none⟩

theorem has_members : (tree ms).HasMembers (Nudging.record.fields.map Json.Field.name)
    (ms.map fun m => (m.1, count m.2)) := by
  refine .object ?_ (by decide)
  rw [List.forall₂_map_left_iff, List.forall₂_map_right_iff, List.forall₂_same]
  exact fun m _ => ⟨Json.Quotable.means_written m.1, rfl⟩

theorem standsIn_members : filed.StandsIn (ms.map fun m => (m.1, count m.2)) := by
  constructor
  case pollInterval => exact .some ⟨_, rfl, rfl⟩
  case timeout => exact .some ⟨_, rfl, rfl⟩
  all_goals exact .none

theorem rearranged : Nudging.record.Rearranged (ms.map fun m => (.written m.1, count m.2))
    (turned.map fun m => (.written m.1, count m.2)) :=
  ⟨[], _, List.forall_mem_nil _, .cons (.inl rfl) (.cons (.inl rfl) .nil), .swap _ _ _⟩

/-- A bad value in the file does no harm where something good is given in its place, in whatever
order the members stand. Otherwise it does. Without a file there are the usual settings. -/
theorem resolve_overridden :
    Nudging.resolve (files ms) corrected =
        .ok { Nudging.usual with pollInterval := 60, timeout := 7 } ∧
      Nudging.resolve (files turned) corrected =
        .ok { Nudging.usual with pollInterval := 60, timeout := 7 } ∧
      (∃ rule, Nudging.resolve (files ms) named = .error (.broken rule)) ∧
      Relaying.resolve (files ms) .nothing = .ok .usual := by
  obtain ⟨nudger, relay⟩ := resolve_layered
  have holds : (files ms).Holds "nudger.json" (tree ms) := holds_files (by decide) _
  have gives : (files ms).Gives _ (some "nudger.json") _ := ⟨_, holds, has_members⟩
  have resolved := (nudger.ok_iff (files ms) corrected _).mpr
    ⟨_, filed, gives, standsIn_members, by constructor <;> decide, rfl⟩
  refine ⟨resolved, ?turned, ?left, ?relay⟩
  case turned =>
    exact (nudger.rearranged _ _ corrected _ _ _ rfl holds (holds_files (by decide) _)
      (.object rearranged) _).mp resolved
  case left =>
    exact (nudger.broken_iff (files ms) named).mpr
      ⟨_, filed, gives, standsIn_members, fun kept => kept.pollInterval rfl⟩
  case relay =>
    exact (relay.ok_iff (files ms) .nothing .usual).mpr
      ⟨[], ⟨none, none, none, none, none, none, none⟩, rfl, by constructor <;> exact .none,
        by constructor <;> decide, rfl⟩

end Overridden

end PulseBridge.Settings
