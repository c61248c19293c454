import PulseBridge.Proofs.Settings
import PulseBridge.StartUp

/-!
# Which settings a program can start with

Settings that are accepted are above zero wherever zero would be a panic. What is not looked at is
whether places and permits can still be counted and whether the first tick is still on the clock:
a program can start with accepted settings exactly if they are below those ends, and there are
accepted settings beyond each of them.

## Main definitions

* `Nudger.Starts`, `ChatBridge.Starts`: all parts can be set up.

## Main statements

* `accepted_of_launchNudger`, `accepted_of_launchBridge`: what accepted settings keep to.
* `starts_of_launch`: with which accepted settings a program starts, and what happens otherwise.
* `Unstartable.launched_unstarted`: accepted settings beyond each end.
-/

namespace PulseBridge

open Settings (Environment Files Nudging Relaying Rule SettingsFault)

namespace Outcome

variable {α β : Type}

/-- Whether work comes to its end. -/
def Finishes (work : Outcome α) : Prop := ∃ value, work = .finished value

theorem finishes_finished (value : α) : (finished value).Finishes := ⟨value, rfl⟩

theorem not_finishes_panicked (panic : Panic) : ¬ (panicked panic : Outcome α).Finishes := nofun

/-- What does not come to its end panics. -/
theorem exists_panic {work : Outcome α} (h : ¬ work.Finishes) : ∃ panic, work = .panicked panic := by
  cases work with
  | finished value => exact absurd (finishes_finished value) h
  | panicked panic => exact ⟨panic, rfl⟩

section Guarded

variable {p : Prop} [Decidable p] {value : p → α} {panic : Panic}

/-- What is done only under a condition comes to its end under that condition. -/
theorem finishes_guarded_iff :
    (if h : p then finished (value h) else panicked panic).Finishes ↔ p := by
  split
  · next holds => exact iff_of_true (finishes_finished _) holds
  · next fails => exact iff_of_false (not_finishes_panicked _) fails

theorem eq_of_guarded {panic' : Panic}
    (h : (if h : p then finished (value h) else panicked panic) = panicked panic') :
    panic' = panic := by
  split at h <;> cases h
  rfl

end Guarded

theorem isSome_value?_iff {work : Outcome α} : work.value?.isSome = true ↔ work.Finishes := by
  cases work with
  | finished value => exact ⟨fun _ => ⟨value, rfl⟩, fun _ => rfl⟩
  | panicked panic => exact ⟨nofun, nofun⟩

/-- Work and what is done afterwards comes to its end if both do. -/
theorem finishes_bind_iff {work : Outcome α} {next : α → Outcome β} :
    (work >>= next).Finishes ↔ ∃ value, work = .finished value ∧ (next value).Finishes := by
  cases work with
  | finished value =>
      constructor
      · intro h
        exact ⟨value, rfl, h⟩
      · rintro ⟨_, ⟨⟩, h⟩
        exact h
  | panicked panic =>
      constructor
      · rintro ⟨_, ⟨⟩⟩
      · rintro ⟨_, ⟨⟩, _⟩

/-- A panic of work and of what is done afterwards is a panic of one of them. -/
theorem bind_eq_panicked {work : Outcome α} {next : α → Outcome β} {panic : Panic}
    (h : work >>= next = .panicked panic) :
    work = .panicked panic ∨ ∃ value, next value = .panicked panic := by
  cases work with
  | finished value => exact .inr ⟨value, h⟩
  | panicked panic' =>
      cases h
      exact .inl rfl

end Outcome

/-! ## Places, permits and timers -/

theorem Permits.finishes_make_iff {count : Nat} :
    (make count).Finishes ↔ count ≤ permitLimit :=
  Outcome.finishes_guarded_iff

theorem Permits.eq_uncounted {count : Nat} {panic : Panic} (h : make count = .panicked panic) :
    panic = uncounted :=
  Outcome.eq_of_guarded h

theorem Ticker.finishes_start_iff {first : ClockTime} {period : Nat} :
    (start first period).Finishes ↔ 0 < period :=
  Outcome.finishes_guarded_iff

theorem ClockTime.finishes_after_iff {now : ClockTime} {delay : Nat} :
    (now.after delay).Finishes ↔ now.seconds + delay < clockEnd :=
  Outcome.finishes_guarded_iff

theorem Room.finishes_open_iff {count : Nat} :
    (Room.open count).Finishes ↔ 0 < count ∧ count ≤ permitLimit := by
  unfold Room.open
  split
  · next positive => rw [Outcome.finishes_guarded_iff, and_iff_right positive]
  · next zero => exact iff_of_false (Outcome.not_finishes_panicked _) fun h => zero h.1

theorem Room.eq_uncounted {count : Nat} {panic : Panic} (positive : 0 < count)
    (h : Room.open count = .panicked panic) : panic = uncounted := by
  unfold Room.open at h
  rw [dif_pos positive] at h
  exact Outcome.eq_of_guarded h

theorem Room.exists_open {count : Nat} (positive : 0 < count) (counted : count ≤ permitLimit) :
    ∃ room, Room.open count = .finished room ∧ room.places.count = count := by
  refine ⟨⟨⟨count, counted⟩, positive⟩, ?_, rfl⟩
  rw [Room.open, dif_pos positive, dif_pos counted]

theorem orderPlaces_pos : 0 < orderPlaces := by decide

theorem orderPlaces_le : orderPlaces ≤ permitLimit := by decide

/-! ## Accepted settings -/

namespace Settings

/-- Whether settings of the nudger are above zero where they must be. -/
structure Nudging.Accepted (s : Nudging) : Prop where
  room : 0 < s.room.toNat
  pollLimit : ∀ limit ∈ s.pollLimit, 0 < limit.toNat
  refreshInterval : 0 < s.refreshInterval.toNat
  pollInterval : 0 < s.pollInterval.toNat

/-- Whether settings of the relay are above zero where they must be. -/
structure Relaying.Accepted (s : Relaying) : Prop where
  room : 0 < s.room.toNat

theorem toNat_pos {n : UInt64} (h : n ≠ 0) : 0 < n.toNat := one_le_iff.mpr h

theorem Nudging.accepted_of_resolve {files : Files} {given : Given} {s : Nudging}
    (h : resolve files given = .ok s) : s.Accepted := by
  have kept := layers.keepsRules h
  refine ⟨kept.room, ?_, toNat_pos kept.refreshInterval, toNat_pos kept.pollInterval⟩
  intro n hn
  rw [Option.mem_def] at hn
  apply toNat_pos
  rintro rfl
  exact kept.pollLimit hn

theorem Relaying.accepted_of_resolve {files : Files} {given : Given} {s : Relaying}
    (h : resolve files given = .ok s) : s.Accepted :=
  ⟨(layers.keepsRules h).room⟩

end Settings

theorem accepted_of_launchNudger {files : Files} {environment : Environment}
    {arguments : List String} {settings : Nudging}
    (h : launchNudger files environment arguments = .ok settings) : settings.Accepted := by
  obtain ⟨command, -, resolved⟩ := Settings.bind_eq_ok_iff.mp h
  exact Nudging.accepted_of_resolve (Settings.mapError_eq_ok_iff.mp resolved)

theorem accepted_of_launchBridge {files : Files} {environment : Environment}
    {arguments : List String} {settings : Relaying}
    (h : launchBridge files environment arguments = .ok settings) : settings.Accepted := by
  obtain ⟨command, -, resolved⟩ := Settings.bind_eq_ok_iff.mp h
  exact Relaying.accepted_of_resolve (Settings.mapError_eq_ok_iff.mp resolved)

/-! ## The nudger -/

namespace Nudger

variable {settings : Nudging} {now : ClockTime} {panic : Panic}

/-- Whether all parts can be set up, the timers included. -/
structure Starts (settings : Nudging) (now : ClockTime) : Prop where
  parts : (parts settings).Finishes
  refreshes : (refreshTicker settings now).Finishes
  polls : (pollTicker settings now).Finishes

/-- The channels for orders can always be opened, so that only heartbeats and permits count. -/
theorem parts_eq (settings : Nudging) : ∃ orders, parts settings =
    Room.open settings.room.toNat >>= fun heartbeats =>
      match settings.pollLimit with
      | none => .finished ⟨heartbeats, orders, orders, orders, none⟩
      | some limit => Permits.make limit.toNat >>= fun permits =>
          .finished ⟨heartbeats, orders, orders, orders, some permits⟩ := by
  obtain ⟨orders, opened, -⟩ := Room.exists_open orderPlaces_pos orderPlaces_le
  refine ⟨orders, ?_⟩
  unfold parts
  rw [opened]
  rfl

theorem finishes_parts_iff :
    (parts settings).Finishes ↔
      (0 < settings.room.toNat ∧ settings.room.toNat ≤ permitLimit) ∧
        ∀ limit ∈ settings.pollLimit, limit.toNat ≤ permitLimit := by
  obtain ⟨orders, eq⟩ := parts_eq settings
  rw [eq, Outcome.finishes_bind_iff, ← Room.finishes_open_iff]
  cases hlimit : settings.pollLimit with
  | none =>
      constructor
      · rintro ⟨heartbeats, opened, -⟩
        exact ⟨⟨heartbeats, opened⟩, nofun⟩
      · rintro ⟨⟨heartbeats, opened⟩, -⟩
        exact ⟨heartbeats, opened, Outcome.finishes_finished _⟩
  | some limit =>
      simp only [Option.mem_def, Option.some.injEq, forall_eq', ← Permits.finishes_make_iff]
      constructor
      · rintro ⟨heartbeats, opened, rest⟩
        obtain ⟨permits, made, -⟩ := Outcome.finishes_bind_iff.mp rest
        exact ⟨⟨heartbeats, opened⟩, ⟨permits, made⟩⟩
      · rintro ⟨⟨heartbeats, opened⟩, ⟨permits, made⟩⟩
        exact ⟨heartbeats, opened,
          Outcome.finishes_bind_iff.mpr ⟨permits, made, Outcome.finishes_finished _⟩⟩

/-- With accepted settings there is only one panic among the main parts. -/
theorem eq_uncounted_of_parts (accepted : settings.Accepted)
    (h : parts settings = .panicked panic) : panic = uncounted := by
  obtain ⟨orders, eq⟩ := parts_eq settings
  rw [eq] at h
  rcases Outcome.bind_eq_panicked h with opened | ⟨heartbeats, rest⟩
  · exact Room.eq_uncounted accepted.room opened
  · cases hlimit : settings.pollLimit with
    | none =>
        rw [hlimit] at rest
        cases rest
    | some limit =>
        rw [hlimit] at rest
        rcases Outcome.bind_eq_panicked rest with made | ⟨permits, done⟩
        · exact Permits.eq_uncounted made
        · cases done

theorem finishes_pollTicker_iff (accepted : settings.Accepted) :
    (pollTicker settings now).Finishes ↔
      now.seconds + settings.pollInterval.toNat < clockEnd := by
  unfold pollTicker
  rw [Outcome.finishes_bind_iff, ← ClockTime.finishes_after_iff]
  constructor
  · rintro ⟨first, after, -⟩
    exact ⟨first, after⟩
  · rintro ⟨first, after⟩
    exact ⟨first, after, Ticker.finishes_start_iff.mpr accepted.pollInterval⟩

theorem starts_iff (accepted : settings.Accepted) :
    Starts settings now ↔
      settings.room.toNat ≤ permitLimit ∧
        (∀ limit ∈ settings.pollLimit, limit.toNat ≤ permitLimit) ∧
          now.seconds + settings.pollInterval.toNat < clockEnd := by
  rw [← finishes_pollTicker_iff accepted]
  constructor
  · rintro ⟨main, -, polls⟩
    obtain ⟨⟨-, room⟩, limit⟩ := finishes_parts_iff.mp main
    exact ⟨room, limit, polls⟩
  · rintro ⟨room, limit, polls⟩
    exact ⟨finishes_parts_iff.mpr ⟨⟨accepted.room, room⟩, limit⟩,
      Ticker.finishes_start_iff.mpr accepted.refreshInterval, polls⟩

/-- With its main parts set up the nudger goes to work, without those that have no timer. -/
theorem setUp_of_finishes (settings : Nudging) (now : ClockTime) (main : (parts settings).Finishes) :
    ∃ nudger, setUp settings now = .finished nudger ∧
      (nudger.keeper.running = true ↔ (refreshTicker settings now).Finishes) ∧
      (nudger.poller.running = true ↔ (pollTicker settings now).Finishes) := by
  obtain ⟨value, main⟩ := main
  exact ⟨_, by rw [setUp, main]; rfl, Outcome.isSome_value?_iff, Outcome.isSome_value?_iff⟩

/-- Without its main parts the nudger panics. -/
theorem setUp_of_unfinished (accepted : settings.Accepted) (now : ClockTime)
    (unfinished : ¬ (parts settings).Finishes) : setUp settings now = .panicked uncounted := by
  obtain ⟨panic, main⟩ := Outcome.exists_panic unfinished
  obtain rfl := eq_uncounted_of_parts accepted main
  rw [setUp, main]
  rfl

end Nudger

/-! ## The bridge -/

namespace ChatBridge

variable {settings : Relaying} {panic : Panic}

theorem parts_eq (settings : Relaying) : ∃ orders, parts settings =
    Room.open settings.room.toNat >>= fun alerts => .finished ⟨alerts, orders⟩ := by
  obtain ⟨orders, opened, -⟩ := Room.exists_open orderPlaces_pos orderPlaces_le
  refine ⟨orders, ?_⟩
  unfold parts
  rw [opened]
  rfl

theorem finishes_parts_iff (accepted : settings.Accepted) :
    (parts settings).Finishes ↔ settings.room.toNat ≤ permitLimit := by
  obtain ⟨orders, eq⟩ := parts_eq settings
  rw [eq, Outcome.finishes_bind_iff]
  constructor
  · rintro ⟨alerts, opened, -⟩
    exact (Room.finishes_open_iff.mp ⟨alerts, opened⟩).2
  · intro counted
    obtain ⟨alerts, opened⟩ := Room.finishes_open_iff.mpr ⟨accepted.room, counted⟩
    exact ⟨alerts, opened, Outcome.finishes_finished _⟩

theorem eq_uncounted_of_parts (accepted : settings.Accepted)
    (h : parts settings = .panicked panic) : panic = uncounted := by
  obtain ⟨orders, eq⟩ := parts_eq settings
  rw [eq] at h
  rcases Outcome.bind_eq_panicked h with opened | ⟨alerts, done⟩
  · exact Room.eq_uncounted accepted.room opened
  · cases done

theorem setUp_of_unfinished (accepted : settings.Accepted)
    (unfinished : ¬ (parts settings).Finishes) : setUp settings = .panicked uncounted := by
  obtain ⟨panic, main⟩ := Outcome.exists_panic unfinished
  obtain rfl := eq_uncounted_of_parts accepted main
  rw [setUp, main]
  rfl

end ChatBridge

/-- Accepted settings are above zero where zero would be a panic, whatever command line, environment
and file they come from. A nudger with accepted settings starts exactly if its heartbeats have no
more places, and its polls no more permits, than can be counted and if its first tick is on the
clock. With too many places or permits it panics before it goes to work. Otherwise it goes to work
with its keeper, and with its poller exactly if the first tick is on the clock. The bridge starts
exactly if its alerts have no more places than can be counted, and panics otherwise. -/
theorem starts_of_launch (files : Files) (environment : Environment) (arguments : List String) :
    (∀ settings, launchNudger files environment arguments = .ok settings →
      settings.Accepted ∧ ∀ now,
        (Nudger.Starts settings now ↔
          settings.room.toNat ≤ permitLimit ∧
            (∀ limit ∈ settings.pollLimit, limit.toNat ≤ permitLimit) ∧
            now.seconds + settings.pollInterval.toNat < clockEnd) ∧
        ((Nudger.parts settings).Finishes ↔
          settings.room.toNat ≤ permitLimit ∧
            ∀ limit ∈ settings.pollLimit, limit.toNat ≤ permitLimit) ∧
        (¬ (Nudger.parts settings).Finishes → Nudger.setUp settings now = .panicked uncounted) ∧
        ((Nudger.parts settings).Finishes →
          ∃ nudger, Nudger.setUp settings now = .finished nudger ∧
            nudger.keeper.running = true ∧
            (nudger.poller.running = true ↔
              now.seconds + settings.pollInterval.toNat < clockEnd))) ∧
    (∀ settings, launchBridge files environment arguments = .ok settings →
      settings.Accepted ∧
        ((ChatBridge.parts settings).Finishes ↔ settings.room.toNat ≤ permitLimit) ∧
        (¬ (ChatBridge.parts settings).Finishes →
          ChatBridge.setUp settings = .panicked uncounted)) := by
  constructor
  · intro settings launched
    have accepted := accepted_of_launchNudger launched
    refine ⟨accepted, fun now => ⟨Nudger.starts_iff accepted, ?_,
      Nudger.setUp_of_unfinished accepted now, ?_⟩⟩
    · rw [Nudger.finishes_parts_iff, and_iff_right accepted.room]
    · intro main
      obtain ⟨nudger, done, keeper, poller⟩ := Nudger.setUp_of_finishes settings now main
      have refreshes : (Nudger.refreshTicker settings now).Finishes :=
        Ticker.finishes_start_iff.mpr accepted.refreshInterval
      exact ⟨nudger, done, keeper.mpr refreshes,
        poller.trans (Nudger.finishes_pollTicker_iff accepted)⟩
  · intro settings launched
    have accepted := accepted_of_launchBridge launched
    exact ⟨accepted, ChatBridge.finishes_parts_iff accepted,
      ChatBridge.setUp_of_unfinished accepted⟩

namespace Unstartable

/-- There are no files. -/
def noFiles : Files := fun _ => .error .absent

/-- There is the same file everywhere. -/
def oneFile (text : String) : Files := fun _ => .ok (Octets.ofText text)

/-- As many polls at once as can be written. -/
def crowded : Nudging := { Nudging.usual with pollLimit := some 18446744073709551615 }

/-- As long a time between two ticks as can be written. -/
def patient : Nudging := { Nudging.usual with pollInterval := 18446744073709551615 }

/-- As much room for heartbeats as can be written. -/
def roomy : Nudging := { Nudging.usual with room := 18446744073709551615 }

/-- As much room for alerts as can be written. -/
def roomyBridge : Relaying := { Relaying.usual with room := 18446744073709551615 }

theorem launched_usual : launchNudger noFiles [] [] = .ok .usual := Json.eq_ok (by decide)

theorem launched_crowded :
    launchNudger noFiles [] ["--max-concurrent-polls", "18446744073709551615"] = .ok crowded :=
  Json.eq_ok (by decide)

theorem launched_patient :
    launchNudger noFiles [] ["--interval", "18446744073709551615"] = .ok patient :=
  Json.eq_ok (by decide)

theorem launched_roomy :
    launchNudger (oneFile "\x7b\"sample_channel_capacity\":18446744073709551615\x7d") []
      ["-f", "settings"] = .ok roomy :=
  Json.eq_ok (by decide)

theorem launched_roomyBridge :
    launchBridge (oneFile "\x7b\"alert_channel_capacity\":18446744073709551615\x7d") []
      ["-f", "settings"] = .ok roomyBridge :=
  Json.eq_ok (by decide)

/-- Settings that are accepted and with which the nudger panics at once, goes to work without its
poller, or with which the bridge panics at once. -/
theorem launched_unstarted :
    (launchNudger noFiles [] ["--max-concurrent-polls", "18446744073709551615"] = .ok crowded ∧
      ∀ now, ¬ Nudger.Starts crowded now ∧ Nudger.setUp crowded now = .panicked uncounted) ∧
    (launchNudger (oneFile "\x7b\"sample_channel_capacity\":18446744073709551615\x7d") []
        ["-f", "settings"] = .ok roomy ∧
      ∀ now, ¬ Nudger.Starts roomy now ∧ Nudger.setUp roomy now = .panicked uncounted) ∧
    (launchNudger noFiles [] ["--interval", "18446744073709551615"] = .ok patient ∧
      ∀ now, ¬ Nudger.Starts patient now ∧ ¬ (Nudger.pollTicker patient now).Finishes) ∧
    (launchBridge (oneFile "\x7b\"alert_channel_capacity\":18446744073709551615\x7d") []
        ["-f", "settings"] = .ok roomyBridge ∧
      ChatBridge.setUp roomyBridge = .panicked uncounted) := by
  refine ⟨⟨launched_crowded, fun now => ?crowded⟩, ⟨launched_roomy, fun now => ?roomy⟩,
    ⟨launched_patient, fun now => ?patient⟩, launched_roomyBridge, ?bridge⟩
  case crowded =>
    have unfinished : ¬ (Nudger.parts crowded).Finishes := fun h =>
      absurd ((Nudger.finishes_parts_iff.mp h).2 _ rfl) (by decide)
    exact ⟨fun starts => unfinished starts.parts,
      Nudger.setUp_of_unfinished (accepted_of_launchNudger launched_crowded) now unfinished⟩
  case roomy =>
    have unfinished : ¬ (Nudger.parts roomy).Finishes := fun h =>
      absurd (Nudger.finishes_parts_iff.mp h).1.2 (by decide)
    exact ⟨fun starts => unfinished starts.parts,
      Nudger.setUp_of_unfinished (accepted_of_launchNudger launched_roomy) now unfinished⟩
  case patient =>
    have beyond : ¬ (Nudger.pollTicker patient now).Finishes := fun h => by
      have shown := (Nudger.finishes_pollTicker_iff
        (accepted_of_launchNudger launched_patient)).mp h
      -- the interval alone is longer than the clock, so the time of day does not matter
      have long : clockEnd ≤ patient.pollInterval.toNat := by decide
      omega
    exact ⟨fun starts => beyond starts.polls, beyond⟩
  case bridge =>
    have accepted := accepted_of_launchBridge launched_roomyBridge
    exact ChatBridge.setUp_of_unfinished accepted fun h =>
      absurd ((ChatBridge.finishes_parts_iff accepted).mp h) (by decide)

/-- With the usual settings the nudger starts at the beginning of the clock, and with as many polls
at once as can be written it panics. -/
theorem starts_of_usual :
    Nudger.Starts .usual ⟨0, by decide⟩ ∧
      Nudger.setUp crowded ⟨0, by decide⟩ = .panicked uncounted := by
  obtain ⟨-, usual⟩ := (starts_of_launch _ _ _).1 _ launched_usual
  obtain ⟨-, crowd⟩ := (starts_of_launch _ _ _).1 _ launched_crowded
  obtain ⟨starts, -⟩ := usual ⟨0, by decide⟩
  obtain ⟨-, finishes, panics, -⟩ := crowd ⟨0, by decide⟩
  refine ⟨starts.mpr ⟨by decide, nofun, by decide⟩, panics fun h => ?_⟩
  exact absurd ((finishes.mp h).2 _ rfl) (by decide)

end Unstartable

end PulseBridge
