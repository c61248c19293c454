import PulseBridge.Proofs.CheckRounds
import PulseBridge.Proofs.Polls.Stories

/-!
# The list of checks over a whole run

The list is always that of the latest refresh that succeeded, less the checks that cannot be
polled. A tick polls the list as it was when the tick began, whatever becomes of the list
afterwards.
-/

namespace PulseBridge

open Http (CallError Fetched)

namespace CheckRounds

variable {plan : PollPlan} {s t : CheckRounds} {trace before after : List Event}
variable {limit : Option Nat} {outcome : Outcome (Except CallError Fetched)}

/-! ## The list -/

/-- A refresh that does not succeed leaves everything as it was. -/
theorem Step.of_failed (step : Step plan s (.refresh outcome) t)
    (failed : refreshSucceeds outcome = false) : t = s := by
  cases step with
  | refresh running =>
      have same : s.keeper.conclude (refreshResult outcome) = s.keeper := by
        cases h : refreshResult outcome with
        | panicked panic => rfl
        | finished result =>
            cases result with
            | error failure => rfl
            | ok checks =>
                simp [refreshSucceeds, h, CheckKeeper.reply, Except.isOk, Except.toBool] at failed
      rw [same]

/-- A refresh that succeeds puts the checks of its body that can be polled in the place of the
list. -/
theorem of_succeeded (succeeded : refreshSucceeds outcome = true) (keeper : CheckKeeper) :
    ∃ fetched listed, outcome = .finished (.ok fetched) ∧
      Check.decodeList fetched.body = .ok listed ∧
      (keeper.conclude (refreshResult outcome)).checks = listed.filter Check.isValid := by
  cases outcome with
  | panicked panic =>
      simp [refreshSucceeds, refreshResult, CheckKeeper.reply, Except.isOk, Except.toBool]
        at succeeded
  | finished answer =>
      cases h : (checksOfAnswer answer).1 with
      | error failure =>
          simp [refreshSucceeds, refreshResult, h, CheckKeeper.reply, Except.isOk, Except.toBool]
            at succeeded
      | ok checks =>
          obtain ⟨fetched, listed, rfl, _, hlist, hchecks⟩ := checksOfAnswer_eq_ok.mp h
          refine ⟨fetched, listed, rfl, hlist, ?_⟩
          simp [refreshResult, h, CheckKeeper.conclude, hchecks]

/-- Whether a list is what the latest of some bodies says, or empty if there is none. -/
def IsLatest (bodies : List Octets) (checks : List Check) : Prop :=
  (bodies = [] ∧ checks = []) ∨
    ∃ earlier body listed, bodies = earlier ++ [body] ∧ Check.decodeList body = .ok listed ∧
      checks = listed.filter Check.isValid

/-- The list is always that of the latest refresh that succeeded. -/
theorem isLatest_of_run (run : Run (Step plan) (start limit) trace s) :
    IsLatest (renewals trace) s.keeper.checks := by
  induction run with
  | start => exact Or.inl ⟨rfl, rfl⟩
  | @snoc trace t e u run last ih =>
      rw [renewals_append, renewals_singleton]
      cases e with
      | retire | tick | poll =>
          cases last
          simpa [Event.renewed?, CheckKeeper.shutdown] using ih
      | refresh outcome =>
          cases succeeded : refreshSucceeds outcome with
          | false =>
              have nothing : (Event.refresh outcome).renewed? = none := by
                unfold Event.renewed?
                split <;> simp_all
              rw [last.of_failed succeeded, nothing]
              simpa using ih
          | true =>
              cases last with
              | refresh running =>
                  obtain ⟨fetched, listed, rfl, hlist, hchecks⟩ := of_succeeded succeeded t.keeper
                  refine Or.inr ⟨renewals trace, fetched.body, listed, ?_, hlist, hchecks⟩
                  simp [Event.renewed?, succeeded]

/-- The checks of the list can be polled. -/
theorem IsLatest.valid {bodies : List Octets} {checks : List Check}
    (h : IsLatest bodies checks) : ∀ check ∈ checks, check.isValid = true := by
  rcases h with ⟨_, rfl⟩ | ⟨_, _, listed, _, _, rfl⟩
  · simp
  · intro check hcheck
    exact (List.mem_filter.mp hcheck).2

/-! ## The ticks -/

/-- A tick is over the list as it is when the tick begins. -/
theorem tick_current {snapshot : List Check}
    (run : Run (Step plan) (start limit) (before ++ .tick snapshot :: after) s) :
    ∃ mid, Run (Step plan) (start limit) before mid ∧ snapshot = mid.keeper.checks := by
  obtain ⟨mid, _, first, step, _⟩ := run.split_at
  cases step with
  | tick => exact ⟨mid, first, rfl⟩

/-- The checks of every tick can be polled. -/
theorem valid_of_ticks (run : Run (Step plan) (start limit) trace s) :
    ∀ snapshot ∈ Polls.ticks (ofPolls trace), ∀ check ∈ snapshot, check.isValid = true := by
  induction run with
  | start => simp [ofPolls, Polls.ticks]
  | @snoc trace t e u run last ih =>
      intro snapshot hsnapshot
      rw [ofPolls_append, Polls.ticks_append, List.mem_append] at hsnapshot
      rcases hsnapshot with hsnapshot | hsnapshot
      · exact ih snapshot hsnapshot
      · cases last with
        | refresh | retire => simp [ofPolls, Event.ofPolls?, Polls.ticks] at hsnapshot
        | poll later => simp [ofPolls, Event.ofPolls?, Polls.ticks, later] at hsnapshot
        | tick =>
            have same : snapshot = t.keeper.checks := by
              simpa [ofPolls, Event.ofPolls?, Polls.ticks, Polls.Event.tick?] using hsnapshot
            rw [same]
            exact (isLatest_of_run run).valid

/-- Whatever is asked about can be polled. -/
theorem valid_of_asked {j : Nat} {check : Check}
    (run : Run (Step plan) (start limit) trace s)
    (asks : (j, check) ∈ Polls.asked (ofPolls trace)) : check.isValid = true := by
  obtain ⟨poll, found, rfl⟩ := (Polls.account_of_run (run_polls run)).check_of_asked asks
  have hcheck : poll.check ∈ s.polls.polls.map Poll.check :=
    List.mem_map_of_mem (List.mem_of_getElem? found)
  rw [Polls.map_check_of_run (run_polls run)] at hcheck
  obtain ⟨snapshot, hsnapshot, hcheck⟩ := List.mem_flatten.mp hcheck
  exact valid_of_ticks run snapshot hsnapshot poll.check hcheck

/-- The polls of a tick are those of the list as it was when the tick began, one for each place,
whatever becomes of the list afterwards. -/
theorem polls_of_tick {snapshot : List Check} {mid : CheckRounds} {i : Nat} {check : Check}
    (run : Run (Step plan) (start limit) (before ++ .tick snapshot :: after) s)
    (first : Run (Step plan) (start limit) before mid) (place : snapshot[i]? = some check) :
    ∃ poll, s.polls.polls[mid.polls.polls.length + i]? = some poll ∧ poll.check = check := by
  have all := Polls.map_check_of_run (run_polls run)
  have earlier := Polls.map_check_of_run (run_polls first)
  have parts : Polls.ticks (ofPolls (before ++ .tick snapshot :: after)) =
      Polls.ticks (ofPolls before) ++ snapshot :: Polls.ticks (ofPolls after) := by
    rw [ofPolls_append, Polls.ticks_append]
    rfl
  rw [parts, List.flatten_append, ← earlier, List.flatten_cons] at all
  have found := congrArg (fun checks => checks[mid.polls.polls.length + i]?) all
  obtain ⟨hi, hcheck⟩ := List.getElem?_eq_some_iff.mp place
  simp only [List.getElem?_map] at found
  rw [List.getElem?_append_right (by simp), List.length_map, Nat.add_sub_cancel_left,
    List.getElem?_append_left hi, place] at found
  exact Option.map_eq_some_iff.mp found

/-- The list of checks over a whole run, whatever the refreshes come to and in whatever order
refreshes, ticks and polls go on. -/
theorem checks_of_run (run : Run (Step plan) (start limit) trace s) :
    IsLatest (renewals trace) s.keeper.checks ∧
    -- A refresh that fails or panics changes nothing.
    (∀ outcome t, Step plan s (.refresh outcome) t → refreshSucceeds outcome = false → t = s) ∧
    -- A tick polls each place of the list as it was then, and asks once about each whose poll does
    -- not panic before.
    (∀ before snapshot after, trace = before ++ .tick snapshot :: after →
      ∃ mid, Run (Step plan) (start limit) before mid ∧ snapshot = mid.keeper.checks ∧
        ∀ i check, snapshot[i]? = some check →
          ∃ poll, s.polls.polls[mid.polls.polls.length + i]? = some poll ∧ poll.check = check ∧
            ((poll.stage = .waiting ∧
                Polls.about (mid.polls.polls.length + i) (Polls.asked (ofPolls trace)) = []) ∨
              (poll.stage ≠ .waiting ∧
                Polls.about (mid.polls.polls.length + i) (Polls.asked (ofPolls trace)) =
                  [check]) ∨
              (poll.stage = .ended none ∧
                Polls.about (mid.polls.polls.length + i) (Polls.asked (ofPolls trace)) = [] ∧
                .panic (mid.polls.polls.length + i) [] ∈ ofPolls trace))) ∧
    -- There are no polls but those of the ticks.
    s.polls.polls.map Poll.check = (Polls.ticks (ofPolls trace)).flatten ∧
    -- Nothing is asked about that cannot be polled.
    (∀ j check, (j, check) ∈ Polls.asked (ofPolls trace) →
      Text.isBlankText check.target = false ∧ Text.isBlankText check.credential = false) := by
  have account := Polls.account_of_run (run_polls run)
  refine ⟨isLatest_of_run run, fun outcome t step failed => step.of_failed failed, ?_,
    Polls.map_check_of_run (run_polls run), ?_⟩
  · rintro before snapshot after rfl
    obtain ⟨mid, first, current⟩ := tick_current run
    refine ⟨mid, first, current, fun i check place => ?_⟩
    obtain ⟨poll, found, rfl⟩ := polls_of_tick run first place
    exact ⟨poll, found, rfl, account.asked_eq found⟩
  · intro j check asks
    have valid := valid_of_asked run asks
    simpa [Check.isValid] using valid

/-- A list of a check that can be polled and one that cannot. -/
def shortAnswer : Except CallError Fetched :=
  .ok ⟨.ok, Octets.ofText <|
    "[\x7b\"target_id\":1,\"target_credential\":\"key\"\x7d,"
      ++ "\x7b\"target_id\":2,\"target_credential\":\" \"\x7d]"⟩

/-- The one of them that can be polled. -/
def shortCheck : Check := ⟨"1", "key", "", .empty⟩

/-- After one refresh a tick polls the one check that can be polled. -/
theorem checks_of_short_run :
    ∃ s, Run (Step ⟨"http://provider", 60⟩) (start none)
        [.refresh (.finished shortAnswer), .tick [shortCheck]] s ∧
      s.keeper.checks = [shortCheck] ∧ s.polls.polls.map Poll.check = [shortCheck] := by
  have listed : (checksOfAnswer shortAnswer).1.toOption = some [shortCheck] := by
    decide
  have result : refreshResult (.finished shortAnswer) = .finished (.ok [shortCheck]) := by
    cases h : (checksOfAnswer shortAnswer).1 with
    | error failure => simp [h, Except.toOption] at listed
    | ok checks =>
        have same : checks = [shortCheck] := by simpa [h, Except.toOption] using listed
        rw [refreshResult, h, same]
  have refreshed := @Step.refresh ⟨"http://provider", 60⟩ (start none) rfl (.finished shortAnswer)
  rw [result] at refreshed
  have run := (Run.single refreshed).snoc (.tick (.tick rfl _))
  exact ⟨_, run, rfl, (checks_of_run run).2.2.2.1⟩

end CheckRounds

end PulseBridge
