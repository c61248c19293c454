import PulseBridge.Proofs.Polls.Permits

/-!
# The gate that polls pass

Where there is a limit, a poll gets in line for a permit, keeps the permit from then on, and gives
it back when it ends, however it ends: with all its heartbeats sent, with no heartbeats to send,
because nobody takes them, or by a panic. A permit that comes back goes to the first in line. The
ticks do not wait for each other, so polls of many ticks may be at the gate together.

## Main definitions

* `Gate`: the permits, who has one and who is in line.
* `GatedPolls.Step`: what polls do at once, the way through the gate included.
* `GatedPolls.Orderly`: what is always so.

## Main statements

* `GatedPolls.Step.orderly`, `GatedPolls.orderly_of_run`: every step keeps the order, so does a run.
* `GatedPolls.permits_kept_of_run`: no permit is lost, and nobody asks anything without one.

## Implementation notes

What a poll can do is what it can do in `Polls`, which is started without a limit here. There a
permit is free or held as the stages of the polls tell. Here the gate has its own account of the
permits, and that it fits the stages is proved. Between getting a permit and going on with it a poll
is still waiting, but holds the permit already.
-/

namespace PulseBridge

open Http (CallError Fetched Sent)

/-- Permits, and those who want one. -/
structure Gate where
  free : Nat
  /-- Who waits in line, the first first. -/
  line : List Nat
  /-- Who has a permit. -/
  holders : List Nat

namespace Gate

/-- A gate that nobody has come to. -/
def start (limit : Nat) : Gate := ⟨limit, [], []⟩

/-- Everybody at the gate. -/
def party (g : Gate) : List Nat := g.holders ++ g.line

/-- Somebody comes, and waits in line if no permit is free. -/
def enter (g : Gate) (j : Nat) : Gate :=
  if g.free = 0 then { g with line := g.line ++ [j] }
  else { g with free := g.free - 1, holders := j :: g.holders }

/-- Somebody gives a permit back, which goes to the first in line if there is one. -/
def giveBack (g : Gate) (j : Nat) : Gate :=
  match g.line with
  | [] => { g with free := g.free + 1, holders := g.holders.erase j }
  | next :: line => { g with line, holders := next :: g.holders.erase j }

/-- Somebody goes away, be it with a permit or out of the line. -/
def leave (g : Gate) (j : Nat) : Gate :=
  if j ∈ g.holders then g.giveBack j else { g with line := g.line.erase j }

/-- What is always so at a gate with so many permits. -/
structure Keeps (limit : Nat) (g : Gate) : Prop where
  all : g.free + g.holders.length = limit
  once : g.party.Nodup
  /-- Nobody waits while a permit is free. -/
  idle : g.line ≠ [] → g.free = 0

variable {g : Gate} {limit i j : Nat}

theorem keeps_start (limit : Nat) : (start limit).Keeps limit where
  all := rfl
  once := List.nodup_nil
  idle waits := absurd rfl waits

theorem party_enter (g : Gate) (j : Nat) : (g.enter j).party.Perm (j :: g.party) := by
  unfold enter
  split
  · change (g.holders ++ (g.line ++ [j])).Perm _
    rw [← List.append_assoc]
    exact List.perm_append_singleton j g.party
  · exact .refl _

theorem party_leave (g : Gate) (j : Nat) : (g.leave j).party.Perm (g.party.erase j) := by
  unfold leave
  split
  · next holds =>
      have gone : g.party.erase j = g.holders.erase j ++ g.line := List.erase_append_left _ holds
      rw [gone]
      unfold giveBack party
      cases g.line with
      | nil => exact .refl _
      | cons next line => exact List.perm_middle.symm
  · next none =>
      have gone : g.party.erase j = g.holders ++ g.line.erase j := List.erase_append_right _ none
      rw [gone]
      exact .refl _

theorem mem_holders_enter (h : i ∈ g.holders) : i ∈ (g.enter j).holders := by
  unfold enter
  split
  · exact h
  · exact List.mem_cons_of_mem _ h

/-- Who has a permit keeps it when somebody else goes away. -/
theorem mem_holders_leave (h : i ∈ g.holders) (other : i ≠ j) : i ∈ (g.leave j).holders := by
  have kept : i ∈ g.holders.erase j := (List.mem_erase_of_ne other).mpr h
  unfold leave
  split
  · unfold giveBack
    cases g.line with
    | nil => exact kept
    | cons next line => exact List.mem_cons_of_mem _ kept
  · exact h

theorem Keeps.enter (keeps : g.Keeps limit) (new : j ∉ g.party) : (g.enter j).Keeps limit where
  all := by
    have all := keeps.all
    unfold Gate.enter
    split
    · exact all
    · simp only [List.length_cons]
      omega
  once := by
    rw [(party_enter g j).nodup_iff]
    exact List.nodup_cons.mpr ⟨new, keeps.once⟩
  idle := by
    intro waits
    unfold Gate.enter at waits ⊢
    split at waits
    · next none => rwa [if_pos none]
    · next some => exact absurd (keeps.idle waits) some

theorem Keeps.leave (keeps : g.Keeps limit) (j : Nat) : (g.leave j).Keeps limit where
  all := by
    have all := keeps.all
    unfold Gate.leave
    split
    · next holds =>
        have one := List.length_erase_add_one holds
        unfold giveBack
        cases g.line with
        | nil =>
            simp only
            omega
        | cons next line =>
            simp only [List.length_cons]
            omega
    · exact all
  once := by
    rw [(party_leave g j).nodup_iff]
    exact keeps.once.erase j
  idle := by
    have idle := keeps.idle
    unfold Gate.leave
    split
    · unfold giveBack
      cases hline : g.line with
      | nil => exact fun waits => absurd rfl waits
      | cons next line =>
          intro _
          exact idle (by simp [hline])
    · intro waits
      apply idle
      intro none
      simp [none] at waits

end Gate

/-- Whether a poll is past the gate and has not ended. -/
def PollStage.isAtWork : PollStage → Bool
  | .asking | .sending .. => true
  | .waiting | .ended _ => false

/-- The polls of all ticks, the gate that they pass and the channel that they send into. -/
structure GatedPolls where
  gate : Gate
  /-- How many heartbeats are in the channel. -/
  load : Nat
  polls : Polls

namespace GatedPolls

/-- Before the first tick. The polls themselves know of no limit, since the gate does. -/
def start (limit : Nat) : GatedPolls := ⟨.start limit, 0, .start none⟩

/-- What happens among the polls and around them. -/
inductive Event where
  /-- A poll comes to the gate. -/
  | arrive (j : Nat)
  /-- A poll sends a request. -/
  | request (j : Nat) (out : Sent)
  /-- A heartbeat is taken from the channel. -/
  | take
  /-- Something happens among the polls. -/
  | poll (event : Polls.Event)

/-- The gate after something has happened among the polls: a poll that has ended goes away. -/
def gateAfter (s : GatedPolls) (e : Polls.Event) (polls : Polls) : Gate :=
  match e.poll? with
  | some j =>
      if (polls.polls[j]?.map fun poll => poll.stage.isEnded) = some true then s.gate.leave j
      else s.gate
  | none => s.gate

/-- How many heartbeats are in the channel after something has happened among the polls. -/
def loadAfter (s : GatedPolls) (e : Polls.Event) : Nat := s.load + e.sent?.toList.length

/-- What happens at once among polls that follow a plan and send into a channel with some room. -/
inductive Step (plan : PollPlan) (capacity : Nat) : GatedPolls → Event → GatedPolls → Prop
  | arrive {s j poll} (found : s.polls.polls[j]? = some poll) (stage : poll.stage = .waiting)
      (new : j ∉ s.gate.party) :
      Step plan capacity s (.arrive j) { s with gate := s.gate.enter j }
  | request {s j poll} (found : s.polls.polls[j]? = some poll) (stage : poll.stage = .asking)
      (out : Sent) :
      Step plan capacity s (.request j out) s
  | take {s} (some : 0 < s.load) : Step plan capacity s .take { s with load := s.load - 1 }
  | poll {s e polls} (step : Polls.Step plan s.polls e polls)
      (permit : ∀ j check, e = .ask j check → j ∈ s.gate.holders)
      (room : ∀ j heartbeat, e = .send j heartbeat → s.load < capacity) :
      Step plan capacity s (.poll e) ⟨s.gateAfter e polls, s.loadAfter e, polls⟩

/-- What is always so among the polls and at the gate. -/
structure Orderly (limit : Nat) (s : GatedPolls) : Prop where
  gate : s.gate.Keeps limit
  /-- Only polls that have not ended are at the gate. -/
  party : ∀ j ∈ s.gate.party, ∃ poll, s.polls.polls[j]? = some poll ∧ poll.stage.isEnded = false
  /-- A poll past the gate has a permit. -/
  past : ∀ j poll, s.polls.polls[j]? = some poll → poll.stage.isAtWork = true → j ∈ s.gate.holders

section Order

variable {plan : PollPlan} {limit capacity : Nat} {s t : GatedPolls} {e : Event}
variable {trace : List Event} {j : Nat} {poll : Poll} {stage : PollStage} {load : Nat}

theorem orderly_start (limit : Nat) : (start limit).Orderly limit where
  gate := Gate.keeps_start limit
  party := nofun
  past := nofun

/-- New polls have not come to the gate. -/
theorem Orderly.spawn (orderly : s.Orderly limit) (snapshot : List Check) :
    Orderly limit
      ⟨s.gate, load, { s.polls with polls := s.polls.polls ++ Poll.spawn snapshot }⟩ := by
  refine ⟨orderly.gate, ?_, ?_⟩
  · intro j hj
    obtain ⟨poll, found, going⟩ := orderly.party j hj
    obtain ⟨hlt, -⟩ := List.getElem?_eq_some_iff.mp found
    exact ⟨poll, (List.getElem?_append_left hlt).trans found, going⟩
  · intro j poll found work
    rcases Nat.lt_or_ge j s.polls.polls.length with hlt | hge
    · exact orderly.past j poll ((List.getElem?_append_left hlt).symm.trans found) work
    · rw [List.getElem?_append_right hge] at found
      rw [Poll.stage_of_mem_spawn (List.mem_of_getElem? found)] at work
      cases work

/-- A poll that goes on without ending keeps the order if it has a permit for what it goes on to. -/
theorem Orderly.goOn (orderly : s.Orderly limit) (found : s.polls.polls[j]? = some poll)
    (going : stage.isEnded = false) (permit : stage.isAtWork = true → j ∈ s.gate.holders) :
    Orderly limit ⟨s.gate, load, s.polls.move j poll stage⟩ := by
  refine ⟨orderly.gate, ?_, ?_⟩
  · intro i hi
    by_cases h : j = i
    · subst h
      exact ⟨_, Polls.getElem?_move_self found stage, going⟩
    · obtain ⟨other, hother, hgoing⟩ := orderly.party i hi
      exact ⟨other, (Polls.getElem?_move_other h poll stage).trans hother, hgoing⟩
  · intro i poll' found' work
    by_cases h : j = i
    · subst h
      cases (Polls.getElem?_move_self found stage).symm.trans found'
      exact permit work
    · exact orderly.past i poll' ((Polls.getElem?_move_other h poll stage).symm.trans found') work

/-- A poll that ends keeps the order, with a permit or without one. The permits of the others are
not touched. -/
theorem Orderly.depart (orderly : s.Orderly limit) (found : s.polls.polls[j]? = some poll)
    (ended : stage.isEnded = true) :
    Orderly limit ⟨s.gate.leave j, load, s.polls.move j poll stage⟩ := by
  -- the poll need not have a permit: it may end while it is in line or before it comes to the gate
  refine ⟨orderly.gate.leave j, ?_, ?_⟩
  · intro i hi
    rw [(s.gate.party_leave j).mem_iff, orderly.gate.once.mem_erase_iff] at hi
    obtain ⟨other, hother, hgoing⟩ := orderly.party i hi.2
    exact ⟨other, (Polls.getElem?_move_other hi.1.symm poll stage).trans hother, hgoing⟩
  · intro i poll' found' work
    by_cases h : j = i
    · subst h
      cases (Polls.getElem?_move_self found stage).symm.trans found'
      cases stage with
      | ended count => cases work
      | waiting | asking | sending => cases ended
    · rw [Polls.getElem?_move_other h] at found'
      exact Gate.mem_holders_leave (orderly.past i poll' found' work) (Ne.symm h)

/-- Whatever a poll goes on to, it keeps the order if it has a permit for that. -/
theorem Orderly.move (orderly : s.Orderly limit) (found : s.polls.polls[j]? = some poll)
    {e : Polls.Event} (acts : e.poll? = some j)
    (permit : stage.isAtWork = true → j ∈ s.gate.holders) :
    Orderly limit
      ⟨s.gateAfter e (s.polls.move j poll stage), load, s.polls.move j poll stage⟩ := by
  have after : s.gateAfter e (s.polls.move j poll stage) =
      if stage.isEnded then s.gate.leave j else s.gate := by
    simp [gateAfter, acts, Polls.getElem?_move_self found]
  rw [after]
  cases end? : stage.isEnded with
  | false => exact orderly.goOn found end? permit
  | true => exact orderly.depart found end?

/-- Every step keeps the order. -/
theorem Step.orderly (step : Step plan capacity s e t) (orderly : s.Orderly limit) :
    t.Orderly limit := by
  cases step with
  | @arrive j poll found stage new =>
      refine ⟨orderly.gate.enter new, ?_, ?_⟩
      · intro i hi
        rcases List.mem_cons.mp ((s.gate.party_enter j).mem_iff.mp hi) with rfl | before
        · exact ⟨poll, found, by rw [stage]; rfl⟩
        · exact orderly.party i before
      · intro i poll' found' work
        exact Gate.mem_holders_enter (orderly.past i poll' found' work)
  | request | take => exact ⟨orderly.gate, orderly.party, orderly.past⟩
  | poll step permit room =>
      cases step with
      | tick running snapshot => exact orderly.spawn snapshot
      | lose | shutdown => exact ⟨orderly.gate, orderly.party, orderly.past⟩
      | ask found => exact orderly.move found rfl fun _ => permit _ _ rfl
      -- who goes on from here is past the gate already
      | @answer j poll found stage | @send j poll _ _ _ found stage =>
          exact orderly.move found rfl fun _ => orderly.past j poll found (by rw [stage]; rfl)
      | refuse found | finish found | panic found => exact orderly.move found rfl nofun

theorem orderly_of_run (run : Run (Step plan capacity) (start limit) trace s) :
    s.Orderly limit :=
  run.invariant (orderly_start limit) fun _ _ _ _ _ orderly step => step.orderly orderly

/-- The polls at work are no more than those that have a permit. -/
theorem Orderly.countP_isAtWork_le (orderly : s.Orderly limit) :
    s.polls.polls.countP (fun poll => poll.stage.isAtWork) ≤ s.gate.holders.length := by
  -- polls may be equal, so those at work are counted by their numbers
  let working := (s.polls.polls.zipIdx.filter fun x => x.1.stage.isAtWork).map Prod.snd
  have count : s.polls.polls.countP (fun poll => poll.stage.isAtWork) = working.length := by
    rw [List.length_map, ← List.countP_eq_length_filter]
    conv_lhs => rw [← List.zipIdx_map_fst 0 s.polls.polls, List.countP_map]
    rfl
  have distinct : working.Nodup := by
    have numbers : (s.polls.polls.zipIdx.map Prod.snd).Nodup := by
      rw [List.zipIdx_map_snd]
      exact List.nodup_range'
    exact (List.filter_sublist.map Prod.snd).nodup numbers
  have permits : working ⊆ s.gate.holders := by
    intro j hj
    obtain ⟨⟨poll, _⟩, hmem, rfl⟩ := List.mem_map.mp hj
    obtain ⟨numbered, work⟩ := List.mem_filter.mp hmem
    exact orderly.past _ poll (List.mk_mem_zipIdx_iff_getElem?.mp numbered) work
  rw [count]
  exact (List.subperm_of_subset distinct permits).length_le

/-- When no poll is left the gate is as it was. -/
theorem Orderly.gate_of_ended (orderly : s.Orderly limit)
    (ended : ∀ poll ∈ s.polls.polls, poll.stage.isEnded = true) : s.gate = .start limit := by
  have nobody : s.gate.party = [] := by
    rw [List.eq_nil_iff_forall_not_mem]
    intro j hj
    obtain ⟨poll, found, going⟩ := orderly.party j hj
    rw [ended poll (List.mem_of_getElem? found)] at going
    cases going
  obtain ⟨holders, line⟩ := List.append_eq_nil_iff.mp nobody
  have all := orderly.gate.all
  rw [holders, List.length_nil, Nat.add_zero] at all
  cases hgate : s.gate with
  | mk free line' holders' =>
      rw [hgate] at holders line all
      subst all holders line
      rfl

/-- The step of a request is one of a poll that has a permit. -/
theorem Orderly.holds_of_request {out : Sent} (orderly : s.Orderly limit)
    (step : Step plan capacity s (.request j out) t) : j ∈ s.gate.holders := by
  cases step with
  | request found stage => exact orderly.past j _ found (by rw [stage]; rfl)

/-- Whatever the ticks, the answers and the panics, and in whatever order the polls of all ticks
act: the permits that are free and those that polls have are together as many as there are. Nobody
has two, and whoever has one is a poll that has not ended. Every poll past the gate has one, so that
no more polls are at work than there are permits. Nobody waits while a permit is free. A request is
sent by a poll that has a permit at that moment. And once no poll is left all permits are free and
nobody is in line. -/
theorem permits_kept_of_run (run : Run (Step plan capacity) (start limit) trace s) :
    s.gate.free + s.gate.holders.length = limit ∧
      s.gate.holders.Nodup ∧
      (∀ j ∈ s.gate.holders, ∃ poll, s.polls.polls[j]? = some poll ∧ poll.stage.isEnded = false) ∧
      (∀ j poll, s.polls.polls[j]? = some poll → poll.stage.isAtWork = true → j ∈ s.gate.holders) ∧
      s.polls.polls.countP (fun poll => poll.stage.isAtWork) ≤ limit ∧
      (s.gate.line ≠ [] → s.gate.free = 0) ∧
      (∀ before j out after, trace = before ++ .request j out :: after →
        ∃ t, Run (Step plan capacity) (start limit) before t ∧ j ∈ t.gate.holders) ∧
      ((∀ poll ∈ s.polls.polls, poll.stage.isEnded = true) → s.gate = .start limit) := by
  have orderly := orderly_of_run run
  have all := orderly.gate.all
  have atWork := orderly.countP_isAtWork_le
  have once := (List.nodup_append.mp orderly.gate.once).1
  refine ⟨all, once, ?_, orderly.past, by omega, orderly.gate.idle, ?_, orderly.gate_of_ended⟩
  · intro j hj
    exact orderly.party j (List.mem_append_left _ hj)
  · rintro before j out after rfl
    obtain ⟨t, t', earlier, step, -⟩ := run.split_at
    exact ⟨t, earlier, (orderly_of_run earlier).holds_of_request step⟩

end Order

namespace Pair

def check : Check := ⟨"1", "key", "", .empty⟩

def plan : PollPlan := ⟨"http://provider/{id}", 60⟩

def poll (stage : PollStage) : Poll := ⟨[check], ⟨0, Nat.zero_lt_one⟩, stage⟩

/-- A poll of each of two ticks. -/
def polls (gate : Gate) (first second : PollStage) : GatedPolls :=
  ⟨gate, 0, .start, none, [poll first, poll second]⟩

/-- A request. -/
def out : Sent := ⟨"GET", ⟨"http", none, .steps [], none, none⟩, [], []⟩

/-- An answer that gives no heartbeats. -/
def refusal : Except CallError Fetched := .error (.unexpectedStatus .ok "")

/-- The poll of the second tick is in line when that of the first one panics. It gets the permit,
and when it fails as well the permit is free again. -/
theorem permits_kept_of_pair :
    ∃ before after s, Run (Step plan 1) (start 1) (before ++ .request 0 out :: after) s ∧
      .poll (.panic 0 []) ∈ after ∧
      (∃ t, Run (Step plan 1) (start 1) before t ∧ t.gate.line = [1] ∧ 0 ∈ t.gate.holders) ∧
      (∀ poll ∈ s.polls.polls, poll.stage.isEnded = true) ∧ s.gate = .start 1 := by
  have first : Step plan 1 (start 1) (.poll (.tick [check]))
      ⟨.start 1, 0, .start, none, [poll .waiting]⟩ :=
    .poll (.tick rfl _) nofun nofun
  have second : Step plan 1 ⟨.start 1, 0, .start, none, [poll .waiting]⟩ (.poll (.tick [check]))
      (polls (.start 1) .waiting .waiting) :=
    .poll (.tick rfl _) nofun nofun
  have arrived : Step plan 1 (polls (.start 1) .waiting .waiting) (.arrive 0)
      (polls ⟨0, [], [0]⟩ .waiting .waiting) :=
    @Step.arrive _ _ _ 0 (poll .waiting) rfl rfl List.not_mem_nil
  have passed : Step plan 1 (polls ⟨0, [], [0]⟩ .waiting .waiting) (.poll (.ask 0 check))
      (polls ⟨0, [], [0]⟩ .asking .waiting) :=
    .poll (@Polls.Step.ask _ _ 0 (poll .waiting) rfl rfl (by nofun))
      (by rintro _ _ ⟨⟩; decide) nofun
  have lined : Step plan 1 (polls ⟨0, [], [0]⟩ .asking .waiting) (.arrive 1)
      (polls ⟨0, [1], [0]⟩ .asking .waiting) :=
    @Step.arrive _ _ _ 1 (poll .waiting) rfl rfl (by decide)
  have requested : Step plan 1 (polls ⟨0, [1], [0]⟩ .asking .waiting) (.request 0 out)
      (polls ⟨0, [1], [0]⟩ .asking .waiting) :=
    @Step.request _ _ _ 0 (poll .asking) rfl rfl out
  have panicked : Step plan 1 (polls ⟨0, [1], [0]⟩ .asking .waiting) (.poll (.panic 0 []))
      (polls ⟨0, [], [1]⟩ (.ended none) .waiting) :=
    .poll (@Polls.Step.panic _ _ 0 (poll .asking) rfl rfl) nofun nofun
  have followed : Step plan 1 (polls ⟨0, [], [1]⟩ (.ended none) .waiting) (.poll (.ask 1 check))
      (polls ⟨0, [], [1]⟩ (.ended none) .asking) :=
    .poll (@Polls.Step.ask _ _ 1 (poll .waiting) rfl rfl (by nofun))
      (by rintro _ _ ⟨⟩; decide) nofun
  have failed : Step plan 1 (polls ⟨0, [], [1]⟩ (.ended none) .asking)
      (.poll (.answer 1 check refusal)) (polls (.start 1) (.ended none) (.ended none)) :=
    .poll (@Polls.Step.answer _ _ 1 (poll .asking) rfl rfl refusal) nofun nofun
  have early := ((((Run.single first).snoc second).snoc arrived).snoc passed).snoc lined
  have late := ((Run.single panicked).snoc followed).snoc failed
  have run := early.append (.cons requested late)
  obtain ⟨-, -, -, -, -, -, -, free⟩ := permits_kept_of_run run
  refine ⟨_, _, _, run, List.mem_cons_self, ⟨_, early, rfl, by decide⟩, ?_, ?_⟩
  · intro poll hpoll
    simp only [polls, List.mem_cons, List.not_mem_nil, or_false, or_self] at hpoll
    rw [hpoll]
    rfl
  · apply free
    intro poll hpoll
    simp only [polls, List.mem_cons, List.not_mem_nil, or_false, or_self] at hpoll
    rw [hpoll]
    rfl

end Pair

end GatedPolls

end PulseBridge
