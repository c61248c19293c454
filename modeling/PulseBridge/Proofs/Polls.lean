import PulseBridge.Polling
import PulseBridge.Proofs.Run

/-!
# Polls at work

Every check of a tick's list gets a poll of its own. The polls of all ticks are at work together: a
poll waits until it may ask, asks, and then sends its heartbeats one after the other, each as soon
as the channel takes it. Which of them acts next is open. A poll may panic as long as it has not
ended, whatever it is about.

## Implementation notes

A poll keeps the list as it was at its tick and its place in that list. Polls are never removed, so
that a poll is known by its number. There may be a limit to how many polls are between asking and
their end; then each of them holds a permit.
-/

namespace PulseBridge

open Http (CallError Fetched)

/-- How far a poll has come. -/
inductive PollStage where
  /-- It waits until it may ask. -/
  | waiting
  | asking
  /-- It has these heartbeats left to send, of so many. -/
  | sending (count : Nat) (left : List Heartbeat)
  /-- It has ended, with the number of its heartbeats if it counts as a success. -/
  | ended (count : Option Nat)

namespace PollStage

/-- The heartbeats that are left to send. -/
def left : PollStage → List Heartbeat
  | .sending _ left => left
  | _ => []

@[simp] theorem left_waiting : waiting.left = [] := rfl

@[simp] theorem left_asking : asking.left = [] := rfl

@[simp] theorem left_sending (count : Nat) (rest : List Heartbeat) :
    (sending count rest).left = rest := rfl

@[simp] theorem left_ended (count : Option Nat) : (ended count).left = [] := rfl

/-- How many permits a poll holds. -/
def permits : PollStage → Nat
  | .asking | .sending .. => 1
  | .waiting | .ended _ => 0

/-- Whether a poll has ended. -/
def isEnded : PollStage → Bool
  | .ended _ => true
  | _ => false

end PollStage

/-- How far a poll has come when its question has been answered. -/
def PollPlan.stageAfter (plan : PollPlan) (check : Check) (answer : Except CallError Fetched) :
    PollStage :=
  match plan.heartbeatsOfAnswer check answer with
  | .ok heartbeats => .sending heartbeats.length heartbeats
  | .error _ => .ended none

/-- The poll of one check of a list. -/
structure Poll where
  snapshot : List Check
  place : Fin snapshot.length
  stage : PollStage

namespace Poll

/-- The check that is polled. -/
def check (poll : Poll) : Check := poll.snapshot[poll.place]

/-- The polls of a tick. -/
def spawn (snapshot : List Check) : List Poll :=
  (List.finRange snapshot.length).map fun place => ⟨snapshot, place, .waiting⟩

@[simp] theorem length_spawn (snapshot : List Check) :
    (spawn snapshot).length = snapshot.length := by
  simp [spawn]

/-- There is one poll for each place of the list. -/
theorem map_check_spawn (snapshot : List Check) : (spawn snapshot).map check = snapshot := by
  apply List.ext_getElem
  · simp
  · intro i _ _
    simp [spawn, check]

theorem stage_of_mem_spawn {snapshot : List Check} {poll : Poll} (h : poll ∈ spawn snapshot) :
    poll.stage = .waiting := by
  obtain ⟨place, _, rfl⟩ := List.mem_map.mp h
  rfl

end Poll

/-- The polls of all ticks, and those they depend on. -/
structure Polls where
  poller : Poller
  /-- How many permits are free, if there is a limit. -/
  free : Option Nat
  polls : List Poll

namespace Polls

/-- Before the first tick. -/
def start (limit : Option Nat) : Polls := ⟨.start, limit, []⟩

/-- One poll goes on to another stage. -/
def move (s : Polls) (j : Nat) (poll : Poll) (stage : PollStage) : Polls :=
  { s with
    free := s.free.map fun free => free + poll.stage.permits - stage.permits
    polls := s.polls.set j { poll with stage } }

theorem getElem?_move_self {s : Polls} {j : Nat} {poll : Poll} (found : s.polls[j]? = some poll)
    (stage : PollStage) : (s.move j poll stage).polls[j]? = some { poll with stage } :=
  List.getElem?_set_self (List.getElem?_eq_some_iff.mp found).1

theorem getElem?_move_other {s : Polls} {i j : Nat} (other : j ≠ i) (poll : Poll)
    (stage : PollStage) : (s.move j poll stage).polls[i]? = s.polls[i]? :=
  List.getElem?_set_ne other

/-- The heartbeats that are still to be sent. -/
def unsent (s : Polls) : List Heartbeat := s.polls.flatMap fun poll => poll.stage.left

/-- What happens among the polls. -/
inductive Event where
  /-- A tick begins, over the list as it is. -/
  | tick (snapshot : List Check)
  /-- A poll asks about its check. -/
  | ask (j : Nat) (check : Check)
  /-- The question of a poll is answered. -/
  | answer (j : Nat) (check : Check) (answer : Except CallError Fetched)
  /-- A poll puts a heartbeat into the channel. -/
  | send (j : Nat) (heartbeat : Heartbeat)
  /-- A poll finds that nobody takes heartbeats any more. -/
  | refuse (j : Nat)
  /-- A poll has sent all its heartbeats. -/
  | finish (j : Nat)
  /-- A poll panics, with these heartbeats left to send. -/
  | panic (j : Nat) (left : List Heartbeat)
  /-- Nobody takes heartbeats from the channel any more. -/
  | lose
  /-- The poller is told to stop. -/
  | shutdown

/-- What happens at once among polls that follow a plan. -/
inductive Step (plan : PollPlan) : Polls → Event → Polls → Prop
  | tick {s} (running : s.poller.running = true) (snapshot : List Check) :
      Step plan s (.tick snapshot) { s with polls := s.polls ++ Poll.spawn snapshot }
  | ask {s j poll} (found : s.polls[j]? = some poll) (stage : poll.stage = .waiting)
      (permit : s.free ≠ some 0) :
      Step plan s (.ask j poll.check) (s.move j poll .asking)
  | answer {s j poll} (found : s.polls[j]? = some poll) (stage : poll.stage = .asking)
      (answer : Except CallError Fetched) :
      Step plan s (.answer j poll.check answer) (s.move j poll (plan.stageAfter poll.check answer))
  | send {s j poll count heartbeat left} (found : s.polls[j]? = some poll)
      (stage : poll.stage = .sending count (heartbeat :: left))
      (receiving : s.poller.receiving = true) :
      Step plan s (.send j heartbeat) (s.move j poll (.sending count left))
  | refuse {s j poll count heartbeat left} (found : s.polls[j]? = some poll)
      (stage : poll.stage = .sending count (heartbeat :: left))
      (gone : s.poller.receiving = false) :
      Step plan s (.refuse j) (s.move j poll (.ended none))
  | finish {s j poll count} (found : s.polls[j]? = some poll)
      (stage : poll.stage = .sending count []) :
      Step plan s (.finish j) (s.move j poll (.ended (some count)))
  | panic {s j poll} (found : s.polls[j]? = some poll) (going : poll.stage.isEnded = false) :
      Step plan s (.panic j poll.stage.left) (s.move j poll (.ended none))
  | lose {s} : Step plan s .lose { s with poller := { s.poller with receiving := false } }
  | shutdown {s} : Step plan s .shutdown { s with poller := s.poller.shutdown.2 }

/-! ## What a trace tells -/

/-- The list of a tick. -/
def Event.tick? : Event → Option (List Check)
  | .tick snapshot => some snapshot
  | _ => none

/-- The question of a poll. -/
def Event.asked? : Event → Option (Nat × Check)
  | .ask j check => some (j, check)
  | _ => none

/-- How the question of a poll is answered. -/
def Event.answered? : Event → Option (Nat × Check × Except CallError Fetched)
  | .answer j check received => some (j, check, received)
  | _ => none

/-- The heartbeat that a poll puts into the channel. -/
def Event.sent? : Event → Option (Nat × Heartbeat)
  | .send j heartbeat => some (j, heartbeat)
  | _ => none

/-- What a poll that panics has left to send. -/
def Event.panicked? : Event → Option (Nat × List Heartbeat)
  | .panic j left => some (j, left)
  | _ => none

/-- The lists of the ticks, in their order. -/
def ticks (trace : List Event) : List (List Check) := trace.filterMap Event.tick?

/-- The questions, with the numbers of the polls that asked them. -/
def asked (trace : List Event) : List (Nat × Check) := trace.filterMap Event.asked?

/-- The answers, with the polls and the checks that they concern. -/
def answered (trace : List Event) : List (Nat × Check × Except CallError Fetched) :=
  trace.filterMap Event.answered?

/-- The heartbeats that the channel took, with the polls that sent them. -/
def sent (trace : List Event) : List (Nat × Heartbeat) := trace.filterMap Event.sent?

/-- The panics, with the polls and what these had left to send. -/
def panicked (trace : List Event) : List (Nat × List Heartbeat) :=
  trace.filterMap Event.panicked?

/-- The heartbeats that the answers gave, with the polls that got the answers. -/
def built (plan : PollPlan) (trace : List Event) : List (Nat × Heartbeat) :=
  (answered trace).flatMap fun (j, check, answer) =>
    (plan.stageAfter check answer).left.map fun heartbeat => (j, heartbeat)

/-- What concerns one poll. -/
def about {A : Type} (j : Nat) (told : List (Nat × A)) : List A :=
  told.filterMap fun (k, a) => if k = j then some a else none

@[simp] theorem ticks_append (before after : List Event) :
    ticks (before ++ after) = ticks before ++ ticks after :=
  List.filterMap_append

@[simp] theorem asked_append (before after : List Event) :
    asked (before ++ after) = asked before ++ asked after :=
  List.filterMap_append

@[simp] theorem answered_append (before after : List Event) :
    answered (before ++ after) = answered before ++ answered after :=
  List.filterMap_append

@[simp] theorem sent_append (before after : List Event) :
    sent (before ++ after) = sent before ++ sent after :=
  List.filterMap_append

@[simp] theorem panicked_append (before after : List Event) :
    panicked (before ++ after) = panicked before ++ panicked after :=
  List.filterMap_append

@[simp] theorem built_append (plan : PollPlan) (before after : List Event) :
    built plan (before ++ after) = built plan before ++ built plan after := by
  simp [built]

@[simp] theorem about_append {A : Type} (j : Nat) (before after : List (Nat × A)) :
    about j (before ++ after) = about j before ++ about j after :=
  List.filterMap_append

@[simp] theorem ticks_singleton (e : Event) : ticks [e] = e.tick?.toList := filterMap_single ..

@[simp] theorem asked_singleton (e : Event) : asked [e] = e.asked?.toList := filterMap_single ..

@[simp] theorem answered_singleton (e : Event) : answered [e] = e.answered?.toList :=
  filterMap_single ..

@[simp] theorem sent_singleton (e : Event) : sent [e] = e.sent?.toList := filterMap_single ..

@[simp] theorem panicked_singleton (e : Event) : panicked [e] = e.panicked?.toList :=
  filterMap_single ..

@[simp] theorem about_nil {A : Type} (j : Nat) : about j ([] : List (Nat × A)) = [] := rfl

@[simp] theorem about_self {A : Type} (j : Nat) (a : A) : about j [(j, a)] = [a] := by
  simp [about]

theorem mem_about {A : Type} {j : Nat} {a : A} {told : List (Nat × A)} :
    a ∈ about j told ↔ (j, a) ∈ told := by
  simp [about]

theorem about_other {A : Type} {j k : Nat} (h : k ≠ j) (a : A) : about j [(k, a)] = [] := by
  simp [about, h]

end Polls

end PulseBridge
