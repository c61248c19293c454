import PulseBridge.Proofs.Calls.Alike
import PulseBridge.Proofs.ChatBodies

/-!
# Lookups do not stand in the way

Looking up earlier mentions of a check may add a line to the message, and that is all it does.
Whatever becomes of the lookup, the delivery goes the way of one without it: it posts as often, to
the same places, and comes to the same result, as long as the chat answers the same. The line is
added exactly if the lookup ends with a success that arrives as a whole and tells of at least one
message.

## Main statements

* `delivery_of_lookup`: a delivery with a lookup beside one without.
-/

namespace PulseBridge

open Http (Web Sent Reply CallError Fetched Posts posts IsReachable LastAnswered AnsweredAlike)

/-! ## What a lookup finds -/

namespace Archive

/-- Whether the requests of a search end with a success that arrives as a whole and is an answer
that counts so many messages. -/
def Counts (web : Web) (earlier asked : List Sent) (n : UInt64) : Prop :=
  ∃ received body answer, LastAnswered web earlier asked received ∧
    received.status.isSuccess = true ∧ received.body = .ok body ∧
    SearchAnswer.decode body = .ok answer ∧ answer.ok = true ∧ answer.total = some n

/-- That a check has come up so many times. -/
def mentionText (check : String) (n : UInt64) : String :=
  if n = 1 then "`" ++ check ++ "` came up once before in this channel"
  else "`" ++ check ++ "` came up " ++ toString n.toNat ++ " times before in this channel"

/-- There is a line exactly about a positive number of mentions. -/
theorem mentionLine_eq_some_iff {check line : String} {n : UInt64} :
    mentionLine check n = some line ↔ 1 ≤ n ∧ line = mentionText check n := by
  unfold mentionLine
  by_cases zero : n = 0
  · subst zero
    simp
  · have pos : 1 ≤ n := by
      rw [UInt64.le_iff_toNat_le]
      exact Nat.pos_of_ne_zero fun none => zero (UInt64.toNat_inj.mp none)
    have text : (if (n == 1) = true then
          some ("`" ++ check ++ "` came up once before in this channel")
        else some ("`" ++ check ++ "` came up " ++ toString n.toNat ++
          " times before in this channel")) = some (mentionText check n) := by
      unfold mentionText
      by_cases one : n = 1 <;> simp [one]
    rw [if_neg (by simpa using zero), text]
    simp [pos, eq_comm]

/-- An answer tells of a number of mentions exactly if it is a success that counts as many. -/
theorem mentionsOfAnswer_eq_ok_iff {answer : Except CallError Fetched} {n : UInt64} :
    mentionsOfAnswer answer = .ok n ↔
      ∃ fetched a, answer = .ok fetched ∧ fetched.status.isSuccess = true ∧
        SearchAnswer.decode fetched.body = .ok a ∧ a.ok = true ∧ a.total.getD 0 = n := by
  cases answer with
  | error e => simp [mentionsOfAnswer]
  | ok fetched =>
      cases success : fetched.status.isSuccess with
      | false => simp [mentionsOfAnswer, Fetched.requireSuccess, success]
      | true =>
          cases decoded : SearchAnswer.decode fetched.body with
          | error e => simp [mentionsOfAnswer, Fetched.requireSuccess, success, decoded]
          | ok a =>
              cases ok : a.ok <;>
                simp [mentionsOfAnswer, Fetched.requireSuccess, success, decoded,
                  SearchAnswer.count, ok]

/-- An answer gives a line exactly if it is a success that counts at least one message. -/
theorem lineOfAnswer_eq_some_iff {check line : String} {answer : Except CallError Fetched} :
    lineOfAnswer check answer = .ok (some line) ↔
      ∃ fetched a n, answer = .ok fetched ∧ fetched.status.isSuccess = true ∧
        SearchAnswer.decode fetched.body = .ok a ∧ a.ok = true ∧ a.total = some n ∧ 1 ≤ n ∧
        line = mentionText check n := by
  constructor
  · intro h
    cases counted : mentionsOfAnswer answer with
    | error failure =>
        rw [lineOfAnswer, counted] at h
        cases h
    | ok n =>
        rw [lineOfAnswer, counted] at h
        obtain ⟨pos, text⟩ := mentionLine_eq_some_iff.mp (Except.ok.inj h)
        obtain ⟨fetched, a, answered, success, decoded, ok, total⟩ :=
          mentionsOfAnswer_eq_ok_iff.mp counted
        refine ⟨fetched, a, n, answered, success, decoded, ok, ?_, pos, text⟩
        -- No count at all is taken for none.
        cases found : a.total with
        | none =>
            rw [found] at total
            subst total
            exact absurd pos (by decide)
        | some k =>
            rw [found] at total
            exact congrArg some total
  · rintro ⟨fetched, a, n, answered, success, decoded, ok, total, pos, text⟩
    have counted : mentionsOfAnswer answer = .ok n :=
      mentionsOfAnswer_eq_ok_iff.mpr ⟨fetched, a, answered, success, decoded, ok, by rw [total]; rfl⟩
    rw [lineOfAnswer, counted, Except.map, mentionLine_eq_some_iff.mpr ⟨pos, text⟩]

variable {web : Web} {archive : Archive} {alert : Alert} {earlier lookups : List Sent}

/-- The line is the one that the answer gives, whoever watches: a call whose time is up has none. -/
theorem line_lookupOf (watch : Watch) (check : String) (answer : Except CallError Fetched) :
    (lookupOf watch check answer).line? = (lineOfAnswer check answer).toOption.join := by
  unfold lookupOf
  cases answer with
  | error e =>
      dsimp only
      split <;> rfl
  | ok fetched =>
      simp only [Bool.false_and, Bool.false_eq_true, if_false]
      cases lineOfAnswer check (.ok fetched) <;> rfl

/-- A lookup whose call has failed gives no line. -/
theorem line_lookupOf_error (watch : Watch) (check : String) (e : CallError) :
    (lookupOf watch check (.error e)).line? = none := by
  rw [line_lookupOf, lineOfAnswer, mentionsOfAnswer]
  rfl

/-- A lookup that counts messages gives the line about them. -/
theorem line_of_counts (watch : List Sent → Watch)
    (hlog : (archive.lookUp web alert.check earlier).2 = earlier ++ lookups) {n : UInt64}
    (h : 1 ≤ n) (counts : Counts web earlier lookups n) :
    (Enricher.mentions web archive watch alert earlier).1.line? =
      some (mentionText alert.check n) := by
  obtain ⟨received, body, answer, last, success, arrived, decoded, ok, total⟩ := counts
  have found : (archive.lookUp web alert.check earlier).1 = .ok ⟨received.status, body⟩ :=
    (Http.success_iff success hlog).mpr ⟨received, last, rfl, arrived⟩
  have counted : lineOfAnswer alert.check (.ok ⟨received.status, body⟩) =
      .ok (some (mentionText alert.check n)) :=
    lineOfAnswer_eq_some_iff.mpr ⟨_, answer, n, rfl, success, decoded, ok, total, h, rfl⟩
  rw [Enricher.mentions, line_lookupOf, found, counted]
  rfl

/-- Any other lookup gives no line. -/
theorem line_of_no_count (watch : List Sent → Watch)
    (hlog : (archive.lookUp web alert.check earlier).2 = earlier ++ lookups)
    (uncounted : ∀ n, 1 ≤ n → ¬Counts web earlier lookups n) :
    (Enricher.mentions web archive watch alert earlier).1.line? = none := by
  rw [Enricher.mentions, line_lookupOf]
  cases line : lineOfAnswer alert.check (archive.lookUp web alert.check earlier).1 with
  | error failure => rfl
  | ok found =>
      cases found with
      | none => rfl
      | some text =>
          obtain ⟨fetched, a, n, answer, success, decoded, ok, total, h, -⟩ :=
            lineOfAnswer_eq_some_iff.mp line
          obtain ⟨received, last, status, arrived⟩ := (Http.success_iff success hlog).mp answer
          rw [← status] at success
          exact absurd ⟨received, fetched.body, a, last, success, arrived, decoded, ok, total⟩
            (uncounted n h)

end Archive

/-! ## The message -/

/-- A further line stands at the end of the text. -/
theorem ChatMessage.ofAlert_some (username : String) (alert : Alert) (line : String) :
    ofAlert username alert (some line) =
      ⟨username, (ofAlert username alert none).text ++ "\n" ++ line⟩ := rfl

/-! ## Deliveries -/

namespace Chat

variable {web web' : Web} {chat : Chat} {enricher enricher' : Enricher} {alert : Alert}
variable {earlier earlier' looked looked' asked asked' : List Sent}
variable {message message' : ChatMessage} {notices notices' : List Notice}
variable {delivery delivery' : Delivery}

/-- The message about an alert has the line that looking it up gave. -/
theorem messageFor_eq (chat : Chat) (log : (enricher alert earlier).2 = looked) :
    chat.messageFor enricher alert earlier =
      (.ofAlert chat.username alert (enricher alert earlier).1.line?,
        (enricher alert earlier).1.notices, looked) := by
  rw [← log]
  rfl

/-- Two deliveries of an alert whose requests to the chat are answered alike come to the same
result and ask for the same things, whatever was looked up for them. -/
theorem alike_of_deliver
    (built : chat.messageFor enricher alert earlier = (message, notices, looked))
    (built' : chat.messageFor enricher' alert earlier' = (message', notices', looked'))
    (deliver : (chat.sink web enricher).deliver earlier alert =
      (.finished delivery, notices, looked ++ asked))
    (deliver' : (chat.sink web' enricher').deliver earlier' alert =
      (.finished delivery', notices', looked' ++ asked'))
    (answers : AnsweredAlike web web' looked looked' asked asked') :
    delivery = delivery' ∧ List.Forall₂ Sent.Alike asked asked' := by
  simp only [deliver_eq built, Prod.mk.injEq, Outcome.finished.injEq, true_and] at deliver
  simp only [deliver_eq built', Prod.mk.injEq, Outcome.finished.injEq, true_and] at deliver'
  obtain ⟨rfl, log⟩ := deliver
  obtain ⟨rfl, log'⟩ := deliver'
  obtain ⟨same, alike⟩ := Http.alike_of_posts log log' answers
  exact ⟨congrArg (fun answer => Delivery.ofCall (acceptance answer)) same, alike⟩

end Chat

/-- A delivery with a lookup beside one without. The lookup posts nothing. The delivery then posts
one message, and the message is that of a delivery without lookup with one line behind it if the
lookup ended with a success that arrived as a whole and counts at least one message, and the very
same in every other case, whoever notices that the time for it is up. A delivery without lookup, at
any time and in any web in which the chat answers the same, comes to the same result and posts as
often, to the same places. -/
theorem delivery_of_lookup (web : Web) (chat : Chat) (archive : Archive)
    (watch : List Sent → Watch) (alert : Alert) (earlier : List Sent) :
    ∃ message notices lookups delivery asked,
      (archive.lookUp web alert.check earlier).2 = earlier ++ lookups ∧
      (∀ out ∈ lookups, out.method ≠ "POST") ∧
      (chat.sink web (.mentions web archive watch)).deliver earlier alert =
        (.finished delivery, notices, earlier ++ lookups ++ asked) ∧
      (∀ out ∈ asked, out.method = "POST" → out.body = Chat.bodyOf message) ∧
      (IsReachable chat.webhook →
        ∃ out more, asked = out :: more ∧ Posts chat.webhook (Chat.bodyOf message) out) ∧
      (¬IsReachable chat.webhook → asked = []) ∧
      (∀ n, 1 ≤ n → Archive.Counts web earlier lookups n →
        message = ⟨chat.username, (ChatMessage.ofAlert chat.username alert none).text ++ "\n" ++
          Archive.mentionText alert.check n⟩) ∧
      ((∀ n, 1 ≤ n → ¬Archive.Counts web earlier lookups n) →
        message = .ofAlert chat.username alert none) ∧
      ∀ (web' : Web) (earlier' : List Sent), ∃ delivery' asked',
        (chat.sink web' .none).deliver earlier' alert =
          (.finished delivery', [], earlier' ++ asked') ∧
        (∀ out ∈ asked', out.method = "POST" →
          out.body = Chat.bodyOf (.ofAlert chat.username alert none)) ∧
        (AnsweredAlike web web' (earlier ++ lookups) earlier' asked asked' →
          delivery = delivery' ∧ List.Forall₂ Sent.Alike asked asked' ∧
          (posts asked).length = (posts asked').length) := by
  obtain ⟨lookups, hmentions, noPost⟩ := Enricher.isFetching_mentions web archive watch alert earlier
  have hlog : (archive.lookUp web alert.check earlier).2 = earlier ++ lookups :=
    (Enricher.log_mentions web archive watch alert earlier).symm.trans hmentions
  have built := chat.messageFor_eq hmentions
  obtain ⟨delivery, asked, deliver, carried, first, nothing⟩ :=
    Chat.requests_of_deliver web built
  refine ⟨_, _, lookups, delivery, asked, hlog, noPost, deliver, carried, first, nothing, ?_, ?_, ?_⟩
  · intro n pos counts
    have line := Archive.line_of_counts watch hlog pos counts
    have whole := ChatMessage.ofAlert_some chat.username alert (Archive.mentionText alert.check n)
    rw [line]
    exact whole
  · intro uncounted
    rw [Archive.line_of_no_count watch hlog uncounted]
  · intro web' earlier'
    have built' : chat.messageFor .none alert earlier' =
        (.ofAlert chat.username alert none, [], earlier') := rfl
    obtain ⟨delivery', asked', deliver', carried', -, -⟩ :=
      Chat.requests_of_deliver web' built'
    refine ⟨delivery', asked', deliver', carried', ?_⟩
    intro answers
    obtain ⟨same, alike⟩ := Chat.alike_of_deliver built built' deliver deliver' answers
    exact ⟨same, alike, Http.length_posts_eq alike⟩

/-! ## A check that has come up before -/

namespace Threefold

/-- A chat on this machine. -/
def chat : Chat := ⟨"http://[::1]/hook", "radalert"⟩

/-- Its archive. -/
def archive : Archive := ⟨"http://[::1]/api", "token"⟩

/-- An alert about a check. -/
def alert : Alert := ⟨some "CRITICAL", "MyCo", "disk", none, none, []⟩

/-- What the archive answers. -/
def body : Octets := Octets.ofText "\x7b\"ok\":true,\"messages\":\x7b\"total\":3\x7d\x7d"

/-- A web in which every request gets the archive's answer. -/
def web : Web := fun _ _ => .reply ⟨.ok, [], .ok body⟩

theorem decode_body : SearchAnswer.decode body = .ok ⟨true, none, some 3⟩ := by
  have decoded : (SearchAnswer.decode body).toOption = some ⟨true, none, some 3⟩ := by
    decide
  cases hdecode : SearchAnswer.decode body with
  | error e =>
      rw [hdecode] at decoded
      cases decoded
  | ok answer =>
      rw [hdecode] at decoded
      exact congrArg Except.ok (Option.some.inj decoded)

/-- The search sends one request and counts three messages. -/
theorem counts_lookups {lookups : List Sent}
    (hlog : (archive.lookUp web alert.check []).2 = [] ++ lookups) :
    Archive.Counts web [] lookups 3 := by
  obtain ⟨out, first⟩ : ∃ out, (archive.request alert.check).first? = some out := by
    apply Option.isSome_iff_exists.mp
    decide
  have call : Http.call web [] (archive.request alert.check) = (.ok ⟨.ok, body⟩, [] ++ [out]) :=
    Http.call_of_success first rfl
  rw [Archive.lookUp, call] at hlog
  obtain rfl := List.append_cancel_left hlog
  exact ⟨⟨.ok, [], .ok body⟩, body, ⟨true, none, some 3⟩, Http.lastAnswered_singleton.mpr rfl, rfl,
    rfl, decode_body, rfl, rfl⟩

theorem isReachable_webhook : IsReachable chat.webhook := by
  apply @Http.isReachable_of_isSome _ (.json [])
  decide

/-- The message has a further line, and the delivery comes to the same as one without lookup. -/
theorem delivery_of_threefold_lookup :
    ∃ notices lookups delivery out more,
      (chat.sink web (.mentions web archive)).deliver [] alert =
        (.finished delivery, notices, lookups ++ out :: more) ∧
      out.body = Chat.bodyOf ⟨"radalert",
        (ChatMessage.ofAlert "radalert" alert none).text ++ "\n" ++
          "`disk` came up 3 times before in this channel"⟩ ∧
      ∃ delivery' asked', (chat.sink web .none).deliver [] alert =
          (.finished delivery', [], asked') ∧
        delivery = delivery' ∧ (posts (out :: more)).length = (posts asked').length := by
  obtain ⟨message, notices, lookups, delivery, asked, hlog, -, deliver, -, first, -, counted, -,
    without⟩ := delivery_of_lookup web chat archive (fun _ => .lookup) alert []
  obtain ⟨out, more, rfl, -, posted, -⟩ := first isReachable_webhook
  have text := counted 3 (by decide) (counts_lookups hlog)
  obtain ⟨delivery', asked', deliver', -, alike⟩ := without web []
  obtain ⟨same, -, count⟩ := alike (Http.answeredAlike_constant ..)
  refine ⟨notices, lookups, delivery, out, more, deliver, ?_, delivery', asked', deliver', same,
    count⟩
  rw [posted, text]
  have line : Archive.mentionText alert.check 3 =
      "`disk` came up 3 times before in this channel" := by
    decide
  rw [line]
  rfl

end Threefold

end PulseBridge
