import PulseBridge.Proofs.Calls.Twins
import PulseBridge.Proofs.ChatBodies
import PulseBridge.Proofs.Enrichment

/-!
# What a token makes of a delivery

The token of an archive goes out in the query of a search, and answers that do not depend on it let
a delivery go the same way for every token: the same message is posted, and the same comes of it.
What is told of a lookup is the same as well, unless its call is lost on the way. Then the URL that
was asked for is told of, with its query, and so the token is too. A call whose time is up is lost
in this sense, unless the lookup notices first that its own time is up: then it is told that it took
too long, and nothing else.

## Main statements

* `delivery_of_tokens`: deliveries that look up with different tokens post the same and come to the
  same, and what is told differs in at most the query.
* `Unanswered.told_of_tokens`: where nobody answers, the token is told.

## Implementation notes

A token may be so long that a URL with it cannot be asked for. `Archive.FitsAs` says that this
happens to one of two tokens where it happens to the other one.
-/

namespace PulseBridge

open Http

/-! ## What is told of a lost call -/

/-- The messages of a loss begin with one that has the URL in it. -/
theorem Http.WayFault.messages_eq (fault : WayFault) :
    ∃ opening more, ∀ url, fault.messages url = (opening ++ url.text ++ ")") :: more := by
  have built (url : Net.Url) :
      builderMessage (some url) = "builder error" ++ " for url (" ++ url.text ++ ")" := by
    simp only [builderMessage, Option.map_some, Option.getD_some, String.append_assoc]
  cases fault with
  | badScheme | notRequestable =>
      exact ⟨"builder error" ++ " for url (", _, fun url => by rw [messages, built url]⟩
  | refused | closed | unreadable | timedOut =>
      exact ⟨"error sending request for url (", _, fun _ => rfl⟩
  | tooManyRedirects => exact ⟨"error following redirect for url (", _, fun _ => rfl⟩

/-- What is told of a failed lookup ends with the failure. -/
theorem Notice.line_lookupFailed :
    ∃ start, ∀ failure, (lookupFailed failure).line = start ++ failure.text := by
  refine ⟨Level.warning.name ++ " " ++ "history lookup failed, posting without it: ", ?_⟩
  intro failure
  unfold line level message
  exact String.append_assoc.symm

/-- A failure of several messages begins with the first of them. -/
theorem Failure.text_cons (more : List String) :
    ∃ rest, ∀ message, text ⟨message :: more⟩ = message ++ rest := by
  cases more with
  | nil => exact ⟨"", fun _ => String.append_empty.symm⟩
  | cons next more =>
      refine ⟨": " ++ ": ".intercalate (next :: more), fun _ => ?_⟩
      rw [text, String.intercalate_cons_cons, String.append_assoc]

theorem Failure.text_cons_cons (message next : String) (more : List String) :
    text ⟨message :: next :: more⟩ = message ++ ": " ++ text ⟨next :: more⟩ :=
  String.intercalate_cons_cons

/-- Whether two runs tell of the same in the same words, but for what stands at two places of their
one line. -/
def TellTwice (query query' : String) (lines lines' : List String) : Prop :=
  ∃ a b c, lines = [a ++ query ++ b ++ query ++ c] ∧ lines' = [a ++ query' ++ b ++ query' ++ c]

/-- Lines that differ in what stands at two places are the same only if that is the same. -/
theorem TellTwice.eq_iff {query query' : String} {lines lines' : List String}
    (h : TellTwice query query' lines lines') : lines = lines' ↔ query = query' := by
  obtain ⟨a, b, c, rfl, rfl⟩ := h
  constructor
  · intro same
    -- two texts of one length stand in lines that begin alike, so the first places are the same
    have lines := congrArg String.toList (List.singleton_inj.mp same)
    have lengths := congrArg List.length lines
    simp only [String.toList_append, List.length_append, List.append_assoc] at lines lengths
    have front := List.append_cancel_left lines
    have length : query.toList.length = query'.toList.length := by omega
    exact String.toList_inj.mp (List.append_inj_left front length)
  · rintro rfl
    rfl

/-! ## Answers that end a lookup -/

namespace Http.Answer

/-- Whether a request is lost to a call that is watched so: nobody takes it, what comes back is no
reply, or the call notices that its time is up. -/
def IsLost (watch : Watch) : Answer → Prop
  | .refused | .closed | .unreadable _ => True
  | .stalled => watch = .call
  | .reply _ => False

/-- Whether a request is settled for a lookup that is watched so: a reply comes that sends nothing
on, or the lookup notices that its time is up. -/
def Settles (watch : Watch) (out : Sent) : Answer → Prop
  | .reply received => goal? out.url received = none
  | .stalled => watch = .lookup
  | .refused | .closed | .unreadable _ => False

variable {watch : Watch} {answer : Answer}

theorem IsLost.ending (h : answer.IsLost watch) :
    ∃ fault, (fault = .timedOut → watch = .call) ∧
      ∀ origin left out, answer.ending origin left out = .error (.lost origin fault) := by
  cases answer with
  | refused => exact ⟨.refused, nofun, fun _ _ _ => rfl⟩
  | closed => exact ⟨.closed, nofun, fun _ _ _ => rfl⟩
  | unreadable fault => exact ⟨.unreadable fault, nofun, fun _ _ _ => rfl⟩
  | stalled => exact ⟨.timedOut, fun _ => h, fun _ _ _ => rfl⟩
  | reply => exact h.elim

/-- What is settled is lost only if the lookup notices that the time is up. -/
theorem Settles.ending {out : Sent} (h : answer.Settles watch out) {origin url : Net.Url}
    {left : Nat} {fault : WayFault}
    (lost : answer.ending origin left out = .error (.lost url fault)) :
    fault = .timedOut ∧ watch = .lookup := by
  cases answer with
  | stalled =>
      cases lost
      exact ⟨rfl, h⟩
  | reply received =>
      have settled : goal? out.url received = none := h
      simp only [Answer.ending, settled, receive] at lost
      split at lost <;> cases lost
  | refused | closed | unreadable => exact h.elim

end Http.Answer

namespace Archive

variable {watch : Watch} {check query query' : String}

theorem lookupOf_late (check : String) (url : Net.Url) :
    lookupOf .lookup check (.error (.lost url .timedOut)) = .timedOut := by
  simp [lookupOf, CallError.isTimeout]

/-- A loss is told with all that it has to say, unless the lookup notices that the time is up. -/
theorem notices_of_lost (check : String) {fault : WayFault}
    (h : fault = .timedOut → watch = .call) :
    ∃ attempt opening, ∀ url, (lookupOf watch check (.error (.lost url fault))).notices =
      [.lookupFailed ⟨attempt :: (opening ++ (fault.messages url).headD "") ::
        fault.messages url⟩] := by
  obtain ⟨opening, opens⟩ : ∃ opening, ∀ url, (CallError.lost url fault).opening = opening := by
    cases fault <;> exact ⟨_, fun _ => rfl⟩
  refine ⟨"search.messages request failed", opening, fun url => ?_⟩
  have told : ((CallError.lost url fault).isTimeout && watch == .lookup) = false := by
    by_cases late : fault = .timedOut
    · rw [h late]
      exact Bool.and_false _
    · simp [CallError.isTimeout, late]
  simp only [lookupOf, told, Bool.false_eq_true, if_false, lineOfAnswer, mentionsOfAnswer,
    Except.map, Lookup.notices, Failure.during, Failure.ofCall, CallError.chain, CallError.message,
    opens, CallError.causes]

/-- What is told of a loss has the URL at two places. -/
theorem line_of_lost (check : String) {fault : WayFault} (h : fault = .timedOut → watch = .call) :
    ∃ a b c, ∀ url, (lookupOf watch check (.error (.lost url fault))).notices.map Notice.line =
      [a ++ url.text ++ b ++ url.text ++ c] := by
  obtain ⟨opening, more, messages⟩ := fault.messages_eq
  obtain ⟨attempt, lost, notices⟩ := notices_of_lost check h
  obtain ⟨start, line⟩ := Notice.line_lookupFailed
  obtain ⟨rest, whole⟩ := Failure.text_cons more
  refine ⟨start ++ attempt ++ ": " ++ lost ++ opening, ")" ++ ": " ++ opening, ")" ++ rest, ?_⟩
  intro url
  rw [notices, messages, List.map_singleton, line, List.headD_cons, Failure.text_cons_cons,
    Failure.text_cons_cons, whole]
  simp only [String.append_assoc]

/-- What is told of one loss at twins differs in the query. -/
theorem tellTwice_of_lost {url : Net.Url} (asked : url.query = some query) {fault : WayFault}
    (h : fault = .timedOut → watch = .call) :
    TellTwice query query'
      ((lookupOf watch check (.error (.lost url fault))).notices.map Notice.line)
      ((lookupOf watch check (.error (.lost { url with query := some query' } fault))).notices.map
        Notice.line) := by
  obtain ⟨a, b, c, told⟩ := line_of_lost check h
  obtain ⟨front, back, text⟩ := url.text_withQuery
  have first : url.text = front ++ "?" ++ query ++ back := by rw [← text, ← asked]
  refine ⟨a ++ front ++ "?", back ++ b ++ front ++ "?", back ++ c, ?_, ?_⟩
  · rw [told, first]
    simp only [String.append_assoc]
  · rw [told, text]
    simp only [String.append_assoc]

/-- A lookup that comes to twins finds the same, and tells the same but for the query. -/
theorem lookupOf_twin (watch : Watch) (check : String) {answer answer' : Except CallError Fetched}
    (twins : ResultTwin query query' answer answer') :
    (lookupOf watch check answer).line? = (lookupOf watch check answer').line? ∧
      ((lookupOf watch check answer).notices = (lookupOf watch check answer').notices ∨
        TellTwice query query' ((lookupOf watch check answer).notices.map Notice.line)
          ((lookupOf watch check answer').notices.map Notice.line)) := by
  cases twins with
  | same => exact ⟨rfl, .inl rfl⟩
  | @lost u v urls fault =>
      refine ⟨by rw [line_lookupOf_error, line_lookupOf_error], ?_⟩
      cases urls with
      | same => exact .inl rfl
      | asked h =>
          by_cases late : fault = .timedOut ∧ watch = .lookup
          · rw [late.1, late.2, lookupOf_late, lookupOf_late]
            exact .inl rfl
          · refine .inr (tellTwice_of_lost h fun timedOut => ?_)
            cases watch with
            | call => rfl
            | lookup => exact absurd ⟨timedOut, rfl⟩ late

/-! ## Searches with different tokens -/

variable {web : Web} {archive archive' : Archive} {earlier lookups : List Sent}

/-- Archives at one address whose searches have the same query have one token. -/
theorem query_eq_iff :
    archive.query check = archive'.query check ↔ archive.token = archive'.token := by
  constructor
  · intro same
    have pairs := archive.decode_query check
    rw [same, archive'.decode_query] at pairs
    simpa [eq_comm] using pairs
  · intro same
    rw [query, query, same]

/-- Whether a search at one archive can be made, and sent on, exactly as far as the same search at
another one can, as long as both are answered alike: no URL is too long on account of one token
only. -/
structure FitsAs (web : Web) (archive archive' : Archive) (check : String) (earlier : List Sent) :
    Prop where
  first : ∀ sent, (archive.request check).prepare = .ok sent →
    sent.url.FitsAlike (archive.query check) (archive'.query check)
  further : ∀ lookups, (archive.lookUp web check earlier).2 = earlier ++ lookups →
    RepliesFitAlike web (archive.query check) (archive'.query check) earlier lookups

/-- Tokens whose queries have one size fit alike, whatever is answered. -/
theorem fitsAs_of_size
    (size : (archive.query check).utf8ByteSize = (archive'.query check).utf8ByteSize) (web : Web)
    (earlier : List Sent) : archive.FitsAs web archive' check earlier where
  first := fun sent _ => sent.url.fitsAlike_of_size size
  further := fun lookups _ => repliesFitAlike_of_size size web earlier lookups

/-- What is sent for a search: the query is all that the token decides. -/
theorem prepare_request (noQuery : Net.HasNoQuery archive.url.toList) {address : Net.Url}
    (haddress : requestUrl archive.searchUrl = .ok address) (check : String) :
    (archive.request check).prepare = .ok
      { method := "GET"
        url := { address.takeCredentials.2 with query := some (archive.query check) }
        headers := (address.takeCredentials.1.map fun c => basicAuthorization c.1 c.2).toList
        body := [] } := by
  have none := query_of_requestUrl noQuery haddress
  simp [Request.prepare, request, Request.get, haddress, bind, Except.bind, pure, Except.pure,
    Net.Url.appendQuery, none, query, Body.headers, Body.octets]

/-- A search without a usable address fails before anything is sent. -/
theorem lookUp_of_unbuilt {fault : BuildFault} (h : requestUrl archive.searchUrl = .error fault)
    (web : Web) (check : String) (earlier : List Sent) :
    archive.lookUp web check earlier = (.error (.unbuilt fault), earlier) := by
  have unbuilt : (archive.request check).prepare = .error fault := by
    simp [Request.prepare, request, Request.get, h, bind, Except.bind]
  rw [lookUp, call, unbuilt]

theorem searchUrl_eq (address : archive.url = archive'.url) :
    archive.searchUrl = archive'.searchUrl := by
  rw [searchUrl, searchUrl, address]

/-- Searches with different tokens are twins to the end. -/
theorem lookUp_twin (address : archive.url = archive'.url)
    (noQuery : Net.HasNoQuery archive.url.toList)
    (ignores : web.Ignores (archive.query check) (archive'.query check))
    (fits : archive.FitsAs web archive' check earlier)
    (hlog : (archive.lookUp web check earlier).2 = earlier ++ lookups) :
    ResultTwin (archive.query check) (archive'.query check) (archive.lookUp web check earlier).1
        (archive'.lookUp web check earlier).1 ∧
      ∃ lookups', (archive'.lookUp web check earlier).2 = earlier ++ lookups' ∧
        List.Forall₂ (Sent.Twin (archive.query check) (archive'.query check)) lookups lookups' := by
  cases haddress : requestUrl archive.searchUrl with
  | error fault =>
      rw [lookUp_of_unbuilt haddress] at hlog ⊢
      rw [lookUp_of_unbuilt (searchUrl_eq address ▸ haddress)]
      obtain rfl : lookups = [] := by simpa using hlog
      exact ⟨.same _, [], (List.append_nil _).symm, .nil⟩
  | ok url =>
      have prepared := prepare_request noQuery haddress check
      have prepared' :=
        prepare_request (address ▸ noQuery) (searchUrl_eq address ▸ haddress) check
      exact twin_of_call prepared prepared' ignores ⟨rfl, .asked rfl, .refl _, rfl⟩
        (fits.first _ prepared) (Sent.Twin.refl_each earlier) hlog
        (fits.further lookups hlog)

/-! ## How a lookup ends -/

/-- A lookup whose last request is lost tells of its URL. -/
theorem tellTwice_of_isLost (address : archive.url = archive'.url)
    (noQuery : Net.HasNoQuery archive.url.toList)
    (ignores : web.Ignores (archive.query check) (archive'.query check))
    (fits : archive.FitsAs web archive' check earlier) {before : List Sent} {last : Sent}
    (hlog : (archive.lookUp web check earlier).2 = earlier ++ (before ++ [last]))
    (lost : (web (earlier ++ before) last).IsLost watch) :
    TellTwice (archive.query check) (archive'.query check)
      ((lookupOf watch check (archive.lookUp web check earlier).1).notices.map Notice.line)
      ((lookupOf watch check (archive'.lookUp web check earlier).1).notices.map Notice.line) := by
  obtain ⟨-, lookups', hlog', twins⟩ := lookUp_twin address noQuery ignores fits hlog
  obtain ⟨before', last', rfl, befores, lasts⟩ := Sent.Twin.exists_last twins
  have answers := ignores _ _ _ _ (List.rel_append (Sent.Twin.refl_each earlier) befores) lasts
  obtain ⟨fault, late, ends⟩ := lost.ending
  rw [← List.append_assoc] at hlog hlog'
  obtain ⟨sent, left, prepared, result⟩ := ending_of_call hlog
  obtain ⟨sent', left', prepared', result'⟩ := ending_of_call hlog'
  cases haddress : requestUrl archive.searchUrl with
  | error fault =>
      rw [lookUp_of_unbuilt haddress] at hlog
      simp at hlog
  | ok url =>
      cases (prepare_request noQuery haddress check).symm.trans prepared
      cases (prepare_request (address ▸ noQuery) (searchUrl_eq address ▸ haddress) check).symm.trans
        prepared'
      rw [ends] at result
      rw [← answers, ends] at result'
      rw [lookUp, result, lookUp, result']
      exact tellTwice_of_lost rfl late

/-- A lookup whose last request is settled tells nothing of the token. -/
theorem notices_of_settles {answer : Except CallError Fetched} {before : List Sent} {last : Sent}
    (hlog : (archive.lookUp web check earlier).2 = earlier ++ (before ++ [last]))
    (settles : (web (earlier ++ before) last).Settles watch last)
    (twins : ResultTwin query query' (archive.lookUp web check earlier).1 answer) :
    (lookupOf watch check (archive.lookUp web check earlier).1).notices =
      (lookupOf watch check answer).notices := by
  rw [← List.append_assoc] at hlog
  obtain ⟨sent, left, -, result⟩ := ending_of_call hlog
  rw [lookUp, result] at twins ⊢
  generalize ended : (web (earlier ++ before) last).ending sent.url left last = ending at twins
  cases twins with
  | same => rfl
  | lost urls fault =>
      obtain ⟨rfl, rfl⟩ := settles.ending ended
      rw [lookupOf_late, lookupOf_late]

end Archive

/-! ## Deliveries -/

/-- What a token makes of a delivery, where answers do not depend on it and no URL is too long on
account of one token only. Deliveries that look up at one address with different tokens send the
same for the lookup but for the query; after it they post the very same and come to the same. What
they tell is the same, or a line of the same words in which the query, and so the token, stands at
two places. If the last request of the lookup is settled, they tell the same; if it is lost, what
they tell is the same only for one and the same token. A request that nobody answers in time is
settled if the lookup notices it first, and lost if its call does. -/
theorem delivery_of_tokens (web : Web) (chat : Chat) {archive archive' : Archive}
    (watch : List Sent → Watch) (alert : Alert) (earlier : List Sent)
    (address : archive.url = archive'.url)
    (noQuery : Net.HasNoQuery archive.url.toList)
    (ignores : web.Ignores (archive.query alert.check) (archive'.query alert.check))
    (fits : archive.FitsAs web archive' alert.check earlier) :
    ∃ lookups lookups' notices notices' delivery asked,
      (archive.lookUp web alert.check earlier).2 = earlier ++ lookups ∧
      (archive'.lookUp web alert.check earlier).2 = earlier ++ lookups' ∧
      List.Forall₂ (Sent.Twin (archive.query alert.check) (archive'.query alert.check))
        lookups lookups' ∧
      (chat.sink web (.mentions web archive watch)).deliver earlier alert =
        (.finished delivery, notices, earlier ++ lookups ++ asked) ∧
      (chat.sink web (.mentions web archive' watch)).deliver earlier alert =
        (.finished delivery, notices', earlier ++ lookups' ++ asked) ∧
      (notices = notices' ∨
        TellTwice (archive.query alert.check) (archive'.query alert.check)
          (notices.map Notice.line) (notices'.map Notice.line)) ∧
      ∀ before last, lookups = before ++ [last] →
        ((web (earlier ++ before) last).Settles (watch earlier) last → notices = notices') ∧
        ((web (earlier ++ before) last).IsLost (watch earlier) →
          TellTwice (archive.query alert.check) (archive'.query alert.check)
            (notices.map Notice.line) (notices'.map Notice.line) ∧
          (notices.map Notice.line = notices'.map Notice.line ↔
            archive.token = archive'.token)) := by
  obtain ⟨lookups, hlog, -⟩ := requests_of_call (archive.request alert.check) web earlier
  obtain ⟨results, lookups', hlog', twins⟩ :=
    Archive.lookUp_twin address noQuery ignores fits hlog
  obtain ⟨line, told⟩ := Archive.lookupOf_twin (watch earlier) alert.check results
  have log := (Enricher.log_mentions web archive watch alert earlier).trans hlog
  have log' := (Enricher.log_mentions web archive' watch alert earlier).trans hlog'
  have built := chat.messageFor_eq log
  have built' := chat.messageFor_eq log'
  simp only [Enricher.mentions] at built built'
  rw [← line] at built'
  -- after the lookups the web has seen twins, so it answers the posts alike
  have same (more : List Sent) (out : Sent) :
      web (earlier ++ lookups ++ more) out = web (earlier ++ lookups' ++ more) out :=
    have logs := List.rel_append (Sent.Twin.refl_each earlier) twins
    ignores _ _ _ _ (List.rel_append logs (Sent.Twin.refl_each more)) (.refl out)
  obtain ⟨asked, posted, posted'⟩ := call_after same (chat.request (.ofAlert chat.username alert
    (Archive.lookupOf (watch earlier) alert.check
      (archive.lookUp web alert.check earlier).1).line?))
  have deliver : (chat.sink web (.mentions web archive watch)).deliver earlier alert = _ :=
    Chat.deliver_eq built
  have deliver' : (chat.sink web (.mentions web archive' watch)).deliver earlier alert = _ :=
    Chat.deliver_eq built'
  rw [posted] at deliver
  rw [posted'] at deliver'
  refine ⟨lookups, lookups', _, _, _, asked, hlog, hlog', twins, deliver, deliver', told, ?_⟩
  rintro before last rfl
  constructor
  · intro settles
    exact Archive.notices_of_settles hlog settles results
  · intro lost
    have twice := Archive.tellTwice_of_isLost address noQuery ignores fits hlog lost
    exact ⟨twice, twice.eq_iff.trans Archive.query_eq_iff⟩

/-! ## Two tokens -/

namespace Unanswered

/-- A chat on this machine. -/
def chat : Chat := ⟨"http://[::1]/hook", "radalert"⟩

/-- Its archive, with a token. -/
def archive (token : String) : Archive := ⟨"http://[::1]/api", token⟩

/-- An alert about a check. -/
def alert : Alert := ⟨some "CRITICAL", "MyCo", "disk", none, none, []⟩

/-- A web in which every request gets one answer. -/
def web (answer : Answer) : Web := fun _ _ => answer

/-- What the archive answers. -/
def answered : Answer := .reply ⟨.ok, [], .ok (Octets.ofText "\x7b\"ok\":true\x7d")⟩

/-- The chat, with lookups by a token where every request gets one answer. -/
def sinkOn (answer : Answer) (watch : Watch) (token : String) : Sink (List Sent) Alert :=
  chat.sink (web answer) (.mentions (web answer) (archive token) fun _ => watch)

/-- What is told of an alert, with a token, where nobody answers. -/
def told (token : String) : List String :=
  ((sinkOn .closed .lookup token).deliver [] alert).2.1.map Notice.line

/-- That a request with a token could not be sent. -/
def unsent (token : String) : String :=
  "error sending request for url (http://[::1]/api/search.messages?token=" ++ token ++ "&query=disk)"

theorem hasNoQuery_url (token : String) : Net.HasNoQuery (archive token).url.toList :=
  .of_not_mem (show '?' ∉ "http://[::1]/api".toList by decide)

/-- A search sends something. -/
theorem exists_last_lookup {answer : Answer} {lookups : List Sent}
    (hlog : ((archive "xoxb-1").lookUp (web answer) alert.check []).2 = [] ++ lookups) :
    ∃ before last, lookups = before ++ [last] := by
  obtain ⟨asked, hlog', first⟩ :=
    requests_of_call ((archive "xoxb-1").request alert.check) (web answer) []
  obtain rfl := List.append_cancel_left (hlog.symm.trans hlog')
  have searchable : ((archive "xoxb-1").request alert.check).first?.isSome = true := by
    decide
  have some : lookups ≠ [] := by
    rintro rfl
    rw [← first] at searchable
    cases searchable
  exact ⟨_, _, (List.dropLast_append_getLast some).symm⟩

/-- What is told where nobody answers, with the token in it. -/
def line (token : String) : String :=
  "WARN history lookup failed, posting without it: search.messages request failed: " ++
    "request failed: " ++ unsent token ++ ": " ++ unsent token ++
    ": client error (SendRequest): connection closed before message completed"

/-- Where nobody answers the token is told, so that with two tokens two things are told. -/
theorem told_of_tokens :
    told "xoxb-1" = [line "xoxb-1"] ∧ told "xoxb-2" = [line "xoxb-2"] ∧
      told "xoxb-1" ≠ told "xoxb-2" := by
  have first : told "xoxb-1" = [line "xoxb-1"] := by decide +kernel
  have second : told "xoxb-2" = [line "xoxb-2"] := by decide +kernel
  refine ⟨first, second, ?_⟩
  rw [first, second]
  decide +kernel

/-- Whether the same comes of an alert with two tokens, and different things are told. -/
def TellApart (answer : Answer) (watch : Watch) : Prop :=
  ∃ delivery notices notices' log log',
    (sinkOn answer watch "xoxb-1").deliver [] alert = (.finished delivery, notices, log) ∧
    (sinkOn answer watch "xoxb-2").deliver [] alert = (.finished delivery, notices', log') ∧
    notices.map Notice.line ≠ notices'.map Notice.line

/-- Whether the same comes of an alert with two tokens, and the same is told. -/
def TellAlike (answer : Answer) (watch : Watch) : Prop :=
  ∃ delivery notices log log',
    (sinkOn answer watch "xoxb-1").deliver [] alert = (.finished delivery, notices, log) ∧
    (sinkOn answer watch "xoxb-2").deliver [] alert = (.finished delivery, notices, log')

/-- With two tokens the same comes of an alert. What is told differs if nobody answers, and is the
same if the archive does. If nothing happens until the time is up, it differs if the call notices
that, and is the same if the lookup does. -/
theorem delivery_of_two_tokens :
    TellApart .closed .lookup ∧ TellApart .stalled .call ∧
      TellAlike answered .lookup ∧ TellAlike .stalled .lookup := by
  have address : (archive "xoxb-1").url = (archive "xoxb-2").url := rfl
  have size : ((archive "xoxb-1").query alert.check).utf8ByteSize =
      ((archive "xoxb-2").query alert.check).utf8ByteSize := by
    decide
  have apart (answer : Answer) (watch : Watch) (lost : answer.IsLost watch) :
      TellApart answer watch := by
    obtain ⟨lookups, lookups', notices, notices', delivery, asked, hlog, -, -, deliver, deliver', -,
      ends⟩ := delivery_of_tokens (web answer) chat (fun _ => watch) alert [] address
        (hasNoQuery_url _) (Web.ignores_constant answer _ _) (Archive.fitsAs_of_size size _ [])
    obtain ⟨before, last, split⟩ := exists_last_lookup hlog
    refine ⟨delivery, notices, notices', _, _, deliver, deliver', ?_⟩
    intro same
    exact absurd (((ends before last split).2 lost).2.mp same) (by decide)
  have alike (answer : Answer) (watch : Watch) (settles : ∀ out, answer.Settles watch out) :
      TellAlike answer watch := by
    obtain ⟨lookups, lookups', notices, notices', delivery, asked, hlog, -, -, deliver, deliver', -,
      ends⟩ := delivery_of_tokens (web answer) chat (fun _ => watch) alert [] address
        (hasNoQuery_url _) (Web.ignores_constant answer _ _) (Archive.fitsAs_of_size size _ [])
    obtain ⟨before, last, split⟩ := exists_last_lookup hlog
    obtain rfl := (ends before last split).1 (settles last)
    exact ⟨delivery, notices, _, _, deliver, deliver'⟩
  exact ⟨apart .closed .lookup trivial, apart .stalled .call rfl,
    alike answered .lookup fun out => goal_of_isSuccess rfl out.url,
    alike .stalled .lookup fun _ => rfl⟩

end Unanswered

end PulseBridge
