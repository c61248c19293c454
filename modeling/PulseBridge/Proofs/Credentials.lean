import PulseBridge.Nudger
import PulseBridge.Proofs.Calls.Revalued
import PulseBridge.Proofs.Polls

/-!
# What depends on a credential

The credential of a check goes out in a header, and nothing else of a poll depends on it: not where
the provider is asked, not what is made of its answers, and not what is told of the poll. So two
polls with two credentials are the same to whoever does not look at that header, a provider that
ignores it included.

What is no value of a header cannot be sent, so whether a credential is one makes a difference. It
makes the same difference for all that are none.

## Main statements

* `poll_of_credentials`: polls of a check with two credentials come to the same and ask for the
  same, each with its own credential.
* `pollAll_of_credentials`: so do ticks over two lists of such checks.
-/

namespace PulseBridge

open Http (Web Sent Header)

/-- Whether two checks differ in nothing but their credentials. -/
structure Check.AlikeButCredential (check check' : Check) : Prop where
  target : check.target = check'.target
  routingKey : check.routingKey = check'.routingKey
  tags : check.tags = check'.tags

theorem Check.AlikeButCredential.eq {check check' : Check}
    (alike : check.AlikeButCredential check') :
    check' = { check with credential := check'.credential } := by
  obtain ⟨target, credential, routingKey, tags⟩ := check
  obtain ⟨rfl, rfl, rfl⟩ := alike
  rfl

namespace PollPlan

/-- The header that carries the credential of a check, as it is sent. -/
def sentHeader : String := "x-api-key"

theorem isForeign_sentHeader : Http.IsForeign sentHeader := by decide

/-- A credential is sent if it is the value of a header. -/
theorem header_credential (credential : String) :
    Http.header credentialHeader credential =
      if Http.isHeaderValue credential then .ok ⟨sentHeader, credential⟩
      else .error .badHeaderValue := by
  have token : Http.isToken credentialHeader = true := by decide
  have small : String.ofList (credentialHeader.toList.map Text.asciiLower) = sentHeader := by decide
  simp only [Http.header, token, small, Bool.not_true, Bool.false_eq_true, if_false,
    Bool.not_eq_true']
  cases Http.isHeaderValue credential <;> rfl

variable (plan : PollPlan)

/-- The request about a check, whatever its credential, where the provider's URL can be read. -/
theorem prepare_request {check : Check} {url : Net.Url}
    (read : Http.requestUrl (TargetAddress.fill plan.template check.target) = .ok url) :
    ∃ headers : List Header, (∀ h ∈ headers, h.name ≠ sentHeader) ∧ ∀ credential,
      (plan.request { check with credential }).prepare =
        if Http.isHeaderValue credential then
          .ok ⟨"GET", url.takeCredentials.2, headers ++ [⟨sentHeader, credential⟩], []⟩
        else .error .badHeaderValue := by
  refine ⟨(url.takeCredentials.1.map fun c => Http.basicAuthorization c.1 c.2).toList, ?_, ?_⟩
  · intro h mem
    obtain ⟨c, -, rfl⟩ := Option.map_eq_some_iff.mp (Option.mem_toList.mp mem)
    show "authorization" ≠ sentHeader
    decide
  · intro credential
    simp only [Http.Request.prepare, request, Http.Request.get, read, List.mapM_cons,
      List.mapM_nil, header_credential, bind, Except.bind, pure, Except.pure]
    cases Http.isHeaderValue credential with
    | false => rfl
    | true => simp [Http.Body.headers, Http.Body.octets, Net.Url.appendQuery]

/-- Where the provider's URL cannot be read, no request about a check can be built. -/
theorem prepare_request_error {check : Check} {fault : Http.BuildFault}
    (unread : Http.requestUrl (TargetAddress.fill plan.template check.target) = .error fault)
    (credential : String) :
    (plan.request { check with credential }).prepare = .error fault := by
  simp [Http.Request.prepare, request, Http.Request.get, unread, bind, Except.bind]

/-- The requests about two checks that differ in nothing but their credentials, both of them values
of a header or both not: no request can be built, or each has its own credential and they differ in
nothing else. -/
theorem prepare_of_alike {check check' : Check} (alike : check.AlikeButCredential check')
    (legal : Http.isHeaderValue check.credential = Http.isHeaderValue check'.credential) :
    (∃ fault, (plan.request check).prepare = .error fault ∧
      (plan.request check').prepare = .error fault) ∨
    ∃ sent, (plan.request check).prepare = .ok sent ∧
      sent.revalue sentHeader check.credential = sent ∧
      (plan.request check').prepare = .ok (sent.revalue sentHeader check'.credential) := by
  rw [alike.eq]
  generalize check'.credential = credential' at legal ⊢
  cases read : Http.requestUrl (TargetAddress.fill plan.template check.target) with
  | error fault =>
      exact .inl ⟨fault, plan.prepare_request_error read check.credential,
        plan.prepare_request_error read credential'⟩
  | ok url =>
      obtain ⟨headers, others, prepare⟩ := plan.prepare_request read
      have prepared := prepare check.credential
      have prepared' := prepare credential'
      rw [← legal] at prepared'
      by_cases sendable : Http.isHeaderValue check.credential = true
      · rw [if_pos sendable] at prepared prepared'
        -- there are no other headers of that name
        have revalued (old new : String) :
            Sent.revalue sentHeader new
              ⟨"GET", url.takeCredentials.2, headers ++ [⟨sentHeader, old⟩], []⟩ =
            ⟨"GET", url.takeCredentials.2, headers ++ [⟨sentHeader, new⟩], []⟩ := by
          simp only [Sent.revalue, List.map_append, Http.map_revalue_of_ne others]
          rfl
        exact .inr ⟨_, prepared, revalued .., by rw [prepared', revalued]⟩
      · rw [if_neg sendable] at prepared prepared'
        exact .inl ⟨_, prepared, prepared'⟩

/-- What is made of an answer about a check does not depend on its credential. -/
theorem heartbeatsOfAnswer_of_alike {check check' : Check} (alike : check.AlikeButCredential check')
    (answer : Except Http.CallError Http.Fetched) :
    plan.heartbeatsOfAnswer check answer = plan.heartbeatsOfAnswer check' answer := by
  rw [alike.eq]
  rfl

/-- Nor does how far its poll comes with the answer. -/
theorem stageAfter_of_alike {check check' : Check} (alike : check.AlikeButCredential check')
    (answer : Except Http.CallError Http.Fetched) :
    plan.stageAfter check answer = plan.stageAfter check' answer := by
  simp only [stageAfter, plan.heartbeatsOfAnswer_of_alike alike]

variable {web : Web} {earlier earlier' : List Sent}

/-- Calls about two checks that differ in nothing but their credentials. -/
theorem call_of_alike {check check' : Check} (alike : check.AlikeButCredential check')
    (legal : Http.isHeaderValue check.credential = Http.isHeaderValue check'.credential)
    (ignores : web.IgnoresHeader sentHeader)
    (logs : List.Forall₂ (Sent.AlikeBut sentHeader) earlier earlier') :
    ∃ (answer : Except Http.CallError Http.Fetched) (asked : List Sent),
      Http.call web earlier (plan.request check) =
        (answer, earlier ++ asked.map (Sent.revalue sentHeader check.credential)) ∧
      Http.call web earlier' (plan.request check') =
        (answer, earlier' ++ asked.map (Sent.revalue sentHeader check'.credential)) := by
  rcases plan.prepare_of_alike alike legal with
    ⟨fault, unbuilt, unbuilt'⟩ | ⟨sent, prepared, valued, prepared'⟩
  · exact ⟨.error (.unbuilt fault), [], by simp [Http.call, unbuilt], by simp [Http.call, unbuilt']⟩
  · obtain ⟨asked, log, other⟩ :=
      Http.call_revalue prepared prepared' isForeign_sentHeader ignores logs
    have own := Http.map_revalue_of_call prepared valued isForeign_sentHeader ignores log
    exact ⟨_, asked, by rw [own, ← log], other⟩

/-- Asking about two checks that differ in nothing but their credentials. -/
theorem ask_of_alike {check check' : Check} (alike : check.AlikeButCredential check')
    (legal : Http.isHeaderValue check.credential = Http.isHeaderValue check'.credential)
    (ignores : web.IgnoresHeader sentHeader)
    (logs : List.Forall₂ (Sent.AlikeBut sentHeader) earlier earlier') :
    ∃ (result : Except Failure (List Heartbeat)) (asked : List Sent),
      plan.ask web check earlier =
        (result, earlier ++ asked.map (Sent.revalue sentHeader check.credential)) ∧
      plan.ask web check' earlier' =
        (result, earlier' ++ asked.map (Sent.revalue sentHeader check'.credential)) := by
  obtain ⟨answer, asked, call, call'⟩ := plan.call_of_alike alike legal ignores logs
  refine ⟨plan.heartbeatsOfAnswer check answer, asked, ?_, ?_⟩
  · simp only [ask, call]
  · simp only [ask, call', plan.heartbeatsOfAnswer_of_alike alike]

end PollPlan

/-! ## What is told of polls -/

/-- What a poll tells, as the nudger writes it down. -/
def Polled.entries (polled : Polled) : List Entry :=
  polled.notices.map fun notice => notice.entry (Nudger.pollScope notice)

/-- What a tick tells, as the nudger writes it down. -/
def Ticked.entries (ticked : Ticked) : List Entry :=
  ticked.notices.map fun notice => notice.entry (Nudger.pollScope notice)

/-- Whether two polls have done the same. -/
structure Polled.Same (polled polled' : Polled) : Prop where
  sent : polled.sent = polled'.sent
  count : polled.count = polled'.count
  entries : polled.entries = polled'.entries

/-- What a poll does with an answer does not depend on the credential of its check. -/
theorem Polled.same_of_alike {check check' : Check} (alike : check.AlikeButCredential check')
    (receiving : Bool) (result : Except Failure (List Heartbeat)) :
    (Polled.ofAnswer check receiving result).Same (Polled.ofAnswer check' receiving result) := by
  rw [alike.eq]
  cases result with
  | error failure => exact ⟨rfl, rfl, rfl⟩
  | ok heartbeats => cases receiving <;> exact ⟨rfl, rfl, rfl⟩

variable {web : Web} {earlier earlier' : List Sent}

/-- Polls of two checks that differ in nothing but their credentials come to the same, ask for the
same and tell the same, if the provider ignores the header with the credential. -/
theorem poll_of_credentials (plan : PollPlan) {check check' : Check}
    (alike : check.AlikeButCredential check')
    (legal : Http.isHeaderValue check.credential = Http.isHeaderValue check'.credential)
    (ignores : web.IgnoresHeader PollPlan.sentHeader)
    (logs : List.Forall₂ (Sent.AlikeBut PollPlan.sentHeader) earlier earlier') :
    ∃ (result : Except Failure (List Heartbeat)) (asked : List Sent),
      plan.ask web check earlier =
        (result, earlier ++ asked.map (Sent.revalue PollPlan.sentHeader check.credential)) ∧
      plan.ask web check' earlier' =
        (result, earlier' ++ asked.map (Sent.revalue PollPlan.sentHeader check'.credential)) ∧
      (∀ answer, plan.stageAfter check answer = plan.stageAfter check' answer) ∧
      ∀ receiving, (Polled.ofAnswer check receiving result).Same
        (Polled.ofAnswer check' receiving result) := by
  obtain ⟨result, asked, ask, ask'⟩ := plan.ask_of_alike alike legal ignores logs
  exact ⟨result, asked, ask, ask', plan.stageAfter_of_alike alike,
    fun receiving => Polled.same_of_alike alike receiving result⟩

namespace UnansweredPoll

/-- A provider on this machine. -/
def provider : PollPlan := ⟨"http://[::1]/apps/\x7bid\x7d", 300⟩

/-- A check with a credential. -/
def check (credential : String) : Check := ⟨"42", credential, "team", .empty⟩

/-- Where nobody answers, polls with two credentials fail alike, each after a request of its own. -/
theorem poll_of_two_credentials :
    ∃ (result : Except Failure (List Heartbeat)) (asked : List Sent),
      provider.ask (fun _ _ => .closed) (check "key-1") [] =
        (result, asked.map (Sent.revalue PollPlan.sentHeader "key-1")) ∧
      provider.ask (fun _ _ => .closed) (check "key-2") [] =
        (result, asked.map (Sent.revalue PollPlan.sentHeader "key-2")) ∧
      asked.length = 1 ∧
      ∀ receiving, (Polled.ofAnswer (check "key-1") receiving result).Same
        (Polled.ofAnswer (check "key-2") receiving result) := by
  obtain ⟨result, asked, ask, ask', -, same⟩ := poll_of_credentials provider
    (show (check "key-1").AlikeButCredential (check "key-2") from ⟨rfl, rfl, rfl⟩) (by decide)
    (Http.Web.ignoresHeader_constant .closed _) .nil
  refine ⟨result, asked, ask, ask', ?_, same⟩
  have once : (provider.ask (fun _ _ => .closed) (check "key-1") []).2.length = 1 := by
    decide +kernel
  rw [ask] at once
  simpa using once

end UnansweredPoll

/-! ## Ticks -/

/-- Whether two ticks have done the same, with requests that differ in nothing but their
credentials. -/
structure Ticked.Same (ticked ticked' : Ticked) : Prop where
  report : ticked.report = ticked'.report
  sent : ticked.sent = ticked'.sent
  entries : ticked.entries = ticked'.entries
  log : List.Forall₂ (Sent.AlikeBut PollPlan.sentHeader) ticked.log ticked'.log

/-- Ticks over two lists of checks that differ in nothing but their credentials do the same. The
induction is on the lists: after each poll the requests so far still differ in nothing else, so that
the next one gets the same answers. -/
theorem pollEach_of_credentials (plan : PollPlan) (receiving : Bool) {checks checks' : List Check}
    (alike : List.Forall₂ Check.AlikeButCredential checks checks')
    (legal : checks.map (Http.isHeaderValue ·.credential) =
      checks'.map (Http.isHeaderValue ·.credential))
    (ignores : web.IgnoresHeader PollPlan.sentHeader) {done done' : Ticked}
    (same : done.Same done') :
    (pollEach web plan receiving checks done).Same
      (pollEach web plan receiving checks' done') := by
  induction alike generalizing done done' with
  | nil => exact same
  | @cons check check' checks checks' first rest ih =>
      obtain ⟨legal, legals⟩ := List.cons.inj legal
      obtain ⟨result, asked, ask, ask'⟩ := plan.ask_of_alike first legal ignores same.log
      have polled := Polled.same_of_alike first receiving result
      rw [pollEach, pollEach]
      simp only [ask, ask']
      apply ih legals
      exact {
        report := by rw [same.report, polled.count]
        sent := by rw [same.sent, polled.sent]
        entries := by
          simp only [Ticked.entries, List.map_append]
          exact congrArg₂ _ same.entries polled.entries
        log := List.rel_append same.log (Sent.rel_map_revalue ..) }

/-- So do ticks from the beginning. -/
theorem pollAll_of_credentials (plan : PollPlan) (receiving : Bool) {checks checks' : List Check}
    (alike : List.Forall₂ Check.AlikeButCredential checks checks')
    (legal : checks.map (Http.isHeaderValue ·.credential) =
      checks'.map (Http.isHeaderValue ·.credential))
    (ignores : web.IgnoresHeader PollPlan.sentHeader)
    (logs : List.Forall₂ (Sent.AlikeBut PollPlan.sentHeader) earlier earlier') :
    (pollAll web plan receiving checks earlier).Same
      (pollAll web plan receiving checks' earlier') :=
  pollEach_of_credentials plan receiving alike legal ignores ⟨rfl, rfl, rfl, logs⟩

end PulseBridge
