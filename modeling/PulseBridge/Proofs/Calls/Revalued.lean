import Mathlib.Data.List.Forall2
import PulseBridge.Proofs.Calls.Alike

/-!
# Calls that differ in a header

A header that the client neither sets nor reads goes along with a request as it is: it is completed,
sent on and shown to other places without regard to what that header says. So two requests that
differ in nothing but the value of such a header are sent on alike by a web that does not look at
it, and differ in nothing else to the end.

## Main definitions

* `Sent.revalue`: a request with another value in the headers of one name.
* `Web.IgnoresHeader`: answers that do not depend on the headers of one name.

## Main statements

* `Sent.outgoing_revalue`, `Sent.redirected_revalue`: nothing that is done to a request depends on
  such a header.
* `call_revalue`: calls that differ in such a header come to the same and send the same but for it.
-/

namespace PulseBridge.Http

open Net (Url)

/-! ## Headers of one name -/

/-- The header, with another value if it goes by this name. -/
def Header.revalue (name value : String) (h : Header) : Header :=
  if h.name = name then { h with value } else h

/-- The request with another value in every header of this name. -/
def Sent.revalue (name value : String) (sent : Sent) : Sent :=
  { sent with headers := sent.headers.map (Header.revalue name value) }

/-- Whether two requests differ in nothing but the values of the headers of this name. -/
def Sent.AlikeBut (name : String) (sent sent' : Sent) : Prop :=
  sent.revalue name "" = sent'.revalue name ""

/-- Whether the answers of a web are the same whatever the values of the headers of this name. -/
def Web.IgnoresHeader (web : Web) (name : String) : Prop :=
  ∀ earlier earlier' out out', List.Forall₂ (Sent.AlikeBut name) earlier earlier' →
    out.AlikeBut name out' → web earlier out = web earlier' out'

/-- Whether the client neither sets a header of this name nor reads it. -/
def IsForeign (name : String) : Prop :=
  name ∉ ["accept", "referer", lengthHeader, encodingHeader]

instance (name : String) : Decidable (IsForeign name) := inferInstanceAs (Decidable (_ ∉ _))

variable {name value : String}

@[simp] theorem Header.name_revalue (h : Header) : (h.revalue name value).name = h.name := by
  unfold revalue
  split <;> rfl

theorem Header.revalue_of_ne {h : Header} (other : h.name ≠ name) : h.revalue name value = h :=
  if_neg other

/-- Only the last of two values counts. -/
theorem Header.revalue_revalue (h : Header) (value' : String) :
    (h.revalue name value).revalue name value' = h.revalue name value' := by
  by_cases same : h.name = name <;> simp [revalue, same]

section Headers

variable (hs : List Header) {other : String}

theorem hasHeader_revalue (asked : String) :
    hasHeader asked (hs.map (Header.revalue name value)) = hasHeader asked hs := by
  simp [hasHeader, List.any_map, Function.comp_def]

/-- Headers of other names stay as they are. -/
theorem map_revalue_of_ne {hs : List Header} (others : ∀ h ∈ hs, h.name ≠ name) (value : String) :
    hs.map (Header.revalue name value) = hs :=
  (List.map_congr_left fun h mem => Header.revalue_of_ne (others h mem)).trans (List.map_id' hs)

theorem dropHeaders_revalue (names : List String) :
    dropHeaders names (hs.map (Header.revalue name value)) =
      (dropHeaders names hs).map (Header.revalue name value) := by
  simp [dropHeaders, List.filter_map, Function.comp_def]

theorem headerValues_revalue (h : other ≠ name) :
    headerValues other (hs.map (Header.revalue name value)) = headerValues other hs := by
  simp only [headerValues, List.filter_map, List.map_map, Function.comp_def, Header.name_revalue]
  apply List.map_congr_left
  intro header mem
  have named : header.name = other := by simpa using (List.mem_filter.mp mem).2
  rw [Header.revalue_of_ne (named ▸ h)]

theorem setHeader_revalue (h : other ≠ name) (text : String) :
    setHeader other text (hs.map (Header.revalue name value)) =
      (setHeader other text hs).map (Header.revalue name value) := by
  have kept : Header.revalue name value ⟨other, text⟩ = ⟨other, text⟩ := Header.revalue_of_ne h
  rw [setHeader, setHeader, dropHeaders_revalue, List.map_append, List.map_singleton, kept]

theorem chunkedHeaders_revalue (h : encodingHeader ≠ name) :
    chunkedHeaders (hs.map (Header.revalue name value)) =
      (chunkedHeaders hs).map (Header.revalue name value) := by
  have kept : Header.revalue name value ∘ (⟨encodingHeader, ·⟩) = (⟨encodingHeader, ·⟩) :=
    funext fun _ => Header.revalue_of_ne h
  rw [chunkedHeaders, chunkedHeaders, dropHeaders_revalue, headerValues_revalue hs h,
    List.map_append, List.map_map, kept]

end Headers

namespace Sent

/-! ## What is done to requests -/

variable (sent : Sent)

theorem framed_revalue (foreign : IsForeign name) :
    (sent.revalue name value).framed = sent.framed.revalue name value := by
  simp only [IsForeign, List.mem_cons, not_or] at foreign
  obtain ⟨-, -, length, encoding, -⟩ := foreign
  have announced (hs : List Header) :
      announcedLength? (hs.map (Header.revalue name value)) = announcedLength? hs := by
    rw [announcedLength?, announcedLength?, ← lengthHeader,
      headerValues_revalue hs (Ne.symm length)]
  unfold framed revalue
  simp only [hasHeader_revalue, announced, dropHeaders_revalue]
  split
  · rfl
  · split
    · split <;> simp only [chunkedHeaders_revalue _ (Ne.symm encoding)]
    · split
      · rfl
      · rw [setHeader_revalue _ (Ne.symm length)]

theorem complete_revalue (foreign : IsForeign name) :
    (sent.revalue name value).complete = sent.complete.revalue name value := by
  have accept : "accept" ≠ name := fun same => foreign (by simp [← same])
  have kept (hs : List Header) :
      (if hasHeader "accept" hs then [] else [(⟨"accept", "*/*"⟩ : Header)]).map
        (Header.revalue name value) =
      if hasHeader "accept" hs then [] else [⟨"accept", "*/*"⟩] := by
    split
    · rfl
    · exact map_revalue_of_ne (by simpa using accept) value
  unfold complete
  rw [← framed_revalue _ foreign]
  simp only [revalue, hasHeader_revalue, List.map_append, kept]

theorem comingFrom_revalue (foreign : IsForeign name) (previous : Url) :
    (sent.revalue name value).comingFrom previous =
      (sent.comingFrom previous).revalue name value := by
  have referer : "referer" ≠ name := fun same => foreign (by simp [← same])
  unfold comingFrom
  simp only [revalue]
  have shown (hs : List Header) :
      (if sameHost sent.url previous then hs.map (Header.revalue name value)
        else dropHeaders secretHeaders (hs.map (Header.revalue name value))) =
      (if sameHost sent.url previous then hs else dropHeaders secretHeaders hs).map
        (Header.revalue name value) := by
    split
    · rfl
    · rw [dropHeaders_revalue]
  cases referer? sent.url previous with
  | none => exact congrArg (Sent.mk _ _ · _) (shown _)
  | some page =>
      simp only [setHeader_revalue _ referer]
      exact congrArg (Sent.mk _ _ · _) (shown _)

/-- A request goes out with the other value, and is otherwise the same. -/
theorem outgoing_revalue (foreign : IsForeign name) (previous : Option Url) :
    (sent.revalue name value).outgoing previous =
      (sent.outgoing previous).revalue name value := by
  cases previous with
  | none => exact complete_revalue sent foreign
  | some previous =>
      simp only [outgoing, Option.map_some, Option.getD_some]
      rw [comingFrom_revalue sent foreign, complete_revalue _ foreign]

theorem fetching_revalue (method : String) :
    (sent.revalue name value).fetching method = (sent.fetching method).revalue name value := by
  simp [fetching, revalue, dropHeaders_revalue]

/-- A request is sent on with the other value, and is otherwise the same. -/
theorem redirected_revalue (status : Status) (next : Url) :
    (sent.revalue name value).redirected status next =
      (sent.redirected status next).revalue name value := by
  have there : ({ sent.revalue name value with url := next } : Sent) =
      ({ sent with url := next } : Sent).revalue name value := rfl
  unfold redirected
  dsimp only
  rw [there]
  have method : (sent.revalue name value).method = sent.method := rfl
  rw [method]
  split
  · split
    · rw [fetching_revalue]
    · rfl
  · split
    · rw [fetching_revalue]
    · rfl
  · rw [fetching_revalue]
  · rfl

theorem alikeBut_revalue (value : String) : sent.AlikeBut name (sent.revalue name value) := by
  simp [AlikeBut, revalue, Header.revalue_revalue]

/-- Requests with two values instead of their own differ in nothing else. -/
theorem rel_map_revalue (asked : List Sent) (value value' : String) :
    List.Forall₂ (AlikeBut name) (asked.map (revalue name value))
      (asked.map (revalue name value')) := by
  rw [List.forall₂_map_left_iff, List.forall₂_map_right_iff]
  exact List.forall₂_same.mpr fun out _ => by simp [AlikeBut, revalue, Header.revalue_revalue]

theorem alikeBut_refl : sent.AlikeBut name sent := rfl

/-- Other values make no difference to what a request asks for. -/
theorem alike_revalue : (sent.revalue name value).Alike sent := ⟨rfl, rfl⟩

end Sent

/-- A web in which every request gets one answer ignores every header. -/
theorem Web.ignoresHeader_constant (answer : Answer) (name : String) :
    Web.IgnoresHeader (fun _ _ => answer) name :=
  fun _ _ _ _ _ _ => rfl

/-! ## Calls -/

variable {web : Web} {origin : Url} {redirects : Nat} {previous : Option Url}
variable {earlier earlier' : List Sent} {sent : Sent}

/-- Calls that differ in a header that is ignored take the same course. The induction is on how
often the first may be sent on; the answers, which both get, decide that the second follows it. -/
theorem exchange_revalue (foreign : IsForeign name) (ignores : web.IgnoresHeader name)
    (logs : List.Forall₂ (Sent.AlikeBut name) earlier earlier') (value : String) :
    ∃ asked, (exchange web origin redirects previous earlier sent).2 = earlier ++ asked ∧
      exchange web origin redirects previous earlier' (sent.revalue name value) =
        ((exchange web origin redirects previous earlier sent).1,
          earlier' ++ asked.map (Sent.revalue name value)) := by
  have out (sent : Sent) (previous : Option Url) : (sent.revalue name value).outgoing previous =
      (sent.outgoing previous).revalue name value := sent.outgoing_revalue foreign previous
  induction redirects generalizing previous earlier earlier' sent with
  | zero =>
      have answer := ignores _ _ _ _ logs ((sent.outgoing previous).alikeBut_revalue value)
      rw [exchange_of_end rfl (.inl rfl), exchange_of_end (out ..) (.inl rfl), ← answer,
        Sent.alike_revalue _ |>.ending_eq]
      exact ⟨_, rfl, rfl⟩
  | succ n ih =>
      have answer := ignores _ _ _ _ logs ((sent.outgoing previous).alikeBut_revalue value)
      have same : ((sent.outgoing previous).revalue name value).Alike (sent.outgoing previous) :=
        Sent.alike_revalue _
      have onward' := same.onward_eq (web earlier (sent.outgoing previous))
      cases onward : (web earlier (sent.outgoing previous)).onward? (sent.outgoing previous) with
      | none =>
          rw [onward, answer] at onward'
          rw [exchange_of_end rfl (.inr onward), exchange_of_end (out ..) (.inr onward'), ← answer,
            Sent.alike_revalue _ |>.ending_eq]
          exact ⟨_, rfl, rfl⟩
      | some next =>
          obtain ⟨received, reply, -⟩ := Answer.reply_of_onward onward
          rw [onward] at onward'
          rw [reply] at onward onward'
          rw [exchange_of_onward rfl reply onward,
            exchange_of_onward (out ..) (answer.symm.trans reply) onward',
            Sent.redirected_revalue]
          have logs' : List.Forall₂ (Sent.AlikeBut name) (earlier ++ [sent.outgoing previous])
              (earlier' ++ [(sent.outgoing previous).revalue name value]) :=
            List.rel_append logs (.cons ((sent.outgoing previous).alikeBut_revalue value) .nil)
          obtain ⟨asked, log, rest⟩ := ih logs'
          refine ⟨sent.outgoing previous :: asked, by rw [log, List.append_assoc]; rfl, ?_⟩
          rw [List.append_assoc] at rest
          exact rest

/-- Calls whose requests differ in a header that is ignored come to the same and differ in nothing
else. -/
theorem call_revalue {request request' : Request} (prepared : request.prepare = .ok sent)
    {value : String} (prepared' : request'.prepare = .ok (sent.revalue name value))
    (foreign : IsForeign name) (ignores : web.IgnoresHeader name)
    (logs : List.Forall₂ (Sent.AlikeBut name) earlier earlier') :
    ∃ asked, (call web earlier request).2 = earlier ++ asked ∧
      call web earlier' request' =
        ((call web earlier request).1, earlier' ++ asked.map (Sent.revalue name value)) := by
  have nothing (earlier : List Sent) : earlier = earlier ++ [] := (List.append_nil _).symm
  have url : (sent.revalue name value).url = sent.url := rfl
  rw [call_of_prepare prepared, call_of_prepare prepared', url]
  split
  · exact ⟨[], nothing _, by rw [List.map_nil, ← nothing]⟩
  · split
    · exact ⟨[], nothing _, by rw [List.map_nil, ← nothing]⟩
    · exact exchange_revalue foreign ignores logs value

/-- A call keeps the value that its request has: all that it sends has it too. -/
theorem map_revalue_of_call {request : Request} (prepared : request.prepare = .ok sent)
    {value : String} (valued : sent.revalue name value = sent) (foreign : IsForeign name)
    (ignores : web.IgnoresHeader name) {asked : List Sent}
    (log : (call web earlier request).2 = earlier ++ asked) :
    asked.map (Sent.revalue name value) = asked := by
  have prepared' : request.prepare = .ok (sent.revalue name value) := by rw [prepared, valued]
  have logs : List.Forall₂ (Sent.AlikeBut name) earlier earlier :=
    List.forall₂_same.mpr fun out _ => out.alikeBut_refl
  obtain ⟨asked', log', again⟩ := call_revalue prepared prepared' foreign ignores logs
  obtain rfl := List.append_cancel_left (log.symm.trans log')
  rw [again] at log
  exact List.append_cancel_left log

end PulseBridge.Http
