import ChainWatch.Proofs.Service.Event
import ChainWatch.Service.Clockwork

/-!
# A refused request changes nothing

A command is checked as a whole before it is carried out: the list of nodes before the run of the
service is cancelled, and all that is asked of a run before it is started. So a request either does
what it asks for (`Service.Admits`) or is refused, and then the service with its runs and their
tickers is what it was (`refused_requests_atomic`).

The caller of a run may wait long for its answer, and what it gets then is no refusal.
-/

namespace ChainWatch

namespace Http.Response

/-- Of all replies, only those of the kind of errors are sent as refusals. -/
theorem isRefusal_ofReply_iff (r : Reply) : (ofReply r).IsRefusal ↔ r.isError = true := by
  unfold ofReply
  cases r.isError with
  | false => exact iff_of_false (fun h => h.1 rfl) Bool.false_ne_true
  | true =>
    have hstatus : (400 : UInt16) ≠ 200 ∧ (400 : UInt16) ≠ 410 := by decide
    exact iff_of_true hstatus rfl

/-- The message of a reply of the kind of errors stands at one place in the body. -/
theorem body_ofReply_error : ∃ opening closing : List UInt8, ∀ message,
    (ofReply (.error message)).body
      = opening ++ (encodeUtf8Chars (Json.writeChars message.toList) ++ closing) := by
  refine ⟨encodeUtf8Chars ('\x7b' :: (Json.writeString "kind" ++ ':' :: (Json.writeString "error" ++
    ',' :: (Json.writeString "message" ++ [':', '"'])))), encodeUtf8Chars ['"', '\x7d'],
    fun message => ?_⟩
  -- the kind is written first and the diagnosis is left out, so only the message varies
  unfold ofReply ofJson encodeUtf8Chars
  dsimp only
  rw [← List.flatMap_append, ← List.flatMap_append, Json.Tree.write, encodeUtf8, encodeUtf8Chars,
    String.toList_ofList]
  simp only [Reply.toJson, Reply.error, ReplyKind.toJson, ReplyKind.word, Json.optionalMember,
    Json.Tree.record, Json.Tree.text, Json.Tree.writeChars, Json.Tree.writeMembers,
    Json.writeLeafString, Json.writeString, List.map_cons, List.map_nil, List.cons_append,
    List.nil_append, List.append_nil, List.append_assoc]

/-- The first byte of a message as it is written. -/
def firstByte? (message : String) : Option UInt8 :=
  (encodeUtf8Chars (Json.writeChars message.toList)).head?

theorem firstByte?_append {opening : String} {b : UInt8} (h : firstByte? opening = some b)
    (rest : String) : firstByte? (opening ++ rest) = some b := by
  unfold firstByte? encodeUtf8Chars Json.writeChars at h ⊢
  rw [String.toList_append, List.flatMap_append, List.flatMap_append, List.head?_append, h,
    Option.some_or]

theorem ofReply_error_ne {message message' : String} {b b' : UInt8}
    (hfirst : firstByte? message = some b) (hfirst' : firstByte? message' = some b')
    (hne : b ≠ b') : ofReply (.error message) ≠ ofReply (.error message') := by
  intro h
  obtain ⟨opening, closing, hbody⟩ := body_ofReply_error
  have hbodies := congrArg body h
  rw [hbody, hbody, List.append_cancel_left_eq] at hbodies
  -- behind the common opening the messages begin
  have hheads := congrArg List.head? hbodies
  rw [List.head?_append, List.head?_append, ← firstByte?, ← firstByte?, hfirst, hfirst',
    Option.some_or, Option.some_or] at hheads
  exact hne (Option.some.inj hheads)

end Http.Response

/-- No fault is answered like a text that is no command. -/
theorem ControlFault.ofReply_message_ne (fault : ControlFault) :
    Http.Response.ofReply (.error fault.message) ≠ .ofReply (.error Reply.noSuchFunction) := by
  have hnone : Http.Response.firstByte? Reply.noSuchFunction = some 'N'.toUInt8 := by decide
  -- the first letters differ, whatever follows
  have hfirst : ∃ c : Char, Http.Response.firstByte? fault.message = some c.toUInt8 ∧
      c.toUInt8 ≠ 'N'.toUInt8 := by
    cases fault with
    | notConfigured => exact ⟨'n', by decide, by decide⟩
    | invalidNodes fault => exact ⟨'i', Http.Response.firstByte?_append (by decide) _, by decide⟩
    | invalidAmount => exact ⟨'a', by decide, by decide⟩
    | invalidFreq freq => exact ⟨'f', Http.Response.firstByte?_append (by decide) _, by decide⟩
    | runInProgress => exact ⟨'a', by decide, by decide⟩
  obtain ⟨c, hc, hne⟩ := hfirst
  exact Http.Response.ofReply_error_ne hc hnone hne

namespace Service

variable {s : Service} {a : Http.Arrival} {c : Command}

/-- The requests that a service does not refuse. -/
def Admits (s : Service) (a : Http.Arrival) : Prop :=
  a.AsksHealth ∨ ∃ c, a.command? = some c ∧ s.Accepts c

/-- What a service accepts is acknowledged, unless it is a run to wait for. -/
theorem handle_of_accepts (h : s.Accepts c) {outcome : Outcome}
    (houtcome : (s.handle c).2 = .answered outcome) :
    ∃ message, outcome = .reply (.ack message) := by
  have hhandles := s.handles_handle c
  rcases hhandle : s.handle c with ⟨s', handling⟩
  rw [hhandle] at hhandles houtcome
  obtain rfl : handling = .answered outcome := houtcome
  cases hhandles with
  -- what is refused was not accepted
  | unlisted hnodes =>
    rw [Accepts, hnodes] at h
    cases h
  | configured _ => exact ⟨_, rfl⟩
  | stopped => exact ⟨_, rfl⟩
  | refused hparams =>
    rw [← isOk_paramsOf_iff, hparams] at h
    cases h

/-- What a service does not accept leaves it as it is. -/
theorem handle_of_not_accepts (h : ¬ s.Accepts c) : ∃ fault, s.handle c = s.refuse fault := by
  have hhandles := s.handles_handle c
  rcases hhandle : s.handle c with ⟨s', handling⟩
  rw [hhandle] at hhandles
  cases hhandles with
  | unlisted hnodes => exact ⟨_, rfl⟩
  | configured hnodes => exact absurd (by rw [Accepts, hnodes]; rfl) h
  | stopped => exact absurd trivial h
  | refused hparams => exact ⟨_, rfl⟩
  | started hparams => exact absurd ((s.isOk_paramsOf_iff _).mp (by rw [hparams]; rfl)) h

/-- A request that is not refused gets no refusal. -/
theorem receive_of_admits (h : s.Admits a) (uptime : UInt64) {response : Http.Response}
    (hresponse : (s.receive a uptime).2 = .answered response) : ¬ response.IsRefusal := by
  rcases h with hasks | ⟨c, hcommand, haccepts⟩
  · -- nothing is posted where the health is asked for
    have htext : a.text? = none :=
      if_neg fun hpost => absurd (hpost.1.symm.trans hasks.1) (by decide)
    obtain ⟨response', hreceive, hrefusal⟩ := receive_of_text?_eq_none (s := s) htext uptime
    rw [hreceive] at hresponse
    cases hresponse
    exact fun h => hrefusal.mp h hasks
  · rw [receive_of_command? hcommand] at hresponse
    cases hhandling : (s.handle c).2 with
    | waiting run =>
      rw [hhandling] at hresponse
      cases hresponse
    | answered outcome =>
      rw [hhandling] at hresponse
      cases hresponse
      -- it is answered at once, and so with an acknowledgement
      obtain ⟨message, rfl⟩ := handle_of_accepts haccepts hhandling
      rw [Http.Response.ofOutcome, Http.Response.isRefusal_ofReply_iff]
      exact Bool.false_ne_true

/-- A text that is posted and refused gets a reply of the kind of errors, and the response tells
whether the text was a command. -/
theorem receive_of_text?_of_not_admits (h : ¬ s.Admits a) {text : String}
    (htext : a.text? = some text) (uptime : UInt64) :
    ∃ message, s.receive a uptime = (s, .answered (.ofReply (.error message))) ∧
      (Http.Response.ofReply (.error message) = .ofReply (.error Reply.noSuchFunction) ↔
        Command.parse? text = none) := by
  cases hparse : Command.parse? text with
  | none =>
    have hreceive := receive_of_text? (s := s) htext uptime
    rw [hparse] at hreceive
    exact ⟨_, hreceive, iff_of_true rfl rfl⟩
  | some c =>
    have hcommand : a.command? = some c := by
      rw [Http.Arrival.command?, htext]
      exact hparse
    -- it is a command, and the service does not accept it
    obtain ⟨fault, hhandle⟩ := handle_of_not_accepts fun haccepts =>
      h (Or.inr ⟨c, hcommand, haccepts⟩)
    have hreceive := receive_of_command? (s := s) hcommand uptime
    rw [hhandle] at hreceive
    exact ⟨fault.message, hreceive,
      iff_of_false fault.ofReply_message_ne (Option.some_ne_none c)⟩

/-- **Dichotomy.** A request that is not admitted is refused and leaves the service as it is. -/
theorem receive_of_not_admits (h : ¬ s.Admits a) (uptime : UInt64) :
    ∃ response, s.receive a uptime = (s, .answered response) ∧ response.IsRefusal := by
  cases htext : a.text? with
  | none =>
    obtain ⟨response, hreceive, hrefusal⟩ := receive_of_text?_eq_none (s := s) htext uptime
    exact ⟨response, hreceive, hrefusal.mpr fun hasks => h (Or.inl hasks)⟩
  | some text =>
    obtain ⟨message, hreceive, -⟩ := receive_of_text?_of_not_admits h htext uptime
    exact ⟨_, hreceive, (Http.Response.isRefusal_ofReply_iff _).mpr rfl⟩

/-- What a caller gets who has waited for a run is no refusal. -/
theorem resume_not_isRefusal {run : RunId} {outcome : Outcome}
    (houtcome : (s.resume run).2 = some outcome) :
    ¬ (Http.Response.ofOutcome outcome).IsRefusal := by
  have hresumes := s.resumes_resume run
  rw [houtcome] at hresumes
  generalize (s.resume run).1 = s' at hresumes
  cases hresumes with
  | settled _ _ _ =>
    rw [Http.Response.ofOutcome, Http.Response.isRefusal_ofReply_iff]
    exact Bool.false_ne_true
  | cancelled _ _ _ => exact fun h => h.2 rfl

end Service

namespace Clockwork

variable {c : Clockwork} {a : Http.Arrival}

/-- The tickers have no part in the answer. -/
theorem receive_snd (c : Clockwork) (a : Http.Arrival) (now : Nat) (uptime : UInt64) :
    (c.receive a now uptime).2 = (c.service.receive a uptime).2 := by
  unfold receive
  rcases c.service.receive a uptime with ⟨s, response | run⟩
  · rfl
  · dsimp only
    split <;> rfl

/-- A request that is refused leaves the tickers as they are, too. -/
theorem receive_of_not_admits (h : ¬ c.service.Admits a) (now : Nat) (uptime : UInt64) :
    (c.receive a now uptime).1 = c := by
  obtain ⟨response, hreceive, -⟩ := Service.receive_of_not_admits h uptime
  unfold receive
  rw [hreceive]

/-- **A refused request changes nothing.** A request is refused, with a status other than 200 and
410, exactly if the service does not admit it. Then the service, its runs with all that they wait
for, and their tickers are as before; no run is started, and nothing is sent. If the request has
posted a text, the response has the status 400 and carries a reply of the kind of errors, and it is
the one with the message "No Such Function" exactly if the text is no command. A caller who waits
for a run is not refused later. -/
theorem refused_requests_atomic (c : Clockwork) (a : Http.Arrival) (now : Nat) (uptime : UInt64) :
    let c' := (c.receive a now uptime).1
    let reception := (c.receive a now uptime).2
    ((∃ response, reception = .answered response ∧ response.IsRefusal) ↔ ¬ c.service.Admits a) ∧
    (∀ response, reception = .answered response → response.IsRefusal →
      c' = c ∧
      (c.service.react (.request a uptime)).1 = c.service ∧
      (c.service.react (.request a uptime)).2.started? = none ∧
      (c.service.react (.request a uptime)).2.requests = [] ∧
      ∀ text, a.text? = some text → response.status = 400 ∧
        (∃ message, response = .ofReply (.error message)) ∧
        (response = .ofReply (.error Reply.noSuchFunction) ↔ Command.parse? text = none)) ∧
    (∀ (later : Clockwork) run response, (later.resume run).2 = some response →
      ¬ response.IsRefusal) := by
  intro c' reception
  -- all is decided by the service, and the tickers follow
  have hreception : reception = (c.service.receive a uptime).2 := c.receive_snd a now uptime
  have hrefused : (∃ response, reception = .answered response ∧ response.IsRefusal)
      ↔ ¬ c.service.Admits a := by
    rw [hreception]
    constructor
    · rintro ⟨response, hresponse, hrefusal⟩ hadmits
      exact Service.receive_of_admits hadmits uptime hresponse hrefusal
    · intro h
      obtain ⟨response, hreceive, hrefusal⟩ := Service.receive_of_not_admits h uptime
      exact ⟨response, by rw [hreceive], hrefusal⟩
  refine ⟨hrefused, fun response hresponse hrefusal => ?_, fun later run response hlater => ?_⟩
  · have hadmits : ¬ c.service.Admits a := hrefused.mp ⟨response, hresponse, hrefusal⟩
    obtain ⟨response', hreceive, -⟩ := Service.receive_of_not_admits hadmits uptime
    refine ⟨receive_of_not_admits hadmits now uptime, ?_, ?_, rfl, fun text htext => ?_⟩
    · rw [Service.react, hreceive]
    · rw [Service.react, hreceive]
      rfl
    · obtain ⟨message, htold, hmessage⟩ :=
        Service.receive_of_text?_of_not_admits hadmits htext uptime
      rw [hreception, htold] at hresponse
      cases hresponse
      exact ⟨rfl, ⟨message, rfl⟩, hmessage⟩
  · obtain ⟨outcome, houtcome, rfl⟩ := Option.map_eq_some_iff.mp hlater
    exact Service.resume_not_isRefusal houtcome

end Clockwork

end ChainWatch
