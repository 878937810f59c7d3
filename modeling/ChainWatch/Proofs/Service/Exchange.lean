import ChainWatch.Cli.Plan
import ChainWatch.Proofs.Node.List
import ChainWatch.Proofs.Service.Answer
import ChainWatch.Proofs.Text.Utf8
import ChainWatch.Proofs.Wire.Reading

/-!
# A client and its service

A command goes a long way: the client writes it as JSON, the text becomes the body of a request, the
service reads the body, and what becomes of the command travels back as a status and a body, at once
or after a run. This file says that both ends mean the same (`client_agrees`): the client is told
what the service has come to, as if the command had been given to it directly.

* `Service.exchange` lets a service answer a client. Bodies and statuses arrive as they were sent,
  and whatever else happens to the service until the answer is a list of events;
* `Service.outcome?` is what becomes of a command that is given to the service directly, along the
  same events.

Two conditions on the command are needed (`commands_misunderstood`). A body that is too long is
refused before it is read, and this refusal is no reply. And an object in the debug value that is
written with `Json.embeddedName` in front is read as a text that it holds, so that the service is
not asked what the client has meant.
-/

namespace ChainWatch

open Json (maxDepth)

/-! ### Requests that arrive -/

namespace Http

/-- A request as it arrives at a server, under a target of the server's. -/
def Request.arrival (q : Request) (target : String) : Arrival where
  method := q.method
  target := target
  body := q.body.elim [] encodeUtf8

theorem text?_arrival_post {target : String} (address : String) (tree : Json.Tree)
    (htarget : Arrival.pathOf target.toList = ['/'])
    (hlength : (encodeUtf8 tree.write).length ≤ maxBodyLength) :
    ((Request.post address tree).arrival target).text? = some tree.write := by
  -- the body is accepted, and its bytes are the text again
  have hpath : ((Request.post address tree).arrival target).path = "/" :=
    congrArg String.ofList htarget
  have hbody : ((Request.post address tree).arrival target).body = encodeUtf8 tree.write := rfl
  rw [Arrival.text?, hbody, if_pos ⟨hpath, rfl, hlength⟩, decodeUtf8_encodeUtf8]
  rfl

/-- The request that brings a command. -/
def commandRequest (server : String) (c : Command) : Request :=
  .post (controlAddress server) c.toJson

theorem command?_arrival {server target : String} {c : Command}
    (htarget : Arrival.pathOf target.toList = ['/'])
    (hlength : (encodeUtf8 c.write).length ≤ maxBodyLength)
    (hfloats : ∀ x ∈ c.floats, x.Survives) (hdepth : c.toJson.depth ≤ maxDepth)
    (hplain : c.IsPlain) :
    ((commandRequest server c).arrival target).command? = some c.normal := by
  rw [Arrival.command?, commandRequest, text?_arrival_post _ _ htarget hlength, Option.bind_some]
  exact Command.parse?_write hfloats hdepth hplain

end Http

/-! ### Answers that are understood -/

namespace Outcome

/-- What a client has to be told. -/
def result : Outcome → Except Http.ClientFault Reply
  | .reply r => .ok r
  | .cancelled => .error .runCancelled

theorem result_eq_ok_iff {o : Outcome} {r : Reply} : o.result = .ok r ↔ o = .reply r := by
  cases o <;> simp [result]

theorem result_eq_runCancelled_iff {o : Outcome} :
    o.result = .error .runCancelled ↔ o = .cancelled := by
  cases o <;> simp [result]

theorem result_ne_unexpected (o : Outcome) (status : UInt16) (body : String) :
    o.result ≠ .error (.unexpected status body) := by
  cases o <;> simp [result]

end Outcome

namespace Http

/-- What a client concludes from what comes of the request that brings its command. -/
def conclude : Result → Except ClientFault Reply
  | .error fault => .error fault.clientFault
  | .ok r => readReply r

/-- The response that carries an outcome tells it. -/
theorem readReply_ofOutcome (o : Outcome) : readReply (.ofOutcome o) = o.result := by
  cases o with
  | cancelled => rfl
  | reply reply =>
    -- a reply has another status than a run that was cancelled
    have hstatus : (Response.ofReply reply).status ≠ goneStatus := by
      rw [Response.ofReply, Response.ofJson]
      dsimp only
      split <;> decide
    have htext : (Response.ofReply reply).text = reply.write := by
      rw [Response.text, Response.ofReply, Response.ofJson, decodeUtf8Lossy_encodeUtf8, Reply.write]
    rw [Response.ofOutcome, readReply, if_neg hstatus, htext, Reply.parse?_write, Outcome.result]

end Http

/-! ### Commands and requests -/

namespace Service

/-- What becomes of a command that is given to the service, if `later` is what happens then. -/
def outcome? (s : Service) (c : Command) (later : List ServiceEvent) : Option Outcome :=
  match (s.handle c).2 with
  | .answered outcome => some outcome
  | .waiting run => ((s.handle c).1.outcomes run later).head?

/-- The response to a request, if `later` is what happens after its arrival. -/
def response? (s : Service) (a : Http.Arrival) (uptime : UInt64) (later : List ServiceEvent) :
    Option Http.Response :=
  match (s.receive a uptime).2 with
  | .answered response => some response
  | .waiting run => ((s.receive a uptime).1.answers run later).head?

variable {s : Service} {a : Http.Arrival} {c : Command} {o : Outcome} {later : List ServiceEvent}

theorem response?_of_command? (h : a.command? = some c) (uptime : UInt64)
    (later : List ServiceEvent) :
    s.response? a uptime later = (s.outcome? c later).map .ofOutcome := by
  rw [response?, outcome?, receive_of_command? h]
  cases (s.handle c).2 with
  | answered outcome => rfl
  | waiting run =>
    dsimp only [Reception.ofHandling]
    -- the first thing that the caller is told goes back over HTTP
    rw [answers_eq_map_outcomes, List.head?_map]

/-! ### Exchanges -/

/-- Let the service answer a client. Each request of the client arrives under a target, then `later`
happens, and the response goes back; there is no result if there is no response by then. -/
def exchange {α : Type} (s : Service) (target : String) (uptime : UInt64)
    (later : List ServiceEvent) (d : Http.Conversation α) : Option (α × Service) :=
  let answer (q : Http.Request) : StateT Service Option Http.Result := fun s =>
    (s.response? (q.arrival target) uptime later).map fun response =>
      (.ok response, (s.receive (q.arrival target) uptime).1.after later)
  (d.runM answer).run s

section Exchange

variable {α β : Type} (s) (target : String) (uptime : UInt64) (later : List ServiceEvent)

/-- A client that asks once is told by one response. -/
theorem exchange_ask (q : Http.Request) (conclude : Http.Result → α)
    {next : Http.Result → Http.Conversation α} (hnext : ∀ r, next r = .done (conclude r)) :
    s.exchange target uptime later (.ask q next)
      = (s.response? (q.arrival target) uptime later).map fun response =>
        (conclude (.ok response), (s.receive (q.arrival target) uptime).1.after later) := by
  obtain rfl : next = fun r => .done (conclude r) := funext hnext
  unfold exchange
  dsimp only
  -- one question, and then the client is done
  rw [Dialogue.runM, StateT.run_bind]
  cases hresponse : s.response? (q.arrival target) uptime later <;>
    simp only [StateT.run, hresponse, Option.map_none, Option.map_some] <;> rfl

/-- What a client does afterwards by itself makes no difference to the service. -/
theorem exchange_bind (d : Http.Conversation α) {conclude : α → β}
    {next : α → Http.Conversation β} (hnext : ∀ a, next a = .done (conclude a)) :
    s.exchange target uptime later (d.bind next)
      = (s.exchange target uptime later d).map (Prod.map conclude id) := by
  obtain rfl : next = fun a => .done (conclude a) := funext hnext
  unfold exchange
  dsimp only
  -- what follows asks nothing, so the service is left as the first part has left it
  rw [Dialogue.runM_bind, StateT.run_bind, Option.map_eq_bind]
  rfl

end Exchange

/-! ### Commands that are exchanged -/

/-- A client understands the response to its request. -/
theorem exchange_sendCommand (s : Service) (server target : String) (uptime : UInt64)
    (later : List ServiceEvent) (c : Command) :
    let a := (Http.commandRequest server c).arrival target
    s.exchange target uptime later (Http.sendCommand server c)
      = (s.response? a uptime later).map fun response =>
        (Http.readReply response, (s.receive a uptime).1.after later) := by
  refine s.exchange_ask target uptime later (Http.commandRequest server c) Http.conclude fun r => ?_
  cases r <;> rfl

/-- So a client whose command has arrived is told what becomes of it. -/
theorem exchange_of_command? {server target : String}
    (hcommand : ((Http.commandRequest server c).arrival target).command? = some c.normal)
    (uptime : UInt64) (later : List ServiceEvent) :
    s.exchange target uptime later (Http.sendCommand server c)
      = (s.outcome? c.normal later).map fun o =>
        (o.result, (s.handle c.normal).1.after later) := by
  rw [exchange_sendCommand, response?_of_command? hcommand, receive_of_command? hcommand,
    Option.map_map]
  -- the response tells the outcome that it carries
  refine congrArg (Option.map · _) (funext fun o => ?_)
  exact congrArg (·, _) (Http.readReply_ofOutcome o)

/-! ### Runs that are exchanged -/

/-- A command starts a run, and the run settles with a verdict if `later` is what happens then. -/
def Settles (s : Service) (c : Command) (later : List ServiceEvent) (v : Verdict) : Prop :=
  ∃ run report, (s.handle c).2 = .waiting run ∧
    ((s.handle c).1.after later).report? run = some report ∧ report.verdict = v

namespace Orderly

/-- What becomes of a request for a run: it is refused, or the run is cancelled or settles. -/
theorem outcome?_run (h : s.Orderly) {r : RunRequest} (ho : s.outcome? (.run r) later = some o) :
    (∃ message, o = .reply (.error message) ∧ ∀ v, ¬ s.Settles (.run r) later v) ∨
    (o = .cancelled ∧ ∀ v, ¬ s.Settles (.run r) later v) ∨
    ∃ report : RunReport, o = .reply (.verdict report.verdict report.diagnosis) ∧
      ∀ v, s.Settles (.run r) later v ↔ report.verdict = v := by
  have hafter : (s.handle (.run r)).1.Orderly := h.react (.command (.run r))
  unfold Settles
  rw [outcome?] at ho
  have hhandles := s.handles_handle (.run r)
  generalize (s.handle (.run r)).1 = s', (s.handle (.run r)).2 = handling at hhandles hafter ho ⊢
  cases hhandles with
  | refused hparams =>
    -- there is no run that could settle
    cases ho
    refine Or.inl ⟨_, rfl, ?_⟩
    rintro v ⟨run, report, hrun, -⟩
    cases hrun
  | started hparams =>
    -- the caller was told by the phase of the task, and so is the report
    obtain ⟨t, ht, houtcome⟩ := hafter.outcome?_of_mem_outcomes (List.mem_of_mem_head? ho)
    have hreport := (hafter.after later).report?_of_phase ht
    cases hphase : t.phase with
    | settled report =>
      rw [hphase] at houtcome hreport
      cases houtcome
      refine Or.inr (Or.inr ⟨report, rfl, fun v => ⟨?_, fun hv => ⟨_, report, rfl, hreport, hv⟩⟩⟩)
      rintro ⟨run, report', hrun, hreport', rfl⟩
      cases hrun
      rw [Option.some.inj (hreport.symm.trans hreport')]
    | cancelled =>
      rw [hphase] at houtcome hreport
      cases houtcome
      refine Or.inr (Or.inl ⟨rfl, ?_⟩)
      rintro v ⟨run, report, hrun, hreport', -⟩
      cases hrun
      cases hreport.symm.trans hreport'
    | _ =>
      rw [hphase] at houtcome
      cases houtcome

end Orderly

end Service

/-! ### The command line -/

namespace Cli

/-- What the command line prints when it has sent a run. -/
def resultTranscript : Except Http.ClientFault Reply → Transcript
  | .ok reply => runTranscript reply
  | .error fault => .fail "run request failed" [fault.message]

theorem failure_runTranscript (r : Reply) : (runTranscript r).failure = none ↔
    r.isError = false ∧ r.message = Verdict.success.message := by
  unfold runTranscript replyTranscript
  by_cases herror : r.isError = true
  · simp [herror]
  · by_cases hmessage : r.message = Verdict.success.message <;> simp [herror, hmessage]

/-- Sending a run is one exchange, and then its result is printed. -/
theorem sendRun_eq (server : String) {w : RunWords} {debug : Option Json.FreeForm}
    (hdebug : debugOf w.debug = .ok debug) :
    ∃ next, (∀ result, next result = .done (resultTranscript result)) ∧
      sendRun server w
        = (Http.sendCommand server (.run ⟨w.freq, w.amount, w.url, w.users, debug⟩)).bind next := by
  refine ⟨_, fun result => ?_, by rw [sendRun, hdebug]; rfl⟩
  cases result <;> rfl

/-- The verdict of a run is success if the command line says that the run has succeeded. -/
theorem failure_resultTranscript_iff {s : Service} (h : s.Orderly) {r : RunRequest} {o : Outcome}
    {later : List ServiceEvent} (ho : s.outcome? (.run r) later = some o) :
    (resultTranscript o.result).failure = none ↔ s.Settles (.run r) later .success := by
  rcases h.outcome?_run ho with ⟨message, rfl, hnever⟩ | ⟨rfl, hnever⟩ | ⟨report, rfl, hsettles⟩
  · -- a refusal is printed as a failure, whatever its message
    refine iff_of_false (fun hfailure => ?_) (hnever .success)
    cases ((failure_runTranscript _).mp hfailure).1
  · exact iff_of_false nofun (hnever .success)
  · -- the command line compares wordings, and each verdict has its own
    have hmessage : report.verdict.message = Verdict.success.message ↔ report.verdict = .success := by
      cases report.verdict <;> decide
    rw [hsettles, ← hmessage]
    exact (failure_runTranscript _).trans ⟨And.right, fun h => ⟨rfl, h⟩⟩

end Cli

namespace Service

/-- **A client and its service agree.** A command is sent to a service in any state that there can
be. Its doubles survive being written and read, it nests no deeper than a reader follows, no object
in its debug value is written with `embeddedName` in front, and its text is no longer than the
longest body that is accepted; whatever else happens to the service until the answer is `later`.
Then the service becomes what it becomes if the command, without a debug value that is `null`, is
given to it directly. The client has a reply exactly if the service has come to this reply, and
learns that the run was cancelled exactly if it was; it never meets a response that it does not
understand. So a command line that sends a run and gets an answer succeeds exactly if this run has
settled with success. -/
theorem client_agrees (schedule : Schedule) (defaultUrl : String)
    (before later : List ServiceEvent) (server target : String) (uptime : UInt64) (c : Command)
    (htarget : Http.Arrival.pathOf target.toList = ['/'])
    (hfloats : ∀ x ∈ c.floats, x.Survives) (hdepth : c.toJson.depth ≤ maxDepth)
    (hplain : c.IsPlain) (hlength : (encodeUtf8 c.write).length ≤ maxBodyLength) :
    let s := (initial schedule defaultUrl).after before
    let a := (Http.commandRequest server c).arrival target
    let exchange? := s.exchange target uptime later (Http.sendCommand server c)
    let outcome? := s.outcome? c.normal later
    let s' := (s.handle c.normal).1.after later
    (s.receive a uptime).1 = (s.handle c.normal).1 ∧
    (∀ reply, exchange? = some (.ok reply, s') ↔ outcome? = some (.reply reply)) ∧
    (exchange? = some (.error .runCancelled, s') ↔ outcome? = some .cancelled) ∧
    (∀ result s'', exchange? = some (result, s'') → s'' = s' ∧
      ∀ status body, result ≠ .error (.unexpected status body)) ∧
    ∀ words debug, Cli.debugOf words.debug = .ok debug →
      c = .run ⟨words.freq, words.amount, words.url, words.users, debug⟩ →
      ∀ transcript s'',
        s.exchange target uptime later (Cli.sendRun server words) = some (transcript, s'') →
          s'' = s' ∧ (transcript.failure = none ↔ s.Settles c.normal later .success) := by
  intro s a exchange? outcome? s'
  have hcommand : a.command? = some c.normal :=
    Http.command?_arrival htarget hlength hfloats hdepth hplain
  have hexchange : exchange? = outcome?.map fun o => (o.result, s') :=
    exchange_of_command? hcommand uptime later
  have hfound (result : Except Http.ClientFault Reply) (s'' : Service) :
      exchange? = some (result, s'') ↔ s'' = s' ∧ ∃ o, outcome? = some o ∧ o.result = result := by
    rw [hexchange, Option.map_eq_some_iff]
    constructor
    · rintro ⟨o, ho, heq⟩
      cases heq
      exact ⟨rfl, o, ho, rfl⟩
    · rintro ⟨rfl, o, ho, rfl⟩
      exact ⟨o, ho, rfl⟩
  refine ⟨by rw [receive_of_command? hcommand], fun reply => ?_, ?_, fun result s'' hresult => ?_, ?_⟩
  · simp [hfound, Outcome.result_eq_ok_iff]
  · simp [hfound, Outcome.result_eq_runCancelled_iff]
  · obtain ⟨hstate, o, -, rfl⟩ := (hfound result s'').mp hresult
    exact ⟨hstate, o.result_ne_unexpected⟩
  · -- the command line sends the same command, and prints the same result
    rintro words debug hdebug rfl transcript s'' htranscript
    obtain ⟨next, hnext, hsend⟩ := Cli.sendRun_eq server hdebug
    rw [hsend, exchange_bind _ _ _ _ _ hnext] at htranscript
    obtain ⟨⟨result, s₁⟩, hresult, heq⟩ := Option.map_eq_some_iff.mp htranscript
    cases heq
    obtain ⟨hstate, o, ho, rfl⟩ := (hfound _ _).mp hresult
    exact ⟨hstate, Cli.failure_resultTranscript_iff (orderly_after schedule defaultUrl before) ho⟩

/-- One transaction, with a debug value that is `null`. -/
private def nullRequest : RunRequest :=
  ⟨⟨0x3FF8000000000000⟩, 1, none, some "u", some ⟨.null, trivial⟩⟩

/-- The words that ask for it. -/
private def nullWords : Cli.RunWords := ⟨⟨0x3FF8000000000000⟩, 1, none, some "u", some "null"⟩

/-- The transaction is submitted, and found in a block that is irreversible. -/
private def swiftRun : List ServiceEvent :=
  [.drive 0 .refreshDue .start, .drive 0 (.completed (.chainInfo 0 (.ok ⟨7, 7⟩))) .start,
    .drive 0 (.submitDue .zero) .start, .drive 0 .pollDue .start,
    .drive 0 (.completed (.resolve .zero 0 (.ok (.located ⟨⟨5, ⟨"x"⟩⟩, "t"⟩)))) .start,
    .resume 0]

/-- A service that watches one node. -/
private def solo : Service := (initial {} "").after [.command (.watches ["a"])]

/-- A client whose run is stopped by another one, and a command line whose run succeeds. -/
theorem client_agrees_run :
    (∃ s', solo.exchange "/" 0 [.command .stop, .yield, .resume 0]
      (Http.sendCommand "http://here" (.run nullRequest)) = some (.error .runCancelled, s')) ∧
    ∃ transcript s', solo.exchange "/" 0 swiftRun (Cli.sendRun "http://here" nullWords)
      = some (transcript, s') ∧ transcript.failure = none := by
  have hfinite : nullRequest.freq.isFinite = true := by decide
  have hwrite : nullRequest.freq.write jsonStyle = ['1', '.', '5'] := by decide +kernel
  have hfreq : nullRequest.freq.Survives := by
    refine ⟨hfinite, ?_⟩
    rw [Json.Number.Survives, Json.Number.write, hwrite]
    rfl
  have hfloats : ∀ x ∈ (Command.run nullRequest).floats, x.Survives := by
    intro x hx
    rw [List.mem_singleton.mp hx]
    exact hfreq
  have hdepth : (Command.run nullRequest).toJson.depth ≤ maxDepth := by decide
  have hplain : (Command.run nullRequest).IsPlain := by
    intro f hf
    cases hf
    rfl
  have hlength : (encodeUtf8 (Command.run nullRequest).write).length ≤ maxBodyLength := by
    decide +kernel
  have hagree (later : List ServiceEvent) :=
    client_agrees {} "" [.command (.watches ["a"])] later "http://here" "/" 0 (.run nullRequest)
      (by decide) hfloats hdepth hplain hlength
  constructor
  · have houtcome : solo.outcome? (.run nullRequest.normal) [.command .stop, .yield, .resume 0]
        = some .cancelled := by decide
    obtain ⟨-, -, hcancelled, -⟩ := hagree [.command .stop, .yield, .resume 0]
    exact ⟨_, hcancelled.mpr houtcome⟩
  · have hanswered : (solo.exchange "/" 0 swiftRun (Cli.sendRun "http://here" nullWords)).isSome
        = true := by decide +kernel
    have hwaits : (solo.handle (.run nullRequest.normal)).2 = .waiting 0 := rfl
    have hreport : ((solo.handle (.run nullRequest.normal)).1.after swiftRun).report? 0
        = some ⟨.success, none, ⟨1, 1, 1, 0⟩⟩ := by decide
    obtain ⟨-, -, -, -, hprints⟩ := hagree swiftRun
    obtain ⟨⟨transcript, s'⟩, hexchange⟩ := Option.isSome_iff_exists.mp hanswered
    have hprinted := hprints nullWords nullRequest.debug rfl rfl transcript s' hexchange
    exact ⟨transcript, s', hexchange, hprinted.2.mpr ⟨0, _, hwaits, hreport, rfl⟩⟩

end Service

/-! ### Commands that are not understood -/

/-- A text of letters stands in a body as it is. -/
theorem Command.length_lt_write_watches (n : Nat) :
    n < (encodeUtf8 (Command.watches [String.ofList (List.replicate n 'a')]).write).length := by
  have hplain : Json.writeChars (List.replicate n 'a') = List.replicate n 'a' := by
    induction n with
    | zero => rfl
    | succ n ih =>
      rw [List.replicate_succ, Json.writeChars, List.flatMap_cons, ← Json.writeChars, ih]
      rfl
  -- there are brackets and names around the letters, and no fewer bytes than characters
  refine Nat.lt_of_lt_of_le ?_ (length_le_encodeUtf8Chars _)
  rw [Command.write, Json.Tree.write, String.toList_ofList]
  simp only [Command.toJson, Json.Tree.record, Json.Tree.text, List.map_cons, List.map_nil,
    Json.Tree.writeChars, Json.Tree.writeMembers, Json.Tree.writeItems, Json.writeLeafString,
    Json.writeString, String.toList_ofList, hplain, List.length_append, List.length_cons,
    List.length_replicate]
  omega

/-- A text of letters names a node. -/
theorem NodeList.isOk_ofUrls_letters {n : Nat} (h : n ≠ 0) :
    (NodeList.ofUrls [String.ofList (List.replicate n 'a')]).isOk = true := by
  have hdrop {p : Char → Bool} (hp : p 'a' = false) :
      (List.replicate n 'a').dropWhile p = List.replicate n 'a' := by
    rw [List.dropWhile_replicate, hp]
    rfl
  have hdropEnd {p : Char → Bool} (hp : p 'a' = false) :
      dropEndWhile p (List.replicate n 'a') = List.replicate n 'a' := by
    rw [dropEndWhile, List.reverse_replicate, hdrop hp, List.reverse_replicate]
  -- neither end of the text has a blank or a slash to lose
  have hnormal : normalizeUrl (String.ofList (List.replicate n 'a'))
      = String.ofList (List.replicate n 'a') := by
    rw [normalizeUrl, trimBlank, trimEndChar, String.toList_ofList, String.toList_ofList,
      trimBlankChars, hdrop (by decide), hdropEnd (by decide), hdropEnd (by decide)]
  have hsome : String.ofList (List.replicate n 'a') ≠ "" := by
    intro hempty
    have hlist := congrArg String.toList hempty
    rw [String.toList_ofList] at hlist
    exact h ((List.replicate_eq_nil_iff 'a').mp hlist)
  refine NodeList.isOk_ofUrls_iff.mpr ⟨List.cons_ne_nil _ _, ?_, List.nodup_singleton _⟩
  intro entry hentry
  rw [List.mem_singleton.mp hentry, hnormal]
  exact hsome

namespace Service

/-- The wording of the refusal of a body that is too long. -/
def tooLong : String := "Failed to buffer the request body: length limit exceeded"

/-- A command whose text is too long reaches nobody, and the refusal is no reply. -/
theorem exchange_of_overlong {s : Service} {c : Command} {server target : String}
    (htarget : Http.Arrival.pathOf target.toList = ['/'])
    (hlong : maxBodyLength < (encodeUtf8 c.write).length) (uptime : UInt64)
    (later : List ServiceEvent) :
    s.exchange target uptime later (Http.sendCommand server c)
      = some (.error (.unexpected 413 tooLong), s.after later) := by
  have hpath : ((Http.commandRequest server c).arrival target).path = "/" :=
    congrArg String.ofList htarget
  have hreceive : s.receive ((Http.commandRequest server c).arrival target) uptime
      = (s, .answered (.ofText 413 tooLong)) := by
    rw [receive, if_pos hpath]
    exact (if_pos rfl).trans (if_pos hlong)
  have hnone : Reply.parse? tooLong = none := by decide
  have hread : Http.readReply (.ofText 413 tooLong) = .error (.unexpected 413 tooLong) := by
    have htext : (Http.Response.ofText 413 tooLong).text = tooLong := by
      rw [Http.Response.text, Http.Response.ofText, decodeUtf8Lossy_encodeUtf8]
    rw [Http.readReply, if_neg (by decide), htext, hnone]
    rfl
  rw [exchange_sendCommand, response?, hreceive]
  exact congrArg (fun result => some (result, s.after later)) hread

/-- A command whose text is no command gets an answer, but not to what the client has meant. -/
theorem exchange_of_unreadable {s : Service} {c : Command} {server target : String}
    (htarget : Http.Arrival.pathOf target.toList = ['/'])
    (hlength : (encodeUtf8 c.write).length ≤ maxBodyLength) (hnone : Command.parse? c.write = none)
    (uptime : UInt64) (later : List ServiceEvent) :
    s.exchange target uptime later (Http.sendCommand server c)
      = some (.ok (.error Reply.noSuchFunction), s.after later) := by
  -- the body arrives as it was sent, and no command is found in it
  have hreceive : s.receive ((Http.commandRequest server c).arrival target) uptime
      = (s, .answered (.ofOutcome (.reply (.error Reply.noSuchFunction)))) := by
    have hread : Command.parse? c.toJson.write = none := hnone
    rw [Http.commandRequest, receive_of_text? (Http.text?_arrival_post _ _ htarget hlength), hread]
    rfl
  rw [exchange_sendCommand, response?, hreceive]
  exact congrArg (fun result => some (result, s.after later)) (Http.readReply_ofOutcome _)

/-- A list of one node, with a name as long as the longest body that is accepted. -/
def overlong : Command := .watches [String.ofList (List.replicate maxBodyLength 'a')]

/-- Two commands that nest no deeper than a reader follows and whose doubles survive. With the
first, the client does not understand what it gets; given to the service directly, the list of nodes
is acknowledged. The second is a run that comes too early, before any list of nodes; but its debug
value is taken for something else, and the service finds no command in it at all. -/
theorem commands_misunderstood :
    let s := initial {} ""
    ((∀ x ∈ overlong.floats, x.Survives) ∧ overlong.toJson.depth ≤ maxDepth ∧
      s.outcome? overlong.normal [] = some (.reply (.ack watchesAck)) ∧
      s.exchange "/" 0 [] (Http.sendCommand "http://here" overlong)
        = some (.error (.unexpected 413 tooLong), s)) ∧
    (∀ x ∈ Command.misleading.floats, x.Survives) ∧ Command.misleading.toJson.depth ≤ maxDepth ∧
      s.outcome? Command.misleading.normal []
        = some (.reply (.error ControlFault.notConfigured.message)) ∧
      s.exchange "/" 0 [] (Http.sendCommand "http://here" Command.misleading)
        = some (.ok (.error Reply.noSuchFunction), s) := by
  intro s
  constructor
  · -- the letters are many, so that nothing is computed from them
    have hlong := Command.length_lt_write_watches maxBodyLength
    have hnodes := NodeList.isOk_ofUrls_letters (n := maxBodyLength) (by decide)
    unfold overlong
    generalize String.ofList (List.replicate maxBodyLength 'a') = url at hlong hnodes ⊢
    refine ⟨nofun, ?_, ?_, exchange_of_overlong (by decide) hlong 0 []⟩
    · have hdepth : (Command.watches [url]).toJson.depth = 2 := rfl
      rw [hdepth]
      decide
    · have hhandles := s.handles_handle (.watches [url])
      have hnormal : (Command.watches [url]).normal = .watches [url] := rfl
      rw [hnormal, outcome?]
      generalize (s.handle (.watches [url])).1 = s', (s.handle (.watches [url])).2 = handling
        at hhandles ⊢
      cases hhandles with
      | unlisted heq =>
        rw [heq] at hnodes
        cases hnodes
      | configured heq => rfl
  · obtain ⟨hfloats, hdepth, hnone⟩ := Command.misleading_lost
    exact ⟨hfloats, hdepth, rfl, exchange_of_unreadable (by decide) (by decide +kernel) hnone 0 []⟩

end Service

end ChainWatch
