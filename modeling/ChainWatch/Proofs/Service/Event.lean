import ChainWatch.Service.Router
import ChainWatch.Proofs.Run.Loop

/-!
# Services along events

What happens to a service is data here: a `ServiceEvent` is a command or a request, the caller of a
run that looks at it or hangs up, or a turn of a run. `Service.react` is the service's reaction
together with what goes outside. A history is a list of events, in any order and at any times; so a
run is driven between any two commands, and a caller comes back for its run whenever it likes.

* `Service.after` is the service after a history, `Service.replies` what went outside;
* `Service.answers` collects what the caller of one run got, `Service.started` the runs that were
  started.

A command is handled in one of the ways of `Service.Handles`, and carried out if the service accepts
it (`Service.Accepts`). A request either brings a command or leaves the service as it is
(`receive_of_command?`, `receive_of_command?_eq_none`). A caller comes back for its run in one of
the ways of `Service.Resumes`.
-/

namespace ChainWatch

/-! ### Events -/

/-- Does the command cancel the run of the service? A list of nodes does only if it is one. -/
def Command.dismisses : Command → Bool
  | .watches urls => (NodeList.ofUrls urls).isOk
  | .run _ => false
  | .stop => true

/-- The text that a request posts where commands are taken, if it does. -/
def Http.Arrival.text? (a : Http.Arrival) : Option String :=
  if a.path = "/" ∧ a.method = "POST" ∧ a.body.length ≤ maxBodyLength then
    (decodeUtf8 a.body).toOption
  else none

/-- The command that a request posts, if it does. -/
def Http.Arrival.command? (a : Http.Arrival) : Option Command := a.text?.bind Command.parse?

/-- Does a request ask for the health of the service? -/
def Http.Arrival.AsksHealth (a : Http.Arrival) : Prop :=
  a.path = "/health" ∧ (a.method = "GET" ∨ a.method = "HEAD")

/-- Does a response refuse what was asked for? A run that was cancelled was not refused. -/
def Http.Response.IsRefusal (r : Http.Response) : Prop := r.status ≠ 200 ∧ r.status ≠ 410

instance (r : Http.Response) : Decidable r.IsRefusal := inferInstanceAs (Decidable (_ ∧ _))

def Reception.ofHandling : Handling → Reception
  | .answered outcome => .answered (.ofOutcome outcome)
  | .waiting run => .waiting run

/-- One thing that happens to a service. -/
inductive ServiceEvent where
  /-- A command is given. -/
  | command (c : Command)
  /-- A request arrives. -/
  | request (a : Http.Arrival) (uptimeSeconds : UInt64)
  /-- The caller of a run looks what has come of it. -/
  | resume (run : RunId)
  /-- The caller of a run hangs up. -/
  | hangUp (run : RunId)
  /-- A run gets its turn, and an event happens to it. -/
  | drive (run : RunId) (event : LoopEvent) (now : Moment)
  /-- Every aborting run gets its turn. -/
  | yield

namespace ServiceEvent

/-- The command that an event brings, if it does. -/
def command? : ServiceEvent → Option Command
  | .command c => some c
  | .request a _ => a.command?
  | _ => none

/-- Does the event cancel the run of the service? -/
def dismisses (e : ServiceEvent) : Bool := e.command?.any Command.dismisses

/-- The run that an event names, if it does. -/
def run? : ServiceEvent → Option RunId
  | .resume run => some run
  | .hangUp run => some run
  | .drive run _ _ => some run
  | _ => none

/-- Is it a turn of an aborting run? -/
def IsTurn (run : RunId) : ServiceEvent → Prop
  | .drive run' _ _ => run' = run
  | .yield => True
  | _ => False

end ServiceEvent

/-- What goes outside when something happens to a service. -/
inductive ServiceReply where
  | received (reception : Reception)
  /-- The caller of a run gets a response, or has to wait. -/
  | told (run : RunId) (response : Option Http.Response)
  /-- A run sends requests. -/
  | sent (run : RunId) (requests : List LoopRequest)
  | nothing

namespace ServiceReply

/-- The run that was started, if one was. -/
def started? : ServiceReply → Option RunId
  | .received (.waiting run) => some run
  | _ => none

/-- What the caller of a run gets. -/
def answer? (run : RunId) : ServiceReply → Option Http.Response
  | .told run' response => if run' = run then response else none
  | _ => none

/-- The requests that are sent, each with its run. -/
def requests : ServiceReply → List (RunId × LoopRequest)
  | .sent run requests => requests.map fun q => (run, q)
  | _ => []

end ServiceReply

namespace Service

/-- A service to which nothing has happened yet. -/
def initial (schedule : Schedule) (defaultUrl : String) : Service where
  schedule := schedule
  defaultUrl := defaultUrl

/-- The service after an event, and what goes outside. -/
def react (s : Service) : ServiceEvent → Service × ServiceReply
  | .command c => ((s.handle c).1, .received (.ofHandling (s.handle c).2))
  | .request a uptime => ((s.receive a uptime).1, .received (s.receive a uptime).2)
  | .resume run => ((s.resume run).1, .told run ((s.resume run).2.map .ofOutcome))
  | .hangUp run => (s.hangUp run, .nothing)
  | .drive run event now => ((s.drive run event now).1, .sent run (s.drive run event now).2)
  | .yield => (s.yield, .nothing)

/-- The service after some events. -/
def after (s : Service) (es : List ServiceEvent) : Service :=
  es.foldl (fun s e => (s.react e).1) s

/-- What goes outside at each of some events. -/
def replies (s : Service) : List ServiceEvent → List ServiceReply
  | [] => []
  | e :: es => (s.react e).2 :: (s.react e).1.replies es

/-- The runs that are started along some events. -/
def started (s : Service) (es : List ServiceEvent) : List RunId :=
  (s.replies es).filterMap ServiceReply.started?

/-- What the caller of a run gets along some events. -/
def answers (s : Service) (run : RunId) (es : List ServiceEvent) : List Http.Response :=
  (s.replies es).filterMap (ServiceReply.answer? run)

section Histories

variable (s : Service) (e : ServiceEvent) (es fs : List ServiceEvent)

@[simp] theorem after_nil : s.after [] = s := rfl

@[simp] theorem after_cons : s.after (e :: es) = (s.react e).1.after es := rfl

theorem after_append : s.after (es ++ fs) = (s.after es).after fs := List.foldl_append

theorem after_concat : s.after (es ++ [e]) = ((s.after es).react e).1 := s.after_append es [e]

@[simp] theorem replies_nil : s.replies [] = [] := rfl

@[simp] theorem replies_cons :
    s.replies (e :: es) = (s.react e).2 :: (s.react e).1.replies es := rfl

theorem replies_append : s.replies (es ++ fs) = s.replies es ++ (s.after es).replies fs := by
  induction es generalizing s with
  | nil => rfl
  | cons e es ih =>
    rw [List.cons_append, replies_cons, replies_cons, after_cons, ih, List.cons_append]

theorem started_append : s.started (es ++ fs) = s.started es ++ (s.after es).started fs := by
  rw [started, replies_append, List.filterMap_append]
  rfl

theorem started_concat :
    s.started (es ++ [e]) = s.started es ++ ((s.after es).react e).2.started?.toList := by
  rw [started_append]
  change _ ++ [((s.after es).react e).2].filterMap _ = _
  -- only the last reply is new
  rw [List.filterMap_cons]
  cases ((s.after es).react e).2.started? <;> rfl

theorem answers_append (run : RunId) :
    s.answers run (es ++ fs) = s.answers run es ++ (s.after es).answers run fs := by
  rw [answers, replies_append, List.filterMap_append]
  rfl

theorem answers_concat (run : RunId) :
    s.answers run (es ++ [e])
      = s.answers run es ++ (((s.after es).react e).2.answer? run).toList := by
  rw [answers_append]
  change _ ++ [((s.after es).react e).2].filterMap _ = _
  rw [List.filterMap_cons]
  cases ((s.after es).react e).2.answer? run <;> rfl

end Histories

/-! ### Commands and requests -/

/-- The task of a run that is started with some parameters. -/
def newTask (s : Service) (params : RunParams) : Task where
  id := s.nextRun
  loop := .start s.schedule.deadlines params
  phase := if s.schedule.hasPeriods then .driving else .aborting

/-- The service after it has started a run. -/
def launch (s : Service) (params : RunParams) : Service :=
  { s with
    active := some s.nextRun
    tasks := s.tasks ++ [s.newTask params]
    nextRun := s.nextRun + 1 }

/-- What can become of a command. -/
inductive Handles (s : Service) : Command → Service → Handling → Prop
  /-- The list of nodes is none. -/
  | unlisted {urls fault} (hnodes : NodeList.ofUrls urls = .error fault) :
      Handles s (.watches urls) s
        (.answered (.reply (.error (ControlFault.invalidNodes fault).message)))
  /-- Other nodes are watched, and the run is cancelled. -/
  | configured {urls nodes} (hnodes : NodeList.ofUrls urls = .ok nodes) :
      Handles s (.watches urls) { s.stop.1 with nodes := some nodes }
        (.answered (.reply (.ack watchesAck)))
  /-- The run is cancelled. -/
  | stopped : Handles s .stop s.stop.1 (.answered (.reply (.ack stopAck)))
  /-- No run may be started. -/
  | refused {r fault} (hparams : s.paramsOf r = .error fault) :
      Handles s (.run r) s (.answered (.reply (.error fault.message)))
  /-- A run is started. -/
  | started {r params} (hparams : s.paramsOf r = .ok params) :
      Handles s (.run r) (s.launch params) (.waiting s.nextRun)

/-- What can become of a caller who comes back for its run. -/
inductive Resumes (s : Service) (run : RunId) : Service → Option Outcome → Prop
  /-- There is nothing to tell yet, or nobody to tell it to. -/
  | waits (hnot : ∀ t, s.task? run = some t →
      ¬ (t.caller = .waiting ∧ t.phase.isFinished = true)) : Resumes s run s none
  /-- The run has settled, and the service forgets it if it is its own. -/
  | settled {t report} (ht : s.task? run = some t) (hwaiting : t.caller = .waiting)
      (hphase : t.phase = .settled report) :
      Resumes s run ((s.modifyTask run fun t => { t with caller := .answered }).finish run)
        (some (.reply (.verdict report.verdict report.diagnosis)))
  | cancelled {t} (ht : s.task? run = some t) (hwaiting : t.caller = .waiting)
      (hphase : t.phase = .cancelled) :
      Resumes s run (s.modifyTask run fun t => { t with caller := .answered }) (some .cancelled)

/-- The commands that a service carries out. -/
def Accepts (s : Service) : Command → Prop
  | .watches urls => (NodeList.ofUrls urls).isOk = true
  | .run r => s.nodes ≠ none ∧ r.amount ≠ 0 ∧ r.period? ≠ none ∧ s.isRunning = false
  | .stop => True

/-- What a run that may be started does, and when it may. -/
theorem paramsOf_eq_ok_iff {s : Service} {r : RunRequest} {params : RunParams} :
    s.paramsOf r = .ok params ↔
      ∃ nodes period, s.nodes = some nodes ∧ r.amount ≠ 0 ∧ r.period? = some period ∧
        s.isRunning = false ∧
        params = ⟨nodes, r.amount, period, r.url.getD s.defaultUrl, r.users, r.debug⟩ := by
  -- the conditions are looked at one after the other, and the first that fails decides
  unfold paramsOf
  cases s.nodes with
  | none => simp
  | some nodes =>
    dsimp only
    by_cases hamount : r.amount = 0
    · simp [hamount]
    · rw [if_neg hamount]
      cases r.period? with
      | none => simp
      | some period => cases s.isRunning <;> simp [hamount, eq_comm]

theorem isOk_paramsOf_iff (s : Service) (r : RunRequest) :
    (s.paramsOf r).isOk = true ↔ s.Accepts (.run r) := by
  -- to be accepted is to have some parameters
  have hok : (s.paramsOf r).isOk = true ↔ ∃ params, s.paramsOf r = .ok params := by
    cases s.paramsOf r <;> simp [Except.isOk, Except.toBool]
  simp only [hok, paramsOf_eq_ok_iff, Accepts, Option.ne_none_iff_exists']
  constructor
  · rintro ⟨_, nodes, period, hnodes, hamount, hperiod, hidle, -⟩
    exact ⟨⟨nodes, hnodes⟩, hamount, ⟨period, hperiod⟩, hidle⟩
  · rintro ⟨⟨nodes, hnodes⟩, hamount, ⟨period, hperiod⟩, hidle⟩
    exact ⟨_, nodes, period, hnodes, hamount, hperiod, hidle, rfl⟩

variable {s : Service} {c : Command} {e : ServiceEvent} {t : Task} {run : RunId}

/-- **Inversion.** A command is handled in one of these ways. -/
theorem handles_handle (s : Service) (c : Command) :
    s.Handles c (s.handle c).1 (s.handle c).2 := by
  cases c with
  | watches urls =>
    cases hnodes : NodeList.ofUrls urls with
    | error fault =>
      have hhandle : s.handle (.watches urls) = s.refuse (.invalidNodes fault) := by
        simp only [handle, configure, hnodes]
      rw [hhandle]
      exact .unlisted hnodes
    | ok nodes =>
      have hhandle : s.handle (.watches urls)
          = ({ s.stop.1 with nodes := some nodes }, .answered (.reply (.ack watchesAck))) := by
        simp only [handle, configure, hnodes]
      rw [hhandle]
      exact .configured hnodes
  | run r =>
    cases hparams : s.paramsOf r with
    | error fault =>
      have hhandle : s.handle (.run r) = s.refuse fault := by
        simp only [handle, start, hparams]
      rw [hhandle]
      exact .refused hparams
    | ok params =>
      have hhandle : s.handle (.run r) = (s.launch params, .waiting s.nextRun) := by
        simp only [handle, start, hparams, launch, newTask]
      rw [hhandle]
      exact .started hparams
  | stop => exact .stopped

/-- **Inversion.** A caller comes back in one of these ways. -/
theorem resumes_resume (s : Service) (run : RunId) :
    s.Resumes run (s.resume run).1 (s.resume run).2 := by
  -- without a task, a caller who waits or an end of the run, nothing happens
  have hwaits (hresume : s.resume run = (s, none))
      (hnot : ∀ t, s.task? run = some t → ¬ (t.caller = .waiting ∧ t.phase.isFinished = true)) :
      s.Resumes run (s.resume run).1 (s.resume run).2 := by
    rw [hresume]
    exact .waits hnot
  cases ht : s.task? run with
  | none => exact hwaits (by simp only [resume, ht]) (by simp [ht])
  | some t =>
    by_cases hwaiting : t.caller = .waiting
    · cases hphase : t.phase with
      | settled report =>
        have hresume : s.resume run
            = ((s.modifyTask run fun t => { t with caller := .answered }).finish run,
                some (.reply (.verdict report.verdict report.diagnosis))) := by
          simp only [resume, ht, hwaiting, hphase, if_true]
        rw [hresume]
        exact .settled ht hwaiting hphase
      | cancelled =>
        have hresume : s.resume run
            = (s.modifyTask run fun t => { t with caller := .answered }, some .cancelled) := by
          simp only [resume, ht, hwaiting, hphase, if_true]
        rw [hresume]
        exact .cancelled ht hwaiting hphase
      | driving =>
        exact hwaits (by simp only [resume, ht, hwaiting, hphase, if_true])
          (by simp [ht, hphase, Phase.isFinished])
      | aborting =>
        exact hwaits (by simp only [resume, ht, hwaiting, hphase, if_true])
          (by simp [ht, hphase, Phase.isFinished])
    · exact hwaits (by simp only [resume, ht, hwaiting, if_false]) (by simp [ht, hwaiting])

/-- A text that is posted is either a command and handled as such, or no command and answered so. -/
theorem receive_of_text? {a : Http.Arrival} {text : String} (h : a.text? = some text)
    (uptime : UInt64) :
    s.receive a uptime =
      match Command.parse? text with
      | none => (s, .answered (.ofReply (.error Reply.noSuchFunction)))
      | some c => ((s.handle c).1, .ofHandling (s.handle c).2) := by
  unfold Http.Arrival.text? at h
  split at h
  · next hpost =>
    -- the path, the method, the length and the encoding are checked in this order
    obtain ⟨hpath, hmethod, hlength⟩ := hpost
    rw [receive, if_pos hpath, if_pos hmethod, receiveCommand, if_neg (Nat.not_lt.mpr hlength)]
    cases htext : decodeUtf8 a.body with
    | error fault =>
      rw [htext] at h
      cases h
    | ok text' =>
      rw [htext] at h
      obtain rfl : text' = text := Option.some.inj h
      dsimp only
      cases Command.parse? text' with
      | none => rfl
      | some c =>
        dsimp only
        rcases s.handle c with ⟨s', outcome | run⟩ <;> rfl
  · cases h

theorem receive_of_command? {a : Http.Arrival} (h : a.command? = some c) (uptime : UInt64) :
    s.receive a uptime = ((s.handle c).1, .ofHandling (s.handle c).2) := by
  obtain ⟨text, htext, hparse⟩ := Option.bind_eq_some_iff.mp h
  rw [receive_of_text? htext, hparse]

/-- A request that posts no text changes nothing, and is refused unless it asks for the health. -/
theorem receive_of_text?_eq_none {a : Http.Arrival} (h : a.text? = none) (uptime : UInt64) :
    ∃ response, s.receive a uptime = (s, .answered response) ∧
      (response.IsRefusal ↔ ¬ a.AsksHealth) := by
  by_cases hroot : a.path = "/"
  · -- commands are taken here, and this one is posted in another way or is no text
    have hasks : ¬ a.AsksHealth := fun hasks => absurd (hroot.symm.trans hasks.1) (by decide)
    rw [receive, if_pos hroot]
    by_cases hpost : a.method = "POST"
    · rw [if_pos hpost, receiveCommand]
      by_cases hlength : maxBodyLength < a.body.length
      · rw [if_pos hlength]
        exact ⟨_, rfl, iff_of_true (by decide) hasks⟩
      · rw [if_neg hlength]
        rw [Http.Arrival.text?, if_pos ⟨hroot, hpost, Nat.not_lt.mp hlength⟩] at h
        -- what is left is a body that is not UTF-8
        cases htext : decodeUtf8 a.body with
        | error fault =>
          have hstatus : (400 : UInt16) ≠ 200 ∧ (400 : UInt16) ≠ 410 := by decide
          exact ⟨_, rfl, iff_of_true hstatus hasks⟩
        | ok text =>
          rw [htext] at h
          cases h
    · rw [if_neg hpost]
      exact ⟨_, rfl, iff_of_true (by decide) hasks⟩
  · rw [receive, if_neg hroot]
    -- no command is taken here, and the health is told to two methods
    by_cases hhealth : a.path = "/health"
    · rw [if_pos hhealth]
      by_cases hget : a.method = "GET"
      · rw [if_pos hget]
        exact ⟨_, rfl, iff_of_false (fun h => h.1 rfl) (not_not_intro ⟨hhealth, Or.inl hget⟩)⟩
      · rw [if_neg hget]
        by_cases hhead : a.method = "HEAD"
        · rw [if_pos hhead]
          exact ⟨_, rfl, iff_of_false (fun h => h.1 rfl) (not_not_intro ⟨hhealth, Or.inr hhead⟩)⟩
        · rw [if_neg hhead]
          exact ⟨_, rfl, iff_of_true (by decide) fun hasks => hasks.2.elim hget hhead⟩
    · rw [if_neg hhealth]
      exact ⟨_, rfl, iff_of_true (by decide) fun hasks => hhealth hasks.1⟩

/-- Any other request is answered and leaves the service as it is. -/
theorem receive_of_command?_eq_none {a : Http.Arrival} (h : a.command? = none) (uptime : UInt64) :
    ∃ response, s.receive a uptime = (s, .answered response) := by
  cases htext : a.text? with
  | none =>
    obtain ⟨response, hreceive, -⟩ := receive_of_text?_eq_none (s := s) htext uptime
    exact ⟨response, hreceive⟩
  | some text =>
    have hparse : Command.parse? text = none := by rwa [Http.Arrival.command?, htext] at h
    exact ⟨_, by rw [receive_of_text? htext, hparse]⟩

theorem react_of_command? (h : e.command? = some c) :
    s.react e = ((s.handle c).1, .received (.ofHandling (s.handle c).2)) := by
  cases e with
  | command c' =>
    cases h
    rfl
  | request a uptime =>
    rw [react, receive_of_command? h]
  | _ => cases h

end Service

end ChainWatch
