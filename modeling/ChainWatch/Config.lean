import ChainWatch.File
import ChainWatch.Run.Schedule
import ChainWatch.Text.Utf8
import ChainWatch.Toml.Document

/-!
# The configuration

The service is configured by a TOML file with four tables, all of whose entries have defaults. Other
tables and entries are none of its business. A table may also be written as an array of the values
of its entries in their order.

A configuration that can be read may still make no sense: a period of zero, or a hard deadline
before the soft one (`InvalidConfig`). `Config.parse` gives only configurations without such faults;
of several faults it tells the first in the order of `Config.validate?`. `Config.load` takes what
has come of reading the file, which need not be there unless the caller has named it.
-/

namespace ChainWatch

/-- The configuration of the service. -/
structure Config where
  /-- Where the service takes commands. -/
  bindAddress : String := "0.0.0.0:6666"
  refreshMillis : UInt64 := 2000
  pollMillis : UInt64 := 1000
  checkMillis : UInt64 := 10000
  softDeadlineSecs : UInt64 := 20
  hardDeadlineSecs : UInt64 := 200
  /-- How long a node may take to answer. -/
  requestTimeoutMillis : UInt64 := 5000
  /-- Where to submit if a request does not say. -/
  defaultUrl : String := "http://127.0.0.1:8888"
deriving DecidableEq, Repr

/-- Why a configuration makes no sense. -/
inductive InvalidConfig where
  /-- The period of this name is zero. -/
  | zeroPeriod (name : String)
  /-- The hard deadline comes before the soft one. -/
  | deadlineOrder (hard soft : UInt64)
deriving DecidableEq, Repr

/-- What is wrong with a configuration, in words. -/
def InvalidConfig.reason : InvalidConfig → String
  | .zeroPeriod name => name ++ " must be positive"
  | .deadlineOrder hard soft =>
    s!"hard_deadline_secs ({hard}) is below soft_deadline_secs ({soft})"

/-- The wording for a configuration that makes no sense. -/
def invalidConfigMessage (reason : String) : String := "invalid config: " ++ reason

/-- Why there is no configuration. -/
inductive ConfigFault where
  /-- The file cannot be read as text. -/
  | unreadable (fault : FileFault)
  /-- The text is no TOML, or a value is not of its type. -/
  | unparsable
  | invalid (fault : InvalidConfig)
deriving DecidableEq, Repr

/-- The wording of a fault of a file. -/
def ConfigFault.message (path : String) : ConfigFault → String
  | .unreadable fault => s!"failed to read config file {path}: {fault.message}"
  | .unparsable => "failed to parse config file " ++ path
  | .invalid fault => invalidConfigMessage fault.reason

/-- What lies behind a fault. -/
def ConfigFault.cause? : ConfigFault → Option String
  | .unreadable fault => some fault.message
  | _ => none

namespace Config

/-! ### Reading -/

open Toml (Item Members)

/-- The values of the named entries of a table. A table of a name that is absent has none, a date
has none either, and an array has them in the order of the names. -/
def entries? (names : List String) : Option Item → Option (List (Option Item))
  | none => some (names.map fun _ => none)
  | some (.table _ ms) => some (names.map fun name => ms.lookup name)
  | some (.array items) => some (names.zipIdx.map fun (_, i) => items[i]?)
  | some (.tables elements) =>
    some (names.zipIdx.map fun (_, i) => elements[i]?.map (.table .header))
  | some (.scalar .dateTime) => some (names.map fun _ => none)
  | some (.scalar _) => none

/-- A string, or the default. -/
def string? (default : String) : Option Item → Option String
  | none => some default
  | some (.scalar (.string s)) => some s
  | _ => none

/-- An integer that is not negative, or the default. -/
def word? (default : UInt64) : Option Item → Option UInt64
  | none => some default
  | some (.scalar (.integer i)) => if 0 ≤ i then some (UInt64.ofNat i.toNat) else none
  | _ => none

/-- Read a configuration from a document. -/
def ofToml? (ms : Members) : Option Config := do
  let d : Config := {}
  let server ← entries? ["bind_address"] (ms.lookup "server")
  let schedule ← entries? ["refresh_interval_ms", "poll_interval_ms", "check_interval_ms",
    "soft_deadline_secs", "hard_deadline_secs"] (ms.lookup "schedule")
  let http ← entries? ["request_timeout_ms"] (ms.lookup "http")
  let submit ← entries? ["default_url"] (ms.lookup "submit")
  match server, schedule, http, submit with
  | [bind], [refresh, poll, check, soft, hard], [timeout], [url] =>
    return {
      bindAddress := ← string? d.bindAddress bind
      refreshMillis := ← word? d.refreshMillis refresh
      pollMillis := ← word? d.pollMillis poll
      checkMillis := ← word? d.checkMillis check
      softDeadlineSecs := ← word? d.softDeadlineSecs soft
      hardDeadlineSecs := ← word? d.hardDeadlineSecs hard
      requestTimeoutMillis := ← word? d.requestTimeoutMillis timeout
      defaultUrl := ← string? d.defaultUrl url }
  | _, _, _, _ => none

/-! ### Validating -/

/-- The periods, by name. -/
def periods (c : Config) : List (String × UInt64) :=
  [("refresh_interval_ms", c.refreshMillis), ("poll_interval_ms", c.pollMillis),
    ("check_interval_ms", c.checkMillis), ("request_timeout_ms", c.requestTimeoutMillis)]

/-- What is wrong with a configuration, if anything is: first a period of zero, then the order of
the deadlines. -/
def validate? (c : Config) : Option InvalidConfig :=
  match c.periods.find? fun p => p.2 == 0 with
  | some p => some (.zeroPeriod p.1)
  | none =>
    if c.hardDeadlineSecs < c.softDeadlineSecs then
      some (.deadlineOrder c.hardDeadlineSecs c.softDeadlineSecs)
    else none

/-- Does a configuration make sense? -/
def isValid (c : Config) : Bool := c.validate?.isNone

/-- Read a text as a configuration that makes sense. -/
def parse (text : String) : Except ConfigFault Config :=
  match (Toml.read? text).bind ofToml? with
  | none => .error .unparsable
  | some c =>
    match c.validate? with
    | some fault => .error (.invalid fault)
    | none => .ok c

/-- Read the bytes of a file as a configuration that makes sense. -/
def ofBytes (bytes : List UInt8) : Except ConfigFault Config :=
  match decodeUtf8 bytes with
  | .error _ => .error (.unreadable .notText)
  | .ok text => parse text

/-- Load the configuration from what reading its file has given. Without a file there are the
defaults, unless the file was `named` by the caller. -/
def load (named : Bool) : Except FileFault (List UInt8) → Except ConfigFault Config
  | .ok bytes => ofBytes bytes
  | .error fault =>
    if !named && fault = .missing then .ok {} else .error (.unreadable fault)

/-! ### What a configuration says -/

/-- When the runs of the service act. -/
def schedule (c : Config) : Schedule where
  refresh := Span.millis c.refreshMillis.toNat
  poll := Span.millis c.pollMillis.toNat
  check := Span.millis c.checkMillis.toNat
  deadlines :=
    { soft := Span.secs c.softDeadlineSecs.toNat, hard := Span.secs c.hardDeadlineSecs.toNat }

end Config

end ChainWatch
