import ChainWatch.Command
import ChainWatch.Node.List
import ChainWatch.Watch.Assessment

/-!
# When a run acts

A run asks the nodes about their chains, submits, asks about transactions and judges its watches,
each at a period of its own. Three of the periods belong to the service (`Schedule`); the time
between submissions comes with the request (`RunRequest.period?`), as a number of seconds that need
not be whole.

A `Ticker` says when a period is over. It keeps to its beat, whatever the time at which it is
noticed, unless it is noticed more than five milliseconds late: then the beat starts anew, and no
tick is made up for.
-/

namespace ChainWatch

/-- The periods of a service's runs, and the ages at which they judge. -/
structure Schedule where
  /-- Between two questions about the chains. -/
  refresh : Span := Span.millis 2000
  /-- Between two questions about a transaction. -/
  poll : Span := Span.millis 1000
  /-- Between two judgements. -/
  check : Span := Span.millis 10000
  deadlines : Deadlines := {}
deriving DecidableEq, Repr

/-- Does a run have time between the things that it does? -/
def Schedule.hasPeriods (s : Schedule) : Bool := s.refresh ≠ 0 ∧ s.poll ≠ 0 ∧ s.check ≠ 0

/-- What a run does. -/
structure RunParams where
  nodes : NodeList
  /-- How many transactions to submit. -/
  amount : UInt32
  /-- The time between two submissions. -/
  period : Span
  /-- Where to submit. -/
  submitUrl : String
  users : Option String
  debug : Option Json.FreeForm

/-- A number of seconds as a positive span, if it is one: rounded to whole nanoseconds, it is not
zero, and its seconds fit a word. -/
def Binary64.positiveSpan? (seconds : Binary64) : Option Span :=
  if !seconds.isFinite || seconds.negative then none
  else if seconds.denominator * UInt64.size ≤ seconds.numerator then none
  else
    let nanos := roundHalfEven (seconds.numerator * 1000000000) seconds.denominator
    if nanos = 0 then none else some nanos

/-- The time between two submissions that a request asks for. -/
def RunRequest.period? (r : RunRequest) : Option Span := r.freq.positiveSpan?

/-- How late a ticker may be noticed without losing its beat. -/
def tickTolerance : Span := Span.millis 5

/-- A period and the moment at which it is over next, both in nanoseconds. -/
structure Ticker where
  due : Nat
  period : Span
deriving DecidableEq, Repr

namespace Ticker

/-- A ticker whose period is over at once. -/
def atOnce (now : Nat) (period : Span) : Ticker := ⟨now, period⟩

/-- A ticker whose period begins now. -/
def afterPeriod (now : Nat) (period : Span) : Ticker := ⟨now + period, period⟩

/-- The ticker after its tick was noticed. -/
def next (t : Ticker) (now : Nat) : Ticker :=
  { t with due := (if t.due + tickTolerance < now then now else t.due) + t.period }

end Ticker

end ChainWatch
