import ObjectWatch.Cache
import ObjectWatch.Failure

/-!
What happens is written down in order: log records, deliveries of events to handlers, and the answers to
handlers that change the filter.
-/

namespace ObjectWatch

inductive Level where
  | debug
  | info
  | warning
  | error
  deriving DecidableEq, Repr

inductive Source where
  | cache
  | handlers
  | file
  | program
  deriving DecidableEq, Repr

structure Record where
  level : Level
  source : Source
  message : String
  failure : Option Failure := none
  deriving DecidableEq, Repr

/-- An event as a handler got it, with what the cache held at that moment. -/
structure Delivery where
  handler : String
  event : Event
  cache : Cache

/-- What came of a change of the filter that a handler asked for, with what the cache held when the handler
got it. -/
structure Answer where
  result : Except Failure Bool
  cache : Cache

inductive Entry where
  | record (r : Record)
  | delivery (d : Delivery)
  | answer (a : Answer)

namespace Entry

def record? : Entry → Option Record
  | record r => some r
  | delivery _ | answer _ => none

def delivery? : Entry → Option Delivery
  | delivery d => some d
  | record _ | answer _ => none

/-- What the cache held at an entry that passes from the cache to a handler. -/
def cache? : Entry → Option Cache
  | delivery d => some d.cache
  | answer a => some a.cache
  | record _ => none

end Entry

end ObjectWatch
