import ObjectWatch.Journal
import ObjectWatch.Value.ClassName

/-!
A cache with its handlers. Every change of what is tracked is delivered to the handlers in the order of
their registration, one event after the other. A handler may fail, which ends the delivery and the
operation, and may itself change the filter, whose events are then delivered in between.
-/

namespace ObjectWatch

/-- What a handler does with an event. -/
inductive Reaction where
  | done
  | fail (cause : Failure)
  | note (r : Record) (next : Reaction)
  /-- Changes the filter, and goes on with what came of it. -/
  | refilter (c : Criterion) (next : Except Failure Bool → Reaction)

/-- A handler of events. What it does may depend on the cache and on all that happened before. -/
structure Handler where
  react : Cache → List Entry → Event → Reaction

namespace Handler

def silent : Handler :=
  ⟨fun _ _ _ => .done⟩

def loggedText : Event → String
  | .upsert id _ => "tracking " ++ id.text
  | .delete id _ => "dropped " ++ id.text

def logging : Handler :=
  ⟨fun _ _ event =>
    .note { level := .info, source := .handlers, message := loggedText event } .done⟩

end Handler

/-- A cache, the handlers under their names in the order of registration, and the journal. -/
structure Monitor where
  cache : Cache
  handlers : List (String × Handler)
  journal : List Entry

/-- An operation on a monitor. A failed operation leaves a monitor behind, too. -/
abbrev Operation (α : Type) := Monitor → Except Failure α × Monitor

def Monitor.write (m : Monitor) (e : Entry) : Monitor :=
  { m with journal := m.journal ++ [e] }

namespace Reaction

/-- Carries out what a handler does, where `change` is how it changes the filter. -/
def run (change : Criterion → Operation Bool) : Reaction → Operation Unit
  | done, m => (.ok (), m)
  | fail cause, m => (.error cause, m)
  | note r next, m => next.run change (m.write (.record r))
  | refilter c next, m =>
    let (result, m) := change c m
    (next result).run change (m.write (.answer ⟨result, m.cache⟩))

end Reaction

namespace Monitor

def fresh (c : Criterion) (handlers : List (String × Handler)) : Monitor :=
  { cache := Cache.fresh c, handlers, journal := [] }

def withCache (c : Cache) (m : Monitor) : Monitor :=
  { m with cache := c }

def log (m : Monitor) (level : Level) (source : Source) (message : String) : Monitor :=
  m.write (.record { level, source, message })

/-! ### Handlers -/

/-- Adds a handler behind the others; a name that is taken is refused. -/
def register (name : String) (h : Handler) : Operation Unit := fun m =>
  if Table.has name m.handlers then (.error (.handlerTaken name), m)
  else (.ok (), { m with handlers := m.handlers ++ [(name, h)] })

/-- Takes a handler out, if there is one of that name. -/
def unregister (name : String) (m : Monitor) : Monitor :=
  { m with handlers := Table.erase name m.handlers }

/-- The deliveries that events ask for: each event to every handler before the next event. -/
def plan (handlers : List (String × Handler)) (events : List Event) :
    List (String × Handler × Event) :=
  events.flatMap fun event => handlers.map fun entry => (entry.1, entry.2, event)

/-- Makes deliveries one after the other, up to the first handler that fails. -/
def deliver (change : Criterion → Operation Bool) : List (String × Handler × Event) → Operation Unit
  | [], m => (.ok (), m)
  | (name, h, event) :: rest, m =>
    let reaction := h.react m.cache m.journal event
    match reaction.run change (m.write (.delivery ⟨name, event, m.cache⟩)) with
    | (.ok (), m) => deliver change rest m
    | (.error cause, m) => (.error cause, m)

/-! ### The filter and the listing -/

def trackingText (c : Cache) (events : List Event) : String :=
  "cache now tracks " ++ toString c.tracked.length ++ " of " ++ toString c.listing.length
    ++ " objects (" ++ toString events.length ++ " events)"

/-- Puts a reconciled cache in. Events are logged. -/
def track (c : Cache) (events : List Event) (m : Monitor) : Monitor :=
  let m := m.withCache c
  if events.isEmpty then m else m.log .debug .cache (trackingText c events)

/-- Reconciles the cache and delivers the events. What is tracked changes before the first delivery. -/
def reconcile (change : Criterion → Operation Bool) : Operation Unit := fun m =>
  match m.cache.reconcile with
  | .error cause => (.error (.access cause), m)
  | .ok (cache, events) => deliver change (plan m.handlers events) (m.track cache events)

/-- Whether a filter equals what a cache holds in its place. -/
def holds (f : Filter) : Criterion → Bool
  | .filter g => f.equals g
  | _ => false

/-- Puts a filter in the place of the one that the cache has. -/
def install (change : Criterion → Operation Bool) (f : Filter) : Operation Bool := fun m =>
  let m := m.log .info .cache ("refiltering cache: " ++ m.cache.criterion.literal ++ " -> " ++ f.literal)
  match reconcile change (m.withCache { m.cache with criterion := .filter f }) with
  | (.ok (), m) => (.ok true, m)
  | (.error cause, m) => (.error cause, m)

/-- Changes the filter, `depth` times inside one another at most. A filter that `equal` finds equal to what
the cache has is not put in, and the answer says so. -/
def refilterAt (equal : Filter → Criterion → Bool) : Nat → Criterion → Operation Bool
  | 0, _, m => (.error .nestedTooDeep, m)
  | depth + 1, c, m =>
    match c with
    | .foreign v => (.error (.access (v.callError "equals")), m)
    | .unconditional => (.error (.access .missing), m)
    | .filter f =>
      if equal f m.cache.criterion then
        (.ok false, m.log .debug .cache ("filter unchanged (" ++ f.literal ++ "), skipping refilter"))
      else install (refilterAt equal depth) f m

/-- How often handlers may change the filter from inside one another. -/
def nestingLimit : Nat := 200

def refilter (c : Criterion) : Operation Bool :=
  refilterAt holds nestingLimit c

/-- How a handler changes the filter during an operation. -/
def nested : Criterion → Operation Bool :=
  refilterAt holds (nestingLimit - 1)

/-- Logs the objects that have no identity. -/
def logSkipped (objects : List Value) (m : Monitor) : Monitor :=
  objects.foldl
    (fun m v =>
      if v.identity?.isSome then m
      else m.log .debug .cache ("skipping object without namespace/name: " ++ v.literal))
    m

/-- Goes through a listing that gives these objects and then breaks off with a failure or, without one, is
complete. Only a complete listing is taken in; `change` is how handlers change the filter meanwhile. -/
def syncVia (change : Criterion → Operation Bool) (objects : List Value) (broken : Option Failure) :
    Operation Unit := fun m =>
  let m := logSkipped objects m
  match broken with
  | some cause => (.error cause, m)
  | none => reconcile change (m.withCache { m.cache with listing := Cache.index objects })

def sync (objects : List Value) : Operation Unit :=
  syncVia nested objects none

/-- Takes in what one gets by going through a value. -/
def syncValue (v : Value) : Operation Unit :=
  match v.iterate? with
  | some objects => sync objects
  | none => syncVia nested [] (some .notIterable)

/-- Delivers an event that comes from outside. -/
def handle (event : Event) : Operation Unit := fun m =>
  deliver nested (plan m.handlers [event]) m

def handleValue (v : Value) : Operation Unit := fun m =>
  (.error (.notEvent v.className), m)

end Monitor

end ObjectWatch
