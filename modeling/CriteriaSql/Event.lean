import CriteriaSql.Error

/-!
# Events

What an operation reports while it works, besides its result: fields it leaves out, statements it
sends, and failures of the database.

* `Event`: a report; `Event.level`, `Event.target`, `Event.message` are its heading.
* `Noted`: a computation that can fail, with the events it has emitted by then.
-/

namespace CriteriaSql

/-- A report. -/
inductive Event where
  | droppedOperator (field operator : String)
  | droppedProjection (table field : String)
  | droppedUpdate (table field : String)
  | executing (operation table : String) (paramCount : Nat) (sql : String)
  | failed (context error : String)
  deriving DecidableEq, Repr

/-- How much an event matters. -/
inductive Level where
  | trace
  | debug
  | warn
  deriving DecidableEq, Repr

namespace Event

def level : Event → Level
  | .droppedOperator .. | .droppedProjection .. | .droppedUpdate .. => .trace
  | .executing .. => .debug
  | .failed .. => .warn

/-- The part of the system that an event is about. -/
def target : Event → String
  | .droppedOperator .. | .droppedProjection .. | .droppedUpdate .. => "pgmodel.criteria"
  | .executing .. | .failed .. => "pgmodel.sql"

def message : Event → String
  | .droppedOperator .. => "dropping unsupported filter operator"
  | .droppedProjection .. => "dropping unknown projection field"
  | .droppedUpdate .. => "dropping unknown update field"
  | .executing .. => "executing statement"
  | .failed .. => "statement failed"

end Event

/-- The events emitted so far, and the result or the fault that ended the work. -/
structure Noted (α : Type) where
  events : List Event
  result : Except Invalid α

namespace Noted

/-- A result without events. -/
def done (a : α) : Noted α := ⟨[], .ok a⟩

/-- A fault without events. -/
def fault (cause : Invalid) : Noted α := ⟨[], .error cause⟩

/-- An event and nothing else. -/
def emit (e : Event) : Noted Unit := ⟨[e], .ok ()⟩

/-- A result or a fault, without events. -/
def ofExcept (r : Except Invalid α) : Noted α := ⟨[], r⟩

/-- Goes on with the result; a fault ends the work and keeps the events before it. -/
def andThen (x : Noted α) (f : α → Noted β) : Noted β :=
  match x.result with
  | .ok a => ⟨x.events ++ (f a).events, (f a).result⟩
  | .error cause => ⟨x.events, .error cause⟩

instance : Monad Noted where
  pure := done
  bind := andThen

end Noted

end CriteriaSql
