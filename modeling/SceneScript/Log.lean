import SceneScript.Socket

/-!
# The log

What is odd about a workspace but no finding is left to the log: a field that is dropped, a
reference to no variable, a connection that is ignored. Such warnings are all that the log gets
unless more is asked for. Steps that can note them come in two kinds: those that keep what is noted,
and those that let it go. What becomes of the events in the end is up to a logger.

* `Event`: what is noted, with its wording.
* `Logger`: what is written for an event.
* `MonadLog`: steps that can note events.
* `Logged`: steps that keep the events.
-/

namespace SceneScript

/-- What is noted in the log. -/
inductive Event where
  /-- The value of a field has another form than the field. -/
  | droppedField (block field : String)
  /-- A key belongs to no variable. -/
  | unresolvedReference (key : String)
  | noRule (block kind : String)
  /-- The value of a block is refused by the input where the block hangs. -/
  | ignoredConnection (block input : String) (tag : SocketTag)
  | notVariableField (block field : String)
  | noOperation (block kind : String)
deriving DecidableEq

/-- The wording of an event. -/
def Event.message : Event → String
  | droppedField _ _ => "dropping field with unexpected value"
  | unresolvedReference _ => "variable reference does not resolve"
  | noRule _ _ => "no rule for block kind"
  | ignoredConnection _ _ _ => "ignoring connection with unaccepted tag"
  | notVariableField _ _ => "not a variable field"
  | noOperation _ _ => "no runtime operation for block kind"

/-- What an event is about, by name. -/
def Event.details : Event → List (String × String)
  | droppedField block field | notVariableField block field => [("block", block), ("field", field)]
  | unresolvedReference key => [("key", key)]
  | noRule block kind | noOperation block kind => [("block", block), ("kind", kind)]
  | ignoredConnection block input tag => [("block", block), ("input", input), ("tag", tag.name)]

/-- What is written for an event: its line, or nothing if the event is filtered out. -/
abbrev Logger := Event → String

namespace Logger

/-- A line for each event. -/
def plain : Logger := fun event =>
  let details := event.details.map fun (name, value) => " " ++ name ++ "=" ++ value
  "WARN " ++ event.message ++ String.join details ++ "\n"

/-- What is written for events one after another. -/
def written (logger : Logger) (events : List Event) : String := String.join (events.map logger)

theorem written_append (logger : Logger) (events events' : List Event) :
    logger.written (events ++ events') = logger.written events ++ logger.written events' := by
  rw [written, List.map_append, String.join_append, ← written, ← written]

theorem written_of_silent {logger : Logger} {events : List Event}
    (h : ∀ event ∈ events, logger event = "") : logger.written events = "" := by
  induction events with
  | nil => rfl
  | cons event events ih =>
    rw [List.forall_mem_cons] at h
    rw [written, List.map_cons, String.join_cons, h.1, ← written, ih h.2, String.append_empty]

end Logger

/-- Steps that can note events. -/
class MonadLog (m : Type → Type) where
  note : List Event → m Unit

/-- Without a log, events are let go. -/
@[default_instance]
instance : MonadLog Id where
  note _ := ()

/-- Steps that keep the events, the first one first. -/
abbrev Logged := StateM (List Event)

instance : MonadLog Logged where
  note events := modify (· ++ events)

end SceneScript
