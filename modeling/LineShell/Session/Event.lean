import LineShell.Host
import LineShell.Log

/-!
# What a session does

Everything that a session does to its surroundings is an event, and the events of a session in their order
are its trace. What can be seen of a session is a view of its trace.

* `Event`, `Trace`: the events, the newest first.
* `Trace.bytes`: the bytes that a view makes of a trace.
* `Event.console`: the view of a stream of the session's console.
* `Event.descriptor`, `Event.attached`: the views of a descriptor of the process, with a console of its own
  and with the descriptors as console.
* `Event.outputs`: the writes of an event to both descriptors.
-/

namespace LineShell

/-- One thing that a session does, or that a program does while the session waits for it. -/
inductive Event where
  /-- A read took a piece of input, empty at the end of the input. -/
  | took (piece : Bytes)
  /-- The line editor showed a prompt, and answered. -/
  | answered (prompt : String) (answer : Except EditorFault String)
  /-- A line was handed to the history of the editor. -/
  | recorded (line : String)
  /-- The session wrote to a stream of its console. -/
  | wrote (stream : Stream) (bytes : Bytes)
  /-- The session logged a diagnostic. -/
  | logged (record : Log.Record)
  /-- The session asked for a program to be run, which took some bytes of the input. -/
  | launched (program : String) (args : List String) (fed : Bytes)
  /-- A program wrote to a descriptor. -/
  | emitted (stream : Stream) (bytes : Bytes)
  /-- The directory at a path was made the current one. -/
  | entered (path : Bytes)
  /-- An alias was stored. -/
  | stored (name value : String)

/-- The events of a session, the newest first. -/
abbrev Trace := List Event

/-- The bytes that a view makes of a trace, in the order of the events. -/
def Trace.bytes (view : Event → Bytes) (trace : Trace) : Bytes :=
  trace.reverse.flatMap view

namespace Event

/-- What an event writes to a stream of the console. -/
def console (stream : Stream) : Event → Bytes
  | wrote target bytes => if target = stream then bytes else []
  | _ => []

/-- What an event writes to a descriptor of the process while the console is elsewhere: the output of
programs, and diagnostics on the error descriptor. -/
def descriptor (settings : Log.Settings) (stream : Stream) : Event → Bytes
  | emitted target bytes => if target = stream then bytes else []
  | logged record => if stream = .err then Utf8.encode (settings.line record) else []
  | _ => []

/-- What an event writes to a descriptor that is also the stream of the console. -/
def attached (settings : Log.Settings) (stream : Stream) (event : Event) : Bytes :=
  event.console stream ++ event.descriptor settings stream

/-- The writes of an event to the descriptors, when they are also the streams of the console. -/
def outputs (settings : Log.Settings) (event : Event) : List (Stream × Bytes) :=
  [(.out, event.attached settings .out), (.err, event.attached settings .err)].filter
    (!·.2.isEmpty)

/-- Whether an event is the end of a read. -/
def endsRead : Event → Bool
  | took _ => true
  | answered _ _ => true
  | _ => false

end Event

end LineShell
