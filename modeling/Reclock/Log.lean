/-
**Log records.**

A record is a level and a message; the sink receives it as one line, `LEVEL: message`.  Records
below the level fixed when the library was built go nowhere.

Main definitions:

* `Reclock.LogLevel`, `Reclock.LogFilter` — the levels, and the least of them that passes;
* `Reclock.LogFilter.parse` — the filter that a setting names;
* `Reclock.LogRecord` — a record, and `Reclock.LogRecord.line`, its text without the newline;
* `Reclock.BoundedWriter` — a sink of limited size, which takes a record piece by piece.
-/

set_option relaxedAutoImplicit false
set_option autoImplicit false

namespace Reclock

/-! ### Levels -/

/-- How much a record matters, most first. -/
inductive LogLevel
  /-- Something failed. -/
  | error
  /-- Something is suspicious. -/
  | warn
  /-- Something happened. -/
  | info
  /-- Detail for debugging. -/
  | debug
  /-- Detail for tracing. -/
  | trace
  deriving DecidableEq, Inhabited

namespace LogLevel

/-- The name of a level. -/
def name : LogLevel → String
  | error => "ERROR"
  | warn => "WARN"
  | info => "INFO"
  | debug => "DEBUG"
  | trace => "TRACE"

/-- The place of a level: a larger one matters less. -/
def rank : LogLevel → Nat
  | error => 1
  | warn => 2
  | info => 3
  | debug => 4
  | trace => 5

end LogLevel

/-- Which records pass: none, or those of a level and of all that matter more. -/
inductive LogFilter
  /-- No record passes. -/
  | off
  /-- Records of this level and above pass. -/
  | upTo (level : LogLevel)
  deriving DecidableEq, Inhabited

namespace LogFilter

/-- The name of a filter. -/
def name : LogFilter → String
  | off => "OFF"
  | upTo level => level.name

/-- Whether records of a level pass. -/
def admits : LogFilter → LogLevel → Bool
  | off, _ => false
  | upTo least, level => level.rank ≤ least.rank

/-- The filter of a build that says nothing else. -/
def standard : LogFilter := upTo .debug

/-- **The filter that a setting names**: a level in lower case, or `off`; the standard filter for
anything else. -/
def parse (setting : String) : LogFilter :=
  match setting with
  | "off" => off
  | "error" => upTo .error
  | "warn" => upTo .warn
  | "info" => upTo .info
  | "debug" => upTo .debug
  | "trace" => upTo .trace
  | _ => standard

/-- The filter of this build, whose setting is empty. -/
def ofBuild : LogFilter := parse ""

end LogFilter

/-! ### Records -/

/-- One log record. -/
structure LogRecord where
  /-- How much it matters. -/
  level : LogLevel
  /-- What it says. -/
  message : String
  deriving DecidableEq, Inhabited

namespace LogRecord

/-- The pieces in which a record reaches a sink. -/
def pieces (r : LogRecord) : List String := [r.level.name, ": ", r.message, "\n"]

/-- **The line of a record**, without its newline. -/
def line (r : LogRecord) : String := r.level.name ++ ": " ++ r.message

/-- Whether a record reaches the sink of this build. -/
def passes (r : LogRecord) : Bool := LogFilter.ofBuild.admits r.level

end LogRecord

/-! ### A sink of limited size -/

/-- A text sink that refuses a piece which does not fit. -/
structure BoundedWriter where
  /-- How many bytes the sink holds. -/
  capacity : Nat
  /-- What has been written. -/
  contents : String := ""

namespace BoundedWriter

/-- Writes one piece, if it fits. -/
def writePiece (w : BoundedWriter) (piece : String) : Option BoundedWriter :=
  if w.contents.utf8ByteSize + piece.utf8ByteSize ≤ w.capacity then
    some { w with contents := w.contents ++ piece }
  else none

/-- **Writes pieces in order**; the first that does not fit ends the record. -/
def write (w : BoundedWriter) : List String → BoundedWriter
  | [] => w
  | piece :: rest =>
      match w.writePiece piece with
      | some w' => w'.write rest
      | none => w

end BoundedWriter

end Reclock
