/-!
# Log events

A run tells what it does through events, each with a level, a message and named fields.
-/

namespace Emend

inductive Level where
  | debug
  | info
  | warn
deriving DecidableEq, Repr

def Level.name : Level → String
  | .debug => "DEBUG"
  | .info => "INFO"
  | .warn => "WARN"

inductive FieldValue where
  | text (value : String)
  | number (value : Nat)
deriving DecidableEq, Repr

/-- Something that a run reports while it goes on. -/
inductive Event where
  /-- A rule begins. -/
  | applying (description rule : String) (index : Nat)
  /-- A rule met a match whose terminator never comes. -/
  | unterminated (rule source : String)
  /-- A rule replaced nothing. -/
  | matchedNothing (rule source : String)
  /-- A rule is done. -/
  | finished (rule : String) (matchCount : Nat)
  /-- All rules are done. -/
  | rulesApplied (source : String) (rules matchCount : Nat)
  /-- A run ends without writing. -/
  | nothingWritten (source : String)
  /-- A file is written. -/
  | written (output : String) (lines matchCount : Nat)
  /-- A rule file is read. -/
  | rulesLoaded (rules : Nat)
deriving DecidableEq, Repr

namespace Event

def level : Event → Level
  | unterminated _ _ => .warn
  | matchedNothing _ _ => .warn
  | nothingWritten _ => .info
  | written _ _ _ => .info
  | _ => .debug

def message : Event → String
  | applying description _ _ => "applying " ++ description
  | unterminated _ _ =>
    "region start found but its terminator never appears; left untouched"
  | matchedNothing _ _ => "rule matched nothing"
  | finished _ _ => "rule finished"
  | rulesApplied _ _ _ => "rule set applied"
  | nothingWritten _ => "dry run; nothing written"
  | written _ _ _ => "file rewritten"
  | rulesLoaded _ => "rules loaded"

def fields : Event → List (String × FieldValue)
  | applying _ rule index => [("rule", .text rule), ("index", .number index)]
  | unterminated rule source => [("rule", .text rule), ("source", .text source)]
  | matchedNothing rule source => [("rule", .text rule), ("source", .text source)]
  | finished rule count => [("rule", .text rule), ("matches", .number count)]
  | rulesApplied source rules count =>
    [("source", .text source), ("rules", .number rules), ("matches", .number count)]
  | nothingWritten source => [("source", .text source)]
  | written output lines count =>
    [("output", .text output), ("lines", .number lines), ("matches", .number count)]
  | rulesLoaded rules => [("rules", .number rules)]

end Event

end Emend
