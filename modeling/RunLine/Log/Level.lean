import RunLine.Text
/-!
# Levels

How much is shown of the diagnostics, from nothing to everything.  A level is written as its rank or
as its name.
-/

namespace RunLine.Log

/-- How much is shown. -/
inductive Level where
  | off
  | error
  | warn
  | info
  | debug
  | trace
  deriving DecidableEq, Repr

namespace Level

/-- How many levels are below. -/
def rank : Level → Nat
  | off => 0
  | error => 1
  | warn => 2
  | info => 3
  | debug => 4
  | trace => 5

def all : List Level := [off, error, warn, info, debug, trace]

/-- The name of a level in lower case. -/
def name : Level → Text
  | off => Text.lit "off"
  | error => Text.lit "error"
  | warn => Text.lit "warn"
  | info => Text.lit "info"
  | debug => Text.lit "debug"
  | trace => Text.lit "trace"

/-- The rank that a text writes, with an optional plus sign. -/
def rank? (text : Text) : Option Nat :=
  let digits :=
    match text with
    | '+' :: rest => rest
    | _ => text
  if digits.all Text.isDigit then Text.number? 10 digits else none

/-- The level that a text names, by rank or by name in any case. -/
def ofText? (text : Text) : Option Level :=
  ((rank? text).bind (all[·]?)).or (all.find? (·.name == text.lowered))

end Level

end RunLine.Log
