import RunLine.Log.Directive
/-!
# Which diagnostics are shown

A filter is a list of directives between commas.  Of the directives that fit a message the closest
one counts: the one with the longest target, and of those one that names a field before one that
names none.  Of two directives for the same the later one counts.  A filter that cannot be read asks
for the usual level, and one without directives for errors only.
-/

namespace RunLine.Log

/-- A message as far as filters tell messages apart. -/
structure Message where
  target : Text
  fields : List Text
  level : Level
  deriving DecidableEq, Repr

/-- The warnings about command heads. -/
def headWarning : Message where
  target := Text.lit "lit_sandbox::rewrite"
  fields := [Text.lit "message", Text.lit "token", Text.lit "script", Text.lit "error"]
  level := .warn

namespace Directive

def fits (message : Message) (directive : Directive) : Bool :=
  directive.concernsMessages && directive.target.all (·.isPrefixOf message.target) &&
    directive.field.all fun field => message.fields.contains field.name

/-- How long the target is, counting one more where there is one. -/
def reach (directive : Directive) : Nat := directive.target.elim 0 (·.length + 1)

/-- Whether a directive is further from the messages that it fits than another one. -/
def isLooser (first second : Directive) : Bool :=
  first.reach < second.reach ||
    (first.reach = second.reach &&
      match first.field, second.field with
      | none, some _ => true
      | some first, some second => first.name < second.name
      | _, none => false)

/-- The closer of a directive found so far and a later one. -/
def closer (found : Option Directive) (later : Directive) : Option Directive :=
  if found.any later.isLooser then found else some later

end Directive

/-- The directives of a filter that have something in them. -/
def readFilter (filter : Text) : Except Unreadable (List Directive) :=
  ((filter.splitOn ',').filter (!·.isEmpty)).mapM Directive.read

/-- The level for every target where a filter asks for none. -/
def usual : List Directive := [⟨none, none, none, .info⟩]

/-- The directives under a filter, or under none.  There are none only if parts cannot be cut from the
filter. -/
def directives? : Option Text → Option (List Directive)
  | none => some usual
  | some filter =>
      match readFilter filter with
      | .ok [] => some [⟨none, none, none, .error⟩]
      | .ok directives => some directives
      | .error .malformed => some usual
      | .error .splitCharacter => none

/-- The level that directives set for a message. -/
def levelFor (message : Message) (directives : List Directive) : Level :=
  match (directives.filter (Directive.fits message)).foldl Directive.closer none with
  | some directive => directive.level
  | none => .off

/-- Whether directives let a message through. -/
def shows (directives : List Directive) (message : Message) : Bool :=
  message.level.rank ≤ (levelFor message directives).rank

end RunLine.Log
