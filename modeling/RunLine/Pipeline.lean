import RunLine.Quote.Shield
import RunLine.Sandbox
/-!
# Rewriting a pipeline

A script is a pipeline: commands between vertical bars, tokens between single blanks.  The first
token of a command that is not empty is its head.  A head that is a sandboxed binary gets the
launcher in front; in such a command, and in no other, every later token that names a file gets the
path marker, unless the token before it is a redirection, because the launcher connects redirected
files itself.  Quoted spans are shielded meanwhile.  Last, the null device is renamed everywhere.

Rewriting and the warnings about heads that no classifier could answer for are two functions of the
same script: a warning never changes the outcome.
-/

namespace RunLine

/-- A command head that no class was found for. -/
structure Warning where
  /-- The head, with placeholders as they are. -/
  token : Text
  /-- The whole line. -/
  script : Text
  error : Unclassified
  deriving DecidableEq, Repr

/-- What every such warning says. -/
def Warning.message : Text :=
  Text.lit "Couldn't classify command, treating it as a host binary; check it manually"

namespace Sandbox

/-- The signs after which a file is connected by the launcher. -/
def isRedirection (token : Text) : Bool :=
  token == ['<'] || token == ['>'] || token == ['>', '>']

/-- A token of a sandboxed command after its head, by the token before it; the head itself does not
count. -/
def rewriteArgument (sandbox : Sandbox) (previous : Option Text) (token : Text) : Text :=
  if !previous.any isRedirection && sandbox.namesFile token then
    sandbox.conventions.pathMarker ++ token
  else token

/-- The tokens of a sandboxed command after its head.  Empty tokens come from repeated blanks and
part nothing. -/
def rewriteArguments (sandbox : Sandbox) : Option Text → List Text → List Text
  | _, [] => []
  | previous, token :: rest =>
      if token.isEmpty then token :: rewriteArguments sandbox previous rest
      else sandbox.rewriteArgument previous token :: rewriteArguments sandbox (some token) rest

def rewriteTokens (sandbox : Sandbox) : List Text → List Text
  | [] => []
  | token :: rest =>
      if token.isEmpty then token :: rewriteTokens sandbox rest
      else if sandbox.classifier.isSandboxed token then
        (sandbox.conventions.launcher ++ ' ' :: token) :: sandbox.rewriteArguments none rest
      else token :: rest

def rewriteStage (sandbox : Sandbox) (command : Text) : Text :=
  [' '].intercalate (sandbox.rewriteTokens (command.splitOn ' '))

/-- The head of a command, unless the command is blank. -/
def head? (command : Text) : Option Text := (command.splitOn ' ').find? fun token => !token.isEmpty

/-- A shielded script, its commands rewritten. -/
def rewriteStages (sandbox : Sandbox) (shielded : Text) : Text :=
  ['|'].intercalate ((shielded.splitOn '|').map sandbox.rewriteStage)

/-- A script, its commands rewritten and its quotes in place. -/
def rewriteQuoted (sandbox : Sandbox) (script : Text) : Text :=
  let shielded := Quote.shield script
  Quote.restore shielded.quotes (sandbox.rewriteStages shielded.text)

/-- A text with the null device called by its name in the sandbox. -/
def renameNull (conventions : Conventions) (text : Text) : Text :=
  if conventions.nullDevice.isEmpty then text
  else Text.replace conventions.nullDevice conventions.nullReplacement text

/-- A whole line. -/
def rewrite (sandbox : Sandbox) (script : Text) : Text :=
  renameNull sandbox.conventions (sandbox.rewriteQuoted script)

/-- The warning about a command of a script, if there is one. -/
def warning? (sandbox : Sandbox) (script command : Text) : Option Warning :=
  match head? command with
  | none => none
  | some head =>
      match sandbox.classifier head with
      | .ok _ => none
      | .error error => some ⟨head, script, error⟩

/-- The warnings about the commands of a line, in order. -/
def warnings (sandbox : Sandbox) (script : Text) : List Warning :=
  ((Quote.shield script).text.splitOn '|').filterMap (sandbox.warning? script)

end Sandbox

end RunLine
