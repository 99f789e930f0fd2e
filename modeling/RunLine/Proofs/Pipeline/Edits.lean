import RunLine.Pipeline
import RunLine.Proofs.Quote.Written
import RunLine.Proofs.Quote.Tokens

/-!
# Rewriting as insertion

The loops that rewrite a command carry what they have seen from token to token.  Here the outcome is
given for each token by itself: something may be put directly before it, and what that is depends on
the token and the tokens before it only.  A line of segments is rewritten in the same way, so what
rewriting does to a shielded line can be read in the line itself.
-/

namespace RunLine

/-- What is put directly before a token. -/
inductive Insertion where
  | nothing
  /-- The launcher and a blank. -/
  | launcher
  /-- The path marker. -/
  | marker
  deriving DecidableEq, Repr

def Insertion.text (conventions : Conventions) : Insertion → Text
  | nothing => []
  | launcher => conventions.launcher ++ [' ']
  | marker => conventions.pathMarker

namespace Sandbox

/-- The tokens that are not empty: the head of a command and its arguments. -/
def words (tokens : List Text) : List Text := tokens.filter fun token => !token.isEmpty

@[simp] theorem words_nil : words [] = [] := rfl

@[simp] theorem words_append (left right : List Text) :
    words (left ++ right) = words left ++ words right := List.filter_append left right

@[simp] theorem words_cons_nil (tokens : List Text) : words ([] :: tokens) = words tokens := rfl

@[simp] theorem words_cons_cons (letter : Char) (token : Text) (tokens : List Text) :
    words ((letter :: token) :: tokens) = (letter :: token) :: words tokens := rfl

theorem words_eq_nil_iff {tokens : List Text} :
    words tokens = [] ↔ ∀ token ∈ tokens, token = [] := by
  simp [words, List.filter_eq_nil_iff]

theorem head?_eq (command : Text) : head? command = (words (command.splitOn ' ')).head? := by
  rw [head?, words, List.head?_filter]

/-- What is put before a token of a command, by the tokens before it. -/
def insertion (sandbox : Sandbox) (earlier : List Text) (token : Text) : Insertion :=
  if token.isEmpty then .nothing
  else
    match words earlier with
    | [] => if sandbox.classifier.isSandboxed token then .launcher else .nothing
    | head :: arguments =>
        if sandbox.classifier.isSandboxed head && sandbox.namesFile token &&
            !arguments.getLast?.any isRedirection then .marker
        else .nothing

variable {sandbox : Sandbox}

@[simp] theorem insertion_nil (sandbox : Sandbox) (earlier : List Text) :
    sandbox.insertion earlier [] = .nothing := rfl

/-- The launcher is put before the first word of a command only. -/
theorem insertion_eq_launcher_iff {earlier : List Text} {token : Text} :
    sandbox.insertion earlier token = .launcher ↔
      token ≠ [] ∧ words earlier = [] ∧ sandbox.classifier.isSandboxed token = true := by
  cases token with
  | nil => simp
  | cons letter token =>
      cases before : words earlier with
      | nil => simp [insertion, before]
      | cons head arguments => simp [insertion, before, ite_eq_iff]

/-- The marker is put before words after a sandboxed head only. -/
theorem insertion_eq_marker_iff {earlier : List Text} {token : Text} :
    sandbox.insertion earlier token = .marker ↔
      token ≠ [] ∧ ∃ head arguments, words earlier = head :: arguments ∧
        sandbox.classifier.isSandboxed head = true ∧ sandbox.namesFile token = true ∧
        arguments.getLast?.any isRedirection = false := by
  cases token with
  | nil => simp
  | cons letter token =>
      cases before : words earlier with
      | nil => simp [insertion, before, ite_eq_iff]
      | cons head arguments => simp [insertion, before, and_assoc]

/-- Nothing is put anywhere in a command whose head is no sandboxed binary. -/
theorem insertion_of_host {earlier : List Text} {token : Text}
    (host : ∀ head, (words (earlier ++ [token])).head? = some head →
      sandbox.classifier.isSandboxed head = false) :
    sandbox.insertion earlier token = .nothing := by
  cases token with
  | nil => rfl
  | cons letter token =>
      rw [words_append] at host
      cases before : words earlier with
      | nil =>
          have hostToken := host (letter :: token) (by simp [before])
          simp [insertion, before, hostToken]
      | cons head arguments =>
          have hostHead := host head (by simp [before])
          simp [insertion, before, hostHead]

/-! ## The loops, token by token -/

/-- The arguments of a sandboxed command. -/
theorem rewriteArguments_eq_mapIdx {head : Text}
    (sandboxed : sandbox.classifier.isSandboxed head = true) (tokens : List Text) :
    ∀ earlier arguments, words earlier = head :: arguments →
      sandbox.rewriteArguments arguments.getLast? tokens =
        tokens.mapIdx fun index token =>
          (sandbox.insertion (earlier ++ tokens.take index) token).text sandbox.conventions ++
            token := by
  induction tokens with
  | nil =>
      intro earlier arguments _
      rfl
  | cons token tokens ih =>
      intro earlier arguments before
      rw [List.mapIdx_cons, rewriteArguments]
      cases token with
      | nil =>
          have tail := ih (earlier ++ [[]]) arguments (by simp [before])
          simp only [List.append_assoc, List.singleton_append] at tail
          simp [tail, Insertion.text]
      | cons letter token =>
          have tail := ih (earlier ++ [letter :: token]) (arguments ++ [letter :: token])
            (by simp [before])
          rw [List.getLast?_concat] at tail
          simp only [List.append_assoc, List.singleton_append] at tail
          rw [List.isEmpty_cons, if_neg Bool.false_ne_true, tail]
          apply congrArg (· :: _)
          simp only [List.take_zero, List.append_nil, rewriteArgument, insertion, before, sandboxed,
            List.isEmpty_cons, Bool.false_eq_true, if_false, Bool.true_and]
          rw [Bool.and_comm]
          split
          · rfl
          · rfl

/-- The arguments of any other command. -/
theorem mapIdx_insertion_of_host {head : Text}
    (host : sandbox.classifier.isSandboxed head = false) (tokens earlier arguments : List Text)
    (before : words earlier = head :: arguments) :
    (tokens.mapIdx fun index token =>
      (sandbox.insertion (earlier ++ tokens.take index) token).text sandbox.conventions ++ token) =
      tokens := by
  have untouched : ∀ index token,
      sandbox.insertion (earlier ++ tokens.take index) token = .nothing := by
    intro index token
    apply insertion_of_host
    intro first isFirst
    rw [words_append, words_append, before, List.cons_append, List.cons_append, List.head?_cons,
      Option.some.injEq] at isFirst
    rw [← isFirst, host]
  simp only [untouched, Insertion.text, List.nil_append]
  rw [List.mapIdx_eq_zipIdx_map]
  simp

/-- The tokens of a command. -/
theorem rewriteTokens_eq_mapIdx (sandbox : Sandbox) (tokens : List Text) :
    sandbox.rewriteTokens tokens = tokens.mapIdx fun index token =>
      (sandbox.insertion (tokens.take index) token).text sandbox.conventions ++ token := by
  -- The tokens passed so far are empty.
  suffices general : ∀ earlier, words earlier = [] →
      sandbox.rewriteTokens tokens = tokens.mapIdx fun index token =>
        (sandbox.insertion (earlier ++ tokens.take index) token).text sandbox.conventions ++ token
    from general [] rfl
  induction tokens with
  | nil =>
      intro earlier _
      rfl
  | cons token tokens ih =>
      intro earlier before
      rw [List.mapIdx_cons, rewriteTokens]
      cases token with
      | nil =>
          have tail := ih (earlier ++ [[]]) (by simp [before])
          simp only [List.append_assoc, List.singleton_append] at tail
          simp [tail, Insertion.text]
      | cons letter token =>
          have passed : words (earlier ++ [letter :: token]) = [letter :: token] := by
            simp [before]
          rw [List.isEmpty_cons, if_neg Bool.false_ne_true]
          cases class? : sandbox.classifier.isSandboxed (letter :: token) with
          | true =>
              have tail := rewriteArguments_eq_mapIdx class? tokens _ [] passed
              simp only [List.append_assoc, List.singleton_append, List.getLast?_nil] at tail
              rw [if_pos rfl, tail]
              apply congrArg (· :: _)
              simp [insertion, before, class?, Insertion.text]
          | false =>
              have tail := mapIdx_insertion_of_host class? tokens _ [] passed
              simp only [List.append_assoc, List.singleton_append] at tail
              simp only [List.take_succ_cons]
              rw [if_neg Bool.false_ne_true, tail]
              apply congrArg (· :: _)
              simp [insertion, before, class?, Insertion.text]

/-- One command of a line. -/
theorem rewriteStage_eq_mapIdx (sandbox : Sandbox) (command : Text) :
    sandbox.rewriteStage command =
      [' '].intercalate ((command.splitOn ' ').mapIdx fun index token =>
        (sandbox.insertion ((command.splitOn ' ').take index) token).text sandbox.conventions ++
          token) := by
  rw [rewriteStage, rewriteTokens_eq_mapIdx]

end Sandbox

/-! ## Edits of a line of segments -/

/-- A token of a line of segments, and what is put directly before it. -/
structure Edit where
  insertion : Insertion
  token : List Quote.Segment
  deriving DecidableEq, Repr

namespace Edit

/-- The token as the loops see it, its spans by their placeholders. -/
def shown (edit : Edit) : Text := edit.token.flatMap Quote.Segment.shown

def source (edit : Edit) : Text := edit.token.flatMap Quote.Segment.text

/-- The token with what is put before it. -/
def segments (conventions : Conventions) (edit : Edit) : List Quote.Segment :=
  (edit.insertion.text conventions).map .bare ++ edit.token

/-- The rewritten token as it stands in the rewritten line. -/
def output (conventions : Conventions) (edit : Edit) : Text :=
  edit.insertion.text conventions ++ edit.source

theorem flatMap_shown_segments (conventions : Conventions) (edit : Edit) :
    (edit.segments conventions).flatMap Quote.Segment.shown =
      edit.insertion.text conventions ++ edit.shown := by
  rw [segments, List.flatMap_append, Quote.flatMap_shown_map_bare, shown]

theorem flatMap_text_segments (conventions : Conventions) (edit : Edit) :
    (edit.segments conventions).flatMap Quote.Segment.text = edit.output conventions := by
  rw [segments, List.flatMap_append, Quote.flatMap_text_map_bare, output, source]

end Edit

namespace Sandbox

variable {sandbox : Sandbox}

/-- The edits of a command, each by the token and those before it. -/
def editsOfCommand (sandbox : Sandbox) (command : List (List Quote.Segment)) : List Edit :=
  command.mapIdx fun index token =>
    ⟨sandbox.insertion ((command.take index).map (List.flatMap Quote.Segment.shown))
      (token.flatMap Quote.Segment.shown), token⟩

/-- The edits of a line, command by command. -/
def edits (sandbox : Sandbox) (line : List Quote.Segment) : List (List Edit) :=
  (Quote.tokensOf line).map sandbox.editsOfCommand

def rewriteSegments (sandbox : Sandbox) (line : List Quote.Segment) : List Quote.Segment :=
  Quote.joinTokens (.bare '|') (.bare ' ')
    ((sandbox.edits line).map fun command => command.map (Edit.segments sandbox.conventions))

@[simp] theorem map_token_editsOfCommand (sandbox : Sandbox) (command : List (List Quote.Segment)) :
    (sandbox.editsOfCommand command).map Edit.token = command := by
  apply List.ext_getElem?
  intro index
  simp [editsOfCommand, Function.comp_def]

theorem map_render_editsOfCommand (sandbox : Sandbox) (command : List (List Quote.Segment))
    (render : Quote.Segment → Text) :
    (sandbox.editsOfCommand command).map (fun edit => edit.token.flatMap render) =
      command.map (List.flatMap render) := by
  conv_rhs => rw [← map_token_editsOfCommand sandbox command]
  rw [List.map_map]
  rfl

/-- An edit is decided by what the token and those before it show. -/
theorem insertion_eq {command : List (List Quote.Segment)} {before after : List Edit} {edit : Edit}
    (cut : sandbox.editsOfCommand command = before ++ edit :: after) :
    edit.insertion = sandbox.insertion (before.map Edit.shown) edit.shown := by
  have tokens : command = before.map Edit.token ++ edit.token :: after.map Edit.token := by
    rw [← map_token_editsOfCommand sandbox command, cut]
    simp
  have atEdit : (sandbox.editsOfCommand command)[before.length]? = some edit := by
    rw [cut, List.getElem?_append_right (le_refl _)]
    simp
  rw [editsOfCommand, List.getElem?_mapIdx, tokens, List.getElem?_append_right (by simp)] at atEdit
  have earlier : (before.map Edit.token ++ edit.token :: after.map Edit.token).take before.length =
      before.map Edit.token := by
    rw [List.take_append_of_le_length (by simp), List.take_of_length_le (by simp)]
  simp only [List.length_map, Nat.sub_self, List.getElem?_cons_zero, Option.map_some, earlier,
    List.map_map, Option.some.injEq] at atEdit
  exact (congrArg Edit.insertion atEdit).symm

theorem map_token_edits (sandbox : Sandbox) (line : List Quote.Segment) :
    (sandbox.edits line).map (List.map Edit.token) = Quote.tokensOf line := by
  rw [edits, List.map_map]
  conv_rhs => rw [← List.map_id (Quote.tokensOf line)]
  apply List.map_congr_left
  intro command _
  exact map_token_editsOfCommand sandbox command

/-- What is read of each edit by rendering its token is what is read of the tokens. -/
theorem map_render_edits (sandbox : Sandbox) (line : List Quote.Segment)
    (render : Quote.Segment → Text) :
    (sandbox.edits line).map (List.map fun edit => edit.token.flatMap render) =
      (Quote.tokensOf line).map (List.map (List.flatMap render)) := by
  rw [edits, List.map_map]
  apply List.map_congr_left
  intro command _
  exact map_render_editsOfCommand sandbox command render

/-- The sources of the edits are the line. -/
theorem joinTokens_source (sandbox : Sandbox) (line : List Quote.Segment) :
    Quote.joinTokens '|' ' ' ((sandbox.edits line).map (List.map Edit.source)) =
      line.flatMap Quote.Segment.text := by
  have sources : (sandbox.edits line).map (List.map Edit.source) =
      (Quote.tokensOf line).map (List.map (List.flatMap Quote.Segment.text)) :=
    map_render_edits sandbox line Quote.Segment.text
  conv_rhs => rw [← Quote.joinTokens_tokensOf line]
  rw [sources, Quote.flatMap_joinTokens, Quote.joinTokens, List.map_map]
  rfl

/-- The loops insert in what a command shows what its edits say. -/
theorem rewriteTokens_shown (sandbox : Sandbox) (command : List (List Quote.Segment)) :
    sandbox.rewriteTokens (command.map (List.flatMap Quote.Segment.shown)) =
      (sandbox.editsOfCommand command).map fun edit =>
        edit.insertion.text sandbox.conventions ++ edit.shown := by
  rw [rewriteTokens_eq_mapIdx]
  apply List.ext_getElem?
  intro index
  simp [editsOfCommand, Edit.shown, Function.comp_def]

/-- The rewritten segments show the rewritten commands. -/
theorem flatMap_shown_rewriteSegments (sandbox : Sandbox) (line : List Quote.Segment) :
    (sandbox.rewriteSegments line).flatMap Quote.Segment.shown =
      sandbox.rewriteStages (line.flatMap Quote.Segment.shown) := by
  rw [rewriteSegments, Quote.flatMap_joinTokens, rewriteStages, Quote.splitOn_shown (by decide),
    edits, Quote.tokensOf]
  simp only [List.map_map]
  apply congrArg
  apply List.map_congr_left
  intro command _
  simp only [Function.comp_apply, rewriteStage]
  rw [Quote.splitOn_shown (by decide), rewriteTokens_shown, List.map_map]
  apply congrArg
  apply List.map_congr_left
  intro edit _
  exact edit.flatMap_shown_segments sandbox.conventions

/-- The rewritten segments cover the outputs of the edits. -/
theorem flatMap_text_rewriteSegments (sandbox : Sandbox) (line : List Quote.Segment) :
    (sandbox.rewriteSegments line).flatMap Quote.Segment.text =
      Quote.joinTokens '|' ' '
        ((sandbox.edits line).map (List.map (Edit.output sandbox.conventions))) := by
  rw [rewriteSegments, Quote.flatMap_joinTokens, Quote.joinTokens, List.map_map, List.map_map]
  apply congrArg
  apply List.map_congr_left
  intro command _
  rw [Function.comp_apply, Function.comp_apply, List.map_map]
  apply congrArg
  apply List.map_congr_left
  intro edit _
  exact edit.flatMap_text_segments sandbox.conventions

/-- Rewriting keeps the spans of a line. -/
theorem filterMap_span?_rewriteSegments (sandbox : Sandbox) (line : List Quote.Segment) :
    (sandbox.rewriteSegments line).filterMap Quote.Segment.span? =
      line.filterMap Quote.Segment.span? := by
  conv_rhs => rw [← Quote.joinTokens_tokensOf line, ← map_token_edits sandbox line]
  rw [List.filterMap_eq_flatMap_toList, List.filterMap_eq_flatMap_toList, rewriteSegments,
    Quote.flatMap_joinTokens, Quote.flatMap_joinTokens, List.map_map, List.map_map]
  apply congrArg
  apply List.map_congr_left
  intro command _
  rw [Function.comp_apply, Function.comp_apply, List.map_map, List.map_map]
  apply congrArg
  apply List.map_congr_left
  intro edit _
  simp [Edit.segments, Quote.Segment.span?, List.flatMap_map]

end Sandbox

end RunLine
