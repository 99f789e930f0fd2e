import RunLine.Yaml.Lexer
import RunLine.Yaml.Node
/-!
# The document of a YAML text

The grammar over tokens.  Left-out keys, values and items are empty plain scalars, and so is a
document without content.  A text states one document at most.

The number of a name is the count of different names before it; a name that is given again takes the
count of all names so far.
-/

namespace RunLine.Yaml

/-- Abbreviations of tags: handles with what they stand for. -/
abbrev Handles := List (Text × Text)

def Handles.standard : Handles :=
  [(['!'], ['!']), (['!', '!'], Text.lit "tag:yaml.org,2002:")]

/-- The tokens that are left, and the names given so far with their numbers. -/
structure Source where
  tokens : List Token
  names : List (Text × Nat)
  deriving Repr

namespace Source

/-- The source with other tokens left. -/
def withTokens (source : Source) (tokens : List Token) : Source := { source with tokens }

/-- A name given once more: its number, and the source that knows it. -/
def label (source : Source) (name : Text) : Nat × Source :=
  let number := source.names.length
  let known := source.names.any (·.1 == name)
  let names :=
    if known then source.names.map fun entry => if entry.1 = name then (name, number) else entry
    else source.names ++ [(name, number)]
  (number, { source with names })

end Source

/-- A reader takes a node or a part of one off the front of the tokens. -/
abbrev Grammar (α : Type) := Source → Option (α × Source)

/-- What stands before the content of a node. -/
structure Properties where
  label : Option Nat
  tag : Option Text
  deriving DecidableEq, Repr

def expandTag? (handles : Handles) (handle suffix : Text) : Option Text :=
  if handle.isEmpty then some suffix
  else (handles.lookup handle).map (· ++ suffix)

def readLabel (source : Source) : Option Nat × Source :=
  match source.tokens with
  | .anchor name :: rest =>
      let (number, source) := (source.withTokens rest).label name
      (some number, source)
  | _ => (none, source)

def readTagProperty (handles : Handles) : Grammar (Option Text) := fun source =>
  match source.tokens with
  | .tag handle suffix :: rest => do
      let tag ← expandTag? handles handle suffix
      some (some tag, source.withTokens rest)
  | _ => some (none, source)

/-- A name and a tag in either order, as far as they are there. -/
def readProperties (handles : Handles) : Grammar Properties := fun source => do
  let (early, source) := readLabel source
  let (tag, source) ← readTagProperty handles source
  let (label, source) := if early.isNone && tag.isSome then readLabel source else (early, source)
  some (⟨label, tag⟩, source)

/-- Whether a key or a value is left out in a block mapping. -/
def isLeftOutOfBlock : List Token → Bool
  | .key :: _ | .value :: _ | .blockEnd :: _ => true
  | _ => false

/-- Whether a key or a value is left out before a token that closes a flow collection. -/
def isLeftOutOfFlow (closing : Token) (tokens : List Token) : Bool :=
  tokens.head? == some .flowEntry || tokens.head? == some closing

/-- Where a node stands: what may be its content without brackets. -/
inductive Context where
  /-- An item of a block sequence, or the whole document. -/
  | block
  /-- A key or value of a block mapping, where the dashes of a sequence need no indentation. -/
  | blockPair
  | flow
  deriving DecidableEq, Repr

mutual

/-- A node.  Depth of calls is bounded, as it is in all the readers that follow. -/
def readNode (handles : Handles) (context : Context) : Nat → Grammar Node
  | 0, _ => none
  | bound + 1, source =>
      match source.tokens with
      | .alias name :: rest => do
          let number ← source.names.lookup name
          some (.alias number, source.withTokens rest)
      | _ => do
          let (properties, source) ← readProperties handles source
          let label := properties.label
          match context, source.tokens with
          | .blockPair, .blockEntry :: _ => do
              let (items, source) ← readLooseItems handles bound source
              some (.sequence label items, source)
          | _, .scalar form text :: rest =>
              some (.scalar label properties.tag form text, source.withTokens rest)
          | _, .flowSequenceStart :: rest => do
              let (items, source) ← readFlowItems handles true bound (source.withTokens rest)
              some (.sequence label items, source)
          | _, .flowMappingStart :: rest => do
              let (pairs, source) ← readFlowPairs handles true bound (source.withTokens rest)
              some (.mapping label pairs, source)
          | .flow, _ =>
              if label.isSome || properties.tag.isSome then
                some (.scalar label properties.tag .plain [], source)
              else none
          | _, .blockSequenceStart :: rest => do
              let (items, source) ← readBlockItems handles bound (source.withTokens rest)
              some (.sequence label items, source)
          | _, .blockMappingStart :: rest => do
              let (pairs, source) ← readBlockPairs handles bound (source.withTokens rest)
              some (.mapping label pairs, source)
          | _, _ =>
              if label.isSome || properties.tag.isSome then
                some (.scalar label properties.tag .plain [], source)
              else none

/-- The items of a block sequence, up to its end. -/
def readBlockItems (handles : Handles) : Nat → Grammar (List Node)
  | 0, _ => none
  | bound + 1, source =>
      match source.tokens with
      | .blockEnd :: rest => some ([], source.withTokens rest)
      | .blockEntry :: rest => do
          let (item, source) ←
            match rest with
            | .blockEntry :: _ | .blockEnd :: _ => some (Node.missing, source.withTokens rest)
            | _ => readNode handles .block bound (source.withTokens rest)
          let (items, source) ← readBlockItems handles bound source
          some (item :: items, source)
      | _ => none

/-- The items of a sequence without indentation, which ends where no dash follows. -/
def readLooseItems (handles : Handles) : Nat → Grammar (List Node)
  | 0, _ => none
  | bound + 1, source =>
      match source.tokens with
      | .blockEntry :: rest => do
          let (item, source) ←
            match rest with
            | .blockEntry :: _ | .key :: _ | .value :: _ | .blockEnd :: _ =>
                some (Node.missing, source.withTokens rest)
            | _ => readNode handles .block bound (source.withTokens rest)
          let (items, source) ← readLooseItems handles bound source
          some (item :: items, source)
      | _ => some ([], source)

/-- The pairs of a block mapping, up to its end. -/
def readBlockPairs (handles : Handles) : Nat → Grammar (List (Node × Node))
  | 0, _ => none
  | bound + 1, source =>
      match source.tokens with
      | .blockEnd :: rest => some ([], source.withTokens rest)
      | .key :: rest => do
          let (key, source) ←
            if isLeftOutOfBlock rest then some (Node.missing, source.withTokens rest)
            else readNode handles .blockPair bound (source.withTokens rest)
          let (value, source) ←
            match source.tokens with
            | .value :: rest =>
                if isLeftOutOfBlock rest then some (Node.missing, source.withTokens rest)
                else readNode handles .blockPair bound (source.withTokens rest)
            | _ => some (Node.missing, source)
          let (pairs, source) ← readBlockPairs handles bound source
          some ((key, value) :: pairs, source)
      | _ => none

/-- The items of a flow sequence up to its closing bracket.  A key sign makes an item a mapping of
one pair; where its key is left out, one token is skipped. -/
def readFlowItems (handles : Handles) (first : Bool) : Nat → Grammar (List Node)
  | 0, _ => none
  | bound + 1, source =>
      match source.tokens with
      | .flowSequenceEnd :: rest => some ([], source.withTokens rest)
      | tokens => do
          let tokens ←
            if first then some tokens
            else
              match tokens with
              | .flowEntry :: rest => some rest
              | _ => none
          match tokens with
          | .flowSequenceEnd :: rest => some ([], source.withTokens rest)
          | .key :: rest => do
              let (key, source) ←
                if isLeftOutOfFlow .flowSequenceEnd rest || rest.head? == some .value then
                  some (Node.missing, source.withTokens rest.tail)
                else readNode handles .flow bound (source.withTokens rest)
              let (value, source) ← readFlowValue handles .flowSequenceEnd bound source
              let (items, source) ← readFlowItems handles false bound source
              some (.mapping none [(key, value)] :: items, source)
          | _ => do
              let (item, source) ← readNode handles .flow bound (source.withTokens tokens)
              let (items, source) ← readFlowItems handles false bound source
              some (item :: items, source)

/-- The pairs of a flow mapping up to its closing bracket. -/
def readFlowPairs (handles : Handles) (first : Bool) : Nat → Grammar (List (Node × Node))
  | 0, _ => none
  | bound + 1, source =>
      match source.tokens with
      | .flowMappingEnd :: rest => some ([], source.withTokens rest)
      | tokens => do
          let tokens ←
            if first then some tokens
            else
              match tokens with
              | .flowEntry :: rest => some rest
              | _ => none
          match tokens with
          | .flowMappingEnd :: rest => some ([], source.withTokens rest)
          | .key :: rest => do
              let (key, source) ←
                if isLeftOutOfFlow .flowMappingEnd rest || rest.head? == some .value then
                  some (Node.missing, source.withTokens rest)
                else readNode handles .flow bound (source.withTokens rest)
              let (value, source) ← readFlowValue handles .flowMappingEnd bound source
              let (pairs, source) ← readFlowPairs handles false bound source
              some ((key, value) :: pairs, source)
          | _ => do
              let (key, source) ← readNode handles .flow bound (source.withTokens tokens)
              let (pairs, source) ← readFlowPairs handles false bound source
              some ((key, Node.missing) :: pairs, source)

/-- The value of a pair in a flow collection with a closing bracket, if there is a colon. -/
def readFlowValue (handles : Handles) (closing : Token) : Nat → Grammar Node
  | 0, _ => none
  | bound + 1, source =>
      match source.tokens with
      | .value :: rest =>
          if isLeftOutOfFlow closing rest then some (Node.missing, source.withTokens rest)
          else readNode handles .flow bound (source.withTokens rest)
      | _ => some (Node.missing, source)

end

/-- The directives ahead of a document: whether there was a version, and the abbreviations.  Only
the versions 1.1 and 1.2 are known, and nothing may be said twice. -/
def readDirectives : Bool → Handles → List Token → Option (Handles × List Token)
  | versioned, handles, .versionDirective major minor :: rest =>
      if versioned || major != 1 || (minor != 1 && minor != 2) then none
      else readDirectives true handles rest
  | versioned, handles, .tagDirective handle expansion :: rest =>
      if (handles.lookup handle).isSome then none
      else readDirectives versioned (handles ++ [(handle, expansion)]) rest
  | _, handles, tokens => some (handles ++ Handles.standard, tokens)

/-- Whether nothing stands between the start of a document and its end. -/
def isEmptyDocument : List Token → Bool
  | [] => true
  | .documentStart :: _ | .documentEnd :: _ => true
  | .versionDirective _ _ :: _ | .tagDirective _ _ :: _ => true
  | _ => false

/-- How deep calls may go for so many tokens. -/
def callBound (tokens : List Token) : Nat := 4 * tokens.length + 4

def readContent (handles : Handles) (tokens : List Token) : Option (Node × List Token) := do
  let (root, source) ← readNode handles .block (callBound tokens) ⟨tokens, []⟩
  some (root, source.tokens)

/-- The document that tokens state.  Without a start sign there are neither directives nor an end
sign ahead of it. -/
def documentOf? (tokens : List Token) : Option Node := do
  if tokens.isEmpty then some Node.missing
  else
    let (handles, rest) ← readDirectives false [] tokens
    let (root, rest) ←
      match rest with
      | .documentStart :: rest =>
          if isEmptyDocument rest then some (Node.missing, rest) else readContent handles rest
      | _ => if rest.length = tokens.length then readContent handles tokens else none
    if rest.all (· == .documentEnd) then some root else none

/-- The document that a text states, unless it is malformed or states more than one. -/
def parse? (text : Text) : Option Node := (tokensOf? text).bind documentOf?

end RunLine.Yaml
