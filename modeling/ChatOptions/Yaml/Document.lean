import ChatOptions.Yaml.Node
import ChatOptions.Yaml.Token.Lexer

/-! The first document of a YAML text as a tree of nodes, as far as it is well formed. -/

namespace ChatOptions

namespace Yaml

/-- The tokens that are to come, and what is known from those that have been. -/
structure Tokens where
  rest : List Token
  /-- The fault behind the tokens, if the text does not end well. -/
  fault : Option Fault
  /-- The handles of tags, and what each stands for. -/
  handles : List (List Char × List UInt8) := []
  /-- The names of the anchors so far, each with the number of its last node. -/
  anchors : List (List Char × Nat) := []

namespace Tokens

/-- The next token. -/
def peek (tokens : Tokens) : Except Fault Token :=
  match tokens.rest, tokens.fault with
  | token :: _, _ => .ok token
  | [], some fault => .error fault
  | [], none => .error .endOfDocument

/-- The tokens behind the next. -/
def next (tokens : Tokens) : Tokens := { tokens with rest := tokens.rest.drop 1 }

/-- The tokens behind a node with an anchor, and the number of that. Numbers count names, so that a name that is used again can share one with another name. -/
def anchor (tokens : Tokens) (name : List Char) : Tokens × Nat :=
  let number := tokens.anchors.length
  ({ tokens with
    anchors := (name, number) :: tokens.anchors.filter fun (other, _) => other != name }, number)

/-- What is understood of the tokens, and the tokens behind that unless the document breaks off. -/
abbrev Parsed (α : Type) : Type := α × Option Tokens

/-- A node at which the document breaks off. -/
def broken (fault : Fault) : Parsed Node := (.broken fault, none)

/-- A node at which the document proves not to be well formed. -/
def malformed (problem : String) (place : Mark) (context : Option Context) : Parsed Node :=
  broken (.malformed problem place context)

/-- A scalar that is not written. -/
def emptyScalar (tokens : Tokens) (place : Mark) : Parsed Node :=
  (.scalar ⟨place, none, none⟩ ⟨.plain, ""⟩, some tokens)

/-- The properties of a node as they are written. -/
structure Prelude where
  start : Mark
  anchor : Option (List Char) := none
  /-- The handle and the rest of a tag, and its place. -/
  tag : Option (List Char × List UInt8 × Mark) := none

/-- Reads the properties of a node in either order, each at most once. -/
def readPrelude (tokens : Tokens) : Except Fault (Prelude × Tokens) := do
  let first ← tokens.peek
  let found : Prelude := { start := first.start }
  match first.lexeme with
  | .anchor name =>
    let found := { found with anchor := some name }
    -- A tag may follow the anchor, and otherwise an anchor may follow the tag.
    let second ← tokens.next.peek
    match second.lexeme with
    | .tag handle suffix =>
      return ({ found with tag := some (handle, suffix, second.start) }, tokens.next.next)
    | _ => return (found, tokens.next)
  | .tag handle suffix =>
    let found := { found with tag := some (handle, suffix, first.start) }
    let second ← tokens.next.peek
    match second.lexeme with
    | .anchor name => return ({ found with anchor := some name }, tokens.next.next)
    | _ => return (found, tokens.next)
  | _ => return (found, tokens)

/-- The octets of a tag, its handle replaced by what it stands for. -/
def resolveTag (tokens : Tokens) (found : Prelude) : Except Fault (Option (List UInt8)) :=
  match found.tag with
  | none => .ok none
  -- A tag without a handle is given as a whole.
  | some ([], suffix, _) => .ok (some suffix)
  | some (handle, suffix, place) =>
    match tokens.handles.lookup handle with
    | some lead => .ok (some (lead ++ suffix))
    | none =>
      .error (.malformed "found undefined tag handle" place
        (some ⟨"while parsing a node", found.start⟩))

/-- The properties of a node, and the tokens with its anchor known. -/
def register (tokens : Tokens) (found : Prelude) (tag : Option (List UInt8)) :
    Properties × Tokens :=
  let tag := tag.map Tag.ofOctets
  match found.anchor with
  | none => (⟨found.start, tag, none⟩, tokens)
  | some name =>
    let (tokens, number) := tokens.anchor name
    (⟨found.start, tag, some number⟩, tokens)

/-- Whether an item or a key is left out before a token. -/
def endsBlockPart : Lexeme → Bool
  | .key | .value | .blockEnd => true
  | _ => false

/-- Whether an item of a sequence that is not indented is left out before a token. -/
def endsItem (lexeme : Lexeme) : Bool := lexeme == .blockEntry || endsBlockPart lexeme

/-- Joins a part and what follows it, unless the document breaks off. -/
def andThen {α β : Type} (part : Parsed α) (following : Tokens → Parsed (List β))
    (join : α → β) : Parsed (List β) :=
  match part with
  | (part, none) => ([join part], none)
  | (part, some tokens) =>
    let (others, tokens) := following tokens
    (join part :: others, tokens)

/-- Joins a key and its value, unless the document breaks off. -/
def entry (key : Parsed Node) (value : Tokens → Parsed Node) : Parsed (Node × Node) :=
  match key with
  -- A key that breaks off leaves nothing of its value.
  | (.broken fault, _) => ((.broken fault, .broken fault), none)
  | (key, none) => ((key, .broken .endOfDocument), none)
  | (key, some tokens) =>
    let (value, tokens) := value tokens
    ((key, value), tokens)

/-- A collection at whose end the document breaks off. -/
def brokenItems (fault : Fault) : Parsed (List Node) := ([.broken fault], none)

/-- A mapping at whose end the document breaks off. -/
def brokenEntries (fault : Fault) : Parsed (List (Node × Node)) :=
  ([(.broken fault, .broken fault)], none)

mutual

/-- Reads a node. One of block style may stand only where `block` says, a sequence without indentation only where `indentless` says. -/
def node (block indentless : Bool) : Nat → Tokens → Parsed Node
  | 0, _ => broken .endOfDocument
  | count + 1, tokens =>
    match tokens.peek with
    | .error fault => broken fault
    -- A reference stands alone, without properties of its own.
    | .ok ⟨.reference name, start, _⟩ =>
      match tokens.anchors.lookup name with
      | some number => (.reference start number, some tokens.next)
      | none => broken (.unknownAnchor start)
    | .ok _ =>
      match tokens.readPrelude with
      | .error fault => broken fault
      | .ok (found, tokens) =>
        match tokens.peek with
        | .error fault => broken fault
        | .ok token =>
          match tokens.resolveTag found with
          | .error fault => broken fault
          | .ok tag => content block indentless count found tag token tokens

/-- Reads what follows the properties of a node, which begins with a token. -/
def content (block indentless : Bool) :
    Nat → Prelude → Option (List UInt8) → Token → Tokens → Parsed Node
  | 0, _, _, _, _ => broken .endOfDocument
  | count + 1, found, tag, token, tokens =>
    -- The anchor of a collection is known inside of it.
    let sequence (items : Tokens → Parsed (List Node)) (tokens : Tokens) : Parsed Node :=
      let (properties, tokens) := tokens.register found tag
      let (items, tokens) := items tokens
      (.sequence properties items, tokens)
    let mapping (entries : Tokens → Parsed (List (Node × Node))) : Parsed Node :=
      let (properties, tokens) := tokens.next.register found tag
      let (entries, tokens) := entries tokens
      (.mapping properties entries, tokens)
    let problem := (if block then "while parsing a block node" else "while parsing a flow node")
    match token.lexeme with
    | .scalar style text =>
      let (properties, tokens) := tokens.next.register found tag
      (.scalar properties ⟨style, String.ofList text⟩, some tokens)
    | .flowSequenceStart => sequence (flowItems count token.start true) tokens.next
    | .flowMappingStart => mapping (flowEntries count token.start true)
    | lexeme =>
      if indentless && lexeme == .blockEntry then sequence (indentlessItems count) tokens
      else if block && lexeme == .blockSequenceStart then
        sequence (blockItems count token.start) tokens.next
      else if block && lexeme == .blockMappingStart then mapping (blockEntries count token.start)
      -- Properties without a node belong to an empty scalar.
      else if found.anchor.isSome || tag.isSome then
        let (properties, tokens) := tokens.register found tag
        (.scalar properties ⟨.plain, ""⟩, some tokens)
      else
        malformed "did not find expected node content" token.start (some ⟨problem, found.start⟩)

/-- Reads the items of a block sequence. -/
def blockItems : Nat → Mark → Tokens → Parsed (List Node)
  | 0, _, _ => brokenItems .endOfDocument
  | count + 1, start, tokens =>
    match tokens.peek with
    | .error fault => brokenItems fault
    | .ok ⟨.blockEntry, _, stop⟩ =>
      let item := match tokens.next.peek with
        | .error fault => broken fault
        | .ok token =>
          -- A dash without an item behind it stands for an empty scalar.
          if token.lexeme == .blockEntry || token.lexeme == .blockEnd then
            tokens.next.emptyScalar stop
          else node true false count tokens.next
      andThen item (blockItems count start) id
    | .ok ⟨.blockEnd, _, _⟩ => ([], some tokens.next)
    | .ok token =>
      brokenItems (.malformed "did not find expected '-' indicator" token.start
        (some ⟨"while parsing a block collection", start⟩))

/-- Reads the items of a block sequence that is not indented. -/
def indentlessItems : Nat → Tokens → Parsed (List Node)
  | 0, _ => brokenItems .endOfDocument
  | count + 1, tokens =>
    match tokens.peek with
    | .error fault => brokenItems fault
    | .ok ⟨.blockEntry, _, stop⟩ =>
      let item := match tokens.next.peek with
        | .error fault => broken fault
        | .ok token =>
          if endsItem token.lexeme then tokens.next.emptyScalar stop
          else node true false count tokens.next
      andThen item (indentlessItems count) id
    -- Without indentation no token ends the sequence, so any other token does.
    | .ok _ => ([], some tokens)

/-- Reads a key or value of a block mapping behind its indicator, which ends at a place. -/
def blockPart : Nat → Mark → Tokens → Parsed Node
  | 0, _, _ => broken .endOfDocument
  | count + 1, stop, tokens =>
    match tokens.peek with
    | .error fault => broken fault
    | .ok token =>
      if endsBlockPart token.lexeme then tokens.emptyScalar stop
      else node true true count tokens

/-- Reads the entries of a block mapping. -/
def blockEntries : Nat → Mark → Tokens → Parsed (List (Node × Node))
  | 0, _, _ => brokenEntries .endOfDocument
  | count + 1, start, tokens =>
    match tokens.peek with
    | .error fault => brokenEntries fault
    | .ok ⟨.key, _, stop⟩ =>
      let value (tokens : Tokens) : Parsed Node :=
        match tokens.peek with
        | .error fault => broken fault
        | .ok ⟨.value, _, stop⟩ => blockPart count stop tokens.next
        -- A key may do without a value.
        | .ok token => tokens.emptyScalar token.start
      andThen (entry (blockPart count stop tokens.next) value) (blockEntries count start) id
    | .ok ⟨.blockEnd, _, _⟩ => ([], some tokens.next)
    | .ok token =>
      brokenEntries (.malformed "did not find expected key" token.start
        (some ⟨"while parsing a block mapping", start⟩))

/-- Reads the items of a flow sequence. -/
def flowItems : Nat → Mark → Bool → Tokens → Parsed (List Node)
  | 0, _, _, _ => brokenItems .endOfDocument
  | count + 1, start, isFirst, tokens =>
    let item (token : Token) (tokens : Tokens) : Parsed (List Node) :=
      match token.lexeme with
      | .flowSequenceEnd => ([], some tokens.next)
      | .key =>
        andThen (flowPair count tokens.next) (flowItems count start false) fun entries =>
          .mapping ⟨token.start, none, none⟩ entries
      | _ => andThen (node false false count tokens) (flowItems count start false) id
    match tokens.peek with
    | .error fault => brokenItems fault
    | .ok token =>
      -- Before every item but the first stands a comma, also where no item follows it.
      if isFirst || token.lexeme == .flowSequenceEnd then item token tokens
      else if token.lexeme == .flowEntry then
        match tokens.next.peek with
        | .error fault => brokenItems fault
        | .ok token => item token tokens.next
      else
        brokenItems (.malformed "did not find expected ',' or ']'" token.start
          (some ⟨"while parsing a flow sequence", start⟩))

/-- Reads a mapping of one entry that stands in a flow sequence without braces. -/
def flowPair : Nat → Tokens → Parsed (List (Node × Node))
  | 0, _ => brokenEntries .endOfDocument
  | count + 1, tokens =>
    let value (tokens : Tokens) : Parsed Node :=
      match tokens.peek with
      | .error fault => broken fault
      | .ok ⟨.value, _, _⟩ =>
        match tokens.next.peek with
        | .error fault => broken fault
        | .ok token =>
          if token.lexeme == .flowEntry || token.lexeme == .flowSequenceEnd then
            tokens.next.emptyScalar token.start
          else node false false count tokens.next
      | .ok token => tokens.emptyScalar token.start
    match tokens.peek with
    | .error fault => brokenEntries fault
    | .ok token =>
      let key :=
        match token.lexeme with
        -- A key that is not written is taken to stand before the token, which is passed over.
        | .value | .flowEntry | .flowSequenceEnd => tokens.next.emptyScalar token.stop
        | _ => node false false count tokens
      andThen (entry key value) (fun tokens =>
        match tokens.peek with
        | .error fault => brokenEntries fault
        | .ok _ => ([], some tokens)) id

/-- Reads the entries of a flow mapping. -/
def flowEntries : Nat → Mark → Bool → Tokens → Parsed (List (Node × Node))
  | 0, _, _, _ => brokenEntries .endOfDocument
  | count + 1, start, isFirst, tokens =>
    let written (tokens : Tokens) : Parsed Node :=
      match tokens.peek with
      | .error fault => broken fault
      | .ok token =>
        if token.lexeme == .flowEntry || token.lexeme == .flowMappingEnd then
          tokens.emptyScalar token.start
        else node false false count tokens
    let value (tokens : Tokens) : Parsed Node :=
      match tokens.peek with
      | .error fault => broken fault
      | .ok ⟨.value, _, _⟩ => written tokens.next
      | .ok token => tokens.emptyScalar token.start
    let noValue (tokens : Tokens) : Parsed Node :=
      match tokens.peek with
      | .error fault => broken fault
      | .ok token => tokens.emptyScalar token.start
    let part (token : Token) (tokens : Tokens) : Parsed (List (Node × Node)) :=
      match token.lexeme with
      | .flowMappingEnd => ([], some tokens.next)
      | .key =>
        let key := match tokens.next.peek with
          | .error fault => broken fault
          | .ok ⟨.value, start, _⟩ => tokens.next.emptyScalar start
          | .ok _ => written tokens.next
        andThen (entry key value) (flowEntries count start false) id
      | _ =>
        andThen (entry (node false false count tokens) noValue) (flowEntries count start false) id
    match tokens.peek with
    | .error fault => brokenEntries fault
    | .ok token =>
      -- Before every entry but the first stands a comma, also where no entry follows it.
      if isFirst || token.lexeme == .flowMappingEnd then part token tokens
      else if token.lexeme == .flowEntry then
        match tokens.next.peek with
        | .error fault => brokenEntries fault
        | .ok token => part token tokens.next
      else
        brokenEntries (.malformed "did not find expected ',' or '\x7d'" token.start
          (some ⟨"while parsing a flow mapping", start⟩))

end

/-- Reads the directives before a document, after those that declared a version or handles. -/
def directives : Nat → Bool → Tokens → Except Fault Tokens
  | 0, _, tokens => .ok tokens
  | count + 1, versioned, tokens =>
    match tokens.peek with
    | .error fault => .error fault
    | .ok ⟨.versionDirective major minor, start, _⟩ =>
      -- A document has one version at most, and each handle is declared once.
      if versioned then .error (.malformed "found duplicate %YAML directive" start none)
      else if major != 1 || (minor != 1 && minor != 2) then
        .error (.malformed "found incompatible YAML document" start none)
      else directives count true tokens.next
    | .ok ⟨.tagDirective handle lead, start, _⟩ =>
      if (tokens.handles.lookup handle).isSome then
        .error (.malformed "found duplicate %TAG directive" start none)
      else
        directives count versioned
          { tokens.next with handles := tokens.handles ++ [(handle, lead)] }
    | .ok _ => .ok tokens

/-- What the handles of tags stand for that need no directive. -/
def defaultHandles : List (List Char × List UInt8) :=
  [(['!'], Scan.octets ['!']), (['!', '!'], Scan.octets "tag:yaml.org,2002:".toList)]

/-- Whether a token may stand before a document that begins with a line of its own. -/
def beginsExplicitly : Lexeme → Bool
  | .versionDirective _ _ | .tagDirective _ _ | .documentStart => true
  | _ => false

/-- Reads the root of a document behind the line that begins it. -/
def explicitRoot (count : Nat) (tokens : Tokens) : Parsed Node :=
  match tokens.peek with
  | .error fault => broken fault
  | .ok token =>
    if beginsExplicitly token.lexeme || token.lexeme == .documentEnd ||
        token.lexeme == .streamEnd then
      tokens.emptyScalar token.start
    else node true false count tokens

/-- Reads the root of the first document. -/
def root (count : Nat) (tokens : Tokens) : Parsed Node :=
  match tokens.peek with
  | .error fault => broken fault
  | .ok token =>
    if token.lexeme == .streamEnd then (.absent token.start, some tokens)
    else if beginsExplicitly token.lexeme then
      match directives count false tokens with
      | .error fault => broken fault
      | .ok tokens =>
        match tokens.peek with
        | .error fault => broken fault
        | .ok token =>
          if token.lexeme == .documentStart then
            explicitRoot count
              -- Handles that were declared come before those that need no directive.
              { tokens.next with handles := tokens.handles ++ defaultHandles }
          else malformed "did not find expected <document start>" token.start none
    else node true false count { tokens with handles := defaultHandles }

/-- Whether anything but the end of the text follows, lines aside that end a document. -/
def hasMore (tokens : Tokens) : Bool :=
  match tokens.rest.dropWhile (·.lexeme == .documentEnd) with
  | ⟨.streamEnd, _, _⟩ :: _ => false
  | _ => true

end Tokens

/-- The first document of a text. -/
structure Document where
  root : Node
  /-- A fault behind the root. -/
  fault : Option Fault

namespace Document

/-- The first document of a text. A fault that is found only behind its root is told apart, and so is a second document. -/
def ofText (text : String) : Document :=
  let (rest, fault) := tokens text
  -- Between two tokens there are at most three steps.
  match Tokens.root (4 * rest.length + 8) { rest := rest, fault := fault } with
  | (root, none) => ⟨root, none⟩
  | (root, some tokens) =>
    -- The root is whole, so a fault or a document behind it is told apart from it.
    match tokens.peek with
    | .error fault => ⟨root, some fault⟩
    | .ok _ => ⟨root, if tokens.hasMore then some .severalDocuments else none⟩

end Document

end Yaml

end ChatOptions
