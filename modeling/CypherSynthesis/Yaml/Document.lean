import CypherSynthesis.Yaml.Lexer

/-!
YAML nodes and documents: read from tokens, and from texts that hold one document.
-/

namespace CypherSynthesis

/-- A node. Tags are not kept. -/
inductive Yaml where
  /-- A node that is left out. -/
  | empty
  | scalar (text : String)
  /-- A reference to the node of an anchor, which goes by a number. -/
  | reference (anchor : Nat)
  | sequence (items : List Yaml)
  | mapping (entries : List (Yaml × Yaml))
  deriving Inhabited, Repr

namespace Yaml

/-- A document: its node, and the texts of the anchors, which are none for collections. -/
structure Document where
  root : Yaml
  anchors : List (Nat × Option String)

/-- The text of a scalar or of a reference to one. -/
def Document.text? (document : Document) : Yaml → Option String
  | .empty => some ""
  | .scalar text => some text
  | .reference anchor => (document.anchors.lookup anchor).join
  | .sequence _ | .mapping _ => none

end Yaml
end CypherSynthesis

namespace CypherSynthesis.Yaml

/-- What is left to read, and what has been named so far. -/
structure Reading where
  tokens : List Token
  /-- The names of anchors with their numbers. -/
  names : List (String × Nat)
  /-- The texts of the anchors by their numbers, the latest first. -/
  anchors : List (Nat × Option String)
  /-- The tag handles that have been defined. -/
  handles : List String

abbrev Reader := StateT Reading Option

namespace Reader

def next? : Reader (Option Token) := do
  return (← get).tokens.head?

def drop : Reader Unit :=
  modify fun reading => { reading with tokens := reading.tokens.tail }

/-- Drops the next token if it is the given one. -/
def accept (token : Token) : Reader Bool := do
  let found := (← next?) = some token
  if found then drop
  return found

def expect (token : Token) : Reader Unit := do
  if !(← accept token) then failure

/-- Whether the next token is one of those given. -/
def isNext (tokens : List Token) : Reader Bool := do
  return (← next?).any tokens.contains

/-! ### Properties -/

/-- Gives a name to a node with the given text. The number of an anchor is how many names there were
before it, which a name that is used again does not change. -/
def remember (name : Option String) (text : Option String) : Reader Unit :=
  match name with
  | none => pure ()
  | some name => modify fun reading =>
    let number := reading.names.length
    let others := reading.names.filter (·.1 ≠ name)
    { reading with
      names := (name, number) :: others
      anchors := (number, text) :: reading.anchors }

def anchor? : Reader (Option String) := do
  match ← next? with
  | some (.anchor name) =>
    drop
    return some name
  | _ => return none

/-- Whether there is a tag. Its handle has to be defined. -/
def tag : Reader Bool := do
  match ← next? with
  | some (.tag handle) =>
    if ["", "!", "!!"].contains handle || (← get).handles.contains handle then
      drop
      return true
    else failure
  | _ => return false

/-- The anchor and the tag in front of a node, in either order: whether there is any, and the
name. -/
def properties : Reader (Bool × Option String) := do
  match ← anchor? with
  | some name =>
    let _ ← tag
    return (true, some name)
  | none =>
    if ← tag then return (true, ← anchor?) else return (false, none)

/-! ### Nodes -/

mutual

/-- A node. A sequence without a block of its own may stand for a key or a value of a block
mapping. -/
def node : Nat → Bool → Bool → Reader Yaml
  | 0, _, _ => failure
  | fuel + 1, block, bare => do
    match ← next? with
    | some (.reference name) =>
      drop
      match (← get).names.lookup name with
      | some number => return .reference number
      | none => failure
    | _ =>
      let (any, name) ← properties
      match ← next? with
      | some (.scalar text) =>
        drop
        remember name (some text)
        return .scalar text
      | some .flowSequenceStart =>
        drop
        remember name none
        return .sequence (← flowItems fuel true)
      | some .flowMappingStart =>
        drop
        remember name none
        return .mapping (← flowEntries fuel true)
      | token =>
        if bare && token = some .blockEntry then
          remember name none
          return .sequence (← bareItems fuel)
        else if block && token = some .blockSequenceStart then
          drop
          remember name none
          return .sequence (← blockItems fuel)
        else if block && token = some .blockMappingStart then
          drop
          remember name none
          return .mapping (← blockEntries fuel)
        else if any then
          remember name (some "")
          return .empty
        else failure

/-- A node that is left out if the next token is one of those given. -/
def nodeUnless : Nat → List Token → Bool → Bool → Reader Yaml
  | 0, _, _, _ => failure
  | fuel + 1, tokens, block, bare => do
    if ← isNext tokens then return .empty else node fuel block bare

/-- The value behind a colon; without the colon it is left out. -/
def valueUnless : Nat → List Token → Bool → Bool → Reader Yaml
  | 0, _, _, _ => failure
  | fuel + 1, tokens, block, bare => do
    if ← accept .value then nodeUnless fuel tokens block bare else return .empty

def blockItems : Nat → Reader (List Yaml)
  | 0 => failure
  | fuel + 1 => do
    if ← accept .blockEntry then
      let item ← nodeUnless fuel [.blockEntry, .blockEnd] true false
      return item :: (← blockItems fuel)
    else
      expect .blockEnd
      return []

def bareItems : Nat → Reader (List Yaml)
  | 0 => failure
  | fuel + 1 => do
    if ← accept .blockEntry then
      let item ← nodeUnless fuel [.blockEntry, .key, .value, .blockEnd] true false
      return item :: (← bareItems fuel)
    else return []

def blockEntries : Nat → Reader (List (Yaml × Yaml))
  | 0 => failure
  | fuel + 1 => do
    if ← accept .key then
      let key ← nodeUnless fuel [.key, .value, .blockEnd] true true
      let value ← valueUnless fuel [.key, .value, .blockEnd] true true
      return (key, value) :: (← blockEntries fuel)
    else
      expect .blockEnd
      return []

/-- The items of a flow sequence; one with a key is a mapping of a single entry. A key that is
left out takes the token behind it along. -/
def flowItems : Nat → Bool → Reader (List Yaml)
  | 0, _ => failure
  | fuel + 1, first => do
    if ← accept .flowSequenceEnd then return []
    else
      if !first then expect .flowEntry
      if ← accept .key then
        let isEmpty ← isNext [.value, .flowEntry, .flowSequenceEnd]
        if isEmpty then drop
        let key ← if isEmpty then pure .empty else node fuel false false
        let value ← valueUnless fuel [.flowEntry, .flowSequenceEnd] false false
        return .mapping [(key, value)] :: (← flowItems fuel false)
      else if ← accept .flowSequenceEnd then return []
      else
        let item ← node fuel false false
        return item :: (← flowItems fuel false)

/-- The entries of a flow mapping; one without a key mark has no value. -/
def flowEntries : Nat → Bool → Reader (List (Yaml × Yaml))
  | 0, _ => failure
  | fuel + 1, first => do
    if ← accept .flowMappingEnd then return []
    else
      if !first then expect .flowEntry
      if ← accept .key then
        let key ← nodeUnless fuel [.value, .flowEntry, .flowMappingEnd] false false
        let value ← valueUnless fuel [.flowEntry, .flowMappingEnd] false false
        return (key, value) :: (← flowEntries fuel false)
      else if ← accept .flowMappingEnd then return []
      else
        let key ← node fuel false false
        return (key, .empty) :: (← flowEntries fuel false)

end

/-! ### Documents -/

/-- Reads the directives in front of a document: a version that is understood, at most once, and tag
handles, each at most once. -/
def directives : Nat → Bool → Reader Unit
  | 0, _ => failure
  | fuel + 1, versioned => do
    match ← next? with
    | some (.version major minor) =>
      if versioned || major ≠ 1 || (minor ≠ 1 && minor ≠ 2) then failure
      drop
      directives fuel true
    | some (.tagHandle name) =>
      if (← get).handles.contains name then failure
      drop
      modify fun reading => { reading with handles := name :: reading.handles }
      directives fuel versioned
    | _ => pure ()

/-- The node of a document behind its start. -/
def content (fuel : Nat) : Reader Yaml := do
  match ← next? with
  | none | some (.version _ _) | some (.tagHandle _) | some .documentStart | some .documentEnd =>
    return .empty
  | _ => node fuel true false

/-- The node of the only document. -/
def root (fuel : Nat) : Reader Yaml := do
  match ← next? with
  | none => return .empty
  | some (.version _ _) | some (.tagHandle _) | some .documentStart =>
    directives fuel false
    expect .documentStart
    content fuel
  | _ => node fuel true false

end Reader

/-- The document that tokens make up. Behind it there may be nothing but ends of documents. -/
def Document.ofTokens? (tokens : List Token) : Option Document := do
  let fuel := 3 * tokens.length + 3
  let (root, reading) ← (Reader.root fuel).run ⟨tokens, [], [], []⟩
  if reading.tokens.all (· = .documentEnd) then return ⟨root, reading.anchors⟩ else none

/-- Whether a character may occur in a document at all. -/
def isAllowed (c : Char) : Bool :=
  let n := c.toNat
  n = 0x9 || n = 0xA || n = 0xD || (0x20 ≤ n && n ≤ 0x7E) || n = 0x85 || (0xA0 ≤ n && n ≤ 0xFFFD) ||
    0x10000 ≤ n

/-- Turns every kind of line break into a line feed, separators apart. -/
def unifyBreaks : List Char → List Char
  | [] => []
  | '\r' :: '\n' :: rest => '\n' :: unifyBreaks rest
  | c :: rest => (if c = '\r' || c.toNat = 0x85 then '\n' else c) :: unifyBreaks rest

/-- The only document of a text. -/
def parse? (text : String) : Option Document := do
  let cs := text.toList
  if !cs.all isAllowed then none
  else Document.ofTokens? (← Token.ofCursor? (.ofList (unifyBreaks cs)))

end CypherSynthesis.Yaml
