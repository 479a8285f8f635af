import EventStore.Yaml.Lexer
import EventStore.Yaml.Word

/-! The tree that tokens spell out. Names of entries are texts or integers, each at most once in a
mapping. An alias stands for the node of its anchor. -/

namespace EventStore.Yaml

structure Context where
  /-- The anchors with the number of the node each one belongs to, the last one first. -/
  anchors : List (List Char × Nat) := []
  /-- The finished nodes with an anchor. -/
  nodes : List (Nat × Node) := []
  /-- What the handles of tags stand for. -/
  handles : List (List Char × List Char) := []

namespace Context

/-- A new node under an anchor, which hides an earlier one of that name. -/
def addAnchor (context : Context) (name : List Char) : Context × Nat :=
  let number := context.anchors.length
  ({ context with anchors := (name, number) :: context.anchors }, number)

def finishNode (context : Context) (number : Option Nat) (node : Node) : Context :=
  match number with
  | some number => { context with nodes := (number, node) :: context.nodes }
  | none => context

/-- The node that an alias stands for, which holds nothing before it is finished. -/
def aliased (context : Context) (name : List Char) : Option Node :=
  (context.anchors.lookup name).map fun number => (context.nodes.lookup number).join

/-- A handle between two marks has to be declared; two marks alone are that of the core tags. -/
def resolve (context : Context) (tag : Tag) : Option (List Char × List Char) :=
  match context.handles.lookup tag.handle with
  | some start => some (start, tag.suffix)
  | none =>
    if tag.handle = ['!', '!'] then some (coreHandle, tag.suffix)
    else if Input.isWholeHandle tag.handle then none
    else some (tag.handle, tag.suffix)

end Context

/-- The name of an entry as it is compared with others. -/
inductive EntryName
  | text (value : String)
  | integer (value : Int)
  deriving DecidableEq, Repr

namespace EntryName

def ofDocument : Document → Option EntryName
  | .text value => some (.text value)
  | .integer value => some (.integer value)
  | _ => none

def toText : EntryName → String
  | .text value => value
  | .integer value => String.ofList (signedDigits value)

end EntryName

/-- Names and values in turn make up a mapping. A node that holds nothing is no name and is passed
over. -/
def assemble : Option EntryName → List Node → List (EntryName × Document) →
    Option (List (EntryName × Document))
  | _, [], entries => some entries.reverse
  | none, none :: nodes, entries => assemble none nodes entries
  | none, some document :: nodes, entries => do
    assemble (some (← EntryName.ofDocument document)) nodes entries
  | some name, node :: nodes, entries =>
    if (entries.lookup name).isSome then none
    else assemble none nodes ((name, node.getD .null) :: entries)

/-- An integer and its digits as text are different names in a file, but not in settings. -/
def mappingOf (nodes : List Node) : Option Node := do
  let entries ← assemble none nodes []
  let settings := entries.foldl (fun settings (name, value) =>
    Document.setEntry name.toText value settings) []
  return some (.mapping settings)

def listOf (nodes : List Node) : Node := some (.list (nodes.map (·.getD .null)))

def nullNode : Node := some .null

structure Properties where
  number : Option Nat := none
  tag : Option (List Char × List Char) := none

def Properties.isEmpty (properties : Properties) : Bool :=
  properties.number.isNone && properties.tag.isNone

/-- An anchor and a tag, in either order, or one of them, or none. -/
def readProperties (context : Context) (tokens : List Token) :
    Option (Properties × Context × List Token) :=
  match tokens with
  | .anchor name :: .tag tag :: rest => do
    let (context, number) := context.addAnchor name
    return ({ number := some number, tag := some (← context.resolve tag) }, context, rest)
  | .tag tag :: .anchor name :: rest => do
    let (context, number) := context.addAnchor name
    return ({ number := some number, tag := some (← context.resolve tag) }, context, rest)
  | .anchor name :: rest =>
    let (context, number) := context.addAnchor name
    some ({ number := some number }, context, rest)
  | .tag tag :: rest => do
    return ({ tag := some (← context.resolve tag) }, context, rest)
  | _ => some ({}, context, tokens)

def comes (next tokens : List Token) : Bool := tokens.head?.any next.contains

/-- What was read, with what is known and what is left after it. -/
abbrev Found (α : Type) := α × Context × List Token

/-- A node without content needs a property to be one. -/
def readEmpty (properties : Properties) (context : Context) (tokens : List Token) :
    Option (Found Node) :=
  if properties.isEmpty then none
  else (scalarValue .plain properties.tag []).map (·, context, tokens)

mutual
/-- A node. Block collections stand only where they are allowed, and items without an indentation
of their own only below a name. -/
def readNode (allowsBlock allowsItems : Bool) :
    Nat → Context → List Token → Option (Found Node)
  | 0, _, _ => none
  | fuel + 1, context, tokens =>
    match tokens with
    | .alias name :: rest => (context.aliased name).map (·, context, rest)
    | _ => do
      let (properties, context, tokens) ← readProperties context tokens
      let (node, context, tokens) ←
        readContent allowsBlock allowsItems properties fuel context tokens
      return (node, context.finishNode properties.number node, tokens)

def readContent (allowsBlock allowsItems : Bool) (properties : Properties) :
    Nat → Context → List Token → Option (Found Node)
  | 0, _, _ => none
  | fuel + 1, context, tokens =>
    match tokens with
    | .scalar style text :: rest =>
      (scalarValue style properties.tag text).map (·, context, rest)
    | .flowSequenceStart :: rest => do
      let (items, rest) ← readFlowItems true fuel context rest
      return (listOf items, rest)
    | .flowMappingStart :: rest => do
      let (nodes, rest) ← readFlowEntries true fuel context rest
      return (← mappingOf nodes, rest)
    | token :: rest =>
      if allowsItems && token = .blockEntry then do
        let (items, rest) ← readItems fuel context tokens
        return (listOf items, rest)
      else if allowsBlock && token = .blockSequenceStart then do
        let (items, rest) ← readBlockItems fuel context rest
        return (listOf items, rest)
      else if allowsBlock && token = .blockMappingStart then do
        let (nodes, rest) ← readBlockEntries fuel context rest
        return (← mappingOf nodes, rest)
      else readEmpty properties context tokens
    | [] => readEmpty properties context tokens

def readBlockItems : Nat → Context → List Token → Option (Found (List Node))
  | 0, _, _ => none
  | fuel + 1, context, tokens =>
    match tokens with
    | .blockEnd :: rest => some ([], context, rest)
    | .blockEntry :: rest => do
      let (item, context, rest) ←
        if comes [.blockEntry, .blockEnd] rest then some (nullNode, context, rest)
        else readNode true false fuel context rest
      let (items, rest) ← readBlockItems fuel context rest
      return (item :: items, rest)
    | _ => none

def readItems : Nat → Context → List Token → Option (Found (List Node))
  | 0, _, _ => none
  | fuel + 1, context, tokens =>
    match tokens with
    | .blockEntry :: rest => do
      let (item, context, rest) ←
        if comes [.blockEntry, .key, .value, .blockEnd] rest then some (nullNode, context, rest)
        else readNode true false fuel context rest
      let (items, rest) ← readItems fuel context rest
      return (item :: items, rest)
    | _ => some ([], context, tokens)

def readBlockEntries : Nat → Context → List Token → Option (Found (List Node))
  | 0, _, _ => none
  | fuel + 1, context, tokens =>
    match tokens with
    | .blockEnd :: rest => some ([], context, rest)
    | .key :: rest => do
      let (name, context, rest) ←
        if comes [.key, .value, .blockEnd] rest then some (nullNode, context, rest)
        else readNode true true fuel context rest
      let (value, context, rest) ← readBlockValue fuel context rest
      let (nodes, rest) ← readBlockEntries fuel context rest
      return (name :: value :: nodes, rest)
    | .value :: rest => do
      let (value, context, rest) ← readBlockValue fuel context (.value :: rest)
      let (nodes, rest) ← readBlockEntries fuel context rest
      return (nullNode :: value :: nodes, rest)
    | _ => none

def readBlockValue : Nat → Context → List Token → Option (Found Node)
  | 0, _, _ => none
  | fuel + 1, context, tokens =>
    match tokens with
    | .value :: rest =>
      if comes [.key, .value, .blockEnd] rest then some (nullNode, context, rest)
      else readNode true true fuel context rest
    | _ => some (nullNode, context, tokens)

/-- The items of a list in brackets; commas stand between them. -/
def readFlowItems (isFirst : Bool) : Nat → Context → List Token → Option (Found (List Node))
  | 0, _, _ => none
  | fuel + 1, context, tokens =>
    match tokens with
    | .flowSequenceEnd :: rest => some ([], context, rest)
    | .flowEntry :: rest =>
      if isFirst then none
      else
        match rest with
        | .flowSequenceEnd :: rest => some ([], context, rest)
        | _ => readFlowItem fuel context rest
    | _ => if isFirst then readFlowItem fuel context tokens else none

/-- An item and those after it. An entry counts as a mapping of its own. -/
def readFlowItem : Nat → Context → List Token → Option (Found (List Node))
  | 0, _, _ => none
  | fuel + 1, context, tokens => do
    let (item, context, rest) ←
      match tokens with
      | .key :: rest => do
        let (name, context, rest) ← readNode false false fuel context rest
        let (value, rest) ← readFlowValue .flowSequenceEnd fuel context rest
        pure (← mappingOf [name, value], rest)
      | _ => readNode false false fuel context tokens
    let (items, rest) ← readFlowItems false fuel context rest
    return (item :: items, rest)

/-- The names and values of a mapping in brackets; commas stand between the entries. -/
def readFlowEntries (isFirst : Bool) : Nat → Context → List Token → Option (Found (List Node))
  | 0, _, _ => none
  | fuel + 1, context, tokens =>
    match tokens with
    | .flowMappingEnd :: rest => some ([], context, rest)
    | .flowEntry :: rest =>
      if isFirst then none
      else
        match rest with
        | .flowMappingEnd :: rest => some ([], context, rest)
        | _ => readFlowPair fuel context rest
    | _ => if isFirst then readFlowPair fuel context tokens else none

/-- An entry and those after it. A node that is not announced as a name has no value. -/
def readFlowPair : Nat → Context → List Token → Option (Found (List Node))
  | 0, _, _ => none
  | fuel + 1, context, tokens => do
    let (name, value, context, rest) ←
      match tokens with
      | .key :: rest => do
        let (name, context, rest) ←
          if comes [.value, .flowEntry, .flowMappingEnd] rest then some (nullNode, context, rest)
          else readNode false false fuel context rest
        let (value, rest) ← readFlowValue .flowMappingEnd fuel context rest
        pure (name, value, rest)
      | .value :: _ => do
        let (value, rest) ← readFlowValue .flowMappingEnd fuel context tokens
        pure (nullNode, value, rest)
      | _ => do
        let (name, rest) ← readNode false false fuel context tokens
        pure (name, nullNode, rest)
    let (nodes, rest) ← readFlowEntries false fuel context rest
    return (name :: value :: nodes, rest)

def readFlowValue (close : Token) : Nat → Context → List Token → Option (Found Node)
  | 0, _, _ => none
  | fuel + 1, context, tokens =>
    match tokens with
    | .value :: rest =>
      if comes [.flowEntry, close] rest then some (nullNode, context, rest)
      else readNode false false fuel context rest
    | _ => some (nullNode, context, tokens)
end

/-! ## Files -/

/-- The directives before a document. Only one may give a version. -/
def readDirectives (hasVersion : Bool) (context : Context) :
    List Token → Option (Context × List Token)
  | .versionDirective :: rest => if hasVersion then none else readDirectives true context rest
  | .tagDirective handle start :: rest =>
    readDirectives hasVersion { context with handles := (handle, start) :: context.handles } rest
  | tokens => some (context, tokens)

def readDocument (tokens : List Token) : Option (Node × List Token) := do
  let fuel := 4 * tokens.length + 4
  let isDirective : Token → Bool
    | .versionDirective | .tagDirective _ _ => true
    | _ => false
  let (context, rest) ← readDirectives false {} tokens
  match rest with
  | .documentStart :: rest =>
    if rest.isEmpty || comes [.documentStart, .documentEnd] rest || rest.head?.any isDirective then
      return (nullNode, rest)
    else
      let (node, _, rest) ← readNode true false fuel context rest
      return (node, rest)
  | _ =>
    if tokens.head?.any isDirective then none
    else
      let (node, _, rest) ← readNode true false fuel context rest
      return (node, rest)

/-- The tree of a file with a single document; a file without any holds an empty mapping. -/
def read (text : String) : Option Document := do
  let tokens := (← Token.ofText text).dropWhile (· = .documentEnd)
  if tokens.isEmpty then some (.mapping [])
  else
    let (node, rest) ← readDocument tokens
    if rest.all (· = .documentEnd) then some (node.getD .null) else none

end EventStore.Yaml
