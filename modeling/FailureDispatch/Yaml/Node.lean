import FailureDispatch.Yaml.Lexer

/-!
# Documents of YAML

A document is a tree of scalars, sequences and mappings.  Mappings keep their
entries in the order of the text, repeated keys included: whether a key may
be repeated is for the reader of the document to say.

An alias stands for a copy of the node with its anchor.  Inside a collection
that carries the anchor itself there is nothing to copy yet; `Node.enclosing`
marks such an alias.
-/

namespace FailureDispatch
namespace Yaml

inductive Node where
  | scalar (text : String) (style : ScalarStyle) (tag : Option String)
  | sequence (items : List Node)
  | mapping (entries : List (Node × Node))
  | enclosing

namespace Node

/-- The node that stands where the text gives none. -/
def empty : Node := .scalar "" .plain none

end Node

/-- What has been read of a document, and what is still to be read. -/
structure NodeReader where
  tokens : List Token
  /-- The directives of the document: handles and what they stand for. -/
  handles : List (String × String) := []
  /-- The numbers of the anchored nodes by name, the latest first. -/
  anchors : List (String × Nat) := []
  /-- The anchored nodes that are complete, by number. -/
  nodes : List (Nat × Node) := []
  deriving Inhabited

namespace NodeReader

def peek? (reader : NodeReader) : Option Token := reader.tokens.head?

def skip (reader : NodeReader) : NodeReader := { reader with tokens := reader.tokens.tail }

/-- Whether the next token is the given one. -/
def sees (reader : NodeReader) (token : Token) : Bool := reader.peek? == some token

/-- Whether the next token is one of the given ones. -/
def seesAny (reader : NodeReader) (tokens : List Token) : Bool :=
  reader.peek?.any tokens.contains

/-- The handles that need no directive. -/
def defaultHandles : List (String × String) := [("!", "!"), ("!!", "tag:yaml.org,2002:")]

/-- A tag without its handle. -/
def resolveTag (reader : NodeReader) (handle suffix : String) : Option String :=
  if handle.isEmpty then some suffix
  else ((reader.handles ++ defaultHandles).lookup handle).map (· ++ suffix)

/-- The properties of a node: an anchor and a tag, in either order. -/
def properties (reader : NodeReader) : Option String × Option (String × String) × NodeReader :=
  match reader.tokens with
  | .anchor name :: .tag handle suffix :: rest =>
      (some name, some (handle, suffix), { reader with tokens := rest })
  | .tag handle suffix :: .anchor name :: rest =>
      (some name, some (handle, suffix), { reader with tokens := rest })
  | .anchor name :: rest => (some name, none, { reader with tokens := rest })
  | .tag handle suffix :: rest => (none, some (handle, suffix), { reader with tokens := rest })
  | _ => (none, none, reader)

/-- Give a name to the node that is about to be read. -/
def openAnchor (reader : NodeReader) (name : Option String) : NodeReader :=
  match name with
  | some name => { reader with anchors := (name, reader.anchors.length) :: reader.anchors }
  | none => reader

/-- Record the node whose anchor had the given number. -/
def closeAnchor (reader : NodeReader) (number : Nat) (name : Option String) (node : Node) :
    NodeReader :=
  if name.isSome then { reader with nodes := (number, node) :: reader.nodes } else reader

/-- The node that an alias stands for. -/
def alias? (reader : NodeReader) (name : String) : Option Node :=
  (reader.anchors.lookup name).map fun number => (reader.nodes.lookup number).getD .enclosing

/-! ## Nodes

Every function is given a number of calls that suffices for the tokens. -/

mutual

/-- Read a node.  Block collections are admitted only in block context, and
entries without indentation only as the content of a mapping. -/
def readNode : Nat → Bool → Bool → NodeReader → Option (Node × NodeReader)
  | 0, _, _, _ => none
  | count + 1, block, indentless, reader =>
      match reader.peek? with
      | some (.alias name) => (reader.alias? name).map fun node => (node, reader.skip)
      | _ => do
          let (name, tagParts, reader) := reader.properties
          let tag ← match tagParts with
            | none => some none
            | some (handle, suffix) => (reader.resolveTag handle suffix).map some
          let number := reader.anchors.length
          let (node, reader) ←
            readContent count block indentless (name.isSome || tag.isSome) tag
              (reader.openAnchor name)
          return (node, reader.closeAnchor number name node)

/-- Read what follows the properties of a node. -/
def readContent : Nat → Bool → Bool → Bool → Option String → NodeReader →
    Option (Node × NodeReader)
  | 0, _, _, _, _, _ => none
  | count + 1, block, indentless, hasProperties, tag, reader =>
      match reader.peek? with
      | some (.scalar text style) => some (.scalar text style tag, reader.skip)
      | some .blockEntry =>
          if indentless then readEntries count false [] reader
          else if hasProperties then some (.scalar "" .plain tag, reader)
          else none
      | some .flowSequenceStart => readFlowItems count true [] reader.skip
      | some .flowMappingStart => readFlowEntries count true [] reader.skip
      | some .blockSequenceStart =>
          if block then readEntries count true [] reader.skip
          else if hasProperties then some (.scalar "" .plain tag, reader) else none
      | some .blockMappingStart =>
          if block then readPairs count [] reader.skip
          else if hasProperties then some (.scalar "" .plain tag, reader) else none
      | _ => if hasProperties then some (.scalar "" .plain tag, reader) else none

/-- Read the entries of a block sequence.  One without indentation has no end
token of its own. -/
def readEntries : Nat → Bool → List Node → NodeReader → Option (Node × NodeReader)
  | 0, _, _, _ => none
  | count + 1, indented, items, reader =>
      if reader.sees .blockEntry then do
        let reader := reader.skip
        let isEmpty := reader.seesAny
          (if indented then [.blockEntry, .blockEnd] else [.blockEntry, .key, .value, .blockEnd])
        let (node, reader) ←
          if isEmpty then some (Node.empty, reader) else readNode count true false reader
        readEntries count indented (items ++ [node]) reader
      else if !indented then some (.sequence items, reader)
      else if reader.sees .blockEnd then some (.sequence items, reader.skip)
      else none

/-- Read the entries of a block mapping. -/
def readPairs : Nat → List (Node × Node) → NodeReader → Option (Node × NodeReader)
  | 0, _, _ => none
  | count + 1, entries, reader =>
      if reader.sees .key then do
        let (key, reader) ← readPart count reader.skip
        let (value, reader) ←
          if reader.sees .value then readPart count reader.skip else some (Node.empty, reader)
        readPairs count (entries ++ [(key, value)]) reader
      else if reader.sees .blockEnd then some (.mapping entries, reader.skip)
      else none

/-- Read a key or a value of a block mapping, which may be missing. -/
def readPart : Nat → NodeReader → Option (Node × NodeReader)
  | 0, _ => none
  | count + 1, reader =>
      if reader.seesAny [.key, .value, .blockEnd] then some (Node.empty, reader)
      else readNode count true true reader

/-- Read the items of a flow sequence.  An item may be a single pair. -/
def readFlowItems : Nat → Bool → List Node → NodeReader → Option (Node × NodeReader)
  | 0, _, _, _ => none
  | count + 1, first, items, reader =>
      if reader.sees .flowSequenceEnd then some (.sequence items, reader.skip)
      else do
        let reader ←
          if first then some reader
          else if reader.sees .flowEntry then some reader.skip
          else none
        if reader.sees .flowSequenceEnd then some (.sequence items, reader.skip)
        else if reader.sees .key then do
          let (key, reader) ← readFlowPart count .flowSequenceEnd reader.skip
          let (value, reader) ←
            if reader.sees .value then readFlowPart count .flowSequenceEnd reader.skip
            else some (Node.empty, reader)
          readFlowItems count false (items ++ [.mapping [(key, value)]]) reader
        else do
          let (node, reader) ← readNode count false false reader
          readFlowItems count false (items ++ [node]) reader

/-- Read the entries of a flow mapping.  A key without a value is admitted. -/
def readFlowEntries : Nat → Bool → List (Node × Node) → NodeReader → Option (Node × NodeReader)
  | 0, _, _, _ => none
  | count + 1, first, entries, reader =>
      if reader.sees .flowMappingEnd then some (.mapping entries, reader.skip)
      else do
        let reader ←
          if first then some reader
          else if reader.sees .flowEntry then some reader.skip
          else none
        if reader.sees .flowMappingEnd then some (.mapping entries, reader.skip)
        else if reader.sees .key then do
          let (key, reader) ← readFlowPart count .flowMappingEnd reader.skip
          let (value, reader) ←
            if reader.sees .value then readFlowPart count .flowMappingEnd reader.skip
            else some (Node.empty, reader)
          readFlowEntries count false (entries ++ [(key, value)]) reader
        else do
          let (key, reader) ← readNode count false false reader
          readFlowEntries count false (entries ++ [(key, Node.empty)]) reader

/-- Read a key or a value inside brackets, which may be missing. -/
def readFlowPart : Nat → Token → NodeReader → Option (Node × NodeReader)
  | 0, _, _ => none
  | count + 1, closing, reader =>
      if reader.seesAny [.value, .flowEntry, closing] then some (Node.empty, reader)
      else readNode count false false reader

end

/-! ## Documents -/

def isDirective : Token → Bool
  | .version _ _ | .tagDirective _ _ => true
  | _ => false

/-- Read the directives of a document.  The version must be 1.1 or 1.2 and be
given once, and so must every handle. -/
def readDirectives : List Token → Bool → NodeReader → Option NodeReader
  | .version major minor :: rest, versioned, reader =>
      if versioned || major != 1 || (minor != 1 && minor != 2) then none
      else readDirectives rest true { reader with tokens := rest }
  | .tagDirective handle lead :: rest, versioned, reader =>
      if (reader.handles.lookup handle).isSome then none
      else readDirectives rest versioned
        { reader with tokens := rest, handles := reader.handles ++ [(handle, lead)] }
  | _, _, reader => some reader

/-- Read the content of a document, which may be missing, and its end marker. -/
def readBody (count : Nat) (reader : NodeReader) : Option (Node × NodeReader) := do
  let isEmpty := reader.peek?.all fun token =>
    isDirective token || token == .documentStart || token == .documentEnd
  let (node, reader) ←
    if isEmpty then some (Node.empty, reader) else readNode count true false reader
  return (node, if reader.sees .documentEnd then reader.skip else reader)

/-- Read documents to the end, at most so many.  Only the first may begin
without a marker. -/
def readDocuments (count : Nat) : Nat → Bool → List Token → Option (List Node)
  | 0, _, _ => none
  | documents + 1, first, tokens => do
      let tokens := if first then tokens else tokens.dropWhile (· == .documentEnd)
      match tokens with
      | [] => return []
      | token :: _ =>
          let reader ←
            if first && !isDirective token && token != .documentStart then
              if token == .documentEnd then none else some { tokens }
            else do
              let reader ← readDirectives tokens false { tokens }
              if reader.sees .documentStart then some reader.skip else none
          let (node, reader) ← readBody count reader
          let others ← readDocuments count documents false reader.tokens
          return node :: others

end NodeReader

/-- The documents of a text, if it is well formed to the end. -/
def documents? (text : List Char) : Option (List Node) :=
  (tokens? text).bind fun tokens =>
    NodeReader.readDocuments (4 * tokens.length + 8) (tokens.length + 1) true tokens

end Yaml
end FailureDispatch
