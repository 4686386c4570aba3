import FailureDispatch.Yaml.Token

/-!
# From text to tokens

The lexer reads one token at a time and keeps what the layout depends on: the
columns of the open block collections, the possible key of each open
collection, and whether a key may begin where the cursor stands.
-/

namespace FailureDispatch
namespace Yaml

/-- The beginning of what may turn out to be a key. -/
structure PossibleKey where
  /-- The number of tokens before it. -/
  token : Nat
  index : Nat
  line : Nat
  column : Nat
  /-- Whether the layout admits nothing but a key here. -/
  required : Bool
  deriving DecidableEq, Repr

structure Lexer where
  cursor : Cursor
  tokens : Array Token := #[]
  /-- The column of the innermost block collection, if there is one. -/
  indent : Option Nat := none
  /-- The columns of the block collections around it. -/
  outer : List (Option Nat) := []
  key : Option PossibleKey := none
  /-- The possible keys of the collections around the present one, one for
  every open bracket. -/
  outerKeys : List (Option PossibleKey) := []
  keyAllowed : Bool := true

namespace Lexer

def inFlow (lexer : Lexer) : Bool := !lexer.outerKeys.isEmpty

def push (lexer : Lexer) (token : Token) : Lexer :=
  { lexer with tokens := lexer.tokens.push token }

/-- Insert a token so that so many stand before it. -/
def insert (lexer : Lexer) (position : Nat) (token : Token) : Lexer :=
  { lexer with
    tokens := (lexer.tokens.extract 0 position).push token
      ++ lexer.tokens.extract position lexer.tokens.size }

/-- Pass the characters of an indicator and emit its token. -/
def emit (lexer : Lexer) (token : Token) (length : Nat) : Lexer :=
  { lexer with cursor := lexer.cursor.skip length }.push token

/-! ## Layout -/

/-- Whether a column lies deeper than the innermost block collection. -/
def isDeeper (lexer : Lexer) (column : Nat) : Bool :=
  lexer.indent.all fun indent => decide (indent < column)

/-- Open a block collection if the column lies deeper than the present one. -/
def openBlock (lexer : Lexer) (column : Nat) (position : Nat) (token : Token) : Lexer :=
  if !lexer.inFlow && lexer.isDeeper column then
    { lexer with indent := some column, outer := lexer.indent :: lexer.outer }.insert
      position token
  else lexer

/-- Close the block collections that the column does not belong to; `none`
closes all of them. -/
def closeBlocksFrom (column : Option Nat) : List (Option Nat) → Lexer → Lexer
  | [], lexer => lexer
  | outer :: rest, lexer =>
      if lexer.indent.any fun indent => column.all fun target => decide (target < indent) then
        closeBlocksFrom column rest ({ lexer with indent := outer, outer := rest }.push .blockEnd)
      else lexer

def closeBlocks (lexer : Lexer) (column : Option Nat) : Lexer :=
  if lexer.inFlow then lexer else closeBlocksFrom column lexer.outer lexer

/-! ## Possible keys -/

/-- Give up the possible key, unless a key is demanded. -/
def dropKey (lexer : Lexer) : Option Lexer :=
  if lexer.key.any (·.required) then none else some { lexer with key := none }

/-- Remember a possible key where the cursor stands. -/
def saveKey (lexer : Lexer) : Option Lexer :=
  if lexer.keyAllowed then
    let cursor := lexer.cursor
    let required := !lexer.inFlow && lexer.indent == some cursor.column
    lexer.dropKey.map fun lexer =>
      { lexer with
        key := some ⟨lexer.tokens.size, cursor.index, cursor.line, cursor.column, required⟩ }
  else some lexer

/-- Whether the colon of a possible key can no longer come. -/
def isStale (cursor : Cursor) (key : PossibleKey) : Bool :=
  decide (key.line < cursor.line) || decide (key.index + 1024 < cursor.index)

def refreshKey (cursor : Cursor) (key : Option PossibleKey) : Option (Option PossibleKey) :=
  match key with
  | none => some none
  | some key =>
      if isStale cursor key then (if key.required then none else some none) else some (some key)

/-- Give up the keys whose colon can no longer come. -/
def refreshKeys (lexer : Lexer) : Option Lexer := do
  let key ← refreshKey lexer.cursor lexer.key
  let outerKeys ← lexer.outerKeys.mapM (refreshKey lexer.cursor)
  return { lexer with key, outerKeys }

/-! ## Between tokens -/

/-- Pass blanks, comments and breaks, at most so many of them.  Tabs are
blanks only where they cannot be taken for indentation. -/
def skipToTokenWithin : Nat → Lexer → Lexer
  | 0, lexer => lexer
  | count + 1, lexer =>
      let tabs := lexer.inFlow || !lexer.keyAllowed
      let cursor := (lexer.cursor.span fun c => c == ' ' || (tabs && c == '\t')).2
      let cursor := if cursor.sees '#' then cursor.skipToBreak else cursor
      if cursor.peek?.any isBreak then
        skipToTokenWithin count
          { lexer with
            cursor := cursor.skipBreak
            keyAllowed := lexer.keyAllowed || !lexer.inFlow }
      else { lexer with cursor }

/-- Pass everything up to the next token.  A byte order mark may begin the
text. -/
def skipToToken (lexer : Lexer) : Lexer :=
  let cursor := lexer.cursor
  let lexer := if cursor.index == 0 && cursor.sees '\ufeff' then
    { lexer with cursor := cursor.skip 1 } else lexer
  skipToTokenWithin (cursor.rest.length + 1) lexer

/-! ## Tokens -/

/-- A directive or a document marker ends everything that is open. -/
def leaveBlocks (lexer : Lexer) : Option Lexer :=
  (lexer.closeBlocks none).dropKey.map fun lexer => { lexer with keyAllowed := false }

def openFlow (lexer : Lexer) (token : Token) : Option Lexer :=
  lexer.saveKey.map fun lexer =>
    { lexer with key := none, outerKeys := lexer.key :: lexer.outerKeys, keyAllowed := true }.emit
      token 1

def closeFlow (lexer : Lexer) (token : Token) : Option Lexer :=
  lexer.dropKey.map fun lexer =>
    let lexer := match lexer.outerKeys with
      | key :: rest => { lexer with key, outerKeys := rest }
      | [] => lexer
    { lexer with keyAllowed := false }.emit token 1

/-- The dash of a block entry, or the question mark of a key. -/
def blockIndicator (lexer : Lexer) (start token : Token) (keyAfter : Bool) : Option Lexer :=
  if !lexer.inFlow && !lexer.keyAllowed then none
  else
    (lexer.openBlock lexer.cursor.column lexer.tokens.size start).dropKey.map fun lexer =>
      { lexer with keyAllowed := keyAfter }.emit token 1

/-- The colon of a value.  It turns the possible key, if there is one, into a
key. -/
def colon (lexer : Lexer) : Option Lexer :=
  match lexer.key with
  | some key =>
      let lexer := (lexer.insert key.token .key).openBlock key.column key.token .blockMappingStart
      some ({ lexer with key := none, keyAllowed := false }.emit .value 1)
  | none =>
      if lexer.inFlow then some ({ lexer with keyAllowed := false }.emit .value 1)
      else if !lexer.keyAllowed then none
      else
        let lexer := lexer.openBlock lexer.cursor.column lexer.tokens.size .blockMappingStart
        some ({ lexer with keyAllowed := true }.emit .value 1)

/-- Remember a possible key, and read a token that is no key by itself. -/
def property (lexer : Lexer) (read : Cursor → Option (Token × Cursor)) : Option Lexer := do
  let lexer ← lexer.saveKey
  let (token, cursor) ← read lexer.cursor
  return { lexer with cursor, keyAllowed := false }.push token

def quotedScalar (lexer : Lexer) (quote : Char) (style : ScalarStyle) : Option Lexer :=
  lexer.property fun cursor =>
    (readQuoted quote cursor).map fun (text, after) => (.scalar (String.ofList text) style, after)

def blockScalar (lexer : Lexer) (style : ScalarStyle) : Option Lexer := do
  let lexer ← lexer.dropKey
  let (text, cursor) ← readBlock (style == .literal) lexer.indent lexer.cursor
  return { lexer with cursor, keyAllowed := true }.push (.scalar (String.ofList text) style)

def plainScalar (lexer : Lexer) : Option Lexer := do
  let lexer ← lexer.saveKey
  let indent := match lexer.indent with
    | some column => column + 1
    | none => 0
  let scalar ← readPlain lexer.inFlow indent lexer.cursor
  return { lexer with cursor := scalar.after, keyAllowed := scalar.endsLine }.push
    (.scalar (String.ofList scalar.text) .plain)

/-- Characters that cannot begin a plain scalar. -/
def isIndicator (c : Char) : Bool :=
  ['-', '?', ':', ',', '[', ']', '{', '}', '#', '&', '*', '!', '|', '>', '\'', '"', '%', '@',
    Char.ofNat 0x60].contains c

/-- Whether a plain scalar begins with the character, given the next one. -/
def beginsPlain (lexer : Lexer) (c : Char) (next : Option Char) : Bool :=
  !(isGap c || isBreak c || isIndicator c)
    || (c == '-' && !next.any isGap)
    || (!lexer.inFlow && (c == '?' || c == ':') && !endsWord next)

/-- Read the token that begins with the given character. -/
def readToken (lexer : Lexer) (c : Char) : Option Lexer :=
  let cursor := lexer.cursor
  let next := cursor.peekAt? 1
  if cursor.column == 0 && c == '%' then do
    let lexer ← lexer.leaveBlocks
    let (token, after) ← readDirective cursor
    return { lexer with cursor := after }.push token
  else if cursor.seesMarker '-' then lexer.leaveBlocks.map (·.emit .documentStart 3)
  else if cursor.seesMarker '.' then lexer.leaveBlocks.map (·.emit .documentEnd 3)
  else if c == '[' then lexer.openFlow .flowSequenceStart
  else if c == '{' then lexer.openFlow .flowMappingStart
  else if c == ']' then lexer.closeFlow .flowSequenceEnd
  else if c == '}' then lexer.closeFlow .flowMappingEnd
  else if c == ',' then
    lexer.dropKey.map fun lexer => { lexer with keyAllowed := true }.emit .flowEntry 1
  else if c == '-' && endsWord next then
    lexer.blockIndicator .blockSequenceStart .blockEntry true
  else if c == '?' && (lexer.inFlow || endsWord next) then
    lexer.blockIndicator .blockMappingStart .key (!lexer.inFlow)
  else if c == ':' && (lexer.inFlow || endsWord next) then lexer.colon
  else if c == '*' then
    lexer.property fun cursor =>
      (readAnchorName cursor).map fun (name, after) => (.alias name, after)
  else if c == '&' then
    lexer.property fun cursor =>
      (readAnchorName cursor).map fun (name, after) => (.anchor name, after)
  else if c == '!' then lexer.property (readTag lexer.inFlow)
  else if c == '|' && !lexer.inFlow then lexer.blockScalar .literal
  else if c == '>' && !lexer.inFlow then lexer.blockScalar .folded
  else if c == '\'' then lexer.quotedScalar '\'' .singleQuoted
  else if c == '"' then lexer.quotedScalar '"' .doubleQuoted
  else if lexer.beginsPlain c next then lexer.plainScalar
  else none

/-- Read tokens up to the end of the text, at most so many. -/
def readAllWithin : Nat → Lexer → Option (Array Token)
  | 0, _ => none
  | count + 1, lexer => do
      let lexer ← lexer.skipToToken.refreshKeys
      match lexer.cursor.peek? with
      | none =>
          let lexer ← (lexer.closeBlocks none).dropKey
          return lexer.tokens
      | some c =>
          let lexer ← (lexer.closeBlocks (some lexer.cursor.column)).readToken c
          readAllWithin count lexer

end Lexer

/-- The tokens of a text, if its characters are allowed and its layout makes
sense. -/
def tokens? (text : List Char) : Option (List Token) :=
  if text.all isAllowed then
    (Lexer.readAllWithin (text.length + 1) { cursor := { rest := text } }).map (·.toList)
  else none

end Yaml
end FailureDispatch
