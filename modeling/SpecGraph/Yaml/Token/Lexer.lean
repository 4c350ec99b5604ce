import SpecGraph.Text.CodePoints
import SpecGraph.Yaml.Token.Block
import SpecGraph.Yaml.Token.Plain
import SpecGraph.Yaml.Token.Property

/-!
# From text to tokens

Tokens are read one by one, as they are asked for, so that an error in the text is met only by those
who read on to it. Block collections have no marks of their own: an indentation greater than that of the
collections around starts one, and a smaller one ends all that are indented more. A key need not be
marked either: every token that may be one is kept as a candidate for its flow depth until a colon on
the same line makes it a key, and no token from a candidate on is settled before. A candidate that has
to be a key, because it stands at the indentation of its block, is an error without a colon.
-/

namespace SpecGraph

namespace Yaml

/-- A token that may turn out to be a key. -/
structure KeyCandidate where
  /-- The flow depth at which it stands. -/
  depth : Nat
  /-- The number of tokens before it in the text. -/
  position : Nat
  /-- It cannot be anything but a key. -/
  required : Bool
  /-- Its place. -/
  cursor : Cursor

/-- What is known at a place in the text. -/
structure Lexer where
  /-- The place. -/
  cursor : Cursor
  /-- The number of tokens that were taken. -/
  taken : Nat
  /-- The tokens that were read and not taken. -/
  tokens : List Token
  /-- The number of flow collections that are open. -/
  depth : Nat
  /-- The indentation of the innermost block collection, or -1. -/
  indent : Int
  /-- The indentations around it. -/
  outer : List Int
  /-- A key may start here. -/
  mayBeKey : Bool
  /-- The candidates, at most one for each depth. -/
  candidates : List KeyCandidate
  /-- The end of the text was read. -/
  ended : Bool

namespace Lexer

/-- The state at the start of a text. -/
def start (text : List Char) : Lexer := ⟨Cursor.start text, 0, [], 0, -1, [], true, [], false⟩

/-- The place is in a flow collection. -/
def inFlow (lexer : Lexer) : Bool := lexer.depth != 0

/-- The number of tokens before the next one in the text. -/
def count (lexer : Lexer) : Nat := lexer.taken + lexer.tokens.length

/-- Adds a token. -/
def emit (lexer : Lexer) (token : Token) : Lexer := { lexer with tokens := lexer.tokens ++ [token] }

/-- Adds a token and goes on after some characters. -/
def emitMark (lexer : Lexer) (token : Token) (width : Nat) : Lexer :=
  { lexer.emit token with cursor := lexer.cursor.skip width }

/-- Adds a token before the tokens from a position on. -/
def emitAt (lexer : Lexer) (position : Nat) (token : Token) : Lexer :=
  let before := position - lexer.taken
  { lexer with tokens := lexer.tokens.take before ++ token :: lexer.tokens.drop before }

/-- Spaces, comments and line breaks before the next token. -/
def skipToToken : (fuel : Nat) → Lexer → Lexer
  | 0, lexer => lexer
  | fuel + 1, lexer =>
      let cursor := lexer.cursor.skipSpaces.skipComment
      if isBreak cursor.peek then
        skipToToken fuel
          { lexer with cursor := cursor.lineBreak.2, mayBeKey := lexer.mayBeKey || !lexer.inFlow }
      else { lexer with cursor }

/-- Drops the candidates that a line break or a distance of more than 1024 characters has ended. -/
def dropStale (lexer : Lexer) : Except Error Lexer := do
  let isStale (candidate : KeyCandidate) : Bool :=
    candidate.cursor.line != lexer.cursor.line ||
      1024 < lexer.cursor.index - candidate.cursor.index
  if lexer.candidates.any fun candidate => isStale candidate && candidate.required then
    throw .notYaml
  return { lexer with candidates := lexer.candidates.filter fun candidate => !isStale candidate }

/-- Drops the candidate of the current depth. -/
def dropCandidate (lexer : Lexer) : Except Error Lexer := do
  let isHere (candidate : KeyCandidate) : Bool := candidate.depth == lexer.depth
  if lexer.candidates.any fun candidate => isHere candidate && candidate.required then
    throw .notYaml
  return { lexer with candidates := lexer.candidates.filter fun candidate => !isHere candidate }

/-- Keeps the next token as a candidate, if a key may start here. -/
def keepCandidate (lexer : Lexer) : Except Error Lexer := do
  if lexer.mayBeKey then
    let required := !lexer.inFlow && lexer.indent == Int.ofNat lexer.cursor.column
    let lexer ← lexer.dropCandidate
    let candidate : KeyCandidate :=
      { depth := lexer.depth, position := lexer.count, required, cursor := lexer.cursor }
    return { lexer with candidates := candidate :: lexer.candidates }
  else return lexer

/-- Ends the block collections that are indented more than a column. -/
def unwind (lexer : Lexer) (column : Int) : Lexer :=
  if lexer.inFlow then lexer
  else
    let levels := lexer.indent :: lexer.outer
    let ended := levels.takeWhile fun level => column < level
    match levels.drop ended.length with
    | [] => lexer
    | level :: outer =>
        { lexer with indent := level, outer,
                     tokens := lexer.tokens ++ List.replicate ended.length Token.blockEnd }

/-- Starts a block collection at a column that is indented more, with its token at a position. -/
def indentAt (lexer : Lexer) (column position : Nat) (token : Token) : Lexer :=
  if lexer.indent < Int.ofNat column then
    { lexer with indent := Int.ofNat column, outer := lexer.indent :: lexer.outer }.emitAt position
      token
  else lexer

/-- Starts a block collection here, where a key may start. -/
def openBlock (lexer : Lexer) (token : Token) : Except Error Lexer := do
  if lexer.inFlow then return lexer
  else if !lexer.mayBeKey then throw .notYaml
  else return lexer.indentAt lexer.cursor.column lexer.count token

/-- Ends the text. -/
def finish (lexer : Lexer) : Except Error Lexer := do
  let lexer ← (lexer.unwind (-1)).dropCandidate
  return { lexer.emit .streamEnd with candidates := [], ended := true }

/-- A token outside all collections. -/
def outside (lexer : Lexer) : Except Error Lexer := do
  let lexer ← (lexer.unwind (-1)).dropCandidate
  return { lexer with mayBeKey := false }

/-- The start of a flow collection. -/
def openFlow (lexer : Lexer) (token : Token) : Except Error Lexer := do
  let lexer ← lexer.keepCandidate
  return { lexer with depth := lexer.depth + 1, mayBeKey := true }.emitMark token 1

/-- The end of a flow collection. Where none is open, nothing after it matters: no document has such a
token. -/
def closeFlow (lexer : Lexer) (token : Token) : Except Error Lexer := do
  let lexer ← lexer.dropCandidate
  return { lexer with depth := lexer.depth - 1, mayBeKey := false,
                      ended := !lexer.inFlow }.emitMark token 1

/-- A mark after which a key may start, given whether it may. -/
def separator (lexer : Lexer) (token : Token) (mayBeKey : Bool) : Except Error Lexer := do
  let lexer ← { lexer with mayBeKey }.dropCandidate
  return lexer.emitMark token 1

/-- A colon that makes its candidate a key, or follows a marked key. -/
def valueMark (lexer : Lexer) : Except Error Lexer := do
  let isHere (candidate : KeyCandidate) : Bool := candidate.depth == lexer.depth
  match lexer.candidates.find? isHere with
  | some candidate =>
      let candidates := lexer.candidates.filter fun other => !isHere other
      let lexer := { lexer with candidates, mayBeKey := false }.emitAt candidate.position .key
      let lexer :=
        if lexer.inFlow then lexer
        else lexer.indentAt candidate.cursor.column candidate.position .blockMappingStart
      return lexer.emitMark .value 1
  | none =>
      let lexer ← lexer.openBlock .blockMappingStart
      lexer.separator .value (!lexer.inFlow)

/-- A token that may be a key, after which none may start. -/
def property (lexer : Lexer) (read : Cursor → Except Error (Token × Cursor)) : Except Error Lexer := do
  let lexer ← lexer.keepCandidate
  let (token, cursor) ← read lexer.cursor
  return { lexer with cursor, mayBeKey := false }.emit token

/-- A block scalar. -/
def block (lexer : Lexer) (folded : Bool) : Except Error Lexer := do
  let lexer ← lexer.dropCandidate
  let (token, cursor) ← blockScalar folded lexer.indent lexer.cursor
  return { lexer with cursor, mayBeKey := true }.emit token

/-- A plain scalar, after which a key may start if its line has ended. -/
def plain (lexer : Lexer) : Except Error Lexer := do
  let lexer ← lexer.keepCandidate
  let (token, brokeLine, cursor) := plainScalar lexer.inFlow lexer.indent lexer.cursor
  return { lexer with cursor, mayBeKey := brokeLine }.emit token

/-- A plain scalar may start here. -/
def startsPlain (lexer : Lexer) : Bool :=
  let character := lexer.cursor.peek
  let isMark := isBlankOrEnd character || isFlowMark character ||
    isAmong "-?:#&*!|>'\"%@\x60" character
  !isMark || (!isBlankOrEnd (lexer.cursor.ahead 1) &&
    (character == '-' || (!lexer.inFlow && (character == '?' || character == ':'))))

/-- The next token, with the tokens that come with it. -/
def step (lexer : Lexer) : Except Error Lexer := do
  let character := lexer.cursor.peek
  let atLineStart := lexer.cursor.column == 0
  let isAlone := isBlankOrEnd (lexer.cursor.ahead 1)
  if character = '%' ∧ atLineStart then
    let lexer ← lexer.outside
    let (token, cursor) ← directive lexer.cursor
    return { lexer with cursor }.emit token
  else if atLineStart ∧ lexer.cursor.isMarker '-' then
    return (← lexer.outside).emitMark .documentStart 3
  else if atLineStart ∧ lexer.cursor.isMarker '.' then
    return (← lexer.outside).emitMark .documentEnd 3
  else if character = '[' then lexer.openFlow .flowSequenceStart
  else if character.toNat = 123 then lexer.openFlow .flowMappingStart
  else if character = ']' then lexer.closeFlow .flowSequenceEnd
  else if character.toNat = 125 then lexer.closeFlow .flowMappingEnd
  else if character = ',' then lexer.separator .flowEntry true
  else if character = '-' ∧ isAlone then
    (← lexer.openBlock .blockSequenceStart).separator .blockEntry true
  else if character = '?' ∧ (lexer.inFlow ∨ isAlone) then
    (← lexer.openBlock .blockMappingStart).separator .key (!lexer.inFlow)
  else if character = ':' ∧ (lexer.inFlow ∨ isAlone) then lexer.valueMark
  else if character = '*' then
    lexer.property fun cursor => do
      let (name, cursor) ← anchorName cursor
      return (.alias name, cursor)
  else if character = '&' then
    lexer.property fun cursor => do
      let (name, cursor) ← anchorName cursor
      return (.anchor name, cursor)
  else if character = '!' then
    lexer.property fun cursor => do
      let (tag, cursor) ← tagText cursor
      return (.tag tag, cursor)
  else if character = '|' ∧ !lexer.inFlow then lexer.block false
  else if character = '>' ∧ !lexer.inFlow then lexer.block true
  else if character = '\'' then lexer.property (quotedScalar false)
  else if character = '"' then lexer.property (quotedScalar true)
  else if lexer.startsPlain then lexer.plain
  else throw .notYaml

/-- Reads the next token. -/
def readOn (lexer : Lexer) : Except Error Lexer := do
  let lexer := lexer.skipToToken lexer.cursor.limit
  let lexer ← lexer.dropStale
  let lexer := lexer.unwind (Int.ofNat lexer.cursor.column)
  if lexer.cursor.peek = endMark then lexer.finish else lexer.step

/-- Reads on until the first token is settled. -/
def settle : (fuel : Nat) → Lexer → Except Error Lexer
  | 0, _ => throw .notYaml
  | fuel + 1, lexer => do
      if lexer.ended then return lexer
      else if lexer.tokens.isEmpty then settle fuel (← lexer.readOn)
      else
        let lexer ← lexer.dropStale
        if lexer.candidates.any fun candidate => candidate.position == lexer.taken then
          settle fuel (← lexer.readOn)
        else return lexer

/-- The first token, or the end of the text. -/
def first (lexer : Lexer) : Token := lexer.tokens.headD .streamEnd

/-- Takes the first token. -/
def takeFirst (lexer : Lexer) : Lexer :=
  { lexer with taken := lexer.taken + 1, tokens := lexer.tokens.drop 1 }

end Lexer

/-- A code point that a YAML text may hold. -/
def isTextCode (code : Nat) : Bool :=
  code == 9 || code == 10 || code == 13 || (32 ≤ code && code ≤ 126) || code == 0x85 ||
    (0xA0 ≤ code && code ≤ 0xD7FF) || (0xE000 ≤ code && code ≤ 0xFFFD) || 0x10000 ≤ code

/-- The state before the first token of a text. -/
def Lexer.ofText (text : List Char) : Except Error Lexer := do
  if !(Text.codes text).all isTextCode then throw .notYaml
  let body := if text.head? = some byteOrderMark then text.drop 1 else text
  return Lexer.start body

end Yaml

end SpecGraph
