/-!
# Code points

A text stands for a sequence of code points. Nearly all of them are characters; but an escape can name one
half of a UTF-16 pair by itself, which is a code point and no character. Such a half is the character
`0xD0000` above it. The characters that are taken by that, and the one behind them, have that one before
them where they stand for themselves. So there is a text for every sequence of code points, and no other
sequence has it.

A half has its own code point wherever a text is shown, ordered or written as JSON or YAML, but it cannot
be written into a file as it stands.
-/

namespace SpecGraph

namespace Text

/-- The first half of a pair. -/
def isHighHalf (code : Nat) : Bool := 0xD800 ≤ code && code < 0xDC00

/-- The second half of a pair. -/
def isLowHalf (code : Nat) : Bool := 0xDC00 ≤ code && code < 0xE000

/-- Half a pair. -/
def isHalf (code : Nat) : Bool := 0xD800 ≤ code && code < 0xE000

/-- The distance from a half to the character that it is in a text. -/
def halfShift : Nat := 0xD0000

/-- The character before one that stands for itself. -/
def selfMark : Char := Char.ofNat 0xDE000

/-- A character that needs a mark to stand for itself. -/
def isTaken (code : Nat) : Bool := 0xDD800 ≤ code && code ≤ 0xDE000

/-- The characters of a code point in a text. -/
def ofCode (code : Nat) : List Char :=
  if isHalf code then [Char.ofNat (code + halfShift)]
  else if isTaken code then [selfMark, Char.ofNat code]
  else [Char.ofNat code]

/-- The code points of a text. -/
def codes : List Char → List Nat
  | [] => []
  | character :: rest =>
      if character = selfMark then
        match rest with
        | marked :: rest => marked.toNat :: codes rest
        | [] => [character.toNat]
      else if isTaken character.toNat then (character.toNat - halfShift) :: codes rest
      else character.toNat :: codes rest

/-- The text of characters that stand for themselves. -/
def ofPlain (plain : String) : String :=
  String.ofList (plain.toList.flatMap fun character => ofCode character.toNat)

/-- The characters of a text, each standing for itself; halves have none. -/
def toPlain (text : String) : String :=
  String.ofList ((codes text.toList).filterMap fun code =>
    if isHalf code then none else some (Char.ofNat code))

/-- A text without halves, which a file can hold. -/
def isWhole (text : String) : Bool := !(codes text.toList).any isHalf

/-- A text that can name a file: a half in it has to stand for a byte beyond ASCII. -/
def canNameFile (text : String) : Bool :=
  (codes text.toList).all fun code => !isHalf code || (0xDC80 ≤ code && code ≤ 0xDCFF)

/-- The number of bytes of a text that names a file. -/
def byteSize (text : String) : Nat :=
  (codes text.toList).foldl (fun size code =>
    size + if code < 0x80 || isHalf code then 1 else (Char.ofNat code).utf8Size) 0

end Text

end SpecGraph
