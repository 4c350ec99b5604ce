import SpecGraph.Settings.Lookup
import SpecGraph.Text.Printable

/-!
# Files of variables

A file of variables has an assignment on each line: a name, an equals sign and a value, maybe after the
word `export`. A name or a value may stand in quotes, where a value goes on over the ends of lines and
marks may stand behind backslashes. Without quotes a value ends with its line or before a white character
and a hash sign. A name without an equals sign has no value, and a line that is no assignment counts for
nothing.

A value may name variables in braces behind a dollar sign, each maybe with a text for the case that there
is none. Those of the file so far come before those of the environment.
-/

namespace SpecGraph

namespace VariableFile

/-- A white character inside a line. -/
def isInline (character : Char) : Bool := Text.isWhite character && character != '\n' && character != '\r'

/-- What follows the rest of a line. -/
def afterLine : List Char → List Char
  | [] => []
  | '\n' :: rest => rest
  | _ :: rest => afterLine rest

/-- What is read, or the place from which a text cannot be read on. -/
abbrev Reading (result : Type) := Except (List Char) result

/-- What a text quoted by a mark is, with its backslashes. The mark behind a backslash ends it only if
there is no other end. -/
def readQuoted? (mark : Char) : List Char → Option (List Char × List Char)
  | [] => none
  | '\\' :: rest =>
      let pair :=
        match rest with
        | next :: after => if next = mark then readQuoted? mark after else none
        | [] => none
      match pair with
      | some (value, rest) => some ('\\' :: mark :: value, rest)
      | none => (readQuoted? mark rest).map fun (value, rest) => ('\\' :: value, rest)
  | character :: rest =>
      if character = mark then some ([], rest)
      else (readQuoted? mark rest).map fun (value, rest) => (character :: value, rest)

/-- The character that a mark behind a backslash stands for inside single quotes. -/
def singleEscape? : Char → Option Char
  | '\\' => some '\\'
  | '\'' => some '\''
  | _ => none

/-- The character that a mark behind a backslash stands for inside double quotes. -/
def doubleEscape? : Char → Option Char
  | '\\' => some '\\'
  | '\'' => some '\''
  | '"' => some '"'
  | 'a' => some (Char.ofNat 7)
  | 'b' => some (Char.ofNat 8)
  | 'f' => some (Char.ofNat 12)
  | 'n' => some '\n'
  | 'r' => some '\r'
  | 't' => some '\t'
  | 'v' => some (Char.ofNat 11)
  | _ => none

/-- A text with the characters that its escapes stand for, given whether a backslash came before. -/
def unescaped (escape? : Char → Option Char) : (pending : Bool) → List Char → List Char
  | false, [] => []
  | true, [] => ['\\']
  | false, character :: rest =>
      if character = '\\' then unescaped escape? true rest
      else character :: unescaped escape? false rest
  | true, character :: rest =>
      match escape? character with
      | some meant => meant :: unescaped escape? false rest
      | none => '\\' :: character :: unescaped escape? false rest

/-- A value up to white characters before a hash sign. -/
def beforeComment : List Char → List Char
  | [] => []
  | character :: rest =>
      if Text.isWhite character && (rest.dropWhile Text.isWhite).head? = some '#' then []
      else character :: beforeComment rest

/-- The value behind an equals sign. -/
def readValue : List Char → Reading (String × List Char)
  | '\'' :: rest =>
      match readQuoted? '\'' rest with
      | some (value, rest) => .ok (String.ofList (unescaped singleEscape? false value), rest)
      | none => .error ('\'' :: rest)
  | '"' :: rest =>
      match readQuoted? '"' rest with
      | some (value, rest) => .ok (String.ofList (unescaped doubleEscape? false value), rest)
      | none => .error ('"' :: rest)
  | text =>
      let line := text.takeWhile fun character => character != '\n' && character != '\r'
      .ok (String.ofList (Text.trimmedRight (beforeComment line)), text.drop line.length)

/-- The name at the start of a line, where a line that is a comment has none. -/
def readName : List Char → Reading (Option String × List Char)
  | '#' :: rest => .ok (none, '#' :: rest)
  | '\'' :: rest =>
      let name := rest.takeWhile fun character => character != '\''
      match name, rest.drop name.length with
      | _ :: _, _ :: after => .ok (some (String.ofList name), after)
      | _, _ => .error ('\'' :: rest)
  | text =>
      let name := text.takeWhile fun character =>
        character != '=' && character != '#' && !Text.isWhite character
      if name = [] then .error text
      else .ok (some (String.ofList name), text.drop name.length)

/-- A text without the word `export` and the white characters behind it. -/
def withoutExport (text : List Char) : List Char :=
  let word := "export".toList
  if word.isPrefixOf text && ((text.drop word.length).head?.any isInline) then
    (text.drop word.length).dropWhile isInline
  else text

/-- The value of a name, if an equals sign follows it. -/
def readAssigned (text : List Char) : Reading (Option String × List Char) :=
  match text.dropWhile isInline with
  | '=' :: rest => do
      let (value, rest) ← readValue (rest.dropWhile isInline)
      return (some value, rest)
  | rest => return (none, rest)

/-- What follows the end of a line, before which there may be a comment. -/
def readEnd (text : List Char) : Reading (List Char) :=
  match text.dropWhile isInline with
  | [] => .ok []
  | '#' :: rest => .ok (afterLine rest)
  | '\n' :: rest => .ok rest
  | _ => .error text

/-- The variable of a line, if it has one. -/
def readLine (text : List Char) : Reading (Option Variable × List Char) := do
  let (name, rest) ← readName (withoutExport text)
  let (value, rest) ← readAssigned rest
  let rest ← readEnd rest
  return (name.map fun name => ⟨name, value⟩, rest)

/-- The variables of a text, which has fewer lines than there is fuel. -/
def readLines : (fuel : Nat) → List Char → List Variable
  | 0, _ => []
  | fuel + 1, text =>
      match text.dropWhile Text.isWhite with
      | [] => []
      | text =>
          match readLine text with
          | .ok (some entry, rest) => entry :: readLines fuel rest
          | .ok (none, rest) => readLines fuel rest
          | .error rest => readLines fuel (afterLine rest)

/-- A variable named in a value, with the text for the case that there is none. -/
structure Reference where
  /-- The name. -/
  name : String
  /-- The text instead of a value. -/
  otherwise : String
deriving DecidableEq, Inhabited

/-- The brace that opens a reference. -/
def openingBrace : Char := Char.ofNat 123

/-- The brace that closes a reference. -/
def closingBrace : Char := Char.ofNat 125

/-- The reference behind a dollar sign, and how many characters it takes. -/
def reference? : List Char → Option (Reference × Nat)
  | [] => none
  | first :: rest =>
      let name := rest.takeWhile fun character => character != closingBrace && character != ':'
      if first ≠ openingBrace then none
      else
        match rest.drop name.length with
        | ':' :: '-' :: after =>
            let otherwise := after.takeWhile fun character => character != closingBrace
            if otherwise.length < after.length then
              some (⟨String.ofList name, String.ofList otherwise⟩, name.length + otherwise.length + 4)
            else none
        | ':' :: _ => none
        | [] => none
        | _ :: _ => some (⟨String.ofList name, ""⟩, name.length + 2)

/-- A value with the values of the variables that it names, after leaving out some characters. -/
def expanded (resolve : Reference → String) : (skipped : Nat) → List Char → List Char
  | _, [] => []
  | skipped + 1, _ :: rest => expanded resolve skipped rest
  | 0, '$' :: rest =>
      match reference? rest with
      | some (reference, length) => (resolve reference).toList ++ expanded resolve length rest
      | none => '$' :: expanded resolve 0 rest
  | 0, character :: rest => character :: expanded resolve 0 rest

/-- What a reference stands for, given the variables of the file so far. -/
def resolve (environment : List (String × String)) (known : List Variable) (reference : Reference) :
    String :=
  match known.reverse.find? fun entry => entry.name == reference.name with
  | some entry => entry.value.getD ""
  | none => (environment.lookup reference.name).getD reference.otherwise

/-- The variables of a file in an environment. -/
def read (environment : List (String × String)) (text : String) : List Variable :=
  let lines := readLines (text.length + 1) text.toList
  lines.foldl (fun known entry =>
    let value := entry.value.map fun value =>
      String.ofList (expanded (resolve environment known) 0 value.toList)
    known ++ [⟨entry.name, value⟩]) []

end VariableFile

end SpecGraph
