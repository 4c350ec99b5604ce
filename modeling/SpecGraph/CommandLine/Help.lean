import SpecGraph.CommandLine.Arguments
import SpecGraph.Text.Wrapped

/-!
# Help on the command line

A page of help tells how a task is spelled with its options, and what each option is for. It is set in
lines of the width of the terminal. The texts on options start in one column, which is not beyond
column 24; an option that reaches into it has a line of its own.
-/

namespace SpecGraph

namespace CommandLine

/-- A line of a page with what it is about. -/
structure HelpEntry where
  /-- What is explained. -/
  subject : String
  /-- The words that explain it. -/
  words : List String
  /-- The column in which the subject starts. -/
  column : Nat
deriving DecidableEq, Inhabited

/-- A page of help. -/
structure HelpPage where
  /-- What the command line starts with. -/
  program : String
  /-- The options as they may be given. -/
  options : List String
  /-- What stands after the options. -/
  operands : List String
  /-- The words of a description. -/
  description : List String
  /-- The entries under their headings. -/
  sections : List (String × List HelpEntry)
deriving DecidableEq, Inhabited

namespace HelpPage

/-- The words of a text. -/
def wordsOf (text : String) : List String := text.splitOn " "

/-- An entry of an option. -/
def entry (subject explanation : String) : HelpEntry := ⟨subject, wordsOf explanation, 2⟩

/-- The names of the tasks in braces. -/
def taskChoice : String := "\x7bbuild,snapshot,validate,check\x7d"

/-- The entry of the option for help. -/
def helpEntry : HelpEntry := entry "-h, --help" "show this help message and exit"

/-- The page on the whole program. -/
def ofProgram : HelpPage where
  program := "hyperspec"
  options := ["[-h]"]
  operands := [taskChoice, "..."]
  description := wordsOf "hyperspec declaration tool"
  sections :=
    [("positional arguments",
      ⟨taskChoice, [], 2⟩ ::
        [("build", "Finalize declarations into a spec root"),
          ("snapshot", "Print the declaration graph"),
          ("validate", "Validate references and keys"),
          ("check", "Compare with persisted manifests")].map fun (name, explanation) =>
            ⟨name, wordsOf explanation, 4⟩),
      ("options", [helpEntry])]

/-- The options of every task, as they may be given. -/
def commonOptions : List String := ["[-h]", "(--module MODULE | --file FILE)", "[--root ROOT]"]

/-- The entries of the options of every task. -/
def commonEntries : List HelpEntry :=
  [helpEntry,
    entry "--module MODULE" "Python module exposing \x60builder\x60 or \x60declare(builder)\x60",
    entry "--file FILE" "YAML/JSON declaration file",
    entry "--root ROOT" "Spec root (default: HYPERSPEC_SPEC_ROOT)"]

/-- The page on a task. -/
def ofTask (task : Task) : HelpPage where
  program := "hyperspec " ++ task.name
  options :=
    match task with
    | .snapshot => commonOptions ++ ["[--format \x7bjson,yaml\x7d]", "[--output OUTPUT]"]
    | _ => commonOptions
  operands := []
  description := []
  sections :=
    [("options",
      match task with
      | .snapshot => commonEntries ++
          [entry "--format \x7bjson,yaml\x7d" "Output format",
            entry "--output OUTPUT, -o OUTPUT" "Output file (default: stdout)"]
      | _ => commonEntries)]

/-- The page on a task, or on the whole program. -/
def on : Option Task → HelpPage
  | some task => ofTask task
  | none => ofProgram

/-- What the first line starts with. -/
def opening : String := "usage: "

/-- Parts in lines of a width that start with an indentation, where a column of the first line is taken
already. -/
def partLines (width : Nat) (indent : String) (first : Nat) (parts : List String) : List String :=
  let place := fun (done, line, column) part =>
    if !line.isEmpty && width < column + 1 + part.length then
      (done ++ [line], [part], indent.length + part.length)
    else (done, line ++ [part], column + 1 + part.length)
  match parts with
  | [] => []
  | part :: rest =>
      let (done, line, _) :=
        rest.foldl place (([] : List (List String)), [part], first + part.length)
      (done ++ [line]).map fun parts => indent ++ " ".intercalate parts

/-- A text without its first characters. -/
def dropStart (count : Nat) (text : String) : String := String.ofList (text.toList.drop count)

/-- How the program is called, if that has to be set in several lines. -/
def usageLines (page : HelpPage) (width : Nat) : List String :=
  let start := opening.length + page.program.length
  if 4 * start ≤ 3 * width then
    let indent := Text.blanks (start + 1)
    let ofOptions := partLines width indent opening.length (page.program :: page.options)
    match ofOptions with
    | first :: rest =>
        dropStart indent.length first :: rest ++ partLines width indent indent.length page.operands
    | [] => [page.program]
  else
    let indent := Text.blanks opening.length
    let lines := partLines width indent indent.length (page.options ++ page.operands)
    page.program ::
      if lines.length ≤ 1 then lines
      else partLines width indent indent.length page.options ++
        partLines width indent indent.length page.operands

/-- How the program is called. -/
def usage (page : HelpPage) (width : Nat) : String :=
  let line := " ".intercalate (page.program :: page.options ++ page.operands)
  opening ++
    (if opening.length + line.length ≤ width then line else "\n".intercalate (page.usageLines width))

/-- The least width of a column of words. -/
def leastWidth : Nat := 11

/-- The lines of an entry, given the column of the explanations. -/
def entryLines (width column : Nat) (entry : HelpEntry) : List String :=
  let subject := Text.blanks entry.column ++ entry.subject
  let lines := Text.wrapped (Nat.max (width - column) leastWidth) entry.words
  let indented := lines.map fun line => Text.blanks column ++ line
  match lines with
  | [] => [subject]
  | first :: _ =>
      if subject.length + 2 ≤ column then
        (subject ++ Text.blanks (column - subject.length) ++ first) :: indented.drop 1
      else subject :: indented

/-- The column of the explanations of a page. -/
def explanationColumn (page : HelpPage) (width : Nat) : Nat :=
  let widest := (page.sections.flatMap Prod.snd).foldl
    (fun found entry => Nat.max found (entry.subject.length + 2)) 0
  Nat.min (widest + 2) (Nat.min 24 (Nat.max (width - 20) 4))

/-- The text of a page in lines of a width. -/
def render (page : HelpPage) (width : Nat) : String :=
  let column := page.explanationColumn width
  let description := Text.wrapped (Nat.max width leastWidth) page.description
  let sections := page.sections.map fun (heading, entries) =>
    (heading ++ ":") :: entries.flatMap (entryLines width column)
  let blocks := [page.usage width] :: (if description.isEmpty then [] else [description]) ++ sections
  "\n".intercalate (blocks.map fun lines => String.join (lines.map fun line => line ++ "\n"))

end HelpPage

/-- The columns of a terminal that does not tell how many it has. -/
def usualColumns : Int := 80

/-- The width of lines on the terminal that an environment describes, which leaves two columns free. -/
def lineWidth (environment : List (String × String)) : Nat :=
  let told := (environment.reverse.lookup "COLUMNS").bind fun text =>
    match Text.readInteger? text with
    | some columns => if 0 < columns then some columns else none
    | none => none
  (told.getD usualColumns - 2).toNat

end CommandLine

end SpecGraph
