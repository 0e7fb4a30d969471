import Formulary.Command.Outline
import Formulary.Screen.Notice
import Formulary.Text.Width

set_option autoImplicit false

namespace Formulary.Command

abbrev Entry := String × String

def summary : Command → String
  | .root => "Spreadsheet formula evaluator."
  | .config => "Inspect and check configuration."
  | .action .evaluate => "Evaluate EXPRESSION and print its result."
  | .action .functions => "List built-in functions and their signatures."
  | .action .profiles => "List the built-in configuration profiles."
  | .action .show => "Print the effective configuration."
  | .action .validate => "Check a configuration file against the schema."

def details : Command → List String
  | .root => [
      "Evaluates spreadsheet-style expressions: arithmetic, comparison, string " ++
        "concatenation, boolean logic, variables and built-in functions.",
      "\\b Examples:     $ sheetcalc eval \"2+3*4\"     $ sheetcalc eval \"IF(x>0, " ++
        "\\\"pos\\\", \\\"neg\\\")\" --var x=3     $ sheetcalc functions     " ++
        "$ sheetcalc --profile dev config show"]
  | .config => [
      "\\b Examples:     $ sheetcalc config show     " ++
        "$ sheetcalc --profile prod config show --format table     " ++
        "$ sheetcalc config validate --config-file sheetcalc.yaml     " ++
        "$ sheetcalc config profiles"]
  | .action .evaluate => [
      "Bindings from --var take precedence over --scope-file.",
      "\\b Examples:     $ sheetcalc eval \"2^3^2\"     " ++
        "$ sheetcalc eval \"price*qty\" --var price=2.5 --var qty=4     " ++
        "$ sheetcalc eval \"CONCAT(first, \\\" \\\", last)\" --scope-file people.yaml     " ++
        "$ sheetcalc eval \"1/0\" --strict"]
  | .action .functions => ["\\b Examples:     $ sheetcalc functions"]
  | .action .profiles => []
  | .action .show => [
      "The profile, the configuration file and SHEETCALC_ environment variables are merged " ++
        "in that order."]
  | .action .validate => [
      "Environment variables are not applied, so only the file and the selected profile are " ++
        "checked.",
      "\\b Exit codes:     0 - the file is valid     1 - the file is missing, unreadable or " ++
        "invalid"]

def ownEntries : Command → List Entry
  | .root => [
      ("--version", "Show the version and exit."),
      ("-c, --config-file FILE", "YAML configuration applied over the selected profile"),
      ("-p, --profile [default|dev|prod|test]",
        "Base configuration profile  [default: default]"),
      ("-v, --verbose", "Report configuration and parse details"),
      ("-q, --quiet", "Only log errors")]
  | .action .evaluate => [
      ("-V, --var NAME=VALUE",
        "Bind a variable (repeatable). Values: true/false, numbers, or text"),
      ("-s, --scope-file FILE", "YAML or JSON mapping of variable bindings"),
      ("--debug / --no-debug", "Override the configured interpreter debug mode"),
      ("--strict", "Exit with status 1 when the result is an error code")]
  | .action .show => [("-f, --format [yaml|json|table]", "Output format  [default: yaml]")]
  | .action .validate => [
      ("-c, --config-file FILE", "File to check (defaults to the global --config-file)")]
  | .config | .action .functions | .action .profiles => []

def switchEntries (c : Command) : List Entry :=
  c.ownEntries ++ [("--help", "Show this message and exit.")]

def memberEntries : Command → List Entry
  | .root => ofRoot.map fun m => (m.1, ((m.2.map action).getD config).summary)
  | .config => ofConfig.map fun m => (m.1, (action m.2).summary)
  | .action _ => []

structure Word where
  blanks : List Char
  letters : List Char

def wordsFrom (word : Word) : List Char → List Word
  | [] => [word]
  | c :: cs =>
      if c ≠ ' ' then wordsFrom { word with letters := word.letters ++ [c] } cs
      else if word.letters = [] then wordsFrom { word with blanks := word.blanks ++ [c] } cs
      else word :: wordsFrom ⟨[c], []⟩ cs

-- As many words on a line as fit. Blanks between two of them are kept unless the line ends there.
def fillFrom (room : Nat) (line : List Char) : List Word → List (List Char)
  | [] => [line]
  | w :: ws =>
      if line = [] then fillFrom room w.letters ws
      else
        let longer := line ++ w.blanks ++ w.letters
        if longer.length ≤ room then fillFrom room longer ws
        else line :: fillFrom room w.letters ws

def fill (room : Nat) (text : String) : List String :=
  (fillFrom room [] (wordsFrom ⟨[], []⟩ text.toList)).map String.ofList

def margin : String := "  "

def indented (lines : List String) : List String := lines.map (margin ++ ·)

def blanks (n : Nat) : String := String.ofList (Text.spaces n)

def widestTerm : Nat := 30

def entryLines (column : Nat) (e : Entry) : List String :=
  let term := margin ++ e.1
  let behind := blanks (column + margin.length)
  match fill (Screen.screenWidth - column - margin.length) e.2 with
  | [] => [term]
  | first :: rest =>
      let front :=
        if e.1.length + margin.length ≤ column then
          [term ++ blanks (column - e.1.length) ++ first]
        else [term, behind ++ first]
      front ++ rest.map (behind ++ ·)

def entriesSection (title : String) (entries : List Entry) : List String :=
  let widest := (entries.map fun e => e.1.length).foldl max 0
  match entries with
  | [] => []
  | _ => "" :: title :: entries.flatMap (entryLines (min widest widestTerm + margin.length))

def page (c : Command) : String :=
  let paragraphs := (c.summary :: c.details).map (fill (Screen.screenWidth - margin.length))
  let lines := c.usage :: paragraphs.flatMap (fun p => "" :: indented p) ++
    entriesSection "Options:" c.switchEntries ++ entriesSection "Commands:" c.memberEntries
  "".intercalate (lines.map (· ++ "\n"))

end Formulary.Command
