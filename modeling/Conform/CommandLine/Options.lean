import Conform.Report.Format
import Conform.Text.Digit
import Conform.Text.Quoted
/-!
# Options

A command line names a schema and, if wanted, a format, a level for the log and the paths to check.
An option may be shortened as long as no other option starts the same way; its value is the next word
or stands behind an equals sign.  The paths stand together.  After two dashes every word is a path.

Words are told apart first, all of them, so a shortened option that could be two comes before every
other mistake; mistakes that concern the line as a whole come last.
-/
namespace Conform.CommandLine

/-- The options that take a value. -/
inductive Parameter where
  | schema
  | format
  | logLevel
deriving DecidableEq, Repr, Inhabited

/-- An option by itself, or a request for help. -/
inductive OptionName where
  | help
  | parameter (p : Parameter)
deriving DecidableEq, Repr, Inhabited

namespace OptionName

/-- The options as they are written in full. -/
def spellings : List (String × OptionName) :=
  [("-h", help), ("--help", help), ("--schema", parameter .schema), ("--format", parameter .format),
    ("--log-level", parameter .logLevel)]

/-- The option that is written in full. -/
def ofText? (s : List Char) : Option OptionName :=
  (spellings.find? (·.1.toList == s)).map (·.2)

def startingWith (s : List Char) : List (String × OptionName) :=
  spellings.filter fun o => s.isPrefixOf o.1.toList

/-- All ways to write an option, as mistakes name it. -/
def shown : OptionName → String
  | help => "-h/--help"
  | parameter .schema => "--schema"
  | parameter .format => "--format"
  | parameter .logLevel => "--log-level"

end OptionName

/-- What is wrong with a command line. -/
inductive UsageError where
  | ambiguous (word : String) (candidates : List String)
  | valueMissing (p : Parameter)
  | valueOfHelp (value : String)
  | unknownFormat (name : String)
  | schemaMissing
  | unrecognized (words : List String)
deriving DecidableEq, Repr, Inhabited

namespace UsageError

/-- A mistake that concerns one option. -/
def about (n : OptionName) (problem : String) : String := s!"argument {n.shown}: {problem}"

/-- The mistake in words. -/
def message : UsageError → String
  | ambiguous word candidates =>
    s!"ambiguous option: {word} could match " ++ ", ".intercalate candidates
  | valueMissing p => about (.parameter p) "expected one argument"
  | valueOfHelp value => about .help s!"ignored explicit argument {Text.quoted value}"
  | unknownFormat name =>
    let offered := ", ".intercalate (ReportFormat.all.map fun f => Text.quoted f.name)
    about (.parameter .format) s!"invalid choice: {Text.quoted name} (choose from {offered})"
  | schemaMissing => s!"the following arguments are required: {(OptionName.parameter .schema).shown}"
  | unrecognized words => "unrecognized arguments: " ++ " ".intercalate words

end UsageError

/-- A word of the command line. -/
inductive Word where
  | plain (text : String)
  | dashes
  | option (name : OptionName) (value : Option String)
  | unknown (text : String)
deriving DecidableEq, Repr, Inhabited

namespace Word

/-- Whether a word is a negative number, which no option is; a line may end behind it. -/
def isNegativeNumber : List Char → Bool
  | '-' :: s =>
    let s := if s.getLast? = some '\n' then s.dropLast else s
    let fraction := s.dropWhile Text.isDigit
    match fraction with
    | [] => !s.isEmpty
    | '.' :: digits => !digits.isEmpty && digits.all Text.isDigit
    | _ => false
  | _ => false

/-- What stands behind a short request for help; further requests may be joined to it. -/
def behindHelp (value : List Char) : Word :=
  let rest := value.dropWhile (· == 'h')
  .option .help
    (if rest.isEmpty && !value.isEmpty then none else some (String.ofList rest))

/-- An option with the value behind its equals sign. -/
def withValue (written : List Char) (name : OptionName) (value : List Char) : Word :=
  if written = "-h".toList then behindHelp value else .option name (some (String.ofList value))

/-- A word that starts with a dash and is no option. -/
def notAnOption (s : List Char) : Word :=
  if isNegativeNumber s || s.contains ' ' then .plain (String.ofList s)
  else .unknown (String.ofList s)

/-- A word that starts with a dash and is no option written in full. -/
def shortened (s : List Char) : Except UsageError Word :=
  let front := s.takeWhile (· ≠ '=')
  let back := s.dropWhile (· ≠ '=')
  if s.take 2 = "--".toList then
    match OptionName.startingWith front with
    | [] => .ok (notAnOption s)
    | [o] =>
      .ok (.option o.2 (if back.isEmpty then none else some (String.ofList (back.drop 1))))
    | os => .error (.ambiguous (String.ofList s) (os.map (·.1)))
  else if s.take 2 = "-h".toList then .ok (behindHelp (s.drop 2))
  else .ok (notAnOption s)

def ofChars (s : List Char) : Except UsageError Word :=
  if s.head? ≠ some '-' ∨ s = ['-'] then .ok (.plain (String.ofList s))
  else
    match OptionName.ofText? s with
    | some n => .ok (.option n none)
    | none =>
      let front := s.takeWhile (· ≠ '=')
      match OptionName.ofText? front, s.drop front.length with
      | some n, _ :: value => .ok (withValue front n value)
      | _, _ => shortened s

/-- The words of a line; after two dashes all are plain. -/
def ofTexts : List String → Except UsageError (List Word)
  | [] => .ok []
  | s :: ss =>
    if s = "--" then .ok (.dashes :: ss.map .plain)
    else do
      let w ← ofChars s.toList
      let ws ← ofTexts ss
      return w :: ws

end Word

/-- What was given for an option; two dashes behind its equals sign stand for nothing. -/
inductive Given (α : Type) where
  | absent
  | nothing
  | value (a : α)
deriving DecidableEq, Repr

instance {α : Type} : Inhabited (Given α) := ⟨.absent⟩

namespace Given

/-- What a text behind an equals sign stands for. -/
def ofText (s : String) : Given String := if s = "--" then .nothing else .value s

def value? {α : Type} : Given α → Option α
  | value a => some a
  | _ => none

end Given

/-- The options of a line. -/
structure Options where
  paths : List String := []
  schema : Given String := .absent
  format : Given ReportFormat := .absent
  logLevel : Given String := .absent
deriving DecidableEq, Repr, Inhabited

namespace Options

/-- Sets an option; of an option that is given twice the later value counts. -/
def set (o : Options) (p : Parameter) (given : Given String) : Except UsageError Options :=
  match p with
  | .schema => .ok { o with schema := given }
  | .logLevel => .ok { o with logLevel := given }
  | .format =>
    match given with
    | .absent => .ok { o with format := .absent }
    | .nothing => .ok { o with format := .nothing }
    | .value name =>
      match ReportFormat.ofName? name with
      | some f => .ok { o with format := .value f }
      | none => .error (.unknownFormat name)

end Options

/-- How far the paths have been read. -/
inductive PathsRead where
  | notYet
  | inside
  | closed
deriving DecidableEq, Repr, Inhabited

/-- What has been read of a line, with the words that have no place in it. -/
structure Reading where
  options : Options := {}
  state : PathsRead := .notYet
  leftOver : List String := []
deriving DecidableEq, Repr, Inhabited

namespace Reading

def addPlain (r : Reading) (s : String) : Reading :=
  if r.state = .closed then { r with leftOver := r.leftOver ++ [s] }
  else { r with options := { r.options with paths := r.options.paths ++ [s] }, state := .inside }

/-- Reads two dashes, which are no path themselves. -/
def addDashes (r : Reading) : Reading :=
  if r.state = .closed then { r with leftOver := r.leftOver ++ ["--"] }
  else { r with state := .inside }

/-- Ends the paths, if there have been any. -/
def close (r : Reading) : Reading :=
  if r.state = .inside then { r with state := .closed } else r

def addUnknown (r : Reading) (s : String) : Reading :=
  { r.close with leftOver := r.leftOver ++ [s] }

def addOption (r : Reading) (p : Parameter) (given : Given String) : Except UsageError Reading :=
  (r.options.set p given).map fun o => { r.close with options := o }

/-- Reads words up to a request for help, of which nothing is read. -/
def read : List Word → Reading → Except UsageError (Option Reading)
  | [], r => .ok (some r)
  | .plain s :: ws, r => read ws (r.addPlain s)
  | .dashes :: ws, r => read ws r.addDashes
  | .unknown s :: ws, r => read ws (r.addUnknown s)
  | .option .help none :: _, _ => .ok none
  | .option .help (some v) :: _, _ => .error (.valueOfHelp v)
  | .option (.parameter p) (some v) :: ws, r =>
    match r.addOption p (Given.ofText v) with
    | .ok r => read ws r
    | .error e => .error e
  | .option (.parameter p) none :: .plain v :: ws, r =>
    match r.addOption p (.value v) with
    | .ok r => read ws r
    | .error e => .error e
  | .option (.parameter p) none :: _, _ => .error (.valueMissing p)

def finish (r : Reading) : Except UsageError Options :=
  if r.options.schema = .absent then .error .schemaMissing
  else if r.leftOver ≠ [] then .error (.unrecognized r.leftOver)
  else .ok r.options

end Reading

/-- What a line asks for. -/
inductive Command where
  | help
  | check (options : Options)
deriving DecidableEq, Repr, Inhabited

def Command.ofTexts (line : List String) : Except UsageError Command := do
  let ws ← Word.ofTexts line
  match ← Reading.read ws {} with
  | none => return .help
  | some r => return .check (← r.finish)

end Conform.CommandLine
