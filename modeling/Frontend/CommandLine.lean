import Frontend.Diagnostic.Report
import Frontend.Node.Dump
import Frontend.Program

/-!
Contract: the command line.

Owns:
- the commands, and reading one from its arguments;
- what a command prints, and the code it ends with.

Does not own: files, clocks and streams, which are reached through a console.
-/

set_option autoImplicit false

namespace Frontend

/-! ## Commands -/

/-- How a statement tree is printed. -/
inductive TreeFormat where
  | outline
  | debug
  | json
deriving DecidableEq, Repr, Inhabited

def TreeFormat.ofName? : String → Option TreeFormat
  | "outline" => some .outline
  | "debug" => some .debug
  | "json" => some .json
  | _ => none

inductive Command where
  /-- List the tokens of a file. -/
  | lex (file : String)
  /-- Print the statement tree of a file, and perhaps its symbols. -/
  | parse (file : String) (policy : Policy) (symbols : Bool) (format : TreeFormat)
deriving DecidableEq, Repr

/-- The arguments of a command as far as they have been read. -/
structure Arguments where
  file? : Option String
  reject : Bool
  symbols : Bool
  format? : Option TreeFormat
deriving DecidableEq, Repr

namespace Arguments

def none : Arguments :=
  ⟨.none, false, false, .none⟩

/-- Take an argument as the file. There is one, and its name is not empty. -/
def withFile (arguments : Arguments) (file : String) : Option Arguments :=
  if arguments.file?.isNone ∧ file ≠ "" then
    some { arguments with file? := some file }
  else
    .none

/-- Take the name of a format, which can be given once. -/
def withFormat (arguments : Arguments) (name : String) : Option Arguments :=
  if arguments.format?.isNone then
    (TreeFormat.ofName? name).map fun format => { arguments with format? := some format }
  else
    .none

/-- Whether an argument is an option by its form. A lone hyphen is a file. -/
def isOption (argument : String) : Bool :=
  argument.toList.head? = some '-' && argument ≠ "-"

/-- Take what stands behind `--`: files only. -/
def withFiles (arguments : Arguments) : List String → Option Arguments
  | [] => some arguments
  | file :: rest => (arguments.withFile file).bind fun extended => extended.withFiles rest

/-- Read the arguments of `lex`. -/
def ofLex (arguments : Arguments) : List String → Option Arguments
  | [] => some arguments
  | argument :: rest =>
      if argument = "--" then
        arguments.withFiles rest
      else if isOption argument then
        .none
      else
        (arguments.withFile argument).bind fun extended => extended.ofLex rest

/-- Read the arguments of `parse`. Each option can be given once. -/
def ofParse (arguments : Arguments) : List String → Option Arguments
  | [] => some arguments
  | ["--format"] => .none
  | "--format" :: name :: rest =>
      (arguments.withFormat name).bind fun extended => extended.ofParse rest
  | argument :: rest =>
      if argument = "--" then
        arguments.withFiles rest
      else if argument = "--reject-redeclarations" then
        if arguments.reject then .none else { arguments with reject := true }.ofParse rest
      else if argument = "--symbols" then
        if arguments.symbols then .none else { arguments with symbols := true }.ofParse rest
      else if argument.startsWith "--format=" then
        (arguments.withFormat (argument.drop 9).toString).bind fun extended =>
          extended.ofParse rest
      else if isOption argument then
        .none
      else
        (arguments.withFile argument).bind fun extended => extended.ofParse rest

end Arguments

/-- The command that some arguments give, if they give one. -/
def Command.ofArguments? : List String → Option Command
  | "lex" :: rest =>
      (Arguments.none.ofLex rest).bind fun arguments => arguments.file?.map .lex
  | "parse" :: rest =>
      (Arguments.none.ofParse rest).bind fun arguments =>
        arguments.file?.map fun file =>
          .parse file (if arguments.reject then .reject else .overwrite) arguments.symbols
            (arguments.format?.getD .outline)
  | _ => none

/-! ## Running a command -/

/-- Why a file could not be read. -/
inductive ReadFailure where
  | missing
  | notText
  | other (reason : String)
deriving DecidableEq, Repr

def ReadFailure.message : ReadFailure → String
  | missing => "No such file or directory (os error 2)"
  | notText => "stream did not contain valid UTF-8"
  | other reason => reason

/-- What a command needs of the world around it. The clock counts
nanoseconds. -/
structure Console (m : Type → Type) where
  read : String → m (Except ReadFailure String)
  print : String → m Unit
  warn : String → m Unit
  now : m Nat

namespace Command

variable {m : Type → Type} [Monad m]

/-- A time span in whole microseconds. -/
def duration (start stop : Nat) : String :=
  toString ((stop - start) / 1000) ++ "µs"

/-- The listing of tokens, with their number. -/
def tokenListing (tokens : List Token) : String :=
  String.join (tokens.map fun token => token.listing ++ "\n")
    ++ "\nTotal tokens: " ++ toString tokens.length ++ "\n"

/-- Several trees in some format. -/
def treeText (format : TreeFormat) (nodes : List Node) : String :=
  match format with
  | .outline => String.join (nodes.map Node.outline)
  | .debug => Node.recordDump nodes ++ "\n"
  | .json => Node.jsonDump nodes ++ "\n"

/-- The symbols of a program, by name. -/
def symbolListing (symbols : SymbolTable) : String :=
  "\nSymbols:\n" ++ String.join (symbols.toList.map fun declaration =>
    "  " ++ declaration.name ++ ": " ++ declaration.type.name ++ "\n")

/-- Report a failure in a file and end with the code for it. -/
def fail
    (console : Console m)
    (diagnostic : Diagnostic)
    (source file : String) :
    m UInt32 := do
  console.warn (diagnostic.report source file ++ "\n")
  return 1

/-- Go on with the text of a file, or say why there is none. -/
def withSource
    (console : Console m)
    (file : String)
    (next : String → m UInt32) :
    m UInt32 := do
  match ← console.read file with
  | .ok source => next source
  | .error failure =>
      console.warn ("Error: failed to read file '" ++ file ++ "'\n\nCaused by:\n    "
        ++ failure.message ++ "\n")
      return 1

/-- Go on with the tokens of a source once the time it took is printed. -/
def withTokens
    (console : Console m)
    (source file : String)
    (start : Nat)
    (next : List Token → m UInt32) :
    m UInt32 := do
  match tokenize source with
  | .error diagnostic => fail console diagnostic source file
  | .ok tokens =>
      console.print ("Tokenized in " ++ duration start (← console.now) ++ "\n")
      next tokens

/-- Run a command and give the code it ends with. What has been printed before
a failure stays. -/
def run (console : Console m) : Command → m UInt32
  | lex file =>
      withSource console file fun source => do
        withTokens console source file (← console.now) fun tokens => do
          console.print (tokenListing tokens)
          return 0
  | parse file policy symbols format =>
      withSource console file fun source => do
        let start ← console.now
        withTokens console source file start fun tokens => do
          let parseStart ← console.now
          let run := Frontend.parse tokens policy
          match run.result with
          | .error diagnostic => fail console diagnostic source file
          | .ok statements =>
              console.print ("Parsed in " ++ duration parseStart (← console.now) ++ "\n")
              console.print (String.join (run.session.notices.map fun notice =>
                "Note: " ++ notice.message ++ "\n"))
              console.print "\n"
              console.print (treeText format statements)
              if symbols then
                console.print (symbolListing run.session.symbols)
              console.print ("\nTotal time: " ++ duration start (← console.now) ++ "\n")
              return 0

end Command

/-! ## Recorded consoles -/

/-- What a command has written. -/
structure Transcript where
  output : String
  warnings : String
deriving DecidableEq, Repr

/-- A console whose files are given, whose clock stands still, and that keeps
what is written to it. -/
def Console.recorded (files : String → Except ReadFailure String) :
    Console (StateM Transcript) where
  read file := pure (files file)
  print text := modify fun transcript => { transcript with output := transcript.output ++ text }
  warn text := modify fun transcript => { transcript with warnings := transcript.warnings ++ text }
  now := pure 0

end Frontend
