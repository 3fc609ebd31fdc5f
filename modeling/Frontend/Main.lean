import Frontend.CommandLine

/-!
Contract: the program.

Owns: the streams, the clock and the files behind a console.

Does not own: what is printed.
-/

set_option autoImplicit false

namespace Frontend

/-- Read a file as text. -/
def readSource (file : String) : IO (Except ReadFailure String) := do
  try
    let contents ← IO.FS.readBinFile file
    match String.fromUTF8? contents with
    | some source => return .ok source
    | none => return .error .notText
  catch
    | .noFileOrDirectory .. => return .error .missing
    | failure => return .error (.other (toString failure))

/-- The console of the running process. -/
def Console.process : Console IO where
  read := readSource
  print text := do
    (← IO.getStdout).putStr text
  warn text := do
    (← IO.getStderr).putStr text
  now := IO.monoNanosNow

end Frontend

def main (arguments : List String) : IO UInt32 :=
  match Frontend.Command.ofArguments? arguments with
  | some command => command.run Frontend.Console.process
  | none => do
      (← IO.getStderr).putStrLn
        ("usage: (lex FILE | parse FILE [--reject-redeclarations] [--symbols] "
          ++ "[--format outline|debug|json])")
      return 2
