import Scriptlet.CommandLine

/-!
# The program

Runs the command line and writes what it answers.
-/

set_option autoImplicit false

/-- Evaluates the template on the command line. -/
def main (arguments : List String) : IO UInt32 := do
  let exit := Scriptlet.CommandLine.run arguments
  (← IO.getStderr).putStr exit.errors
  (← IO.getStdout).putStr exit.output
  return exit.code
