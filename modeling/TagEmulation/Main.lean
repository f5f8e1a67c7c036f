import TagEmulation.CommandLine

/-!
# Main — the program

Shows the report of a call: first what goes to standard output, then the log and the errors.
-/

open TagEmulation in
/-- Emulates a tag that a scripted reader selects twice. -/
def main (arguments : List String) : IO UInt32 := do
  let r := CommandLine.report arguments
  for line in r.stdout do
    IO.println line
  for event in r.log do
    IO.eprintln ("[" ++ event.level.text ++ "] " ++ event.message)
  for line in r.stderr do
    IO.eprintln line
  return r.code
