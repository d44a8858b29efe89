import StyleCheck.CommandLine

/-!
# The program

Prints the answer to its arguments. A call that cannot be understood is told how to call, and one
that cannot be answered is told why.
-/

open StyleCheck

def main (arguments : List String) : IO UInt32 := do
  match CommandLine.answer (arguments.map String.toText) with
  | .error fault =>
    IO.eprintln fault.message.toString
    return 1
  | .ok answer =>
    for line in answer.lines do
      IO.println line.toString
    if answer.status == 2 then
      for line in CommandLine.usage do
        IO.eprintln line.toString
    return answer.status.toUInt32
