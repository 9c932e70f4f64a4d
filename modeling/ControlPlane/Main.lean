import ControlPlane.Command.Rehearsal
import ControlPlane.Json.Reader

namespace ControlPlane

def usageText : String :=
  "Usage: stackctl [--cloud CLOUD] [--log-level LEVEL] COMMAND\n" ++
    "Commands:\n" ++
    "  types\n" ++
    "  list KIND [--filter KEY=VALUE]... [--limit N] [--no-paginate]\n" ++
    "  show KIND NAME_OR_ID\n" ++
    "  delete KIND ID [--ignore-missing]\n" ++
    "  wait KIND ID --status STATUS [--failure STATUS]... [--attribute NAME]\n" ++
    "       [--interval SECONDS] [--timeout SECONDS]"

def Usage.answer : Usage → IO UInt32
  | .help => do
      IO.println usageText
      pure 0
  | .version => do
      IO.println "stackctl dev"
      pure 0
  | _ => do
      IO.eprintln usageText
      pure 2

def rehearsalOf (line : String) : Rehearsal :=
  match Json.parse line with
  | some v => .ofValue v
  | none => {}

def carryOut (i : Invocation) : IO UInt32 := do
  let line ← (← IO.getStdin).getLine
  match ((rehearsalOf line).run i).1 with
  | .ok text => do
      IO.print text
      pure 0
  | .error failure => do
      IO.eprintln ("Error: " ++ failure.message)
      pure 1

end ControlPlane

def main (args : List String) : IO UInt32 :=
  match ControlPlane.Invocation.parse args with
  | .ok i => ControlPlane.carryOut i
  | .error usage => usage.answer
