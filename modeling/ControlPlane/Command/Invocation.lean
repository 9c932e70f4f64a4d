import ControlPlane.Command.Argument
import ControlPlane.Command.LogLevel
import ControlPlane.Decimal.Literal
import ControlPlane.Json.Reader

namespace ControlPlane

namespace Filter

inductive Fault where
  | noEquals (raw : String)
  | noName (raw : String)
  deriving DecidableEq, Repr

def Fault.message : Fault → String
  | .noEquals raw => "expected key=value, got '" ++ raw ++ "'"
  | .noName raw => "empty filter name in '" ++ raw ++ "'"

def valueOf (text : String) : Value := (Json.parse text).getD (.text text)

def parse (raw : String) : Except Fault (String × Value) :=
  match raw.toList.span (· != '=') with
  | (_, []) => .error (.noEquals raw)
  | ([], _) => .error (.noName raw)
  | (name, _ :: value) => .ok (String.ofList name, valueOf (String.ofList value))

end Filter

inductive Command where
  | types
  | list (kind : String) (filters : List (String × Value)) (limit : Option Nat) (paginated : Bool)
  | view (kind nameOrId : String)
  | delete (kind id : String) (ignoreMissing : Bool)
  -- Times are in seconds.
  | wait (kind id : String) (status : String) (failures : List String) (watched : String)
      (interval timeout : Option Nat)
  deriving DecidableEq, Repr

structure Invocation where
  cloud : Option String := none
  logLevel : LogLevel := .off
  command : Command
  deriving DecidableEq, Repr

namespace Command

def helpOption : CommandOption := { name := "help", letter := some 'h', form := .help }

def anyText (name : String) : CommandOption := { name := name, form := .value {} }

def faultUnless {α : Type} (fault : Usage) (read? : String → Option α) : ValueRule :=
  { fault? := fun s => if (read? s).isSome then none else some fault }

def readFilter? (s : String) : Option (String × Value) := (Filter.parse s).toOption

def readNumber? (s : String) : Option Nat := readWord? s.toList

def number (name : String) : CommandOption :=
  { name := name, form := .value (faultUnless .malformedValue readNumber?) }

def filterOption : CommandOption :=
  { name := "filter", letter := some 'f'
    form := .value { faultUnless .malformedValue readFilter? with repeats := true } }

def logLevelOption : CommandOption :=
  { name := "log-level", form := .value (faultUnless .unknownValue LogLevel.ofName?) }

def grammars : List (String × Grammar) :=
  [ ("types", { options := [helpOption] }),
    ("list",
      { options := [filterOption, number "limit", { name := "no-paginate", form := .flag }, helpOption]
        words := 1 }),
    ("show", { options := [helpOption], words := 2 }),
    ("delete", { options := [{ name := "ignore-missing", form := .flag }, helpOption], words := 2 }),
    ("wait",
      { options :=
          [anyText "status", { name := "failure", form := .value { repeats := true } },
            anyText "attribute", number "interval", number "timeout", helpOption]
        words := 2 }) ]

def names : List String := grammars.map (·.1) ++ ["help"]

def ofReading? (name : String) (r : Reading) : Option Command :=
  match name, r.words with
  | "types", [] => some .types
  | "list", [kind] =>
      some (.list kind ((r.values "filter").filterMap readFilter?)
        ((r.value? "limit").bind readNumber?) (!r.has "no-paginate"))
  | "show", [kind, nameOrId] => some (.view kind nameOrId)
  | "delete", [kind, id] => some (.delete kind id (r.has "ignore-missing"))
  | "wait", [kind, id] =>
      (r.value? "status").map fun status =>
        .wait kind id status (r.values "failure") ((r.value? "attribute").getD "status")
          ((r.value? "interval").bind readNumber?) ((r.value? "timeout").bind readNumber?)
  | _, _ => none

def parse (name : String) (args : List String) : Except Usage Command :=
  match grammars.lookup name with
  | none => .error .unknownCommand
  | some g => do
      let r ← g.read args
      match ofReading? name r with
      | some command => .ok command
      | none => .error .missingArgument

def helpOn : List String → Usage
  | [] => .help
  | [name] => if names.contains name then .help else .unknownCommand
  | _ => .unknownCommand

end Command

namespace Invocation

def grammar : Grammar :=
  { options :=
      [{ Command.anyText "cloud" with letter := some 'c' }, Command.logLevelOption,
        Command.helpOption, { name := "version", letter := some 'V', form := .version }]
    commands := Command.names }

def parse (args : List String) : Except Usage Invocation := do
  match ← Reading.scan grammar {} args with
  | (r, none) =>
      let r ← r.settle
      .error (if r.options.isEmpty then .nothingGiven else .missingCommand)
  | (_, some ("help", rest)) => .error (Command.helpOn rest)
  | (r, some (name, rest)) =>
      let command ← Command.parse name rest
      let r ← r.settle
      .ok
        { cloud := r.value? "cloud", command := command
          logLevel := ((r.value? "log-level").bind LogLevel.ofName?).getD .off }

end Invocation

end ControlPlane
