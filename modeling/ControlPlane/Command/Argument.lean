import ControlPlane.Basic

namespace ControlPlane

inductive Usage where
  | nothingGiven
  | missingCommand
  | unknownCommand
  | unknownArgument
  | missingArgument
  | missingValue
  | unknownValue
  | malformedValue
  | repeatedArgument
  | needlessValue
  | help
  | version
  deriving DecidableEq, Repr

structure ValueRule where
  repeats : Bool := false
  fault? : String → Option Usage := fun _ => none

inductive OptionForm where
  | help
  | version
  | flag
  | value (rule : ValueRule)

structure CommandOption where
  name : String
  letter : Option Char := none
  form : OptionForm

structure Grammar where
  options : List CommandOption
  words : Nat := 0
  commands : List String := []

def Grammar.named? (g : Grammar) (name : List Char) : Option CommandOption :=
  g.options.find? (·.name.toList == name)

def Grammar.lettered? (g : Grammar) (letter : Char) : Option CommandOption :=
  g.options.find? (·.letter == some letter)

inductive Argument where
  | divider
  | named (name : List Char) (value : Option String)
  | lettered (letter : Char) (rest : List Char)
  | word
  deriving DecidableEq, Repr

def Argument.ofText (s : String) : Argument :=
  match s.toList with
  | ['-', '-'] => .divider
  | '-' :: '-' :: rest =>
      let (name, value) := Text.cut '=' rest
      .named name (value.map String.ofList)
  | '-' :: letter :: rest => .lettered letter rest
  | _ => .word

def attached : List Char → Option String
  | [] => none
  | '=' :: rest => some (String.ofList rest)
  | rest => some (String.ofList rest)

structure Pending where
  name : String
  rule : ValueRule
  value : Option String

structure Reading where
  options : List (String × String) := []
  pending : Option Pending := none
  words : List String := []
  divided : Bool := false

namespace Reading

def has (r : Reading) (name : String) : Bool := r.options.any (·.1 == name)

def values (r : Reading) (name : String) : List String :=
  (r.options.filter (·.1 == name)).map (·.2)

def value? (r : Reading) (name : String) : Option String := (r.values name).head?

def awaitsValue (r : Reading) : Bool := r.pending.any (·.value.isNone)

def keep (r : Reading) (name value : String) : Reading :=
  { r with options := r.options ++ [(name, value)], pending := none }

def settle (r : Reading) : Except Usage Reading :=
  match r.pending with
  | none => .ok r
  | some ⟨_, _, none⟩ => .error .missingValue
  | some ⟨name, rule, some value⟩ =>
      if r.has name && !rule.repeats then .error .repeatedArgument
      else
        match rule.fault? value with
        | some fault => .error fault
        | none => .ok (r.keep name value)

def addFlag (r : Reading) (name : String) : Except Usage Reading :=
  if r.has name then .error .repeatedArgument else .ok (r.keep name "")

def addOption (r : Reading) (o : CommandOption) (value : Option String) : Except Usage Reading :=
  match o.form, value with
  | .value rule, none => r.settle.map fun r => { r with pending := some ⟨o.name, rule, none⟩ }
  | .value rule, some value =>
      r.settle.bind fun r => { r with pending := some ⟨o.name, rule, some value⟩ }.settle
  | _, some _ => .error .needlessValue
  | .help, none => r.settle.bind fun _ => .error .help
  | .version, none => r.settle.bind fun _ => .error .version
  | .flag, none => r.settle.bind fun r => r.addFlag o.name

def addLetter (r : Reading) (o : CommandOption) (rest : List Char) : Except Usage Reading :=
  match o.form with
  | .value _ => r.addOption o (attached rest)
  | _ => r.addOption o none

def stray (g : Grammar) (r : Reading) (word : String) : Usage :=
  if g.commands.isEmpty || (r.divided && g.commands.contains word) then .unknownArgument
  else .unknownCommand

def addWord (g : Grammar) (r : Reading) (word : String) : Except Usage Reading :=
  if r.words.length < g.words then
    r.settle.map fun r => { r with words := r.words ++ [word] }
  else .error (stray g r word)

def supply (r : Reading) (value : String) : Reading :=
  { r with pending := r.pending.map fun p => { p with value := some value } }

def add (g : Grammar) (r : Reading) (arg : String) : Except Usage Reading :=
  if r.divided then r.addWord g arg
  else
    match Argument.ofText arg with
    | .divider => .ok { r with divided := true }
    | .named name value =>
        match g.named? name with
        | some o => r.addOption o value
        | none => .error .unknownArgument
    | .lettered letter rest =>
        match g.lettered? letter with
        | some o => r.addLetter o rest
        | none => .error .unknownArgument
    | .word => if r.awaitsValue then .ok (r.supply arg) else r.addWord g arg

def startsCommand (g : Grammar) (r : Reading) (arg : String) : Bool :=
  !r.divided && !r.awaitsValue && g.commands.contains arg

def scan (g : Grammar) (r : Reading) :
    List String → Except Usage (Reading × Option (String × List String))
  | [] => .ok (r, none)
  | arg :: rest =>
      if r.startsCommand g arg then .ok (r, some (arg, rest))
      else
        match r.add g arg with
        | .ok r => r.scan g rest
        | .error fault => .error fault

end Reading

def Grammar.read (g : Grammar) (args : List String) : Except Usage Reading :=
  match Reading.scan { g with commands := [] } {} args with
  | .ok (r, _) => r.settle
  | .error fault => .error fault

end ControlPlane
