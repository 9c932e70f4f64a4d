import ControlPlane.Config.Yaml.Basic

namespace ControlPlane.Yaml

inductive Chomping where
  | clip
  | strip
  | keep

def blockHeader (step : Option Nat) (chomp : Chomping) : List Char → Option (Option Nat × Chomping × List Char)
  | '+' :: rest => blockHeader step .keep rest
  | '-' :: rest => blockHeader step .strip rest
  | c :: rest =>
      if c.isDigit && c != '0' && step.isNone then blockHeader (some (c.toNat - '0'.toNat)) chomp rest
      else
        let rest := (c :: rest).dropWhile isSpace
        match rest with
        | '#' :: rest => some (step, chomp, rest.dropWhile (· != '\n'))
        | '\n' :: _ => some (step, chomp, rest)
        | [] => some (step, chomp, [])
        | _ => none
  | [] => some (step, chomp, [])

def splitLines (cs : List Char) : List (List Char) :=
  cs.foldr (fun c lines =>
    match lines with
    | [] => [[c]]
    | line :: rest => if c == '\n' then [] :: line :: rest else (c :: line) :: rest) [[]]

def indentOf (line : List Char) : Nat := (line.takeWhile (· == ' ')).length

def isBlankLine (line : List Char) : Bool := line.all (· == ' ')

def spanBlock (indent : Nat) : List (List Char) → List (List Char) × List (List Char)
  | [] => ([], [])
  | line :: rest =>
      if isBlankLine line || (indent ≤ indentOf line && !isMarker 0 line) then
        let (inside, after) := spanBlock indent rest
        (line :: inside, after)
      else ([], line :: rest)

def joinLiteral (lines : List (List Char)) : List Char := lines.flatMap (· ++ ['\n'])

def startsBlank (line : List Char) : Bool := line.head?.any isSpace

def joinFolded (before : Bool) (breaks : Nat) : List (List Char) → List Char
  | [] => if before then '\n' :: List.replicate breaks '\n' else List.replicate breaks '\n'
  | line :: rest =>
      if line.isEmpty then joinFolded before (breaks + 1) rest
      else
        let plain := !startsBlank line
        let gap :=
          if before && plain then (if breaks = 0 then [' '] else List.replicate breaks '\n')
          else if before then '\n' :: List.replicate breaks '\n'
          else List.replicate breaks '\n'
        if plain then gap ++ line ++ joinFolded true 0 rest
        else gap ++ line ++ '\n' :: joinFolded false 0 rest

def chompText (chomp : Chomping) (text : List Char) : List Char :=
  let body := (text.reverse.dropWhile (· == '\n')).reverse
  match chomp with
  | .strip => body
  | .keep => text
  | .clip => if body.isEmpty || body.length == text.length then body else body ++ ['\n']

def joinLines (lines : List (List Char)) : List Char := (lines.intersperse ['\n']).flatten

def blockScalar (folded : Bool) (parent : Nat) (rest : List Char) : Option (Yaml × Cursor) := do
  let (step, chomp, rest) ← blockHeader none .clip rest
  let lines := splitLines (rest.drop 1)
  let first := lines.find? fun line => !isBlankLine line
  let indent :=
    match step with
    | some n => parent + n
    | none => max (parent + 1) ((first.map indentOf).getD 0)
  let (inside, after) := spanBlock indent lines
  let inside := if after.isEmpty && inside.getLast? == some [] then inside.dropLast else inside
  let texts := inside.map fun line => line.drop indent
  let text := if folded then joinFolded false 0 texts else joinLiteral texts
  some (.scalar (String.ofList (chompText chomp text)) false, ⟨0, true, joinLines after⟩)

end ControlPlane.Yaml
