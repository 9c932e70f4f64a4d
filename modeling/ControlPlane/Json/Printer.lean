import ControlPlane.Data.Value
import ControlPlane.Decimal.Shortest

namespace ControlPlane.Json

def escape (c : Char) : List Char :=
  match c with
  | '"' => ['\\', '"']
  | '\\' => ['\\', '\\']
  | '\x08' => ['\\', 'b']
  | '\x0c' => ['\\', 'f']
  | '\n' => ['\\', 'n']
  | '\r' => ['\\', 'r']
  | '\t' => ['\\', 't']
  | c =>
      if c.toNat < 32 then
        ['\\', 'u', '0', '0', Nat.digitChar (c.toNat / 16), Nat.digitChar (c.toNat % 16)]
      else [c]

def quote (s : String) : List Char := '"' :: s.toList.flatMap escape ++ ['"']

def integerText (n : Int) : List Char :=
  (if n < 0 then ['-'] else []) ++ Nat.toDigits 10 n.natAbs

def scalarText : Value → List Char
  | .bool true => "true".toList
  | .bool false => "false".toList
  | .integer n => integerText n
  | .float x => x.toText.toList
  | .text s => quote s
  | _ => "null".toList

mutual

def compactText : Value → List Char
  | .list items => '[' :: compactItems items ++ [']']
  | .record entries => '{' :: compactEntries entries ++ ['}']
  | .null => scalarText .null
  | .bool b => scalarText (.bool b)
  | .integer n => scalarText (.integer n)
  | .float x => scalarText (.float x)
  | .text s => scalarText (.text s)

def compactItems : List Value → List Char
  | [] => []
  | [v] => compactText v
  | v :: w :: rest => compactText v ++ ',' :: compactItems (w :: rest)

def compactEntries : List (String × Value) → List Char
  | [] => []
  | [(k, v)] => quote k ++ ':' :: compactText v
  | (k, v) :: e :: rest => quote k ++ ':' :: compactText v ++ ',' :: compactEntries (e :: rest)

end

def compact (v : Value) : String := String.ofList (compactText v)

def newline (depth : Nat) : List Char := '\n' :: List.replicate (2 * depth) ' '

mutual

def prettyText (depth : Nat) : Value → List Char
  | .list [] => ['[', ']']
  | .list (v :: rest) => '[' :: prettyItems (depth + 1) (v :: rest) ++ newline depth ++ [']']
  | .record [] => ['{', '}']
  | .record (e :: rest) => '{' :: prettyEntries (depth + 1) (e :: rest) ++ newline depth ++ ['}']
  | .null => scalarText .null
  | .bool b => scalarText (.bool b)
  | .integer n => scalarText (.integer n)
  | .float x => scalarText (.float x)
  | .text s => scalarText (.text s)

def prettyItems (depth : Nat) : List Value → List Char
  | [] => []
  | [v] => newline depth ++ prettyText depth v
  | v :: w :: rest => newline depth ++ prettyText depth v ++ ',' :: prettyItems depth (w :: rest)

def prettyEntries (depth : Nat) : List (String × Value) → List Char
  | [] => []
  | [(k, v)] => newline depth ++ quote k ++ ':' :: ' ' :: prettyText depth v
  | (k, v) :: e :: rest =>
      newline depth ++ quote k ++ ':' :: ' ' :: prettyText depth v ++ ',' :: prettyEntries depth (e :: rest)

end

def pretty (v : Value) : String := String.ofList (prettyText 0 v)

end ControlPlane.Json
