import ControlPlane.Config.Yaml.Basic
import ControlPlane.Basic

namespace ControlPlane.Yaml

def escaped? : Char → Option Char
  | '0' => some '\x00'
  | 'a' => some '\x07'
  | 'b' => some '\x08'
  | 't' => some '\t'
  | '\t' => some '\t'
  | 'n' => some '\n'
  | 'v' => some '\x0b'
  | 'f' => some '\x0c'
  | 'r' => some '\r'
  | 'e' => some '\x1b'
  | ' ' => some ' '
  | '"' => some '"'
  | '/' => some '/'
  | '\\' => some '\\'
  | 'N' => some '\u0085'
  | '_' => some '\u00a0'
  | 'L' => some '\u2028'
  | 'P' => some '\u2029'
  | _ => none

def escapeLength : Char → Option Nat
  | 'x' => some 2
  | 'u' => some 4
  | 'U' => some 8
  | _ => none

def hexNumber? (digits : List Char) : Option Nat :=
  digits.foldlM (fun n c => (Text.hexValue? c).map (n * 16 + ·)) 0

def isScalarValue (n : Nat) : Bool := n < 0xD800 || (0xDFFF < n && n < 0x110000)

def dropBlanksBefore (acc : List Char) : List Char := acc.dropWhile isSpace

-- Text between quotes, read backwards into `acc`; `fixed` counts how much of it no line break may
-- trim.
def quotedText (fuel : Nat) (double : Bool) (acc : List Char) (fixed : Nat) (cur : Cursor) :
    Option (String × Cursor) :=
  match fuel with
  | 0 => none
  | fuel + 1 =>
      match cur.rest with
      | [] => none
      | c :: rest =>
          let next := fun (rest : List Char) => cur.to rest
          if isMarker cur.column cur.rest then none
          else if c == '\n' then
            let (breaks, column, after) := skipBreaks 1 0 rest
            let kept := acc.length - fixed
            let trimmed := dropBlanksBefore (acc.take kept) ++ acc.drop kept
            let acc := (foldBreaks breaks).reverse ++ trimmed
            quotedText fuel double acc acc.length ⟨column, false, after⟩
          else if !double && c == '\'' then
            match rest with
            | '\'' :: rest => quotedText fuel double ('\'' :: acc) (acc.length + 1) (next rest)
            | rest => some (String.ofList acc.reverse, next rest)
          else if double && c == '"' then some (String.ofList acc.reverse, next rest)
          else if double && c == '\\' then
            match rest with
            | [] => none
            | '\n' :: rest =>
                let (breaks, column, after) := skipBreaks 0 0 rest
                let acc := List.replicate breaks '\n' ++ acc
                quotedText fuel double acc acc.length ⟨column, false, after⟩
            | e :: rest =>
                match escapeLength e with
                | some size =>
                    match hexNumber? (rest.take size) with
                    | some n =>
                        if (rest.take size).length == size && isScalarValue n then
                          quotedText fuel double (Char.ofNat n :: acc) (acc.length + 1)
                            (next (rest.drop size))
                        else none
                    | none => none
                | none =>
                    match escaped? e with
                    | some e => quotedText fuel double (e :: acc) (acc.length + 1) (next rest)
                    | none => none
          else quotedText fuel double (c :: acc) fixed (next rest)

end ControlPlane.Yaml
