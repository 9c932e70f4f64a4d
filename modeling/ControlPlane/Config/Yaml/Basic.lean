namespace ControlPlane

inductive Yaml where
  | scalar (text : String) (plain : Bool)
  | sequence (items : List Yaml)
  | mapping (entries : List (Yaml × Yaml))
  deriving Repr, Inhabited

namespace Yaml

def nothing : Yaml := .scalar "" true

-- A place in a text. `fresh` says that only blanks stand between it and the start of its line.
structure Cursor where
  column : Nat
  fresh : Bool
  rest : List Char

def isSpace (c : Char) : Bool := c == ' ' || c == '\t'

def endsWord : List Char → Bool
  | [] => true
  | c :: _ => isSpace c || c == '\n'

def unifyBreaks : List Char → List Char
  | '\r' :: '\n' :: rest => '\n' :: unifyBreaks rest
  | '\r' :: rest => '\n' :: unifyBreaks rest
  | c :: rest => c :: unifyBreaks rest
  | [] => []

def isPermitted (c : Char) : Bool :=
  let n := c.toNat
  n == 9 || n == 10 || n == 13 || (32 ≤ n && n ≤ 126) || n == 0x85 || (0xA0 ≤ n && n ≤ 0xFFFD && n != 0xFEFF)
    || 0x10000 ≤ n

def skip (tabs comment : Bool) (column : Nat) (fresh : Bool) : List Char → Option Cursor
  | [] => some ⟨column, fresh, []⟩
  | '\n' :: rest => skip tabs false 0 true rest
  | c :: rest =>
      if comment || c == ' ' then skip tabs comment (column + 1) fresh rest
      else if c == '#' then skip tabs true (column + 1) fresh rest
      else if c == '\t' then
        if fresh && !tabs then none else skip tabs false (column + 1) fresh rest
      else some ⟨column, fresh, c :: rest⟩

def Cursor.skip (cur : Cursor) : Option Cursor := Yaml.skip false false cur.column cur.fresh cur.rest

def Cursor.skipFlow (cur : Cursor) : Option Cursor :=
  Yaml.skip true false cur.column cur.fresh cur.rest

def Cursor.to (cur : Cursor) (rest : List Char) : Cursor :=
  ⟨cur.column + (cur.rest.length - rest.length), false, rest⟩

def isMarker (column : Nat) (cs : List Char) : Bool :=
  column == 0 &&
    match cs with
    | '-' :: '-' :: '-' :: rest => endsWord rest
    | '.' :: '.' :: '.' :: rest => endsWord rest
    | _ => false

def Cursor.isEnd (cur : Cursor) : Bool := cur.rest.isEmpty || isMarker cur.column cur.rest

def skipBreaks (breaks column : Nat) : List Char → Nat × Nat × List Char
  | [] => (breaks, column, [])
  | c :: rest =>
      if c == '\n' then skipBreaks (breaks + 1) 0 rest
      else if isSpace c then skipBreaks breaks (column + 1) rest
      else (breaks, column, c :: rest)

def foldBreaks (breaks : Nat) : List Char :=
  if breaks ≤ 1 then [' '] else List.replicate (breaks - 1) '\n'

end Yaml

end ControlPlane
