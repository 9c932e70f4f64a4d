import ControlPlane.Config.Yaml.BlockScalar
import ControlPlane.Config.Yaml.Flow

namespace ControlPlane.Yaml

def afterColon? (cur : Cursor) : Option Cursor :=
  let rest := cur.rest.dropWhile isSpace
  match rest with
  | ':' :: after => if endsWord after then some ((cur.to rest).to after) else none
  | _ => none

def keyNode? (fuel : Nat) (cur : Cursor) : Option (Yaml × Cursor) :=
  if startsPlain false cur.rest then
    let (text, rest) := plainLine false [] [] cur.rest
    some (.scalar (String.ofList text) true, cur.to rest)
  else do
    let (node, after) ← flowNode fuel cur
    let used := cur.rest.take (cur.rest.length - after.rest.length)
    if used.contains '\n' then none else some (node, after)

mutual

def blockNode (fuel : Nat) (parent : Option Nat) (inline : Bool) (cur : Cursor) :
    Option (Yaml × Cursor) :=
  match fuel with
  | 0 => none
  | fuel + 1 =>
      let indent := (parent.map (· + 1)).getD 0
      match cur.rest with
      | '|' :: rest => blockScalar false (parent.getD 0) rest
      | '>' :: rest => blockScalar true (parent.getD 0) rest
      | cs =>
          if cs.head? == some '-' && endsWord (cs.drop 1) then
            if inline then none else blockItems fuel cur.column [] cur
          else
            match if inline then none else keyOf fuel cur with
            | some (key, after) => blockEntries fuel cur.column key [] after
            | none =>
                if startsPlain false cs then
                  let (text, rest) := plainLine false [] [] cs
                  let (text, cur) := plainText fuel false indent text (cur.to rest)
                  some (.scalar (String.ofList text) true, cur)
                else flowNode fuel cur

def keyOf (fuel : Nat) (cur : Cursor) : Option (Yaml × Cursor) :=
  match fuel with
  | 0 => none
  | fuel + 1 => do
      let (key, after) ← keyNode? fuel cur
      let after ← afterColon? after
      some (key, after)

def blockValue (fuel : Nat) (column : Nat) (cur : Cursor) : Option (Yaml × Cursor) :=
  match fuel with
  | 0 => none
  | fuel + 1 => do
      let cur ← cur.skip
      if cur.isEnd then some (nothing, cur)
      else if !cur.fresh then blockNode fuel (some column) true cur
      else if column < cur.column then blockNode fuel (some column) false cur
      else if cur.column == column && cur.rest.head? == some '-' && endsWord (cur.rest.drop 1) then
        blockItems fuel column [] cur
      else some (nothing, cur)

def blockEntries (fuel : Nat) (column : Nat) (key : Yaml) (acc : List (Yaml × Yaml)) (cur : Cursor) :
    Option (Yaml × Cursor) :=
  match fuel with
  | 0 => none
  | fuel + 1 => do
      let (value, cur) ← blockValue fuel column cur
      let acc := (key, value) :: acc
      let cur ← cur.skip
      if cur.isEnd || (cur.fresh && cur.column < column) then some (.mapping acc.reverse, cur)
      else if !cur.fresh || column < cur.column then none
      else
        let (key, after) ← keyOf fuel cur
        blockEntries fuel column key acc after

def blockItems (fuel : Nat) (column : Nat) (acc : List Yaml) (cur : Cursor) : Option (Yaml × Cursor) :=
  match fuel with
  | 0 => none
  | fuel + 1 => do
      let inner : Cursor := ⟨cur.column + 1, true, cur.rest.drop 1⟩
      let inner ← inner.skip
      let (item, cur) ←
        if inner.isEnd || inner.column ≤ column then some (nothing, inner)
        else blockNode fuel (some column) false inner
      let acc := item :: acc
      let cur ← cur.skip
      if cur.isEnd || (cur.fresh && cur.column < column) then some (.sequence acc.reverse, cur)
      else if !cur.fresh || column < cur.column then none
      else if cur.rest.head? == some '-' && endsWord (cur.rest.drop 1) then
        blockItems fuel column acc cur
      else some (.sequence acc.reverse, cur)

end

def atEnd (cur : Cursor) : Option Unit := do
  let cur ← cur.skip
  match cur.rest with
  | [] => some ()
  | '.' :: '.' :: '.' :: rest =>
      let after ← Yaml.skip false false 3 false rest
      if after.rest.isEmpty then some () else none
  | _ => none

def document (cs : List Char) : Option (Option Yaml) := do
  let cur ← Yaml.skip false false 0 true cs
  let marked := isMarker cur.column cur.rest && cur.rest.head? == some '-'
  let start ← if marked then (cur.to (cur.rest.drop 3)).skip else some cur
  if start.rest.isEmpty then some (if marked then some nothing else none)
  else if start.isEnd then do
    atEnd start
    some (if marked then some nothing else none)
  else
    let (node, cur) ← blockNode (8 * cs.length + 8) none (marked && !start.fresh) start
    atEnd cur
    some (some node)

def parse (s : String) : Option (Option Yaml) :=
  let cs := s.toList
  let cs := if cs.head? == some '\ufeff' then cs.drop 1 else cs
  if cs.all isPermitted then document (unifyBreaks cs) else none

end ControlPlane.Yaml
