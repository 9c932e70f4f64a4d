import ControlPlane.Config.Yaml.Plain
import ControlPlane.Config.Yaml.Quoted

namespace ControlPlane.Yaml

mutual

def flowNode (fuel : Nat) (cur : Cursor) : Option (Yaml × Cursor) :=
  match fuel with
  | 0 => none
  | fuel + 1 =>
      match cur.rest with
      | '[' :: rest => flowItems fuel [] (cur.to rest)
      | '{' :: rest => flowEntries fuel [] (cur.to rest)
      | '"' :: rest => (quotedText fuel true [] 0 (cur.to rest)).map fun (s, cur) => (.scalar s false, cur)
      | '\'' :: rest =>
          (quotedText fuel false [] 0 (cur.to rest)).map fun (s, cur) => (.scalar s false, cur)
      | cs =>
          if startsPlain true cs then
            let (text, rest) := plainLine true [] [] cs
            let (text, cur) := plainText fuel true 0 text (cur.to rest)
            some (.scalar (String.ofList text) true, cur)
          else none

def flowValue (fuel : Nat) (cur : Cursor) : Option (Yaml × Cursor) :=
  match fuel with
  | 0 => none
  | fuel + 1 => do
      let cur ← cur.skipFlow
      match cur.rest with
      | ':' :: rest =>
          let cur ← (cur.to rest).skipFlow
          match cur.rest with
          | ',' :: _ | ']' :: _ | '}' :: _ => some (nothing, cur)
          | _ => flowNode fuel cur
      | _ => some (nothing, cur)

def flowItems (fuel : Nat) (acc : List Yaml) (cur : Cursor) : Option (Yaml × Cursor) :=
  match fuel with
  | 0 => none
  | fuel + 1 => do
      let cur ← cur.skipFlow
      match cur.rest with
      | ']' :: rest => some (.sequence acc.reverse, cur.to rest)
      | _ =>
          let (item, cur) ← flowNode fuel cur
          let cur ← cur.skipFlow
          let (item, cur) ←
            match cur.rest with
            | ':' :: _ => (flowValue fuel cur).map fun (v, cur) => (.mapping [(item, v)], cur)
            | _ => some (item, cur)
          let cur ← cur.skipFlow
          match cur.rest with
          | ',' :: rest => flowItems fuel (item :: acc) (cur.to rest)
          | ']' :: rest => some (.sequence (item :: acc).reverse, cur.to rest)
          | _ => none

def flowEntries (fuel : Nat) (acc : List (Yaml × Yaml)) (cur : Cursor) : Option (Yaml × Cursor) :=
  match fuel with
  | 0 => none
  | fuel + 1 => do
      let cur ← cur.skipFlow
      match cur.rest with
      | '}' :: rest => some (.mapping acc.reverse, cur.to rest)
      | _ =>
          let (key, cur) ←
            match cur.rest with
            | ':' :: _ => some (nothing, cur)
            | _ => flowNode fuel cur
          let (value, cur) ← flowValue fuel cur
          let cur ← cur.skipFlow
          match cur.rest with
          | ',' :: rest => flowEntries fuel ((key, value) :: acc) (cur.to rest)
          | '}' :: rest => some (.mapping ((key, value) :: acc).reverse, cur.to rest)
          | _ => none

end

end ControlPlane.Yaml
