import ControlPlane.Config.Yaml.Basic

namespace ControlPlane.Yaml

def isFlowMark (c : Char) : Bool := c == ',' || c == '[' || c == ']' || c == '{' || c == '}'

def isIndicator (c : Char) : Bool := "-?:,[]\x7b\x7d#&*!|>'\"%@`".toList.contains c

def startsPlain (flow : Bool) : List Char → Bool
  | [] => false
  | c :: rest =>
      !isSpace c && c != '\n' &&
        (!isIndicator c ||
          (c == '-' && !(rest.head?.any isSpace)) ||
          (!flow && (c == '?' || c == ':') && !endsWord rest))

def plainLine (flow : Bool) (acc blanks : List Char) : List Char → List Char × List Char
  | [] => (acc.reverse, [])
  | c :: rest =>
      if c == '\n' then (acc.reverse, c :: rest)
      else if isSpace c then plainLine flow acc (c :: blanks) rest
      else if (c == ':' && endsWord rest) || (flow && isFlowMark c) || (c == '#' && !blanks.isEmpty) then
        (acc.reverse, c :: rest)
      else plainLine flow (c :: (blanks ++ acc)) [] rest

def plainText (fuel : Nat) (flow : Bool) (indent : Nat) (text : List Char) (cur : Cursor) :
    List Char × Cursor :=
  match fuel, cur.rest with
  | fuel + 1, '\n' :: rest =>
      let (breaks, column, next) := skipBreaks 1 0 rest
      let ended := next.isEmpty || isMarker column next || next.head? == some '#'
      if ended || (!flow && column < indent) then (text, cur)
      else
        match plainLine flow [] [] next with
        | ([], _) => (text, cur)
        | (more, after) =>
            let cur : Cursor := ⟨column + (next.length - after.length), false, after⟩
            plainText fuel flow indent (text ++ foldBreaks breaks ++ more) cur
  | _, _ => (text, cur)

end ControlPlane.Yaml
