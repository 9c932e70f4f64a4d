namespace ControlPlane.Text

def isPrintable (c : Char) : Bool := 0x20 ≤ c.toNat && c.toNat ≤ 0x7E

def byteCount (cs : List Char) : Nat := cs.foldr (fun c n => c.utf8Size + n) 0

def takeBytes : Nat → List Char → List Char
  | _, [] => []
  | limit, c :: rest =>
      if c.utf8Size ≤ limit then c :: takeBytes (limit - c.utf8Size) rest else []

def logLimit : Nat := 200

def sanitizeForLog (body : String) : String :=
  let cs := body.toList
  let shown :=
    if logLimit < byteCount cs then
      takeBytes logLimit cs ++ s!"... [truncated, {byteCount cs} bytes total]".toList
    else cs
  String.ofList (shown.filter isPrintable)

def messageLimit : Nat := 160

def sanitizeMessage (message : String) : String :=
  let cs := message.toList
  let shown := (cs.filter isPrintable).take messageLimit
  if shown.length < byteCount cs then String.ofList (shown ++ ['.', '.', '.'])
  else String.ofList shown

end ControlPlane.Text
