import ControlPlane.Data.Dict
import ControlPlane.Basic

namespace ControlPlane.Http

abbrev Headers := List (String × String)

def isTokenChar (c : Char) : Bool := Text.isAlnum c || "!#$%&'*+-.^_`|~".toList.contains c

def isFieldName (name : String) : Bool := !name.isEmpty && name.toList.all isTokenChar

def isFieldValue (value : String) : Bool :=
  value.toList.all fun c => c == '\t' || (0x20 ≤ c.toNat && c.toNat != 0x7F)

def isSendable (headers : Headers) : Bool :=
  headers.all fun h => isFieldName h.1 && isFieldValue h.2

def trimValue (value : String) : String := String.ofList (Text.trim value.toList)

def received (headers : Headers) : Headers :=
  headers.map fun h => (Text.asciiLower h.1, trimValue h.2)

def isPlainValue (value : String) : Bool :=
  value.toList.all fun c => c == '\t' || (0x20 ≤ c.toNat && c.toNat ≤ 0x7E)

def readable (headers : Headers) : Dict String :=
  .ofList (received (headers.filter fun h => isPlainValue h.2))

end ControlPlane.Http
