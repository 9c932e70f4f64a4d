import ControlPlane.Basic

namespace ControlPlane.Text

def isUnreserved (c : Char) : Bool :=
  isAlnum c || c == '-' || c == '_' || c == '.' || c == '~'

def escapeByte (b : UInt8) : List Char := ['%', hexDigit (b.toNat / 16), hexDigit (b.toNat % 16)]

def escapeChar (c : Char) : List Char := (String.utf8EncodeChar c).flatMap escapeByte

def percentEncodeWith (keep : Char → Bool) (cs : List Char) : List Char :=
  cs.flatMap fun c => if keep c then [c] else escapeChar c

def percentEncode (s : String) : String := String.ofList (percentEncodeWith isUnreserved s.toList)

-- The bytes that escaped text stands for; a percent sign without two digits stands for itself.
def unescape : List Char → List UInt8
  | [] => []
  | '%' :: a :: b :: rest =>
      match hexValue? a, hexValue? b with
      | some a, some b => UInt8.ofNat (a * 16 + b) :: unescape rest
      | _, _ => String.utf8EncodeChar '%' ++ unescape (a :: b :: rest)
  | c :: rest => String.utf8EncodeChar c ++ unescape rest

def percentDecode (s : String) : Option String :=
  String.fromUTF8? (ByteArray.mk (unescape s.toList).toArray)

def isFormSafe (c : Char) : Bool :=
  isAlnum c || c == '*' || c == '-' || c == '.' || c == '_'

def formChar (c : Char) : List Char :=
  if c = ' ' then ['+'] else if isFormSafe c then [c] else escapeChar c

def formEncode (s : String) : List Char := s.toList.flatMap formChar

def formPair (pair : String × String) : List Char := formEncode pair.1 ++ '=' :: formEncode pair.2

def formPairs (pairs : List (String × String)) : List Char :=
  ['&'].intercalate (pairs.map formPair)

def base64Digit (n : Nat) : Char :=
  if n < 26 then Char.ofNat ('A'.toNat + n)
  else if n < 52 then Char.ofNat ('a'.toNat + (n - 26))
  else if n < 62 then Char.ofNat ('0'.toNat + (n - 52))
  else if n = 62 then '+'
  else '/'

def base64Group (n : Nat) : List Char :=
  [n / power 2 18, n / power 2 12 % 64, n / power 2 6 % 64, n % 64].map base64Digit

def base64 : List UInt8 → List Char
  | a :: b :: c :: rest =>
      base64Group (a.toNat * power 2 16 + b.toNat * power 2 8 + c.toNat) ++ base64 rest
  | [a, b] => (base64Group (a.toNat * power 2 16 + b.toNat * power 2 8)).take 3 ++ ['=']
  | [a] => (base64Group (a.toNat * power 2 16)).take 2 ++ ['=', '=']
  | [] => []

end ControlPlane.Text
