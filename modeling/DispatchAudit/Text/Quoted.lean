import DispatchAudit.Text.UnprintedTable

/-!
# Quoted text

A path in a message stands between double quotes. Inside, quotes and backslashes are escaped,
four control characters have a short escape, and every other character that would not show is
written as its code point in braces.
-/

namespace DispatchAudit.Text

/-- Whether a message shows the character as it is. -/
def isPrinted (c : Char) : Bool :=
  if c.toNat < 0x80 then Nat.ble 0x20 c.toNat && c.toNat != 0x7F else !inTable unprintedTable c

/-- The lower-case hexadecimal digits of a number, without leading zeros. -/
def hexDigits (n : Nat) : List Char := Nat.toDigits 16 n

def quotedChar (c : Char) : List Char :=
  if c = '\x00' then ['\\', '0']
  else if c = '\t' then ['\\', 't']
  else if c = '\r' then ['\\', 'r']
  else if c = '\n' then ['\\', 'n']
  else if c = '"' || c = '\\' then ['\\', c]
  else if isPrinted c then [c]
  else ['\\', 'u', '\x7b'] ++ hexDigits c.toNat ++ ['\x7d']

/-- The text between double quotes, with every character in its written form. -/
def quoted (text : String) : String :=
  String.ofList ('"' :: text.toList.flatMap quotedChar ++ ['"'])

end DispatchAudit.Text
