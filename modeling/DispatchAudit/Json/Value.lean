/-!
# JSON values and their texts

The values that reports are made of, with two texts: a compact one without blanks and a pretty
one with one item a line. In a string, quotes, backslashes and control characters are escaped
and everything else stands for itself, so the text of a string determines the string.
-/

namespace DispatchAudit.Json

/-- A JSON value. Members of an object keep their order. -/
inductive Value where
  | null
  | number (value : Nat)
  | string (value : String)
  | array (items : List Value)
  | object (members : List (String × Value))
deriving Repr, Inhabited

/-- The two hexadecimal digits of a number below 256. -/
def hexPair (n : Nat) : List Char := [Nat.digitChar (n / 16), Nat.digitChar (n % 16)]

def escapedChar (c : Char) : List Char :=
  if c = '"' then ['\\', '"']
  else if c = '\\' then ['\\', '\\']
  else if c = '\x08' then ['\\', 'b']
  else if c = '\t' then ['\\', 't']
  else if c = '\n' then ['\\', 'n']
  else if c = '\x0c' then ['\\', 'f']
  else if c = '\r' then ['\\', 'r']
  else if c.toNat < 0x20 then ['\\', 'u', '0', '0'] ++ hexPair c.toNat
  else [c]

def stringText (text : String) : List Char := '"' :: text.toList.flatMap escapedChar ++ ['"']

namespace Value

/-- An object whose members may be missing. -/
def ofMembers (members : List (String × Option Value)) : Value :=
  object (members.filterMap fun member => member.2.map fun value => (member.1, value))

def strings (texts : List String) : Value := array (texts.map string)

mutual

def compact : Value → List Char
  | null => ['n', 'u', 'l', 'l']
  | number value => (toString value).toList
  | string text => stringText text
  | array items => '[' :: compactItems items ++ [']']
  | object members => '\x7b' :: compactMembers members ++ ['\x7d']

def compactItems : List Value → List Char
  | [] => []
  | [item] => item.compact
  | item :: rest => item.compact ++ ',' :: compactItems rest

def compactMembers : List (String × Value) → List Char
  | [] => []
  | [(key, value)] => stringText key ++ ':' :: value.compact
  | (key, value) :: rest => stringText key ++ ':' :: value.compact ++ ',' :: compactMembers rest

end

/-- A new line at the given depth, which is indented by two spaces a level. -/
def newLine (depth : Nat) : List Char := '\n' :: List.replicate (2 * depth) ' '

mutual

/-- The text of a value at the given depth, with one item a line. -/
def prettyAt (depth : Nat) : Value → List Char
  | null => ['n', 'u', 'l', 'l']
  | number value => (toString value).toList
  | string text => stringText text
  | array [] => ['[', ']']
  | array (item :: rest) =>
    '[' :: prettyItems (depth + 1) (item :: rest) ++ newLine depth ++ [']']
  | object [] => ['\x7b', '\x7d']
  | object (member :: rest) =>
    '\x7b' :: prettyMembers (depth + 1) (member :: rest) ++ newLine depth ++ ['\x7d']

def prettyItems (depth : Nat) : List Value → List Char
  | [] => []
  | [item] => newLine depth ++ item.prettyAt depth
  | item :: rest => newLine depth ++ item.prettyAt depth ++ ',' :: prettyItems depth rest

def prettyMembers (depth : Nat) : List (String × Value) → List Char
  | [] => []
  | [(key, value)] => newLine depth ++ stringText key ++ ':' :: ' ' :: value.prettyAt depth
  | (key, value) :: rest =>
    newLine depth ++ stringText key ++ ':' :: ' ' :: value.prettyAt depth ++
      ',' :: prettyMembers depth rest

end

def pretty (value : Value) : String := String.ofList (value.prettyAt 0)

end Value

end DispatchAudit.Json
