/-!
# Where reading stops

A reader works on the characters that are still unread. When it cannot go on it says why, hands
back what is unread and says how many bytes beyond that it has looked at. The line and the
column of the stop follow from those two and the whole text, so that no reader has to count.
-/

namespace DispatchAudit.Json

/-- Why a text cannot be read. -/
inductive Cause where
  | endInValue
  | endInList
  | endInString
  | endInObject
  | expectedValue
  | expectedColon
  | expectedListEnd
  | expectedObjectEnd
  | expectedWord
  | invalidEscape
  | invalidNumber
  | numberOutOfRange
  | keyNotString
  | loneSurrogate
  | halfSurrogatePair
  | trailingComma
  | trailingCharacters
  | controlCharacter
  | duplicateKey (key : String)
  | unknownVariant (word : String) (known : List String)
  | wrongKind (found expected : String)
deriving DecidableEq, Repr, Inhabited

def ticked (word : String) : String := "`" ++ word ++ "`"

def Cause.message : Cause → String
  | endInValue => "EOF while parsing a value"
  | endInList => "EOF while parsing a list"
  | endInString => "EOF while parsing a string"
  | endInObject => "EOF while parsing an object"
  | expectedValue => "expected value"
  | expectedColon => "expected `:`"
  | expectedListEnd => "expected `,` or `]`"
  | expectedObjectEnd => "expected `,` or `\x7d`"
  | expectedWord => "expected ident"
  | invalidEscape => "invalid escape"
  | invalidNumber => "invalid number"
  | numberOutOfRange => "number out of range"
  | keyNotString => "key must be a string"
  | loneSurrogate => "lone leading surrogate in hex escape"
  | halfSurrogatePair => "unexpected end of hex escape"
  | trailingComma => "trailing comma"
  | trailingCharacters => "trailing characters"
  | controlCharacter => "control character (\\u0000-\\u001F) found while parsing a string"
  | duplicateKey key => "duplicate field " ++ ticked key
  | unknownVariant word known =>
    "unknown variant " ++ ticked word ++ ", expected " ++
      String.intercalate " or " (known.map ticked)
  | wrongKind found expected => "invalid type: " ++ found ++ ", expected " ++ expected

/-- Why reading stopped, what was unread then, and how many bytes of it were looked at. -/
structure Stop where
  cause : Cause
  unread : List Char
  ahead : Nat
deriving DecidableEq, Repr, Inhabited

def Stop.before (cause : Cause) (unread : List Char) : Stop := ⟨cause, unread, 0⟩

/-- A stop at the first byte of the unread text. -/
def Stop.on (cause : Cause) (unread : List Char) : Stop := ⟨cause, unread, 1⟩

/-- What a reader gets from a text: a value and the unread rest. -/
abbrev Reading (α : Type) := Except Stop (α × List Char)

def byteCount (text : List Char) : Nat := text.foldl (fun count c => count + c.utf8Size) 0

/-- A line, counted from one, and the number of bytes before a place in it. -/
structure Position where
  line : Nat
  column : Nat
deriving DecidableEq, Repr, Inhabited

/-- The position that many bytes after the given one. -/
def Position.advance (position : Position) (bytes : Nat) : List Char → Position
  | [] => position
  | c :: rest =>
    if bytes < c.utf8Size then { position with column := position.column + bytes }
    else if c = '\n' then advance ⟨position.line + 1, 0⟩ (bytes - 1) rest
    else advance ⟨position.line, position.column + c.utf8Size⟩ (bytes - c.utf8Size) rest

def Stop.position (stop : Stop) (text : List Char) : Position :=
  Position.advance ⟨1, 0⟩ (byteCount text - byteCount stop.unread + stop.ahead) text

structure Fault where
  cause : Cause
  position : Position
deriving DecidableEq, Repr, Inhabited

def Fault.message (fault : Fault) : String :=
  fault.cause.message ++ " at line " ++ toString fault.position.line ++ " column " ++
    toString fault.position.column

def Stop.fault (stop : Stop) (text : List Char) : Fault := ⟨stop.cause, stop.position text⟩

end DispatchAudit.Json
