/-!
# Text without terminal sequences

A terminal reads some characters as commands: an escape character begins a sequence, and what
belongs to the sequence does not show. A text without its sequences is what would show, with the
layout of its lines. A sequence that is never closed takes the rest of the text with it, and a
line feed inside a short sequence breaks it off.
-/

namespace DispatchAudit.Text

/-- Where a terminal is while it reads a text. -/
inductive TerminalMode where
  /-- Outside of any sequence. -/
  | plain
  /-- After an escape character. -/
  | escape
  /-- In a sequence that names a character set or the like. -/
  | designation
  /-- In a control sequence, before its last letter. -/
  | control
  /-- In a device control string, before the letter that its parameters end with. -/
  | header
  /-- In a system command, which a bell ends. -/
  | command
  /-- In a string for the terminal. -/
  | message
deriving DecidableEq, Repr, Inhabited

/-- Whether the character lays out lines: a tab, a line feed, a form feed or a return. -/
def isLayout (c : Char) : Bool := c == '\t' || c == '\n' || c == '\x0c' || c == '\r'

def isWithin (first last : Nat) (c : Char) : Bool := Nat.ble first c.toNat && Nat.ble c.toNat last

/-- Whether a byte of the character is the one that ends a string for the terminal. -/
def endsMessage (c : Char) : Bool := Nat.ble 0x80 c.toNat && (String.utf8EncodeChar c).contains 0x9C

namespace TerminalMode

def shows (mode : TerminalMode) (c : Char) : Bool :=
  match mode with
  | plain => isLayout c || (Nat.ble 0x20 c.toNat && c.toNat != 0x7F)
  | escape | designation | control => isLayout c
  | header | command | message => false

/-- The mode after the first character behind an escape character. -/
def afterEscape (c : Char) : TerminalMode :=
  if c == '[' then control
  else if c == ']' then command
  else if c == 'P' then header
  else if c == 'X' || c == '^' || c == '_' then message
  else if isWithin 0x20 0x2F c then designation
  else if isLayout c || isWithin 0x30 0x7E c then plain
  else escape

def after (mode : TerminalMode) (c : Char) : TerminalMode :=
  if c == '\x1b' then escape
  else if c == '\x18' || c == '\x1a' then plain
  else match mode with
    | plain => plain
    | escape => afterEscape c
    | designation => if isLayout c || isWithin 0x30 0x7E c then plain else designation
    | control => if isLayout c || isWithin 0x40 0x7E c then plain else control
    | header => if isWithin 0x40 0x7E c then message else header
    | command => if c == '\x07' then plain else command
    | message => if endsMessage c then plain else message

/-- What shows of a text that is read in the given mode. -/
def shown (mode : TerminalMode) : List Char → List Char
  | [] => []
  | c :: rest => (if mode.shows c then [c] else []) ++ (mode.after c).shown rest

end TerminalMode

def withoutSequences (text : String) : String :=
  String.ofList (TerminalMode.plain.shown text.toList)

end DispatchAudit.Text
