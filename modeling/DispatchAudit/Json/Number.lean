import DispatchAudit.Decimal.Shortest
import DispatchAudit.Json.Token

/-!
# Numbers in a JSON text

A number is read for its value only to say what stands where something else was expected. A whole
number of at most 64 bits stays exact. Any other number is a floating point number: its first
digits, as many as fit into 64 bits, times one power of ten. A number is skipped without its
value, so one that is out of range can be skipped.
-/

namespace DispatchAudit.Json

open Decimal

inductive Number where
  | natural (value : Nat)
  | negative (value : Nat)
  | floating (minus : Bool) (value : Binary64)
deriving DecidableEq, Repr, Inhabited

/-- What a message calls the number. -/
def Number.kind : Number → String
  | natural value => "integer " ++ ticked (toString value)
  | negative value => "integer " ++ ticked ("-" ++ toString value)
  | floating minus value => "floating point " ++ ticked (value.text minus)

def maxNatural : Nat := 18446744073709551615

def maxExponent : Nat := 2147483647

def digitValue (c : Char) : Nat := c.toNat - 48

/-- Digits as a number that continues the given one and stays within the limit, and the digits
that no longer fit. -/
def fitDigits (limit : Nat) (start : Nat) : List Char → Nat × List Char
  | [] => (start, [])
  | c :: rest =>
    if limit < start * 10 + digitValue c then (start, c :: rest)
    else fitDigits limit (start * 10 + digitValue c) rest

def leadingDigits (text : List Char) : List Char := text.takeWhile Char.isDigit

def afterDigits (text : List Char) : List Char := text.dropWhile Char.isDigit

/-- A number divided by ten as often as the exponent says. -/
def divideByTens (number : Binary64) (power : Nat) : Binary64 :=
  if power ≤ 308 then
    ((Binary64.powerOfTen? power).bind number.div?).getD .zero
  else if number.isZero then .zero
  else
    divideByTens (((Binary64.powerOfTen? 308).bind number.div?).getD .zero) (power - 308)
termination_by power

/-- The digits of a whole number times a power of ten, unless the product is too great. -/
def scale? (digits : Nat) (power : Int) : Option Binary64 :=
  match Binary64.ofRatio? ⟨digits, 1⟩ with
  | none => none
  | some number =>
    if power < 0 then some (divideByTens number power.natAbs)
    else if power ≤ 308 then (Binary64.powerOfTen? power.toNat).bind number.mul?
    else if number.isZero then some .zero
    else none

/-- A floating point number in front of the text after it. -/
def scaled (minus : Bool) (digits : Nat) (power : Int) (rest : List Char) : Reading Number :=
  match scale? digits power with
  | some number => .ok (.floating minus number, rest)
  | none => .error (.before .numberOutOfRange rest)

/-- A number with an exponent, whose letter is read already. -/
def readExponent (minus : Bool) (digits : Nat) (power : Int) (text : List Char) :
    Reading Number :=
  let (down, unsigned) :=
    match text with
    | '+' :: rest => (false, rest)
    | '-' :: rest => (true, rest)
    | _ => (false, text)
  match unsigned with
  | [] => .error (.before .endInValue [])
  | c :: rest =>
    if !c.isDigit then .error (.on .invalidNumber (c :: rest))
    else
      let after := afterDigits unsigned
      match fitDigits maxExponent 0 (leadingDigits unsigned) with
      | (exponent, []) =>
        scaled minus digits (if down then power - exponent else power + exponent) after
      | (_, _ :: excess) =>
        if digits != 0 && !down then .error (.before .numberOutOfRange (excess ++ after))
        else .ok (.floating minus .zero, after)

def readFraction (minus : Bool) (digits : Nat) (power : Int) (text : List Char) :
    Reading Number :=
  let fraction := leadingDigits text
  match afterDigits text, fraction with
  | [], [] => .error (.before .endInValue [])
  | c :: rest, [] => .error (.on .invalidNumber (c :: rest))
  | after, _ :: _ =>
    let (digits, excess) := fitDigits maxNatural digits fraction
    let power := power - (fraction.length - excess.length : Nat)
    match after with
    | 'e' :: rest => readExponent minus digits power rest
    | 'E' :: rest => readExponent minus digits power rest
    | _ => scaled minus digits power after

/-- A whole number, unless it is negative and has no exact value. -/
def wholeNumber (minus : Bool) (digits : Nat) : Number :=
  if !minus then .natural digits
  else if digits != 0 && digits ≤ 9223372036854775808 then .negative digits
  else .floating true ((Binary64.ofRatio? ⟨digits, 1⟩).getD .zero)

/-- The number in front of a text, whose sign is read already. -/
def readNumber (minus : Bool) (text : List Char) : Reading Number :=
  match text with
  | [] => .error (.before .endInValue [])
  | c :: rest =>
    if !c.isDigit then .error (.on .invalidNumber text)
    else if c = '0' && rest.head?.any Char.isDigit then .error (.on .invalidNumber rest)
    else
      let (digits, excess) := fitDigits maxNatural 0 (leadingDigits text)
      match afterDigits text with
      | '.' :: more => readFraction minus digits excess.length more
      | 'e' :: more => readExponent minus digits excess.length more
      | 'E' :: more => readExponent minus digits excess.length more
      | after =>
        if excess.isEmpty then .ok (wholeNumber minus digits, after)
        else scaled minus digits excess.length after

def skipExponent (text : List Char) : Except Stop (List Char) :=
  let unsigned :=
    match text with
    | '+' :: rest => rest
    | '-' :: rest => rest
    | _ => text
  match unsigned with
  | [] => .error (.before .invalidNumber [])
  | c :: rest => if c.isDigit then .ok (afterDigits rest) else .error (.on .invalidNumber unsigned)

/-- The text after the part of a number that follows its whole digits. -/
def skipExponentPart : List Char → Except Stop (List Char)
  | 'e' :: rest => skipExponent rest
  | 'E' :: rest => skipExponent rest
  | text => .ok text

def skipNumber (text : List Char) : Except Stop (List Char) :=
  match text with
  | [] => .error (.before .invalidNumber [])
  | c :: rest =>
    if !c.isDigit then .error (.on .invalidNumber text)
    else if c = '0' && rest.head?.any Char.isDigit then .error (.on .invalidNumber rest)
    else
      match afterDigits rest with
      | '.' :: fraction =>
        if (leadingDigits fraction).isEmpty then .error (.on .invalidNumber fraction)
        else skipExponentPart (afterDigits fraction)
      | after => skipExponentPart after

theorem length_afterDigits_le (text : List Char) : (afterDigits text).length ≤ text.length :=
  (List.dropWhile_sublist _).length_le

theorem length_of_skipExponent {text rest : List Char} (h : skipExponent text = .ok rest) :
    rest.length ≤ text.length := by
  unfold skipExponent at h
  simp only at h
  have hunsigned : ∀ {unsigned : List Char}, unsigned.length ≤ text.length →
      (match unsigned with
        | [] => Except.error (Stop.before .invalidNumber [])
        | c :: more =>
          if c.isDigit = true then Except.ok (afterDigits more)
          else Except.error (Stop.on .invalidNumber unsigned)) = .ok rest →
      rest.length ≤ text.length := by
    intro unsigned hle hmatch
    split at hmatch
    · cases hmatch
    · rename_i c more
      split at hmatch
      · cases hmatch
        have := length_afterDigits_le more
        simp only [List.length_cons] at hle
        omega
      · cases hmatch
  refine hunsigned ?_ h
  split <;> simp

theorem length_of_skipExponentPart {text rest : List Char}
    (h : skipExponentPart text = .ok rest) : rest.length ≤ text.length := by
  unfold skipExponentPart at h
  split at h
  · exact Nat.le_succ_of_le (length_of_skipExponent h)
  · exact Nat.le_succ_of_le (length_of_skipExponent h)
  · cases h
    exact Nat.le_refl _

theorem length_of_skipNumber {text rest : List Char} (h : skipNumber text = .ok rest) :
    rest.length < text.length := by
  unfold skipNumber at h
  split at h
  · cases h
  · rename_i c tail
    have hle := length_afterDigits_le tail
    simp only [List.length_cons]
    split at h
    · cases h
    · split at h
      · cases h
      · split at h
        · rename_i fraction hafter
          rw [hafter] at hle
          simp only [List.length_cons] at hle
          split at h
          · cases h
          · have := length_of_skipExponentPart h
            have := length_afterDigits_le fraction
            omega
        · have := length_of_skipExponentPart h
          omega

end DispatchAudit.Json
