import DispatchAudit.Roster

/-!
# Verdicts

An audit compares the declared methods with the dispatched ones and, when an interface table is
given, the dispatched ones with the available ones. The first comparison that fails decides.
-/

namespace DispatchAudit.Audit

/-- How repeated names are compared between declarations and dispatch entries. -/
inductive DuplicateRule where
  /-- Both sides have as many names as they share, so a repeated name fails. -/
  | length
  /-- Each name occurs equally often on both sides. -/
  | multiset
deriving DecidableEq, Repr, Inhabited

def DuplicateRule.word : DuplicateRule → String
  | .length => "length"
  | .multiset => "multiset"

def DuplicateRule.words : List String := [length.word, multiset.word]

def DuplicateRule.ofWord? (word : String) : Option DuplicateRule :=
  if word = "length" then some .length
  else if word = "multiset" then some .multiset
  else none

theorem DuplicateRule.ofWord?_word (rule : DuplicateRule) : ofWord? rule.word = some rule := by
  cases rule <;> decide

/-- Whether the declared methods are all dispatched, and no others. -/
def DuplicateRule.accepts (rule : DuplicateRule) (declared dispatched : Roster) : Bool :=
  match rule with
  | .length =>
    declared.size == dispatched.size && (declared.shared dispatched).length == declared.size
  | .multiset => declared.counts == dispatched.counts

/-- How the declared and the dispatched methods differ. -/
structure DispatchMismatch where
  declaredCount : Nat
  dispatchedCount : Nat
  notDispatched : List String
  notDeclared : List String
  repeatedDeclarations : List Tally
  repeatedEntries : List Tally
deriving DecidableEq, Repr, Inhabited

/-- The differences between the declared and the dispatched methods. -/
def DispatchMismatch.between (declared dispatched : Roster) : DispatchMismatch where
  declaredCount := declared.size
  dispatchedCount := dispatched.size
  notDispatched := declared.missingFrom dispatched
  notDeclared := dispatched.missingFrom declared
  repeatedDeclarations := declared.repeated
  repeatedEntries := dispatched.repeated

/-- The dispatched methods that the interface table lacks. -/
structure AvailabilityMismatch where
  unavailable : List String
deriving DecidableEq, Repr, Inhabited

inductive Verdict where
  | valid
  | dispatchMismatch (mismatch : DispatchMismatch)
  | availabilityMismatch (mismatch : AvailabilityMismatch)
deriving DecidableEq, Repr, Inhabited

namespace Verdict

def isValid : Verdict → Bool
  | valid => true
  | _ => false

def word : Verdict → String
  | valid => "valid"
  | dispatchMismatch _ => "dispatch-mismatch"
  | availabilityMismatch _ => "availability-mismatch"

/-- The verdict on the dispatched methods once they agree with the declared ones. -/
def ofAvailability (dispatched : Roster) : Option Roster → Verdict
  | none => valid
  | some available =>
    let unavailable := dispatched.missingFrom available
    if unavailable.isEmpty then valid else availabilityMismatch ⟨unavailable⟩

/-- The verdict on declared, dispatched and, if a table was read, available methods. -/
def of (rule : DuplicateRule) (declared dispatched : Roster) (available : Option Roster) :
    Verdict :=
  if rule.accepts declared dispatched then ofAvailability dispatched available
  else dispatchMismatch (.between declared dispatched)

end Verdict

end DispatchAudit.Audit
