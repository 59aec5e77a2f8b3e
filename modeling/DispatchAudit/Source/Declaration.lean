import DispatchAudit.Roster
import DispatchAudit.Text.Blank
import DispatchAudit.Text.Line
import DispatchAudit.Text.Word

/-!
# Declarations

An implementation source declares a method on a line that holds, from its start and apart from
blanks, a return type, a calling convention and the method's name. Both tokens are literal text,
may be empty and may themselves contain blanks, so a token is looked for at every place that
only blanks precede, and the first such place is taken. A later place is never needed: two
places at which a token occurs are then apart by blanks only, and the blanks skipped in front of
one are blanks skipped behind the other.
-/

namespace DispatchAudit.Source

open Text

/-- The largest weight of a declaration rule, in bytes. -/
def weightLimit : Nat := 10485760

/-- The weight of a declaration rule, as 32 for each byte of its tokens. This is an estimate: the
blanks between the tokens and the word behind them weigh something too, which is left out, so a
rule just below the limit passes here although a compiled one may already be too large. -/
def tokenWeight (returnType callingConvention : String) : Nat :=
  32 * (returnType.utf8ByteSize + callingConvention.utf8ByteSize)

/-- The two tokens in front of a declared name, of a weight within the limit. -/
structure DeclarationRule where
  returnType : String
  callingConvention : String
  weight_le : tokenWeight returnType callingConvention ≤ weightLimit

def DeclarationRule.ofTokens? (returnType callingConvention : String) : Option DeclarationRule :=
  if h : tokenWeight returnType callingConvention ≤ weightLimit then
    some ⟨returnType, callingConvention, h⟩
  else none

/-- The text after the first occurrence of the token that only blanks precede. -/
def afterToken? (token : List Char) : List Char → Option (List Char)
  | [] => token.isPrefixOf? []
  | c :: rest =>
    match token.isPrefixOf? (c :: rest) with
    | some after => some after
    | none => if isBlank c then afterToken? token rest else none

def afterBlank? : List Char → Option (List Char)
  | [] => none
  | c :: rest => if isBlank c then some rest else none

/-- The word that the text begins with, if there is one. -/
def name? (text : List Char) : Option String :=
  if (leadingWord text).isEmpty then none else some (String.ofList (leadingWord text))

def DeclarationRule.nameIn? (rule : DeclarationRule) (line : List Char) : Option String := do
  let afterType ← afterToken? rule.returnType.toList line
  let spaced ← afterBlank? afterType
  let afterConvention ← afterToken? rule.callingConvention.toList spaced
  let spacedAgain ← afterBlank? afterConvention
  name? (dropBlanks spacedAgain)

def DeclarationRule.declared (rule : DeclarationRule) (source : String) : Roster :=
  .ofList ((lines source.toList).filterMap rule.nameIn?)

theorem DeclarationRule.ofTokens?_eq_some {returnType callingConvention : String}
    {rule : DeclarationRule} (h : ofTokens? returnType callingConvention = some rule) :
    rule.returnType = returnType ∧ rule.callingConvention = callingConvention := by
  unfold ofTokens? at h
  split at h
  · cases h
    exact ⟨rfl, rfl⟩
  · cases h

theorem afterBlank?_eq_some_iff {text rest : List Char} :
    afterBlank? text = some rest ↔ ∃ c, isBlank c = true ∧ text = c :: rest := by
  cases text with
  | nil => simp [afterBlank?]
  | cons c tail =>
    constructor
    · intro h
      by_cases hc : isBlank c = true
      · simp only [afterBlank?, hc, if_true, Option.some.injEq] at h
        exact ⟨c, hc, by rw [h]⟩
      · simp [afterBlank?, hc] at h
    · intro ⟨d, hd, heq⟩
      cases heq
      simp [afterBlank?, hd]

end DispatchAudit.Source
