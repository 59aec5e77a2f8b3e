/-!
# Decimal digits

The decimal digits of a number, read again, are the number, and they are digits and nothing else.
-/

namespace DispatchAudit

theorem toList_toString (n : Nat) : (toString n).toList = Nat.toDigits 10 n := by
  simp [toString, Nat.repr]

theorem ofDigitChars_toString (n : Nat) : Nat.ofDigitChars 10 (toString n).toList 0 = n := by
  rw [toList_toString, Nat.ofDigitChars_toDigits (by decide) (by decide)]

theorem toList_toString_inj {m n : Nat} (heq : (toString m).toList = (toString n).toList) :
    m = n := by
  rw [← ofDigitChars_toString m, heq, ofDigitChars_toString]

theorem toList_toString_ne_nil (n : Nat) : (toString n).toList ≠ [] := by
  rw [toList_toString]
  exact Nat.toDigits_ne_nil

theorem isDigit_of_mem_toString {n : Nat} {c : Char} (hmem : c ∈ (toString n).toList) :
    c.isDigit = true := by
  rw [toList_toString] at hmem
  exact Nat.isDigit_of_mem_toDigits (by decide) (by decide) hmem

theorem not_mem_toString {n : Nat} {c : Char} (hc : c.isDigit = false) :
    c ∉ (toString n).toList := by
  intro hmem
  rw [isDigit_of_mem_toString hmem] at hc
  cases hc

end DispatchAudit
