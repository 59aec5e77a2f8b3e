import DispatchAudit.Files.FilePath
import Mathlib.Data.List.Basic

/-!
# The order of paths

Parts are ordered first by their kind and then by their text, and paths by their parts, one after
another. So the order of paths is total and transitive, and paths that are equal in it have the
same parts.
-/

namespace DispatchAudit.Files

def Part.text : Part → String
  | name text => text
  | _ => ""

namespace Part

theorem order_eq : order = compareLex (compareOn rank) (compareOn text) := by
  funext left right
  cases left <;> cases right <;> rfl

theorem orderAll_eq : orderAll = List.compareLex order := by
  funext lefts rights
  fun_induction orderAll lefts rights with
  | case1 | case2 | case3 => rfl
  | case4 left lefts right rights ih => rw [List.compareLex_cons_cons, ih]

instance : Std.TransCmp order := order_eq ▸ inferInstance

instance : Std.TransCmp orderAll := orderAll_eq ▸ inferInstance

instance : Std.LawfulEqCmp order where
  eq_of_compare := by
    intro left right heq
    cases left <;> cases right <;> simp_all [order, rank]

instance : Std.LawfulEqCmp orderAll := orderAll_eq ▸ inferInstance

end Part

namespace FilePath

variable {left right : FilePath} {paths : List FilePath}

def Before (left right : FilePath) : Prop := Part.orderAll left.parts right.parts = .lt

theorem le_trans (first second third : FilePath) (hfirst : first.le second = true)
    (hsecond : second.le third = true) : first.le third = true :=
  Std.TransCmp.isLE_trans hfirst hsecond

theorem le_total (left right : FilePath) : (left.le right || right.le left) = true := by
  have hswap : Part.orderAll left.parts right.parts = (Part.orderAll right.parts left.parts).swap :=
    Std.OrientedCmp.eq_swap
  rw [le, le, hswap]
  cases Part.orderAll right.parts left.parts <;> rfl

theorem Before.ne (hbefore : Before left right) : left ≠ right := by
  rintro rfl
  have hself : Part.orderAll left.parts left.parts = .eq := Std.ReflCmp.compare_self
  rw [Before, hself] at hbefore
  cases hbefore

theorem before_of_le (hle : left.le right = true) (hne : left.parts ≠ right.parts) :
    Before left right := by
  rw [Before]
  rw [le] at hle
  cases horder : Part.orderAll left.parts right.parts with
  | lt => rfl
  | eq => exact absurd (Std.LawfulEqCmp.eq_of_compare horder) hne
  | gt => rw [horder] at hle; cases hle

theorem pairwise_mergeSort (paths : List FilePath) :
    (paths.mergeSort le).Pairwise fun left right => left.le right = true :=
  List.pairwise_mergeSort le_trans le_total paths

/-- Sorted paths that differ in their parts are strictly increasing if none stands twice. -/
theorem pairwise_before_iff (hsorted : paths.Pairwise fun left right => left.le right = true)
    (hparts : ∀ left ∈ paths, ∀ right ∈ paths, left.parts = right.parts → left = right) :
    paths.Pairwise Before ↔ paths.Nodup := by
  refine ⟨fun hbefore => hbefore.imp Before.ne, fun hnodup => ?_⟩
  refine (hsorted.and hnodup).imp_of_mem fun hleft hright ⟨hle, hne⟩ => ?_
  exact before_of_le hle fun hsame => hne (hparts _ hleft _ hright hsame)

end FilePath

end DispatchAudit.Files
