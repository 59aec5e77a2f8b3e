import DispatchAudit.Proofs.Roster.Counting
import Mathlib.Data.List.Induction

/-!
# Views made in one pass

The distinct names and the tallies of a roster can be made in one pass over its names, with what was
seen so far in hand: a name is kept unless it was seen, and a name raises its tally. So one more
name changes a view at one place, and of two rosters one after another the second is a pass that
begins with what the first leaves in hand. What that does is said for anything in hand, since the
induction over the names needs it.
-/

namespace DispatchAudit

/-- How often the name occurs according to the tallies. -/
def tallied : List Tally → String → Nat
  | [], _ => 0
  | tally :: rest, name => if tally.name = name then tally.count else tallied rest name

namespace Roster

/-- The names seen so far after one more, which is kept unless it was seen. -/
def see (seen : List String) (name : String) : List String :=
  if seen.contains name then seen else seen ++ [name]

def raise : List Tally → String → List Tally
  | [], name => [⟨name, 1⟩]
  | tally :: rest, name =>
    if tally.name = name then ⟨name, tally.count + 1⟩ :: rest else tally :: raise rest name

variable {name : String} {names seen : List String} {tallies : List Tally}

/-- Every roster is made by pushing its names onto the empty one. -/
theorem push_induction {motive : Roster → Prop} (empty : motive .empty)
    (push : ∀ roster name, motive roster → motive (roster.push name)) (roster : Roster) :
    motive roster := by
  obtain ⟨names⟩ := roster
  induction names using List.reverseRecOn with
  | nil => exact empty
  | append_singleton before name ih => exact push ⟨before⟩ name ih

/-! ### Keeping what was not seen -/

theorem see_of_mem (hold : name ∈ seen) : see seen name = seen :=
  if_pos (List.contains_iff_mem.mpr hold)

theorem see_of_not_mem (hnew : name ∉ seen) : see seen name = seen ++ [name] :=
  if_neg fun hold => hnew (List.contains_iff_mem.mp hold)

theorem distinct_push (roster : Roster) (name : String) :
    (roster.push name).distinct = see roster.distinct name := by
  rw [distinct, names_push, List.eraseDups_append]
  by_cases hold : name ∈ roster.names
  · have hnone : [name].removeAll roster.names = [] := by simp [List.removeAll, hold]
    rw [see_of_mem (mem_distinct.mpr hold), hnone, List.eraseDups_nil, List.append_nil]
    rfl
  · have hnew : [name].removeAll roster.names = [name] := by simp [List.removeAll, hold]
    rw [see_of_not_mem fun hseen => hold (mem_distinct.mp hseen), hnew]
    rfl

theorem distinct_eq_foldl (roster : Roster) : roster.distinct = roster.names.foldl see [] := by
  induction roster using push_induction with
  | empty => rfl
  | push roster name ih => rw [distinct_push, ih, names_push, List.foldl_concat]

/-- A pass that begins with names in hand keeps those of a pass that begins with none, but for the
names in hand. -/
theorem foldl_see (names seen : List String) :
    names.foldl see seen =
      seen ++ (names.foldl see []).filter fun name => !seen.contains name := by
  induction names using List.reverseRecOn with
  | nil => rw [List.foldl_nil, List.foldl_nil, List.filter_nil, List.append_nil]
  | append_singleton before name ih =>
      rw [List.foldl_concat, List.foldl_concat, ih]
      by_cases hseen : name ∈ seen
      · rw [see_of_mem (List.mem_append_left _ hseen)]
        by_cases hold : name ∈ before.foldl see []
        · rw [see_of_mem hold]
        · rw [see_of_not_mem hold]
          simp [hseen]
      · by_cases hold : name ∈ before.foldl see []
        · rw [see_of_mem hold, see_of_mem]
          simp [hold, hseen]
        · rw [see_of_not_mem hold, see_of_not_mem]
          · simp [hseen]
          · simp [hold, hseen]

theorem distinct_append (first second : Roster) :
    (first ++ second).distinct = first.distinct ++ second.missingFrom first := by
  have hseen : ∀ name, first.distinct.contains name = first.names.contains name := by
    intro name
    rw [Bool.eq_iff_iff, List.contains_iff_mem, List.contains_iff_mem, mem_distinct]
  rw [distinct_eq_foldl, names_append, List.foldl_append, ← distinct_eq_foldl, foldl_see,
    ← distinct_eq_foldl]
  simp only [hseen, missingFrom]

/-! ### Raising tallies -/

theorem tallied_of_not_mem (hnew : name ∉ tallies.map Tally.name) : tallied tallies name = 0 := by
  induction tallies with
  | nil => rfl
  | cons tally rest ih =>
      rw [List.map_cons, List.mem_cons, not_or] at hnew
      rw [tallied, if_neg (Ne.symm hnew.1), ih hnew.2]

theorem tallied_of_mem (hnodup : (tallies.map Tally.name).Nodup) {tally : Tally}
    (hmem : tally ∈ tallies) : tallied tallies tally.name = tally.count := by
  induction tallies with
  | nil => cases hmem
  | cons first rest ih =>
      obtain ⟨hnew, hnodup⟩ := List.nodup_cons.mp hnodup
      rw [tallied]
      rcases List.mem_cons.mp hmem with rfl | hmem
      · rw [if_pos rfl]
      · have hother : first.name ≠ tally.name := fun hsame =>
          hnew (hsame ▸ List.mem_map_of_mem hmem)
        rw [if_neg hother, ih hnodup hmem]

theorem eq_map_tallied (hnodup : (tallies.map Tally.name).Nodup) :
    tallies = (tallies.map Tally.name).map fun name => ⟨name, tallied tallies name⟩ := by
  have hself : ∀ tally ∈ tallies, (⟨tally.name, tallied tallies tally.name⟩ : Tally) = tally := by
    intro tally htally
    rw [tallied_of_mem hnodup htally]
  rw [List.map_map]
  exact ((List.map_congr_left hself).trans (List.map_id tallies)).symm

theorem map_name_raise (tallies : List Tally) (name : String) :
    (raise tallies name).map Tally.name = see (tallies.map Tally.name) name := by
  induction tallies with
  | nil => rfl
  | cons tally rest ih =>
      rw [raise, List.map_cons]
      split
      · next hname => rw [see_of_mem (hname ▸ List.mem_cons_self), List.map_cons, hname]
      · next hname =>
          rw [List.map_cons, ih]
          by_cases hold : name ∈ rest.map Tally.name
          · rw [see_of_mem hold, see_of_mem (List.mem_cons_of_mem _ hold)]
          · rw [see_of_not_mem hold, see_of_not_mem, List.cons_append]
            exact List.not_mem_cons_of_ne_of_not_mem (Ne.symm hname) hold

theorem tallied_raise (tallies : List Tally) (name other : String) :
    tallied (raise tallies name) other =
      tallied tallies other + if name = other then 1 else 0 := by
  induction tallies with
  | nil => simp [raise, tallied]
  | cons tally rest ih =>
      rw [raise, tallied]
      split
      · next hname =>
          rw [tallied, hname]
          split <;> rfl
      · next hname =>
          rw [tallied, ih]
          split
          · next hother => rw [if_neg (hother ▸ Ne.symm hname), Nat.add_zero]
          · rfl

theorem map_name_foldl_raise (names : List String) (tallies : List Tally) :
    (names.foldl raise tallies).map Tally.name = names.foldl see (tallies.map Tally.name) := by
  induction names generalizing tallies with
  | nil => rfl
  | cons name rest ih => rw [List.foldl_cons, List.foldl_cons, ih, map_name_raise]

/-- A pass adds its own occurrences to those that it begins with. -/
theorem tallied_foldl_raise (names : List String) (tallies : List Tally) (name : String) :
    tallied (names.foldl raise tallies) name = tallied tallies name + names.count name := by
  induction names generalizing tallies with
  | nil => rfl
  | cons first rest ih =>
      have hcount : (first :: rest).count name =
          rest.count name + if first = name then 1 else 0 := by simp [List.count_cons]
      rw [List.foldl_cons, ih, tallied_raise, hcount]
      omega

theorem tallies_eq_foldl (roster : Roster) : roster.tallies = roster.names.foldl raise [] := by
  have hnames : (roster.names.foldl raise []).map Tally.name = roster.distinct :=
    (map_name_foldl_raise roster.names []).trans roster.distinct_eq_foldl.symm
  have hcount : ∀ name, tallied (roster.names.foldl raise []) name = roster.count name :=
    fun name => (tallied_foldl_raise roster.names [] name).trans (Nat.zero_add _)
  have hnodup : ((roster.names.foldl raise []).map Tally.name).Nodup :=
    hnames.symm ▸ roster.nodup_distinct
  rw [eq_map_tallied hnodup, hnames, tallies]
  simp only [hcount]

end Roster

end DispatchAudit
