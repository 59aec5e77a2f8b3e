import Mathlib.Data.List.Nodup

/-!
# Entries with distinct keys

In a list of keyed entries no two of which have the same key, looking up a key finds the entry with
that key, wherever it stands.
-/

namespace DispatchAudit

theorem lookup_eq_some_iff_mem {α β : Type} [BEq α] [LawfulBEq α] {entries : List (α × β)}
    (hnodup : (entries.map Prod.fst).Nodup) {key : α} {value : β} :
    entries.lookup key = some value ↔ (key, value) ∈ entries := by
  constructor
  · intro hlookup
    obtain ⟨before, later, rfl, _⟩ := List.lookup_eq_some_iff.mp hlookup
    exact List.mem_append_right before List.mem_cons_self
  · intro hmem
    obtain ⟨before, later, rfl⟩ := List.append_of_mem hmem
    refine List.lookup_eq_some_iff.mpr ⟨before, later, rfl, fun entry hbefore => ?_⟩
    rw [List.map_append, List.map_cons] at hnodup
    have hfresh := List.disjoint_of_nodup_append hnodup (List.mem_map_of_mem hbefore)
    rw [bne_iff_ne]
    rintro rfl
    exact hfresh List.mem_cons_self

end DispatchAudit
