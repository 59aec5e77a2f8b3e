import DispatchAudit.Proofs.Roster.Excess
import DispatchAudit.Proofs.Roster.Passes
import DispatchAudit.Proofs.Roster.Selection

/-!
# The views of a roster

However a roster is put together, by names one at a time or by other rosters, itself among them, it
has the names that were inserted, in this order, and its views say the same of them. What they say
of two rosters one after another is put together from what they say of each.
-/

namespace DispatchAudit

/-- How a roster is put together. Extending a history by itself extends the roster by a copy of
itself. -/
inductive History where
  | empty
  | ofList (names : List String)
  | push (earlier : History) (name : String)
  | extend (earlier other : History)

namespace History

def roster : History → Roster
  | empty => .empty
  | ofList names => .ofList names
  | push earlier name => earlier.roster.push name
  | extend earlier other => earlier.roster ++ other.roster

def insertions : History → List String
  | empty => []
  | ofList names => names
  | push earlier name => earlier.insertions ++ [name]
  | extend earlier other => earlier.insertions ++ other.insertions

theorem names_roster (history : History) : history.roster.names = history.insertions := by
  induction history with
  | empty => rfl
  | ofList names => rfl
  | push earlier name ih => rw [roster, Roster.names_push, ih, insertions]
  | extend earlier other ih ih' => rw [roster, Roster.names_append, ih, ih', insertions]

end History

namespace Roster

/-- Whether the views of a roster agree with its names and with each other, and are what one pass
over the names makes. -/
structure ViewsAgree (roster : Roster) : Prop where
  nodup_distinct : roster.distinct.Nodup
  mem_distinct : ∀ name, name ∈ roster.distinct ↔ name ∈ roster.names
  increasing : roster.distinct.Pairwise fun earlier later =>
    roster.names.idxOf earlier < roster.names.idxOf later
  distinct_pass : roster.distinct = roster.names.foldl see []
  nodup_counts : (roster.counts.map Tally.name).Nodup
  mem_counts : ∀ tally, tally ∈ roster.counts ↔
    tally.name ∈ roster.names ∧ tally.count = roster.names.count tally.name
  counts_pass : roster.counts.Perm (roster.names.foldl raise [])
  sum_counts : (roster.counts.map Tally.count).sum = roster.names.length
  length_sorted : roster.sorted.length = roster.distinct.length
  card_names : roster.names.toFinset.card = roster.distinct.length
  length_counts : roster.counts.length = roster.distinct.length
  names_repeated : roster.repeated.map Tally.name =
    roster.distinct.filter fun name => 2 ≤ roster.names.count name
  count_repeated : ∀ tally ∈ roster.repeated, tally.count = roster.names.count tally.name

theorem tallied_counts (roster : Roster) (name : String) :
    tallied roster.counts name = roster.names.count name := by
  by_cases hmem : name ∈ roster.names
  · have htally : ⟨name, roster.count name⟩ ∈ roster.counts := mem_counts.mpr ⟨hmem, rfl⟩
    exact tallied_of_mem roster.nodup_counts htally
  · rw [List.count_eq_zero_of_not_mem hmem, tallied_of_not_mem]
    rwa [map_name_counts, mem_sorted]

theorem viewsAgree (roster : Roster) : roster.ViewsAgree where
  nodup_distinct := roster.nodup_distinct
  mem_distinct _ := mem_distinct
  increasing := roster.increasing_distinct
  distinct_pass := roster.distinct_eq_foldl
  nodup_counts := roster.nodup_counts
  mem_counts _ := mem_counts
  counts_pass := roster.tallies_eq_foldl ▸ roster.counts_perm_tallies
  sum_counts := by
    rw [counts, List.map_map, (roster.sorted_perm_distinct.map _).sum_eq]
    exact roster.sum_count_distinct
  length_sorted := roster.sorted_perm_distinct.length_eq
  card_names := by
    have hset : roster.distinct.toFinset = roster.names.toFinset := by
      ext name
      rw [List.mem_toFinset, List.mem_toFinset, mem_distinct]
    rw [← hset, List.toFinset_card_of_nodup roster.nodup_distinct]
  length_counts := by rw [counts, List.length_map, roster.sorted_perm_distinct.length_eq]
  names_repeated := map_name_repeated
  count_repeated := talliesRepeated_repeated.count

end Roster

/-- However a roster is put together, it has the names in the order in which they are inserted, and
its views agree. Of two rosters one after another the occurrences of each name are added, and the
distinct names are those of the first and then those that are new in the second. -/
theorem History.views_agree (history : History) (first second : Roster) :
    history.roster.names = history.insertions ∧ history.roster.ViewsAgree ∧
      (∀ name, tallied (first ++ second).counts name =
        tallied first.counts name + tallied second.counts name) ∧
      (first ++ second).distinct =
        first.distinct ++ second.distinct.filter fun name => name ∉ first.names := by
  refine ⟨history.names_roster, history.roster.viewsAgree, ?_, ?_⟩
  · intro name
    rw [Roster.tallied_counts, Roster.tallied_counts, Roster.tallied_counts, Roster.names_append,
      List.count_append]
  · rw [Roster.distinct_append, Roster.missingFrom]
    simp

end DispatchAudit
