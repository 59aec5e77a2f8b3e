import DispatchAudit.Proofs.Roster.Passes

/-!
# Names in the order of first occurrences

A selection of a roster is said without a way of making it: which names of the roster are in it,
and that each stands behind the names that occur before it for the first time. Strictly, so none
is there twice. A roster has exactly one selection for a condition, and filtering its distinct
names makes it; the tallies of repeated names are the selection of these, with their counts.
-/

namespace DispatchAudit.Roster

variable {roster : Roster} {condition : String → Prop} {names others : List String}
  {tallies : List Tally}

/-- Whether the names are those of the roster that meet the condition, each once, in the order
in which the roster has them first. -/
structure IsSelection (roster : Roster) (condition : String → Prop) (names : List String) :
    Prop where
  mem_iff : ∀ name, name ∈ names ↔ name ∈ roster.names ∧ condition name
  increasing : names.Pairwise fun earlier later =>
    roster.names.idxOf earlier < roster.names.idxOf later

/-- Whether the tallies are those of the names that the roster has at least twice, each once, in
the order in which the roster has them first. -/
structure TalliesRepeated (roster : Roster) (tallies : List Tally) : Prop where
  names : roster.IsSelection (2 ≤ roster.names.count ·) (tallies.map Tally.name)
  count : ∀ tally ∈ tallies, tally.count = roster.names.count tally.name

/-! ### One selection for each condition -/

theorem IsSelection.nodup (hnames : roster.IsSelection condition names) : names.Nodup := by
  apply hnames.increasing.imp
  intro earlier later hlt heq
  rw [heq] at hlt
  exact Nat.lt_irrefl _ hlt

theorem IsSelection.unique (hnames : roster.IsSelection condition names)
    (hothers : roster.IsSelection condition others) : names = others := by
  have hperm : names.Perm others := (List.perm_ext_iff_of_nodup hnames.nodup hothers.nodup).mpr
    fun name => (hnames.mem_iff name).trans (hothers.mem_iff name).symm
  exact hperm.eq_of_pairwise (fun _ _ _ _ hlt hgt => absurd hgt (Nat.lt_asymm hlt))
    hnames.increasing hothers.increasing

/-- One more name is behind all others if it is new, and changes nothing otherwise. -/
theorem increasing_distinct (roster : Roster) : roster.distinct.Pairwise fun earlier later =>
    roster.names.idxOf earlier < roster.names.idxOf later := by
  induction roster using push_induction with
  | empty => exact .nil
  | push roster name ih =>
      have hbefore : roster.distinct.Pairwise fun earlier later =>
          (roster.push name).names.idxOf earlier < (roster.push name).names.idxOf later := by
        apply ih.imp_of_mem
        intro earlier later hearlier hlater hlt
        rwa [names_push, List.idxOf_append, if_pos (mem_distinct.mp hearlier), List.idxOf_append,
          if_pos (mem_distinct.mp hlater)]
      rw [distinct_push]
      by_cases hold : name ∈ roster.distinct
      · rw [see_of_mem hold]
        exact hbefore
      · rw [see_of_not_mem hold]
        apply List.pairwise_append.mpr
        refine ⟨hbefore, List.pairwise_singleton _ _, ?_⟩
        intro earlier hearlier later hlater
        have hnew : name ∉ roster.names := fun hmem => hold (mem_distinct.mpr hmem)
        rw [List.mem_singleton.mp hlater, names_push, List.idxOf_append,
          if_pos (mem_distinct.mp hearlier), List.idxOf_append, if_neg hnew]
        have hlt := List.idxOf_lt_length_of_mem (mem_distinct.mp hearlier)
        omega

theorem isSelection_filter_distinct [DecidablePred condition] :
    roster.IsSelection condition (roster.distinct.filter fun name => condition name) where
  mem_iff name := by simp
  increasing := roster.increasing_distinct.filter _

theorem isSelection_iff [DecidablePred condition] :
    roster.IsSelection condition names ↔
      names = roster.distinct.filter fun name => condition name := by
  constructor
  · intro hnames
    exact hnames.unique isSelection_filter_distinct
  · rintro rfl
    exact isSelection_filter_distinct

/-! ### The selections that a mismatch is made of -/

theorem isSelection_missing_iff {other : Roster} :
    roster.IsSelection (· ∉ other.names) names ↔ names = roster.missingFrom other := by
  rw [isSelection_iff, missingFrom]
  simp

theorem map_name_repeated :
    roster.repeated.map Tally.name = roster.distinct.filter fun name => 2 ≤ roster.count name := by
  rw [repeated, tallies, List.filter_map, List.map_map]
  exact List.map_id _

theorem talliesRepeated_repeated : roster.TalliesRepeated roster.repeated where
  names := by
    rw [map_name_repeated]
    exact isSelection_filter_distinct
  count tally htally := by
    obtain ⟨name, _, rfl⟩ := List.mem_map.mp (List.mem_of_mem_filter htally)
    rfl

theorem name_mem_of_mem_repeated {tally : Tally} (htally : tally ∈ roster.repeated) :
    tally.name ∈ roster.names :=
  ((talliesRepeated_repeated.names.mem_iff _).mp (List.mem_map_of_mem htally)).1

/-- The names of the tallies settle the tallies. -/
theorem TalliesRepeated.eq_map (htallies : roster.TalliesRepeated tallies) :
    tallies = (tallies.map Tally.name).map fun name => ⟨name, roster.names.count name⟩ := by
  have hself : ∀ tally ∈ tallies,
      (⟨tally.name, roster.names.count tally.name⟩ : Tally) = tally := by
    intro tally htally
    rw [← htallies.count tally htally]
  rw [List.map_map]
  exact ((List.map_congr_left hself).trans (List.map_id tallies)).symm

theorem talliesRepeated_iff : roster.TalliesRepeated tallies ↔ tallies = roster.repeated := by
  constructor
  · intro htallies
    rw [htallies.eq_map, htallies.names.unique talliesRepeated_repeated.names,
      ← talliesRepeated_repeated.eq_map]
  · rintro rfl
    exact talliesRepeated_repeated

end DispatchAudit.Roster
