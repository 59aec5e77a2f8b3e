import DispatchAudit.Proofs.Json.Printing
import DispatchAudit.Proofs.Json.Uniqueness
import Mathlib.Data.List.Nodup

/-!
# What the text of an object gives

A text that is an object gives a value for a key if the key and the value are one of its members.
A text spells one object only, so this is a question about the members it was written from, and
with a member for each key there is one answer at most.
-/

namespace DispatchAudit.Json

variable {text key : String} {given : Document} {members : List Member}

/-- Whether the text is an object that gives the value for the key. -/
def Gives (text key : String) (given : Document) : Prop :=
  ∃ members, SpellsObject members text.toList ∧ (units key, given) ∈ members

def HasKey (text key : String) : Prop := ∃ given, Gives text key given

theorem gives_iff_mem (hspells : SpellsObject members text.toList) :
    Gives text key given ↔ (units key, given) ∈ members := by
  constructor
  · rintro ⟨members', hspells', hmem⟩
    rwa [hspells.unique hspells']
  · intro hmem
    exact ⟨members, hspells, hmem⟩

namespace Value

/-- The text of a value on lines of its own, the last of which is ended. -/
theorem spellsObject_prettyLine (members : List (String × Value)) :
    SpellsObject (memberDocuments members) ((object members).pretty ++ "\n").toList := by
  have hspells := spellsObject_pretty_append members (allSpace_newLine 0)
  rwa [String.toList_append]

/-- A printed object gives what it was made of, where a member that is missing is not there. -/
theorem gives_ofMembers_iff {members : List (String × Option Value)} :
    Gives ((ofMembers members).pretty ++ "\n") key given ↔
      ∃ member ∈ members, member.1 = key ∧ member.2.map document = some given := by
  rw [ofMembers, gives_iff_mem (spellsObject_prettyLine _), memberDocuments_eq_map, List.mem_map]
  constructor
  · rintro ⟨⟨_, value⟩, hmem, heq⟩
    obtain ⟨member, hmember, hpresent⟩ := List.mem_filterMap.mp hmem
    obtain ⟨value', hvalue, hpair⟩ := Option.map_eq_some_iff.mp hpresent
    cases hpair
    obtain ⟨hkey, rfl⟩ := Prod.mk.inj heq
    exact ⟨member, hmember, units_inj.mp hkey, by rw [hvalue, Option.map_some]⟩
  · rintro ⟨member, hmember, rfl, hpresent⟩
    obtain ⟨value, hvalue, rfl⟩ := Option.map_eq_some_iff.mp hpresent
    refine ⟨(member.1, value), List.mem_filterMap.mpr ⟨member, hmember, ?_⟩, rfl⟩
    rw [hvalue, Option.map_some]

theorem keys_present_sublist (members : List (String × Option Value)) :
    ((members.filterMap fun member => member.2.map fun value => (member.1, value)).map
      Prod.fst).Sublist (members.map Prod.fst) := by
  induction members with
  | nil => exact .slnil
  | cons member later ih =>
      obtain ⟨key, _ | value⟩ := member
      · exact ih.cons key
      · exact ih.cons_cons key

/-- A printed object has each key once if it was made so. -/
theorem exists_spells_ofMembers {members : List (String × Option Value)}
    (hnodup : (members.map Prod.fst).Nodup) :
    ∃ given, SpellsObject given ((ofMembers members).pretty ++ "\n").toList ∧
      (given.map Prod.fst).Nodup := by
  refine ⟨_, spellsObject_prettyLine _, ?_⟩
  have hinjective : Function.Injective units := fun _ _ => units_inj.mp
  have hkeys := List.Nodup.map hinjective (hnodup.sublist (keys_present_sublist members))
  rw [List.map_map] at hkeys
  rwa [memberDocuments_eq_map, List.map_map]

end Value

end DispatchAudit.Json
