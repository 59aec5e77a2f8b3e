import DispatchAudit.Proofs.Audit.Layout
import DispatchAudit.Proofs.Audit.Reading

/-!
# Audits of written names

A listing says which names each source is to have and at which path the source is. Written down,
the sources give back these names and no others, each in its place and as often as it was listed,
whatever the tokens and the markers of the settings are. All that is asked of the markers is that
they can be lines and that no entry of the listing is a closing marker.
-/

namespace DispatchAudit.Audit

open Files Source Text

/-- The names to be found in the source at a path. -/
structure NameList where
  path : FilePath
  names : List String
deriving DecidableEq, Repr, Inhabited

/-- The names to be found in the sources of an audit. -/
structure Listing where
  implementations : List NameList
  interface : NameList
  header : NameList
deriving DecidableEq, Repr, Inhabited

namespace Listing

def sources (listing : Listing) : Sources where
  implementations := listing.implementations.map NameList.path
  interface := listing.interface.path
  header := some listing.header.path

def implementationFile (settings : Settings) (list : NameList) : TextFile :=
  ⟨list.path, Layout.implementation settings list.names⟩

def interfaceFile (settings : Settings) (listing : Listing) : TextFile :=
  ⟨listing.interface.path, Layout.interface settings listing.interface.names⟩

def headerFile (listing : Listing) : TextFile :=
  ⟨listing.header.path, Layout.header listing.header.names⟩

def files (settings : Settings) (listing : Listing) : List TextFile :=
  listing.implementations.map (implementationFile settings) ++
    [listing.interfaceFile settings, listing.headerFile]

/-- What an audit finds if it finds exactly the names of the listing. -/
def findings (settings : Settings) (listing : Listing) : Findings :=
  let declared := .ofList (listing.implementations.flatMap NameList.names)
  let dispatched := .ofList listing.interface.names
  let available := some (.ofList listing.header.names)
  { sources := listing.sources, declared, dispatched, available
    verdict := .of settings.duplicateCheck declared dispatched available }

/-- Whether the listing has only names that sources of these settings can have: they are words,
and no entry is the closing marker. -/
structure Listable (settings : Settings) (listing : Listing) : Prop where
  declared : ∀ list ∈ listing.implementations, ∀ name ∈ list.names, IsName name.toList
  dispatched : ∀ name ∈ listing.interface.names, IsName name.toList
  available : ∀ name ∈ listing.header.names, IsName name.toList
  unclosed : ∀ name ∈ listing.interface.names,
    trim (Layout.entryLine name).toList ≠ settings.endMarker.toList

end Listing

variable {settings : Settings} {rule : DeclarationRule} {workspace : Workspace}
  {listing : Listing}

theorem check_of_holds (hrule : settings.rule? = some rule)
    (hholds : ∀ file ∈ listing.files settings, workspace.Holds file) :
    check workspace settings listing.sources = .ok (findingsIn listing.sources settings rule
      (listing.implementations.map fun list => Layout.implementation settings list.names)
      (Layout.interface settings listing.interface.names)
      (some (Layout.header listing.header.names))) := by
  simp only [Listing.files, List.forall_mem_append, List.forall_mem_cons] at hholds
  obtain ⟨himplementations, hinterface, hheader, _⟩ := hholds
  have hdeclared : readSources workspace listing.sources.implementations =
      .ok (listing.implementations.map fun list => Layout.implementation settings list.names) := by
    have hread := readSources_of_holds himplementations
    rw [List.map_map, List.map_map] at hread
    exact hread
  have hread := readSource_of_holds hinterface
  have hdispatched : readSource workspace listing.sources.interface =
      .ok (Layout.interface settings listing.interface.names) := hread
  have hread' := readSource_of_holds hheader
  have havailable : readSource? workspace listing.sources.header =
      .ok (some (Layout.header listing.header.names)) := congrArg (Except.map some) hread'
  simp only [check, hrule, hdeclared, hdispatched, havailable]
  rfl

/-- The texts of a listing have its names and no others. -/
theorem findingsIn_listing (hfit : settings.Fit) (hrule : settings.rule? = some rule)
    (hopening : '\n' ∉ settings.startMarker.toList) (hclosing : '\n' ∉ settings.endMarker.toList)
    (hlistable : listing.Listable settings) :
    findingsIn listing.sources settings rule
      (listing.implementations.map fun list => Layout.implementation settings list.names)
      (Layout.interface settings listing.interface.names)
      (some (Layout.header listing.header.names)) = listing.findings settings := by
  have hdeclared : (listing.implementations.map fun list =>
      Layout.implementation settings list.names).map rule.declared =
        listing.implementations.map fun list => .ofList list.names := by
    rw [List.map_map]
    apply List.map_congr_left
    intro list hlist
    exact Layout.declared_implementation hfit hrule (hlistable.declared list hlist)
  have hconcat : Roster.concat (listing.implementations.map fun list => .ofList list.names) =
      .ofList (listing.implementations.flatMap NameList.names) := by
    rw [← Roster.ofList_names (Roster.concat _), Roster.names_concat, List.flatMap_map]
    rfl
  rw [findingsIn, hdeclared, hconcat, Option.map_some,
    Layout.dispatched_interface hfit hopening hclosing hlistable.dispatched hlistable.unclosed,
    Layout.available_header hlistable.available]
  rfl

/-- In whatever workspace the sources of a listing are, written there or found, an audit of them
finds exactly the names of the listing, in its order and with its repetitions. -/
theorem check_listing (hfit : settings.fault? = none) (hrule : settings.rule?.isSome = true)
    (hopening : '\n' ∉ settings.startMarker.toList) (hclosing : '\n' ∉ settings.endMarker.toList)
    (hlistable : listing.Listable settings) :
    (∀ workspace : Workspace, (∀ file ∈ listing.files settings, workspace.Holds file) →
      check workspace settings listing.sources = .ok (listing.findings settings)) ∧
    (∀ workspace : Workspace, workspace.CanWrite (listing.files settings) →
      check (workspace.writeAll (listing.files settings)) settings listing.sources =
        .ok (listing.findings settings)) := by
  obtain ⟨rule, hrule⟩ := Option.isSome_iff_exists.mp hrule
  have hfit := Settings.fault?_eq_none_iff.mp hfit
  have hfound : ∀ workspace : Workspace,
      (∀ file ∈ listing.files settings, workspace.Holds file) →
        check workspace settings listing.sources = .ok (listing.findings settings) := by
    intro workspace hholds
    rw [check_of_holds hrule hholds,
      findingsIn_listing hfit hrule hopening hclosing hlistable]
  exact ⟨hfound, fun workspace hwrite => hfound _ hwrite.holds⟩

/-- Settings whose opening marker is the line above the dispatch region, and whose closing marker
is an entry. -/
def crossedMarkers : Settings :=
  { Settings.standard with startMarker := Layout.functionLine, endMarker := "END(methods)" }

def sampleListing : Listing where
  implementations := [⟨⟨"src/first.cpp"⟩, ["Foo", "Straße"]⟩, ⟨⟨"src/second.cpp"⟩, ["Foo"]⟩]
  interface := ⟨⟨"interface.cpp"⟩, ["Foo", "methods", "Foo"]⟩
  header := ⟨⟨"interface.h"⟩, ["Straße", "Foo"]⟩

theorem check_sampleListing :
    crossedMarkers.fault? = none ∧ crossedMarkers.rule?.isSome = true ∧
      sampleListing.Listable crossedMarkers ∧
      check (Workspace.writeAll ⟨.emptyDirectory, ["work"]⟩ (sampleListing.files crossedMarkers))
        crossedMarkers sampleListing.sources = .ok (sampleListing.findings crossedMarkers) := by
  have hfit : crossedMarkers.fault? = none := by decide
  have hrule : crossedMarkers.rule?.isSome = true := by decide
  have hlistable : sampleListing.Listable crossedMarkers :=
    ⟨by decide, by decide, by decide, by decide⟩
  have hwrite : Workspace.CanWrite ⟨.emptyDirectory, ["work"]⟩
      (sampleListing.files crossedMarkers) := ⟨by decide, by decide, by decide⟩
  have hround := check_listing hfit hrule (by decide) (by decide) hlistable
  exact ⟨hfit, hrule, hlistable, hround.2 _ hwrite⟩

end DispatchAudit.Audit
