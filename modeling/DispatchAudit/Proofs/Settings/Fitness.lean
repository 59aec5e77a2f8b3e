import DispatchAudit.Settings.Basic
import DispatchAudit.Proofs.Text.Lines
import DispatchAudit.Proofs.Text.Trimmed

/-!
# Fit settings

Settings are fit exactly if each of the five checks on them passes. What the checks say of the
characters of tokens and markers is all that the extractions need to know of them: a token holds
no blank, and a marker is its own trimmed line as long as it is a line at all.
-/

namespace DispatchAudit.Settings

open Text

variable {settings : Settings} {token marker : String}

/-- Whether the tokens are words and the markers are trimmed and told apart. -/
structure Fit (settings : Settings) : Prop where
  returnType : isToken settings.returnType = true
  callingConvention : isToken settings.callingConvention = true
  startMarker : isMarker settings.startMarker = true
  endMarker : isMarker settings.endMarker = true
  distinct : settings.startMarker ≠ settings.endMarker

private theorem check_eq_none_iff {passes : Bool} {fault : SettingsFault} :
    (if passes = true then none else some fault) = none ↔ passes = true := by
  cases passes <;> simp

theorem fault?_eq_none_iff : settings.fault? = none ↔ settings.Fit := by
  have hdistinct : (if settings.startMarker = settings.endMarker then
      some (SettingsFault.sameMarkers settings.startMarker) else none) = none ↔
        settings.startMarker ≠ settings.endMarker := by
    split <;> simp_all
  simp only [fault?, Option.orElse_eq_orElse, Option.orElse_eq_or, Option.or_eq_none_iff,
    check_eq_none_iff, hdistinct]
  constructor
  · rintro ⟨hreturnType, hcallingConvention, hstart, hend, hdistinct⟩
    exact ⟨hreturnType, hcallingConvention, hstart, hend, hdistinct⟩
  · intro hfit
    exact ⟨hfit.returnType, hfit.callingConvention, hfit.startMarker, hfit.endMarker,
      hfit.distinct⟩

theorem Fit.toList_startMarker_ne (hfit : settings.Fit) :
    settings.startMarker.toList ≠ settings.endMarker.toList :=
  fun heq => hfit.distinct (String.ext heq)

theorem toList_ne_nil_of_isToken (htoken : isToken token = true) : token.toList ≠ [] := by
  simp only [isToken, Bool.and_eq_true] at htoken
  simpa using htoken.1

theorem isBlank_of_mem_token (htoken : isToken token = true) :
    ∀ c ∈ token.toList, isBlank c = false := by
  simp only [isToken, Bool.and_eq_true, Bool.not_eq_true', List.any_eq_false] at htoken
  simpa using htoken.2

theorem feed_not_mem_token (htoken : isToken token = true) : '\n' ∉ token.toList := by
  intro hfeed
  exact absurd (isBlank_of_mem_token htoken _ hfeed) (by decide)

theorem trim_marker (hmarker : isMarker marker = true) : trim marker.toList = marker.toList := by
  simp only [isMarker, Bool.and_eq_true, beq_iff_eq] at hmarker
  exact hmarker.2

/-- A marker behind blanks ends like itself, so its line loses nothing to the line's end. -/
theorem isLine_marker {blanks : List Char} (hmarker : isMarker marker = true)
    (hblanks : '\n' ∉ blanks) (hfeed : '\n' ∉ marker.toList) :
    IsLine (blanks ++ marker.toList) := by
  have hne : marker.toList ≠ [] := by
    simp only [isMarker, Bool.and_eq_true] at hmarker
    simpa using hmarker.1
  refine ⟨by simp [hblanks, hfeed], ?_⟩
  rw [List.getLast?_append_of_ne_nil _ hne]
  intro hreturn
  rw [← trim_marker hmarker] at hreturn
  have hblank := isBlank_getLast_trim _ _ hreturn
  exact absurd hblank (by decide)

end DispatchAudit.Settings
