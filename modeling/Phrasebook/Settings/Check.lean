import Phrasebook.Glob
import Phrasebook.Regex.Reader
import Phrasebook.Settings.Basic
import Phrasebook.Unicode.Blank

/-!
# Settings that fit together
-/

namespace Phrasebook

/-- Why settings cannot be used. -/
inductive SettingsError where
  | lengthsInverted (least most : Nat)
  | noRoots
  | noExtensions
  | slugLimits
  | noSourceLocale
  | sourceAmongTargets (locale : String)
  | noPlaceholderPrefix
  | emptyFormatter
  | badIgnorePattern (pattern : String)
  | badExclude (pattern : String)
  deriving DecidableEq, Repr

def SettingsError.message : SettingsError → String
  | .lengthsInverted least most =>
    "minLength (" ++ toString least ++ ") must not exceed maxLength (" ++ toString most ++ ")"
  | .noRoots => "At least one scan root is required"
  | .noExtensions => "At least one file extension is required"
  | .slugLimits => "slugMaxWords and slugMaxChars must be positive"
  | .noSourceLocale => "sourceLocale must not be empty"
  | .sourceAmongTargets locale =>
    "targetLocales must not contain the source locale '" ++ locale ++ "'"
  | .noPlaceholderPrefix => "placeholderPrefix must not be empty"
  | .emptyFormatter => "formatter must name a program"
  | .badIgnorePattern pattern => "Invalid ignore pattern: " ++ pattern
  | .badExclude pattern => "Invalid exclude glob: " ++ pattern

namespace Settings

/-- The ignore patterns as regular expressions, or the first that is none. -/
def ignoreRegexes (s : Settings) : Except SettingsError (List Regex) :=
  s.ignorePatterns.mapM fun p =>
    match Regex.read? p with
    | some r => .ok r
    | none => .error (.badIgnorePattern p)

/-- The patterns of files that are left out, or the first that is none. -/
def excludeGlobs (s : Settings) : Except SettingsError (List (List Glob.Part)) :=
  s.exclude.mapM fun p =>
    match Glob.read? p with
    | some parts => .ok parts
    | none => .error (.badExclude p)

/-- Fails with a cause unless a condition holds. -/
def require (condition : Bool) (cause : SettingsError) : Except SettingsError Unit :=
  if condition then .ok () else .error cause

/-- The first thing that does not fit. -/
def check (s : Settings) : Except SettingsError Unit := do
  require (s.minLength ≤ s.maxLength) (.lengthsInverted s.minLength s.maxLength)
  require (!s.roots.isEmpty) .noRoots
  require (!s.extensions.isEmpty) .noExtensions
  require (s.slugMaxWords ≠ 0 && s.slugMaxChars ≠ 0) .slugLimits
  require (!s.sourceLocale.toList.all Unicode.isBlank) .noSourceLocale
  require (!s.targetLocales.contains s.sourceLocale) (.sourceAmongTargets s.sourceLocale)
  require (!s.placeholderPrefix.isEmpty) .noPlaceholderPrefix
  require (s.formatter != some []) .emptyFormatter
  discard s.ignoreRegexes
  discard s.excludeGlobs

end Settings

end Phrasebook
