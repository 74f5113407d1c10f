import RunLog.Pattern.Meaning

namespace RunLog

/-- A choice of lines: those that a regular expression matches, or the others. -/
structure LineFilter where
  regex : Pattern.Regex
  inverted : Bool := false

namespace LineFilter

/-- The filter for a pattern; to ignore case is to begin the pattern with the flag for it. -/
def ofPattern (pattern : String) (ignoreCase inverted : Bool) :
    Except Pattern.PatternError LineFilter := do
  return ⟨← Pattern.compile (if ignoreCase then "(?i)" ++ pattern else pattern), inverted⟩

/-- Is a line, without its end, one that the filter chooses? -/
def keeps (filter : LineFilter) (line : String) : Bool :=
  filter.regex.isMatch line != filter.inverted

end LineFilter

end RunLog
