/-!
# Pattern engines

Searches and overviews compile texts as patterns and look for them in other texts. What a text
means as a pattern is left to an engine, and they are stated over any engine.
-/

namespace Dashboard

/-- A compiled pattern. -/
structure Pattern where
  /-- The text that it was compiled from. -/
  text : String
  /-- Whether a text contains a match. -/
  isMatch : String → Bool
  /-- The captures of the first match in a text: the whole match, then the groups in
  the order in which they open, each `none` when it took no part. -/
  firstMatch? : String → Option (List (Option String))

/-- What compiles patterns. -/
structure PatternEngine where
  /-- The pattern of a text, or what is wrong with the text. -/
  compile : String → Except String Pattern

end Dashboard
