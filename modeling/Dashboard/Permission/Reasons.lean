/-!
# Reasons of denial

A check reports the path of every failed look-up to a sink: a state with a way to
take a report. One sink keeps every report, another keeps each reason once, in
the order of the first reports.
-/

namespace Dashboard.Permission

/-- The distinct reasons in the order in which they were first reported. -/
structure DenialReasons where
  reasons : List String
  deriving DecidableEq, Repr

namespace DenialReasons

/-- No reasons. -/
def empty : DenialReasons := ⟨[]⟩

/-- The number of reasons. -/
def size (set : DenialReasons) : Nat := set.reasons.length

/-- Whether there is no reason. -/
def isEmpty (set : DenialReasons) : Bool := set.reasons.isEmpty

/-- Whether a reason was reported. -/
def contains (set : DenialReasons) (reason : String) : Bool := set.reasons.contains reason

/-- Takes a report; a repeated one changes nothing. -/
def report (set : DenialReasons) (reason : String) : DenialReasons :=
  if set.contains reason then set else ⟨set.reasons ++ [reason]⟩

/-- The reasons in order. -/
def toList (set : DenialReasons) : List String := set.reasons

end DenialReasons

/-- A list of all reports takes another one at its end. -/
def appendReport (reports : List String) (reason : String) : List String :=
  reports ++ [reason]

end Dashboard.Permission
