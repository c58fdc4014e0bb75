import Dashboard.Unicode.CaseRuns
import Dashboard.Unicode.Charset

/-!
# Closing sets under simple case folding

Characters with one folding form an orbit. A set is closed by adding the whole
orbit of each of its members.
-/

namespace Dashboard.Unicode

/-- Joins neighbours of one key; the finished groups are kept last first. -/
def groupByKey : List (Nat × List Nat) → List (Nat × Nat) → List (Nat × List Nat)
  | reversed, [] => reversed
  | [], (key, member) :: rest => groupByKey [(key, [member, key])] rest
  | (lastKey, members) :: reversed, (key, member) :: rest =>
    if key = lastKey then groupByKey ((lastKey, member :: members) :: reversed) rest
    else groupByKey ((key, [member, key]) :: (lastKey, members) :: reversed) rest

/-- The orbits of more than one character. -/
def foldingOrbits : List (List Nat) :=
  let pairs := (foldingRuns.flatMap CaseRun.pairs).map fun pair => (pair.2, pair.1)
  (groupByKey [] (pairs.mergeSort fun left right => left.1 ≤ right.1)).map Prod.snd

/-- A set with the orbits of its members. -/
def Charset.closeUnderFolding (set : Charset) : Charset :=
  let ranges := set.ranges.toArray
  let touched := foldingOrbits.filter fun orbit => orbit.any (Charset.memArray ranges)
  if touched.isEmpty then set
  else Charset.ofRanges
    (set.ranges ++ touched.flatMap fun orbit => orbit.map fun code => (code, code))

/-- A set with both cases of its ASCII letters. -/
def Charset.closeUnderAsciiFolding (set : Charset) : Charset :=
  let letters := List.range 26
  let touched := letters.filter fun index => set.mem (0x41 + index) || set.mem (0x61 + index)
  Charset.ofRanges (set.ranges ++ touched.flatMap fun index =>
    [(0x41 + index, 0x41 + index), (0x61 + index, 0x61 + index)])

end Dashboard.Unicode
