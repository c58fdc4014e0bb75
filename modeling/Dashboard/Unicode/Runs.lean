import Dashboard.Unicode.Charset

/-!
# Tables as runs

A property that gives every code point a value is written as runs: a count, left
out when it is one, followed by a value code of fixed width. A property that is
a set is written as the lengths of its gaps and runs in turn, the first a gap.
-/

namespace Dashboard.Unicode

/-- A run of code points with one value. -/
structure Run where
  lower : Nat
  upper : Nat
  code : String

/-- The reader of runs: the next code point, the digits and the value code read so
far, and the finished runs, last first. -/
structure RunReader where
  next : Nat
  count : Nat
  letters : List Char
  finished : List Run

/-- One character of a table of runs. -/
def RunReader.step (width : Nat) (reader : RunReader) (character : Char) : RunReader :=
  if reader.letters.isEmpty && character.isDigit then
    { reader with count := reader.count * 10 + (character.toNat - '0'.toNat) }
  else
    let letters := character :: reader.letters
    if letters.length < width then { reader with letters := letters }
    else
      let count := if reader.count = 0 then 1 else reader.count
      { next := reader.next + count
        count := 0
        letters := []
        finished :=
          ⟨reader.next, reader.next + count - 1, String.ofList letters.reverse⟩ ::
            reader.finished }

/-- The runs of a table whose value codes have the given width. -/
def readRuns (width : Nat) (lines : List String) : List Run :=
  let reader := lines.foldl (fun reader line =>
    line.toList.foldl (RunReader.step width) reader) ⟨0, 0, [], []⟩
  reader.finished.reverse

/-- The code points whose value satisfies a condition. -/
def runsWhere (runs : List Run) (wanted : String → Bool) : Charset :=
  Charset.ofRanges ((runs.filter fun run => wanted run.code).map
    fun run => (run.lower, run.upper))

/-- The natural numbers in a line, separated by spaces. -/
def readNumbers (line : String) : List Nat :=
  let (numbers, current) := line.toList.foldl
    (fun (state : List Nat × Option Nat) character =>
      if character.isDigit then
        (state.1, some (state.2.getD 0 * 10 + (character.toNat - '0'.toNat)))
      else (state.2.toList ++ state.1, none))
    ([], none)
  (current.toList ++ numbers).reverse

/-- The ranges that gaps and runs in turn describe, from a code point on. -/
def alternate : Nat → List Nat → List (Nat × Nat)
  | start, gap :: length :: rest =>
    (start + gap, start + gap + length - 1) :: alternate (start + gap + length) rest
  | _, _ => []

/-- The set that a table of gaps and runs describes. -/
def readSet (lines : List String) : Charset :=
  ⟨alternate 0 (lines.flatMap readNumbers)⟩

end Dashboard.Unicode
