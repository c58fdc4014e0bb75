import Dashboard.Text.Ascii

/-!
# Socket addresses

An address to listen at: four decimal octets, or eight hexadecimal groups in brackets,
and then a colon and a port. One run of groups that are zero may be left out, and the
last two groups may be written as four decimal octets.
-/

namespace Dashboard.Http

/-- How a number is written: the value of its digits in their base, the longest run of
digits, whether it may start with a zero that is not all of it, and what it is below. -/
structure NumberForm where
  digit? : Char → Option Nat
  base : Nat
  longest : Option Nat
  zeroFirst : Bool
  bound : Nat

namespace NumberForm

/-- An octet of an address in decimal digits. -/
def octet : NumberForm := ⟨Text.digitValue?, 10, some 3, false, 256⟩

/-- A group of an address in hexadecimal digits. -/
def group : NumberForm := ⟨Text.hexDigitValue?, 16, some 4, true, 65536⟩

/-- A port. -/
def port : NumberForm := ⟨Text.digitValue?, 10, none, true, 65536⟩

/-- The number of a scope. -/
def scope : NumberForm := ⟨Text.digitValue?, 10, none, true, 4294967296⟩

/-- The values of the digits at the front, and what stands behind them. -/
def digits (form : NumberForm) : List Char → List Nat × List Char
  | [] => ([], [])
  | character :: rest =>
    match form.digit? character with
    | some value =>
      let (values, behind) := digits form rest
      (value :: values, behind)
    | none => ([], character :: rest)

/-- Whether the digits of a number are too many, or start with a zero that they must
not start with. -/
def refuses (form : NumberForm) (values : List Nat) : Bool :=
  values.isEmpty || form.longest.any (· < values.length) ||
    (!form.zeroFirst && values.head? == some 0 && 1 < values.length)

/-- Reads a number. -/
def read? (form : NumberForm) (characters : List Char) : Option (Nat × List Char) :=
  let (values, rest) := form.digits characters
  let number := values.foldl (fun total value => total * form.base + value) 0
  if form.refuses values || form.bound ≤ number then none else some (number, rest)

end NumberForm

/-- Passes over a character. -/
def expect? (character : Char) : List Char → Option (List Char)
  | [] => none
  | first :: rest => if first = character then some rest else none

/-- Reads four octets with dots between them. -/
def readOctets? (characters : List Char) : Option (List Nat × List Char) := do
  let (first, rest) ← NumberForm.octet.read? characters
  let (second, rest) ← NumberForm.octet.read? (← expect? '.' rest)
  let (third, rest) ← NumberForm.octet.read? (← expect? '.' rest)
  let (fourth, rest) ← NumberForm.octet.read? (← expect? '.' rest)
  return ([first, second, third, fourth], rest)

/-- The two groups that four octets stand for. -/
def groupsOfOctets : List Nat → List Nat
  | [first, second, third, fourth] => [first * 256 + second, third * 256 + fourth]
  | _ => []

/-- Passes over the colon between groups; there is none before the first. -/
def betweenGroups? (isFirst : Bool) (characters : List Char) : Option (List Char) :=
  if isFirst then some characters else expect? ':' characters

/-- A run of groups: the groups, whether octets end it, and what stands behind it. -/
structure GroupRun where
  groups : List Nat
  endsInOctets : Bool
  rest : List Char
  deriving DecidableEq, Repr

/-- Reads at most some number of groups; octets are tried wherever two groups fit. -/
def readGroups (isFirst : Bool) : Nat → List Char → GroupRun
  | 0, characters => ⟨[], false, characters⟩
  | room + 1, characters =>
    let octets := if room = 0 then none
      else (betweenGroups? isFirst characters).bind readOctets?
    match octets with
    | some (octets, rest) => ⟨groupsOfOctets octets, true, rest⟩
    | none =>
      match (betweenGroups? isFirst characters).bind NumberForm.group.read? with
      | none => ⟨[], false, characters⟩
      | some (value, rest) =>
        let run := readGroups false room rest
        { run with groups := value :: run.groups }

/-- Reads eight groups, of which a run of zeros may be left out between two colons. -/
def readEightGroups? (characters : List Char) : Option (List Nat × List Char) :=
  let front := readGroups true 8 characters
  if front.groups.length = 8 then some (front.groups, front.rest)
  else if front.endsInOctets then none
  else do
    let rest ← expect? ':' (← expect? ':' front.rest)
    let back := readGroups true (7 - front.groups.length) rest
    let zeros := List.replicate (8 - front.groups.length - back.groups.length) 0
    return (front.groups ++ zeros ++ back.groups, back.rest)

/-- The address of a host. -/
inductive HostAddress where
  | octets (values : List Nat)
  | groups (values : List Nat) (scope : Nat)
  deriving DecidableEq, Repr

/-- An address to listen at. -/
structure SocketAddress where
  host : HostAddress
  port : Nat
  deriving DecidableEq, Repr

namespace SocketAddress

/-- Reads a scope; zero when there is none. -/
def readScope (characters : List Char) : Nat × List Char :=
  match (expect? '%' characters).bind NumberForm.scope.read? with
  | some found => found
  | none => (0, characters)

/-- Reads groups in brackets. -/
def readBracketed? (characters : List Char) : Option (HostAddress × List Char) := do
  let (groups, rest) ← readEightGroups? (← expect? '[' characters)
  let (scope, rest) := readScope rest
  return (.groups groups scope, ← expect? ']' rest)

/-- Reads the address of a host. -/
def readHost? (characters : List Char) : Option (HostAddress × List Char) :=
  match readOctets? characters with
  | some (octets, rest) => some (.octets octets, rest)
  | none => readBracketed? characters

/-- Reads an address; nothing may stand behind it. -/
def parse? (text : String) : Option SocketAddress := do
  let (host, rest) ← readHost? text.toList
  let (port, rest) ← NumberForm.port.read? (← expect? ':' rest)
  if rest.isEmpty then some ⟨host, port⟩ else none

end SocketAddress

end Dashboard.Http
