import Dashboard.Text.Split

/-!
# Command lines

Three commands, each with its options and operands. An option is written with two
hyphens and takes one value, behind an equals sign or as the next argument. Behind a
lone pair of hyphens every argument is an operand.

The value of an option is taken over when the next option or operand is met, or at the
end, so that of two faults the one met first counts.
-/

namespace Dashboard.Command

/-- What is to be done. -/
inductive Invocation where
  | serve (settingsPath : String)
  | checkQuery (text : String)
  | checkPermission (tree path : String) (placeholders : Option String)
  deriving DecidableEq, Repr

/-- Why a command line runs no command. -/
inductive Notice where
  | help
  | version
  | nothingAsked
  | unknownCommand (name : String)
  | unknownArgument (argument : String)
  /-- A flag with a value behind an equals sign. -/
  | unneededValue (argument : String)
  | missingValue (option : String)
  | repeatedOption (option : String)
  | missingArguments (names : List String)
  deriving DecidableEq, Repr

/-- The form of an argument. -/
inductive Argument where
  | separator
  | long (name : String) (value : Option String)
  | short (letter : Char)
  | plain
  deriving DecidableEq, Repr

/-- The form of an argument; a lone hyphen has no special form. -/
def Argument.ofText (text : String) : Argument :=
  match text.toList with
  | ['-', '-'] => separator
  | '-' :: '-' :: rest =>
    let (name, value) := Text.cutAt '=' rest
    long (String.ofList name) (value.map String.ofList)
  | '-' :: letter :: _ => short letter
  | _ => plain

/-- An option of a command. -/
structure CommandOption where
  name : String
  required : Bool
  mayBeEmpty : Bool
  deriving DecidableEq, Repr

/-- The arguments that a command takes. -/
structure Grammar where
  options : List CommandOption
  /-- The name of the one operand, which is required. -/
  operand : Option String
  deriving DecidableEq, Repr

/-- The option whose value is not taken over yet. -/
structure PendingOption where
  option : CommandOption
  value : Option String
  deriving DecidableEq, Repr

/-- What is read of the arguments of a command. -/
structure Reading where
  values : List (String × String)
  pending : Option PendingOption
  operand : Option String
  operandsOnly : Bool
  deriving DecidableEq, Repr

namespace Reading

/-- Nothing is read yet. -/
def start : Reading := ⟨[], none, none, false⟩

/-- The value of an option. -/
def value? (reading : Reading) (name : String) : Option String :=
  (reading.values.find? fun entry => entry.1 == name).map Prod.snd

/-- Takes over the value of an option. -/
def assign (reading : Reading) (option : CommandOption) (value : String) :
    Except Notice Reading :=
  if (reading.value? option.name).isSome then .error (.repeatedOption option.name)
  else if value.isEmpty && !option.mayBeEmpty then .error (.missingValue option.name)
  else .ok { reading with values := reading.values ++ [(option.name, value)], pending := none }

/-- Takes over the value that is pending. -/
def settle (reading : Reading) : Except Notice Reading :=
  match reading.pending with
  | none => .ok reading
  | some ⟨option, none⟩ => .error (.missingValue option.name)
  | some ⟨option, some value⟩ => reading.assign option value

end Reading

namespace Grammar

/-- The option of a name. -/
def option? (grammar : Grammar) (name : String) : Option CommandOption :=
  grammar.options.find? fun option => option.name == name

/-- Takes an argument as the operand. -/
def takeOperand (grammar : Grammar) (reading : Reading) (text : String) :
    Except Notice Reading :=
  if grammar.operand.isSome && reading.operand.isNone then
    reading.settle.map fun settled => { settled with operand := some text }
  else .error (.unknownArgument text)

/-- Takes an argument that has the form of an option. -/
def takeOption (grammar : Grammar) (reading : Reading) (text name : String)
    (value : Option String) : Except Notice Reading :=
  if name = "help" then
    if value.isSome then .error (.unneededValue text)
    else reading.settle.bind fun _ => .error .help
  else match grammar.option? name with
    | none => .error (.unknownArgument text)
    | some option =>
      reading.settle.bind fun settled =>
        match value with
        | some value => settled.assign option value
        | none => .ok { settled with pending := some ⟨option, none⟩ }

/-- Takes an argument without a form of its own: the value of the option before it, or
the operand. -/
def takePlain (grammar : Grammar) (reading : Reading) (text : String) :
    Except Notice Reading :=
  match reading.pending with
  | some ⟨option, none⟩ => .ok { reading with pending := some ⟨option, some text⟩ }
  | _ => grammar.takeOperand reading text

/-- Takes the next argument. -/
def take (grammar : Grammar) (reading : Reading) (text : String) : Except Notice Reading :=
  if reading.operandsOnly then grammar.takeOperand reading text
  else match Argument.ofText text with
    | .separator => .ok { reading with operandsOnly := true }
    | .long name value => grammar.takeOption reading text name value
    | .short letter =>
      if letter = 'h' then reading.settle.bind fun _ => .error .help
      else .error (.unknownArgument text)
    | .plain => grammar.takePlain reading text

/-- The names of the arguments that are required and missing. -/
def missing (grammar : Grammar) (reading : Reading) : List String :=
  let options := grammar.options.filter fun option =>
    option.required && (reading.value? option.name).isNone
  options.map CommandOption.name ++
    (if reading.operand.isNone then grammar.operand.toList else [])

/-- Ends the reading: takes over what is pending, and asks for what is missing. -/
def finish (grammar : Grammar) (reading : Reading) : Except Notice Reading :=
  reading.settle.bind fun settled =>
    match grammar.missing settled with
    | [] => .ok settled
    | names => .error (.missingArguments names)

/-- Reads the rest of the arguments. -/
def readFrom (grammar : Grammar) (reading : Reading) : List String → Except Notice Reading
  | [] => grammar.finish reading
  | text :: rest => (grammar.take reading text).bind fun next => grammar.readFrom next rest

/-- Reads the arguments of a command. -/
def read (grammar : Grammar) (arguments : List String) : Except Notice Reading :=
  grammar.readFrom .start arguments

end Grammar

/-- The commands. -/
inductive CommandName where
  | serve
  | checkQuery
  | checkPermission
  | help
  deriving DecidableEq, Repr

/-- The command of a name. -/
def CommandName.ofText? : String → Option CommandName
  | "serve" => some serve
  | "check-query" => some checkQuery
  | "check-permission" => some checkPermission
  | "help" => some help
  | _ => none

/-- The file of settings when none is named. -/
def standardSettingsPath : String := "./cion.json"

/-- The arguments of the command that starts a server. -/
def serveGrammar : Grammar := ⟨[⟨"config", false, false⟩], none⟩

/-- The arguments of the diagnosis of a query. -/
def queryGrammar : Grammar := ⟨[], some "text"⟩

/-- The arguments of the diagnosis of a permission. -/
def permissionGrammar : Grammar :=
  ⟨[⟨"tree", true, true⟩, ⟨"path", true, true⟩, ⟨"placeholders", false, true⟩], none⟩

/-- Shows the help of a command, or of all. -/
def readHelp : List String → Notice
  | [] => .help
  | name :: rest =>
    match CommandName.ofText? name, rest with
    | none, _ => .unknownCommand name
    | some _, [] => .help
    | some _, next :: _ => .unknownCommand next

/-- Reads the arguments of a command. -/
def CommandName.read (name : CommandName) (arguments : List String) :
    Except Notice Invocation :=
  match name with
  | serve => (serveGrammar.read arguments).map fun reading =>
      .serve ((reading.value? "config").getD standardSettingsPath)
  | checkQuery => (queryGrammar.read arguments).map fun reading =>
      .checkQuery (reading.operand.getD "")
  | checkPermission => (permissionGrammar.read arguments).map fun reading =>
      .checkPermission ((reading.value? "tree").getD "") ((reading.value? "path").getD "")
        (reading.value? "placeholders")
  | help => .error (readHelp arguments)

/-- The notice for a command line that starts with no command. -/
def noticeFor (text : String) (rest : List String) : Notice :=
  match Argument.ofText text, rest with
  | .separator, [] => .nothingAsked
  | .separator, next :: _ =>
    if (CommandName.ofText? next).isSome then .unknownArgument next else .unknownCommand next
  | .long name value, _ =>
    if name = "help" || name = "version" then
      if value.isSome then .unneededValue text
      else if name = "help" then .help else .version
    else .unknownArgument text
  | .short letter, _ =>
    if letter = 'h' then .help else if letter = 'V' then .version else .unknownArgument text
  | .plain, _ => .unknownCommand text

/-- Reads a command line, behind the name of the program. -/
def Invocation.ofArguments : List String → Except Notice Invocation
  | [] => .error .nothingAsked
  | text :: rest =>
    match CommandName.ofText? text with
    | some name => name.read rest
    | none => .error (noticeFor text rest)

end Dashboard.Command
