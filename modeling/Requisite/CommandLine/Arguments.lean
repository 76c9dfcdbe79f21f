/-!
# Arguments of the command line

Arguments are taken from left to right. What asks for the version or for help ends the
reading, unless something before it was wrong.
-/

namespace Requisite.CommandLine

structure Arguments where
  file : String
  mixedImports : Bool := false
  label : Option String := none
  config : Option String := none
  excludeCore : Bool := false
  verbose : Bool := false
  deriving DecidableEq, Repr

/-- What the command line asks for. -/
inductive Request where
  | run (arguments : Arguments)
  | version
  | help
  deriving DecidableEq, Repr

/-- Everything that can be given, each once. -/
inductive Name where
  | file
  | mixedImports
  | label
  | config
  | excludeCore
  | verbose
  | version
  | help
  deriving DecidableEq, Repr

namespace Name

def ofLong? : String → Option Name
  | "es6-mixed-imports" | "es6-mixedImports" => some .mixedImports
  | "type" => some .label
  | "config" => some .config
  | "exclude-core" => some .excludeCore
  | "verbose" => some .verbose
  | "version" => some .version
  | "help" => some .help
  | _ => none

def ofShort? : Char → Option Name
  | 't' => some .label
  | 'c' => some .config
  | 'v' => some .verbose
  | 'V' => some .version
  | 'h' => some .help
  | _ => none

def takesValue : Name → Bool
  | .label | .config => true
  | _ => false

/-- Whether the value is a path, which cannot be empty. -/
def isPath : Name → Bool
  | .file | .config => true
  | _ => false

end Name

/-- What has been given so far, with the values. -/
abbrev Given := List (Name × String)

/-- Where the reading of arguments stands. -/
inductive Progress where
  | next (given : Given)
  /-- The value of an option is still to come. -/
  | awaiting (given : Given) (option : Name)
  | done (request : Request)

/-- Takes up a name with its value, which for a flag is empty. -/
def give (given : Given) (name : Name) (value : String) : Option Given :=
  if (given.lookup name).isSome then none
  else if name.isPath && value.isEmpty then none
  else some ((name, value) :: given)

def giveFlag (given : Given) (name : Name) : Option Progress :=
  match name with
  | .version => some (.done .version)
  | .help => some (.done .help)
  | _ => (give given name "").map .next

/-- An argument after two dashes, as its name and what follows an equals sign. -/
def readLong (given : Given) (text : List Char) : Option Progress := do
  let option ← Name.ofLong? (String.ofList (text.takeWhile (· != '=')))
  match text.dropWhile (· != '=') with
  | [] => if option.takesValue then return .awaiting given option else giveFlag given option
  | _ :: value =>
    if option.takesValue then return .next (← give given option (String.ofList value))
    else none

/-- Letters after one dash. The rest after an option that takes a value is its value. -/
def readShort (given : Given) : List Char → Option Progress
  | [] => some (.next given)
  | c :: cs => do
    let option ← Name.ofShort? c
    if option.takesValue then
      match cs with
      | [] => return .awaiting given option
      | '=' :: value => return .next (← give given option (String.ofList value))
      | value => return .next (← give given option (String.ofList value))
    else
      match ← giveFlag given option with
      | .next given => readShort given cs
      | progress => return progress

/-- Names the request when all arguments have been taken up. -/
def finish (given : Given) : Option Request := do
  let file ← given.lookup .file
  let has (name : Name) : Bool := (given.lookup name).isSome
  return .run {
    file
    mixedImports := has .mixedImports
    label := given.lookup .label
    config := given.lookup .config
    excludeCore := has .excludeCore
    verbose := has .verbose }

/-- Arguments after a bare `--` are all files. -/
def readFiles (given : Given) : List String → Option Request
  | [] => finish given
  | file :: rest => do readFiles (← give given .file file) rest

/-- Reads the arguments; `awaited` is the option whose value comes next. -/
def readFrom (given : Given) (awaited : Option Name) : List String → Option Request
  | [] => if awaited.isSome then none else finish given
  | argument :: rest =>
    match argument.toList, awaited with
    | ['-', '-'], none => readFiles given rest
    | '-' :: '-' :: text, none => step (readLong given text) rest
    | '-' :: c :: text, none => step (readShort given (c :: text)) rest
    -- Nothing that looks like an option is a value.
    | '-' :: _ :: _, some _ => none
    | _, none => do readFrom (← give given .file argument) none rest
    | _, some option => do readFrom (← give given option argument) none rest
where
  step (progress : Option Progress) (rest : List String) : Option Request :=
    match progress with
    | none => none
    | some (.done request) => some request
    | some (.next given) => readFrom given none rest
    | some (.awaiting given option) => readFrom given (some option) rest

def read? (arguments : List String) : Option Request := readFrom [] none arguments

end Requisite.CommandLine
