import TableQuery.Json.Spelling
import TableQuery.Log
import TableQuery.Path
import TableQuery.Text.Digit
import TableQuery.Text.Quoted

/-!
# Command-line arguments

* `Flag`: the options, with their spellings.
* `Arguments`: what the arguments ask for.
* `UsageError`: what can be wrong with them.
* `Arguments.parse`: the arguments of a command line, a call for help, or an error.

A long option can be cut short as long as it stays unique, and can have its value after an
equals sign. Short options without a value can stand together; a value can follow directly. The
argument `--` ends the options; as the value of an option it stands for an empty list of values,
which can be the name of a table and otherwise counts as none.
-/

namespace TableQuery

open Text

/-- The options. -/
inductive Flag
  | help
  | table
  | command
  | file
  | naturalLanguage
  | verbose
  | logLevel
  deriving DecidableEq

namespace Flag

/-- All options in the order of the help text. -/
def all : List Flag :=
  [.help, .table, .command, .file, .naturalLanguage, .verbose, .logLevel]

/-- The spellings of an option. -/
def spellings : Flag → List Text
  | .help => ["-h", "--help"]
  | .table => ["-t", "--table"]
  | .command => ["-c", "--command"]
  | .file => ["-f", "--file"]
  | .naturalLanguage => ["--nl"]
  | .verbose => ["-v", "--verbose"]
  | .logLevel => ["--log-level"]

/-- Whether an option takes a value. -/
def takesValue : Flag → Bool
  | .table | .command | .file | .logLevel => true
  | .help | .naturalLanguage | .verbose => false

/-- All spellings with their options. -/
def entries : List (Text × Flag) :=
  all.flatMap fun flag => flag.spellings.map fun spelling => (spelling, flag)

/-- The option with a given spelling. -/
def ofSpelling? (spelling : Text) : Option Flag :=
  (entries.find? fun entry => entry.1 == spelling).map Prod.snd

end Flag

/-- What is wrong with a command line. -/
inductive UsageError
  | ambiguous (argument : Text) (spellings : List Text)
  | valueMissing (flag : Flag)
  | valueIgnored (flag : Flag) (value : Text)
  | invalidLevel (value : Text)
  | unrecognized (arguments : List Text)
  deriving DecidableEq

/-- How an option is named in an error. -/
def Flag.label (flag : Flag) : Text :=
  "argument " ++ joinWith "/" flag.spellings

/-- The wording of an error. -/
def UsageError.message : UsageError → Text
  | .ambiguous argument spellings =>
    "ambiguous option: " ++ argument ++ " could match " ++ joinWith ", " spellings
  | .valueMissing flag => flag.label ++ ": expected one argument"
  | .valueIgnored flag value => flag.label ++ ": ignored explicit argument " ++ quoted value
  | .invalidLevel value =>
    Flag.logLevel.label ++ ": invalid choice: " ++ quoted value ++ " (choose from " ++
      joinWith ", " (LogLevel.all.map fun level => quoted level.name) ++ ")"
  | .unrecognized arguments => "unrecognized arguments: " ++ joinWith " " arguments

/-- Which table is asked for. -/
inductive TableChoice
  /-- No table is named, and the first one is meant. -/
  | first
  | named (name : Json)
  deriving DecidableEq

/-- How a choice is spelled in a complaint. -/
def TableChoice.spelling : TableChoice → Text
  | .first => "None"
  | .named name => name.spelling

/-- What a command line asks for. -/
structure Arguments where
  dataFile : Option Text
  table : TableChoice
  command : Option Text
  file : Option Text
  naturalLanguage : Bool
  verbose : Bool
  /-- The level of the log; there is none if its option stands for an empty list. -/
  logLevel : Option LogLevel
  deriving DecidableEq

/-- The arguments of an empty command line. -/
def Arguments.default : Arguments :=
  ⟨none, .first, none, none, false, false, some .warning⟩

/-! ### Sorting arguments into options and others -/

/-- One argument of the command line. -/
inductive Piece
  | plain (text : Text)
  /-- The end of the options. -/
  | dashes
  /-- An option, with what stands in the same argument. -/
  | option (flag : Flag) (spelling : Text) (attached : Option Text)
  /-- An argument that looks like an option but is none. -/
  | unknown (text : Text)

/-- The text before the first equals sign and the text after it, if there is one. -/
def cutAtSign (t : Text) : Text × Option Text :=
  (t.takeWhile fun p => p != .char '=', (t.dropWhile fun p => p != .char '=').tail?)

/-- The options whose spelling an argument begins, with the value attached to it. -/
def candidates (argument : Text) : List (Flag × Text × Option Text) :=
  match argument with
  | .char '-' :: .char '-' :: _ =>
    let (front, value) := cutAtSign argument
    (Flag.entries.filter fun entry => front.isPrefixOf entry.1).map fun entry =>
      (entry.2, entry.1, value)
  | .char '-' :: short :: value =>
    Flag.entries.filterMap fun entry =>
      if entry.1 = [.char '-', short] then some (entry.2, entry.1, some value)
      else if argument.isPrefixOf entry.1 then some (entry.2, entry.1, none)
      else none
  | _ => []

/-- A text without the line feed at its end, if it has one. -/
def withoutFinalBreak (t : Text) : Text :=
  if t.getLast? = some (.char '\n') then t.dropLast else t

/-- A negative number, which is no option. A line feed may follow it. -/
def isNegativeNumber (argument : Text) : Bool :=
  match withoutFinalBreak argument with
  | .char '-' :: digits =>
    let fraction := digits.dropWhile isDecimal
    (fraction.isEmpty && !digits.isEmpty) ||
      match fraction with
      | .char '.' :: places => !places.isEmpty && places.all isDecimal
      | _ => false
  | _ => false

/-- Tell whether an argument before `--` is an option. -/
def Piece.ofArgument (argument : Text) : Except UsageError Piece :=
  if argument.head? ≠ some (.char '-') ∨ argument.length = 1 then .ok (.plain argument)
  else
    match Flag.ofSpelling? argument with
    | some flag => .ok (.option flag argument none)
    | none =>
      let (front, value) := cutAtSign argument
      match value, Flag.ofSpelling? front with
      | some value, some flag => .ok (.option flag front (some value))
      | _, _ =>
        match candidates argument with
        | [(flag, spelling, attached)] => .ok (.option flag spelling attached)
        | [] =>
          if isNegativeNumber argument || argument.contains (.char ' ') then .ok (.plain argument)
          else .ok (.unknown argument)
        | several => .error (.ambiguous argument (several.map fun found => found.2.1))

/-- Tell the options from the other arguments. -/
def pieces : List Text → Except UsageError (List Piece)
  | [] => .ok []
  | argument :: rest =>
    if argument = "--" then .ok (.dashes :: rest.map Piece.plain)
    else do
      let piece ← Piece.ofArgument argument
      let more ← pieces rest
      return piece :: more

/-! ### Acting on options -/

/-- Why the arguments are not gone through to the end. -/
inductive Halt
  | help
  | error (error : UsageError)

/-- The state while the arguments are gone through. -/
structure Progress where
  arguments : Arguments
  /-- The arguments that nothing asks for. -/
  extras : List Text
  /-- Whether the data file is still to come. -/
  awaitsFile : Bool

/-- The value of an option, unless it stands for an empty list of values. -/
def given? (value : Text) : Option Text :=
  if value = "--" then none else some value

/-- The name that the value of an option gives for a table. -/
def tableName (value : Text) : Json :=
  match given? value with
  | some name => .scalar (.text name)
  | none => .array []

/-- Act on an option and its value. -/
def applyFlag (flag : Flag) (value : Text) (a : Arguments) : Except Halt Arguments :=
  match flag with
  | .help => .error .help
  | .table => .ok { a with table := .named (tableName value) }
  | .command => .ok { a with command := given? value }
  | .file => .ok { a with file := (given? value).map normalizePath }
  | .naturalLanguage => .ok { a with naturalLanguage := true }
  | .verbose => .ok { a with verbose := true }
  | .logLevel =>
    match given? value with
    | none => .ok { a with logLevel := none }
    | some name =>
      match LogLevel.ofName? name with
      | some level => .ok { a with logLevel := some level }
      | none => .error (.error (.invalidLevel name))

/-- Act on options and their values in turn. -/
def applyFlags : List (Flag × Text) → Arguments → Except Halt Arguments
  | [], a => .ok a
  | (flag, value) :: rest, a => do
    let a ← applyFlag flag value a
    applyFlags rest a

/-- What stands in one argument: options with their values. -/
structure Cluster where
  flags : List (Flag × Text)
  /-- A last option whose value is the next argument. -/
  awaiting : Option Flag

/-- An option that stands by itself. -/
def Flag.alone (flag : Flag) : Cluster :=
  if flag.takesValue then ⟨[], some flag⟩ else ⟨[(flag, [])], none⟩

/-- Take apart an option and the characters after it: its value, or else further short options.
A long option that takes no value must stand by itself. -/
def cluster (flag : Flag) (isLong : Bool) : Text → Except Halt Cluster
  | [] =>
    if flag.takesValue then .ok ⟨[(flag, [])], none⟩
    else .error (.error (.valueIgnored flag []))
  | p :: rest =>
    if flag.takesValue then .ok ⟨[(flag, p :: rest)], none⟩
    else
      match isLong, Flag.ofSpelling? ['-', p], rest with
      | false, some next, [] => .ok { next.alone with flags := (flag, []) :: next.alone.flags }
      | false, some next, rest => do
        let more ← cluster next false rest
        return { more with flags := (flag, []) :: more.flags }
      | _, _, _ => .error (.error (.valueIgnored flag (p :: rest)))

/-- Whether some of the pieces is an option. -/
def hasOption (rest : List Piece) : Bool :=
  rest.any fun
    | .option _ _ _ | .unknown _ => true
    | _ => false

/-- The text of an argument that is no option. -/
def Piece.text : Piece → Text
  | .plain text => text
  | .dashes => "--"
  | .option _ spelling _ => spelling
  | .unknown text => text

/-- Take the data file from the arguments after the last option: the first of them, with the
`--` before or after it. -/
def takeLastFile (rest : List Piece) (p : Progress) : Progress :=
  if p.awaitsFile then
    let (found, rest) : Option Text × List Piece := match rest with
      | .dashes :: .plain text :: rest => (some text, rest)
      | .dashes :: rest => (none, rest)
      | .plain text :: .dashes :: rest => (some text, rest)
      | .plain text :: rest => (some text, rest)
      | rest => (none, rest)
    { arguments := { p.arguments with dataFile := found.map normalizePath }
      extras := p.extras ++ rest.map Piece.text
      awaitsFile := false }
  else { p with extras := p.extras ++ rest.map Piece.text }

/-- Go through the arguments. A data file stands before or between the options or after them. -/
def goThrough (p : Progress) : List Piece → Except Halt Progress
  | [] => .ok (takeLastFile [] p)
  | piece :: rest =>
    if hasOption (piece :: rest) then
      match piece with
      | .option flag spelling attached =>
        let isLong := (ofString "--").isPrefixOf spelling
        let found : Except Halt Cluster := match attached with
          | none => .ok flag.alone
          | some value => cluster flag isLong value
        match found with
        | .error halt => .error halt
        | .ok found =>
          match found.awaiting, rest with
          | some flag, .plain value :: rest => do
            let a ← applyFlags (found.flags ++ [(flag, value)]) p.arguments
            goThrough { p with arguments := a } rest
          | some flag, _ => .error (.error (.valueMissing flag))
          | none, rest => do
            let a ← applyFlags found.flags p.arguments
            goThrough { p with arguments := a } rest
      | .unknown text => goThrough { p with extras := p.extras ++ [text] } rest
      | piece =>
        if p.awaitsFile then
          let a := { p.arguments with dataFile := some (normalizePath piece.text) }
          goThrough { p with arguments := a, awaitsFile := false } rest
        else goThrough { p with extras := p.extras ++ [piece.text] } rest
    else .ok (takeLastFile (piece :: rest) p)

/-- The arguments of a command line. -/
def Arguments.parse (line : List Text) : Except Halt Arguments := do
  let found ← (pieces line).mapError Halt.error
  let p ← goThrough ⟨.default, [], true⟩ found
  if p.extras.isEmpty then return p.arguments
  else .error (.error (.unrecognized p.extras))

end TableQuery
