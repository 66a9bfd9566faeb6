import TableQuery.Arguments
import TableQuery.Disk
import TableQuery.Output
import TableQuery.Run
import TableQuery.Script

/-!
# The command line

* `Shell`: the store, the current table, the mode, the level of the log and the output.
* `Shell.printing`: what is printed of a query.
* `Shell.ask`: run a query on the current table and show what it yields.
* `Shell.runCommand`, `Shell.runScript`: a single query, and the queries of a file.
* `Shell.start`, `Shell.step`: the dialogue, line by line.
* `Arguments.run`, `runLine`: a whole command line on the files of a disk.
-/

namespace TableQuery

open Number Text

/-! ### Texts -/

/-- The name of the program. -/
def programName : Text := "tabql"

/-- The data file when neither the arguments nor the environment name one. -/
def defaultDataFile : Text := "tabql_data.json"

/-- The environment variable that names the data file. -/
def dataVariable : Text := "TABQL_DATA"

/-- How the program is called. -/
def usageText : Text :=
  joinLines [
    "usage: tabql [-h] [-t TABLE] [-c COMMAND] [-f FILE] [--nl] [-v]",
    "             [--log-level \x7bDEBUG,INFO,WARNING,ERROR\x7d]",
    "             [data_file]"]

/-- The answer to a call for help. -/
def helpText : Text :=
  usageText ++ joinLines [
    "",
    "Query tables with a small SQL dialect or natural language",
    "",
    "positional arguments:",
    "  data_file             JSON file holding the tables (default: $TABQL_DATA or",
    "                        tabql_data.json)",
    "",
    "options:",
    "  -h, --help            show this help message and exit",
    "  -t TABLE, --table TABLE",
    "                        Name of the table to query (default: the first table)",
    "  -c COMMAND, --command COMMAND",
    "                        Execute a single query and exit",
    "  -f FILE, --file FILE  Execute queries from a file and exit",
    "  --nl                  Treat queries as natural language instead of SQL",
    "  -v, --verbose         Print each query before executing (for -f/--file)",
    "  --log-level \x7bDEBUG,INFO,WARNING,ERROR\x7d",
    "                        Logging level (default: WARNING)"]

/-- The help of the dialogue. -/
def dialogueHelp : Text :=
  joinLines [
    "Statements (SQL mode):",
    "  SELECT * FROM \"Table\" WHERE \"Col\" > 10 ORDER BY \"Col\" DESC LIMIT 5",
    "  INSERT INTO \"Table\" (\"A\", \"B\") VALUES (\"x\", 1)",
    "  UPDATE \"Table\" SET \"A\" = \"y\" WHERE \"B\" = 1",
    "  DELETE FROM \"Table\" WHERE \"B\" = 1",
    "  ALTER TABLE \"Table\" RENAME TO \"New\" | ADD COLUMN \"C\" | DROP COLUMN \"C\"",
    "Natural language (nl mode):",
    "  show rows where age greater than 40 sort by age desc top 5",
    "Commands:",
    "  tables            list tables",
    "  use <table>       switch the current table",
    "  mode sql|nl       switch the query mode",
    "  help              show this text",
    "  exit | quit       leave the REPL"]

/-- The greeting of the dialogue. -/
def banner : Text :=
  joinLines ["TabQL REPL - query tables with SQL or plain English",
    "Type 'help' for commands, 'exit' to quit.", ""]

/-- A line on the standard output. -/
def say (line : Text) : Chunk :=
  .out (line ++ "\n")

/-- A line on the error output that reports an error. -/
def complain (message : Text) : Chunk :=
  .err ("Error: " ++ message ++ "\n")

/-! ### State -/

/-- How a run ends: with an exit code, or with a fault that nothing handles. -/
inductive Exit
  | code (n : Nat)
  | escaped (fault : Fault)
  deriving DecidableEq

/-- What the program keeps between queries. -/
structure Shell where
  store : Store
  current : Option Table
  mode : Mode
  logLevel : LogLevel
  output : Output

/-- What a part of a run gives: how it ends, the state, and what it prints. -/
structure ShellRun where
  exit : Exit
  shell : Shell
  chunks : List Chunk

namespace Shell

/-- The table that is asked for. -/
def findTable (choice : TableChoice) (shell : Shell) :
    Except Fault (Option Table) × Shell × List Chunk :=
  let step := match choice with
    | .first => shell.store.load.map List.head?
    | .named name => shell.store.findByName? name
  (step.answer, { shell with store := step.store },
    printEvents shell.logLevel step.events)

/-- How an outcome is shown. All of it is written before any of it is printed. -/
def display (outcome : Outcome) (shell : Shell) : Printing :=
  match outcome.display with
  | .ok lines => shell.output.print (lines.map say)
  | .error f => .failed f

/-- What is printed of a query: the reports, and what it yields. -/
def printing (run : Run) (shell : Shell) : Printing :=
  (shell.output.print (printEvents shell.logLevel run.events)).andThen <|
    match run.reply with
    | .outcome outcome => shell.display outcome
    | .raised _ => .nothing

/-- Run a query on a table. A query that changes the table makes the new one current. A fault in
printing comes too late to change the store, but takes the place of the reply. -/
def ask (text : Text) (table : Table) (shell : Shell) : Reply × Shell × List Chunk :=
  let run := shell.store.run Plan.defaultLimit shell.mode table.id text
  let printing := shell.printing run
  let after := { shell with store := run.store, current := some table }
  match printing.fault?, run.reply with
  | some f, _ => (.raised (.fault f), after, printing.chunks)
  | none, .raised failure => (.raised failure, after, printing.chunks)
  | none, .outcome outcome =>
    (.outcome outcome, { after with current := some (outcome.table.getD table) }, printing.chunks)

/-- The complaint about a fault that a query raises; errors are reported already. -/
def complaints : Reply → List Chunk
  | .raised (.fault f) => [complain f.message]
  | _ => []

/-- The complaint about a table that is not there. -/
def noTable (choice : TableChoice) : Chunk :=
  complain ("Table not found: " ++ choice.spelling)

/-! ### A single query -/

/-- Run one query and end. -/
def runCommand (choice : TableChoice) (text : Text) (shell : Shell) : ShellRun :=
  let (found, shell, chunks) := shell.findTable choice
  match found with
  | .error f => ⟨.code 1, shell, chunks ++ [complain f.message]⟩
  | .ok none => ⟨.code 1, shell, chunks ++ [noTable choice]⟩
  | .ok (some table) =>
    let (reply, shell, more) := shell.ask text table
    ⟨.code (if reply.success then 0 else 1), shell, chunks ++ more ++ complaints reply⟩

/-! ### Scripts -/

/-- A query shown before it runs. -/
def echo (text : Text) : List Chunk :=
  match splitOn '\n' text with
  | [] => []
  | first :: rest => say (">>> " ++ first) :: rest.map fun line => say ("... " ++ line)

/-- Run queries in turn up to the first that fails. -/
def runQueries (verbose : Bool) (table : Table) : List Text → Shell → ShellRun
  | [], shell => ⟨.code 0, shell, []⟩
  | text :: texts, shell =>
    let shown := shell.output.print (if verbose then echo text else [])
    match shown.fault? with
    | some f => ⟨.escaped f, shell, shown.chunks⟩
    | none =>
      let (reply, shell, chunks) := shell.ask text table
      match reply with
      | .raised (.fault f) => ⟨.escaped f, shell, shown.chunks ++ chunks⟩
      | .raised (.query _) => ⟨.code 1, shell, shown.chunks ++ chunks⟩
      | .outcome outcome =>
        if outcome.success then
          let later := runQueries verbose (outcome.table.getD table) texts shell
          { later with chunks := shown.chunks ++ chunks ++ later.chunks }
        else ⟨.code 1, shell, shown.chunks ++ chunks⟩

/-- The queries of a script. -/
def splitScript (mode : Mode) (script : Text) : List Text :=
  match mode with
  | .sql => scriptStatements (unifyBreaks script)
  | .naturalLanguage => scriptPhrases (unifyBreaks script)

/-- What a script holds after the tables are loaded. Loading can write the data file, and the
script can be that file. -/
def scriptState (state : FileState) (isDataFile : Bool) (store : Store) : FileState :=
  match isDataFile, store.storage with
  | true, .file _ _ dataState => dataState
  | _, _ => state

/-- Run the queries of a script and end. -/
def runScript (a : Arguments) (path : Text) (state : FileState) (isDataFile : Bool)
    (shell : Shell) : ShellRun :=
  match state with
  | .missing => ⟨.code 1, shell, [complain ("File not found: " ++ path)]⟩
  | .unreachable f => ⟨.escaped f, shell, []⟩
  | _ =>
    let (found, shell, chunks) := shell.findTable a.table
    match found with
    | .error f => ⟨.escaped f, shell, chunks⟩
    | .ok none => ⟨.code 1, shell, chunks ++ [noTable a.table]⟩
    | .ok (some table) =>
      match scriptState state isDataFile shell.store with
      | .content script =>
        let later := runQueries a.verbose table (splitScript shell.mode script) shell
        { later with chunks := chunks ++ later.chunks }
      | .unreadable f | .unreachable f => ⟨.escaped f, shell, chunks⟩
      | .missing => ⟨.code 1, shell, chunks⟩

/-! ### Dialogue -/

/-- The line about the current table. -/
def currentLine (table : Table) : Chunk :=
  say ("Current table: " ++ table.shownName)

/-- Greet, and take up the table that is asked for or the first one. -/
def start (choice : TableChoice) (shell : Shell) : Except Fault Unit × Shell × List Chunk :=
  let (found, shell, chunks) := shell.findTable choice
  match found with
  | .error f => (.error f, shell, .out banner :: chunks)
  | .ok current =>
    let line := match current with
      | none => say "No table selected. Use 'tables' and 'use <table>'."
      | some table => currentLine table
    let shown := shell.output.print [line]
    let answer := match shown.fault? with
      | none => .ok ()
      | some f => .error f
    (answer, { shell with current := current }, .out banner :: chunks ++ shown.chunks)

/-- What the dialogue writes before it reads a line. -/
def prompt (shell : Shell) : Text :=
  shell.mode.name ++ "> "

/-- How a step of the dialogue goes on. -/
inductive Next
  | goOn
  | leave
  | escaped (fault : Fault)

/-- How the dialogue goes on after printing. -/
def Next.after (printing : Printing) : Next :=
  match printing.fault? with
  | none => .goOn
  | some f => .escaped f

/-- The line about a table in the list of tables. -/
def tableLine (current : Option Table) (table : Table) : Chunk :=
  let mark := if current.any (·.id == table.id) then "*" else " "
  say (mark ++ " " ++ table.shownName ++ " (" ++ naturalText table.rows.length ++
    " rows; columns: " ++ joinWith ", " (table.columns) ++ ")")

/-- List the tables. -/
def listTables (shell : Shell) : Next × Shell × List Chunk :=
  let step := shell.store.load
  let chunks := printEvents shell.logLevel step.events
  let after := { shell with store := step.store }
  match step.answer with
  | .error f => (.escaped f, after, chunks)
  | .ok tables =>
    let shown := shell.output.print (tables.map (tableLine shell.current))
    (.after shown, after, chunks ++ shown.chunks)

/-- A code point that may surround the name of a table. -/
def isQuote (p : Point) : Bool :=
  p == '"' || p == '\''

/-- A name without the quotes around it. -/
def unquoted (t : Text) : Text :=
  (((trim t).dropWhile isQuote).reverse.dropWhile isQuote).reverse

/-- Make the table with a name current. -/
def useTable (name : Text) (shell : Shell) : Next × Shell × List Chunk :=
  let (found, shell, chunks) := shell.findTable (.named (.scalar (.text name)))
  match found with
  | .error f => (.escaped f, shell, chunks)
  | .ok none =>
    let shown := shell.output.print [say ("Error: Table not found: " ++ name)]
    (.after shown, shell, chunks ++ shown.chunks)
  | .ok (some table) =>
    let shown := shell.output.print [currentLine table]
    (.after shown, { shell with current := some table }, chunks ++ shown.chunks)

/-- Run a query on the current table. -/
def query (text : Text) (shell : Shell) : Next × Shell × List Chunk :=
  match shell.current with
  | none => (.goOn, shell, [say "Error: No table selected. Use 'use <table>' first."])
  | some table =>
    let (reply, shell, chunks) := shell.ask text table
    (.goOn, shell, chunks ++ complaints reply)

/-- Act on a line of the dialogue. -/
def step (line : Text) (shell : Shell) : Next × Shell × List Chunk :=
  let text := trim line
  let folded := lower text
  if text.isEmpty then (.goOn, shell, [])
  else if folded = "exit" ∨ folded = "quit" then (.leave, shell, [])
  else if folded = "help" then (.goOn, shell, [.out dialogueHelp])
  else if folded = "tables" then shell.listTables
  else if (ofString "use ").isPrefixOf folded then shell.useTable (unquoted (text.drop 4))
  else if (ofString "mode ").isPrefixOf folded then
    match Mode.ofName (trim (folded.drop 5)) with
    | .ok mode => (.goOn, { shell with mode := mode }, [])
    | .error _ => (.goOn, shell, [say "Error: mode must be 'sql' or 'nl'"])
  else shell.query text

/-- Go through the lines of the input. The end of the input ends the dialogue. -/
def converse : List Text → Shell → ShellRun
  | [], shell => ⟨.code 0, shell, [.out (shell.prompt ++ "\n")]⟩
  | line :: lines, shell =>
    let (next, after, chunks) := shell.step line
    let chunks := .out shell.prompt :: chunks
    match next with
    | .leave => ⟨.code 0, after, chunks⟩
    | .escaped f => ⟨.escaped f, after, chunks⟩
    | .goOn =>
      let later := converse lines after
      { later with chunks := chunks ++ later.chunks }

/-- Hold the dialogue. -/
def runDialogue (choice : TableChoice) (input : List Text) (shell : Shell) : ShellRun :=
  let (found, shell, chunks) := shell.start choice
  match found with
  | .error f => ⟨.escaped f, shell, chunks⟩
  | .ok () =>
    let later := converse input shell
    { later with chunks := chunks ++ later.chunks }

/-! ### Command lines -/

/-- The shell at the start of a run. -/
def ofArguments (a : Arguments) (level : LogLevel) (dataPath : Text) (state : FileState)
    (ids : IdSupply) (output : Output) : Shell :=
  ⟨⟨.file dataPath true state, ids⟩, none,
    if a.naturalLanguage then .naturalLanguage else .sql, level, output⟩

end Shell

/-- The path of the data file: the one given, the one in the environment, or the default. -/
def dataPath (a : Arguments) (environment : Option Text) : Text :=
  a.dataFile.getD (normalizePath (environment.getD defaultDataFile))

/-- What a command line asks for. -/
inductive Job
  | script (path : Text)
  | command (text : Text)
  | dialogue

/-- A script goes before a command, and an empty command is none. -/
def Arguments.job (a : Arguments) : Job :=
  match a.file, a.command with
  | some path, _ => .script path
  | none, some text => if text.isEmpty then .dialogue else .command text
  | none, none => .dialogue

/-- What is printed when the arguments are not gone through to the end, and the exit code. -/
def Halt.report : Halt → Nat × Chunk
  | .help => (0, .out helpText)
  | .error e => (2, .err (usageText ++ programName ++ ": error: " ++ e.message ++ "\n"))

/-- The lines of an input; a line feed at the very end starts no further line. -/
def inputLines (input : Text) : List Text :=
  match (splitOn '\n' input).reverse with
  | [] :: lines => lines.reverse
  | lines => lines.reverse

/-- What a run gives: how it ends, the files after it, and what it prints. -/
structure LineRun where
  exit : Exit
  disk : Disk
  chunks : List Chunk

/-- The disk after a run: with the data file, if there is one. -/
def Shell.writeTo (shell : Shell) (disk : Disk) : Disk :=
  match shell.store.storage with
  | .file path _ (.content text) => disk.write path text
  | _ => disk

/-- Run what the arguments ask for on the files of a disk. -/
def Arguments.run (a : Arguments) (environment : Option Text) (disk : Disk) (ids : IdSupply)
    (input : Text) (output : Output) : LineRun :=
  match a.logLevel with
  | none => ⟨.escaped .noLevel, disk, []⟩
  | some level =>
    let path := dataPath a environment
    let shell := Shell.ofArguments a level path (disk.dataFile path) ids output
    let session := match a.job with
      | .script script =>
        shell.runScript a script (disk.script script) (disk.keepsDataIn path script)
      | .command text => shell.runCommand a.table text
      | .dialogue => shell.runDialogue a.table (inputLines input)
    ⟨session.exit, session.shell.writeTo disk, session.chunks⟩

/-- Run a command line on the files of a disk. -/
def runLine (line : List Text) (environment : Option Text) (disk : Disk) (ids : IdSupply)
    (input : Text) (output : Output) : LineRun :=
  match Arguments.parse line with
  | .error halt => ⟨.code halt.report.1, disk, [halt.report.2]⟩
  | .ok a => a.run environment disk ids input output

end TableQuery
