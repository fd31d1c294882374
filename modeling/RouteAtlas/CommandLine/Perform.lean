import RouteAtlas.CommandLine.Command
import RouteAtlas.CommandLine.Report
import RouteAtlas.Store.Variables
import RouteAtlas.Workspace.Detect
import RouteAtlas.Workspace.Scan

/-
  Carrying out commands on a disk.

  A command that comes to its end answers an exit code and
  the lines it prints.  It halts before if a workspace or a
  file does not exist, which is a misuse of the command, and
  when it breaks down; nothing is printed then.  What it
  changed on the disk stays changed in either case.
-/

------------------------------------------------------------
-- Jobs
------------------------------------------------------------

namespace RouteAtlas

/- What a command says at its end. -/
structure Outcome where
  exitCode : Nat
  lines : List Text
deriving DecidableEq, Repr

/- The lines, each with its end. -/
def Outcome.output
    (outcome : Outcome) :
    Text :=
  outcome.lines.flatMap (· ++ ['\n'])

/- Why a command does not come to its end. -/
inductive Halt where
  | refused (refusal : Refusal)
  | broken (cause : Breakdown)
deriving DecidableEq, Repr

/- A part of a command: it works on the disk and may halt. -/
abbrev Job := ExceptT Halt (StateM Disk)

namespace Job

variable {α : Type}

/- Goes on with what did not break down. -/
def attempt :
    Except Breakdown α → Job α
  | .ok a => pure a
  | .error cause => throw (.broken cause)

/- Ends with an exit code and the lines that are printed. -/
def finish
    (exitCode : Nat)
    (lines : Except Breakdown (List Text)) :
    Job Outcome := do
  return ⟨exitCode, ← attempt lines⟩

/- Success, and the lines that are printed. -/
def done
    (lines : Except Breakdown (List Text)) :
    Job Outcome :=
  finish 0 lines

/- Success, and a marked-up text that is printed. -/
def said
    (message : Text) :
    Job Outcome :=
  done (Terminal.lines message)

/- Nothing found, which a marked-up text tells. -/
def missed
    (message : Text) :
    Job Outcome :=
  finish 1 (Terminal.lines message)

/- Goes on with what did not fail; a failure is told. -/
def orTell
    (result : Except Failure α)
    (next : α → Job Outcome) :
    Job Outcome :=
  match result with
  | .ok a => next a
  | .error (.broken cause) => throw (.broken cause)
  | .error failure => missed (Report.failure failure)

end Job

------------------------------------------------------------
-- Places
------------------------------------------------------------

namespace Command

open Job

/- The path that a text names, if it is one of some kind. -/
def place
    (isOfKind : Disk → Path → Except Breakdown Bool)
    (t : Text) :
    Job Path := do
  let disk ← get
  let path ← attempt (disk.canonical (.ofText t))
  if ← attempt (isOfKind disk path) then
    return path
  else
    throw (.refused .misuse)

/- The workspace that a text names. -/
def workspace
    (t : Text) :
    Job Path :=
  place Disk.isDirectory t

/- The file that a text names. -/
def file
    (t : Text) :
    Job Path :=
  place Disk.isFile t

/- The settings of a workspace. -/
def settings
    (workspace : Path) :
    Job Settings := do
  attempt (Settings.load (← get) workspace)

------------------------------------------------------------
-- Routes
------------------------------------------------------------

/- The routes of a workspace with their names. -/
def scanned
    (disk : Disk)
    (settings : Settings)
    (workspace : Path) :
    Except Failure (List Route) := do
  let (result, _) ←
    Workspace.scan disk ⟨settings, none, false⟩
      (disk.world settings) workspace (.ofSettings settings)
  let (result, _) ←
    (result.named disk workspace []).mapError .broken
  return result.routes

/-
  Goes on with the variables of a workspace and with its
  catalogue, sorted as it is asked for.
-/
def withCatalog
    (workspace : Path)
    (sortBy : Option SortKey)
    (next : Variables → Catalog → Job Outcome) :
    Job Outcome := do
  let disk ← get
  let settings ← settings workspace
  let values ← attempt (Variables.load disk workspace)
  let empty := Catalog.empty (sortBy.getD settings.sortBy)
    settings.controllerSuffix
  orTell (scanned disk settings workspace) fun routes =>
    next values (empty.withRoutes routes)

/- The catalogue with a search text, if one is given. -/
def searched
    (search : Option Text)
    (catalog : Catalog) :
    Catalog :=
  match search with
  | none | some [] => catalog
  | some text => catalog.search text

/- The routes of a catalogue in a format. -/
def listing
    (workspace : Path)
    (replace : Text → Text)
    (catalog : Catalog) :
    ListFormat → Except Breakdown (List Text)
  | .json =>
      .ok (Report.document
        (.array (catalog.filtered.map (·.toJson))))
  | .table => do
      let table ←
        (Report.routeTable workspace catalog.filtered).lines
      return table ++
        [Text.ofNat catalog.filtered.length ++
          " routes".toList]
  | .tree =>
      if catalog.filtered.isEmpty then
        .ok ["No routes found.".toList]
      else
        (Report.routeOutline replace catalog).lines

/- Lists the routes of a workspace. -/
def performList
    (workspace : Path)
    (search : Option Text)
    (view : ListView) :
    Job Outcome :=
  withCatalog workspace view.sortBy fun values catalog =>
    done
      (listing workspace values.replace
        (searched search catalog) view.format)

/- Tells where the routes that a query names are declared. -/
def performLocate
    (workspace : Path)
    (query : Text) :
    Job Outcome :=
  withCatalog workspace none fun _ catalog =>
    match catalog.find query with
    | [] =>
        missed
          ("No route matches ".toList ++ Text.quoted query)
    | routes =>
        done (Terminal.allLines (routes.map (·.location)))

/- Detects the endpoint on a line of a file. -/
def performDetect
    (file workspace : Path)
    (line : Int)
    (format : EndpointFormat) :
    Job Outcome := do
  let disk ← get
  let settings ← settings workspace
  let found ← attempt
    (Endpoint.resolveIn disk (disk.world settings) settings
      file line (.ofSettings settings)).1
  match found, format with
  | none, _ =>
      missed
        ("No API endpoint declared at ".toList ++ file.text ++
          ':' :: Text.ofInt line)
  | some endpoint, .json =>
      done (.ok (Report.document endpoint.toJson))
  | some endpoint, .text =>
      done (Report.endpointLines endpoint)

/- Tells the base URL of the project of a file. -/
def performBaseUrl
    (file workspace : Path) :
    Job Outcome := do
  let disk ← get
  let settings ← settings workspace
  let world := disk.world settings
  let (found, resolver) :=
    (Resolver.ofSettings settings).descriptor world file.text
  match ← attempt found with
  | none =>
      missed ("No project found for ".toList ++ file.text)
  | some project =>
      let base ← attempt
        (resolver.baseUrl world project.parent).1
      done
        (Terminal.allLines
          ["project: ".toList ++ project.text,
           "base url: ".toList ++ base.getD ['-']])

------------------------------------------------------------
-- Aliases
------------------------------------------------------------

/- Lists the aliases of a workspace. -/
def performListAliases
    (workspace : Path) :
    Job Outcome := do
  let aliases ← attempt (Aliases.load (← get) workspace)
  done (Report.aliasTable aliases).lines

/- Gives a route an alias. -/
def performSetAlias
    (workspace : Path)
    (verb route aliasName : Text) :
    Job Outcome := do
  let disk ← get
  let aliases ← attempt (Aliases.load disk workspace)
  orTell
    (aliases.assign workspace route verb aliasName disk).2
    fun changed => do
      set changed
      said (Report.aliasSet verb route aliasName)

/- Takes the alias of a route away. -/
def performClearAlias
    (workspace : Path)
    (verb route : Text) :
    Job Outcome := do
  let disk ← get
  let aliases ← attempt (Aliases.load disk workspace)
  orTell (aliases.withdraw workspace route verb disk).2
    fun (known, changed) => do
      set changed
      said
        (if known then "Alias cleared".toList
        else "No alias for that route".toList)

------------------------------------------------------------
-- Variables
------------------------------------------------------------

/- Lists the variables of a workspace. -/
def performListVariables
    (workspace : Path) :
    Job Outcome := do
  let values ← attempt (Variables.load (← get) workspace)
  done
    (Terminal.allLines
      (values.map fun (key, value) =>
        Report.variableLine key value))

/- Gives a variable a value. -/
def performSetVariable
    (workspace : Path)
    (key value : Text) :
    Job Outcome := do
  let disk ← get
  let values ← attempt (Variables.load disk workspace)
  orTell (values.assign workspace key value disk).2
    fun changed => do
      set changed
      said (Report.variableLine key value)

/- Takes a variable away. -/
def performRemoveVariable
    (workspace : Path)
    (key : Text) :
    Job Outcome := do
  let disk ← get
  let values ← attempt (Variables.load disk workspace)
  orTell (values.withdraw workspace key disk).2
    fun (known, changed) => do
      set changed
      said
        (if known then "Removed".toList
        else
          "No variable ".toList ++
            Text.quoted (Markup.escape key))

/- Makes a file of variables where there is none. -/
def performInitVariables
    (workspace : Path) :
    Job Outcome := do
  let disk ← get
  orTell (Variables.ensureFile workspace [] disk).2
    fun (created, changed) => do
      set changed
      let word :=
        if created then "Created: ".toList
        else "Exists: ".toList
      let file := StateFile.path workspace Variables.fileName
      said (word ++ file.text)

------------------------------------------------------------
-- All Commands
------------------------------------------------------------

/- A command as a job. -/
def job :
    Command → Job Outcome
  | .listRoutes place search view => do
      let workspace ← workspace place
      match view with
      | some view => performList workspace search view
      | none => throw (.refused .misuse)
  | .detectEndpoint place line format directory => do
      let file ← file place
      let workspace ← workspace directory
      performDetect file workspace line format
  | .locateRoutes query place => do
      performLocate (← workspace place) query
  | .showBaseUrl place directory => do
      let file ← attempt
        ((← get).canonical (.ofText place))
      performBaseUrl file (← workspace directory)
  | .listAliases place => do
      performListAliases (← workspace place)
  | .setAlias verb route aliasName place => do
      performSetAlias (← workspace place) verb route aliasName
  | .clearAlias verb route place => do
      performClearAlias (← workspace place) verb route
  | .listVariables place => do
      performListVariables (← workspace place)
  | .setVariable key value place => do
      performSetVariable (← workspace place) key value
  | .removeVariable key place => do
      performRemoveVariable (← workspace place) key
  | .initVariables place => do
      performInitVariables (← workspace place)
  | .ping => said "pong".toList

/- Carries out a command, which may change the disk. -/
def perform
    (command : Command)
    (disk : Disk) :
    Except Halt Outcome × Disk :=
  StateT.run (ExceptT.run command.job) disk

/- Carries out the command that some arguments name. -/
def run
    (arguments : List Text)
    (disk : Disk) :
    Except Halt Outcome × Disk :=
  match ofArguments arguments with
  | .ok command => command.perform disk
  | .error refusal => (.error (.refused refusal), disk)

end Command

end RouteAtlas
