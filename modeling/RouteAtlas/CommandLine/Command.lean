import RouteAtlas.CommandLine.Arguments
import RouteAtlas.Settings.Basic
import RouteAtlas.Validation.Conversion

/-
  Commands, and the arguments that name them.

  A command is named by one word, or by the word of a group
  and one of its own.  Workspaces and files are named by
  texts here; whether they exist is found out later.
-/

------------------------------------------------------------
-- Commands
------------------------------------------------------------

namespace RouteAtlas

/- How a list of routes is shown. -/
inductive ListFormat where
  | tree
  | table
  | json
deriving DecidableEq, Repr

/- How an endpoint is shown. -/
inductive EndpointFormat where
  | text
  | json
deriving DecidableEq, Repr

/- How a list of routes is sorted and shown. -/
structure ListView where
  sortBy : Option SortKey
  format : ListFormat
deriving DecidableEq, Repr

/-
  Something that the program is asked to do.  A list whose
  view makes no sense is refused, but not before its
  workspace has been found.
-/
inductive Command where
  | listRoutes
      (workspace : Text)
      (search : Option Text)
      (view : Option ListView)
  | detectEndpoint
      (file : Text)
      (line : Int)
      (format : EndpointFormat)
      (workspace : Text)
  | locateRoutes (query workspace : Text)
  | showBaseUrl (file workspace : Text)
  | listAliases (workspace : Text)
  | setAlias (verb route aliasName workspace : Text)
  | clearAlias (verb route workspace : Text)
  | listVariables (workspace : Text)
  | setVariable (key value workspace : Text)
  | removeVariable (key workspace : Text)
  | initVariables (workspace : Text)
  | ping
deriving DecidableEq, Repr

------------------------------------------------------------
-- Formats
------------------------------------------------------------

/- The format of a list, letter case and blanks aside. -/
def ListFormat.ofText?
    (t : Text) :
    Option ListFormat :=
  [("tree".toList, .tree), ("table".toList, .table),
    ("json".toList, .json)].lookup
      (Text.strip (Text.lower t))

/- The format of an endpoint; text unless JSON is named. -/
def EndpointFormat.ofText
    (t : Text) :
    EndpointFormat :=
  if Text.lower t == "json".toList then .json else .text

------------------------------------------------------------
-- Options
------------------------------------------------------------

namespace Command

/- The option that names the workspace. -/
def workspaceOption : Text :=
  "--workspace".toList

/- The option that names the format. -/
def formatOption : Text :=
  "--format".toList

/- The option that gives the search text. -/
def searchOption : Text :=
  "--search".toList

/- The option that gives the sort key. -/
def sortOption : Text :=
  "--sort-by".toList

/- The workspace that is meant where none is named. -/
def defaultWorkspace : Text :=
  ['.']

/- The workspace named by an option. -/
def workspaceOf
    (arguments : Arguments) :
    Text :=
  (arguments.option? workspaceOption).getD defaultWorkspace

/- A value that has to be there. -/
def known
    {α : Type} :
    Option α → Except Refusal α
  | some a => .ok a
  | none => .error .misuse

------------------------------------------------------------
-- Readers
------------------------------------------------------------

/- What reads the arguments of some commands. -/
abbrev Reader := List Text → Except Refusal Command

/- A command with one optional operand, a workspace. -/
def ofWorkspace
    (make : Text → Command) :
    Reader :=
  fun arguments => do
    let a ← Arguments.read ⟨0, 1, []⟩ arguments
    return make (a.operand 0 defaultWorkspace)

/- A command with operands and a workspace option. -/
def ofOperands
    (count : Nat)
    (make : Arguments → Except Refusal Command) :
    Reader :=
  fun arguments => do
    make
      (← Arguments.read ⟨count, 0, [workspaceOption]⟩
        arguments)

/- The view that the options of a list ask for. -/
def listView?
    (arguments : Arguments) :
    Option ListView := do
  let format ←
    match arguments.option? formatOption with
    | none => some .tree
    | some t => ListFormat.ofText? t
  let sortBy ←
    match arguments.option? sortOption with
    | none => some none
    | some t => (SortKey.ofText? t).map some
  return ⟨sortBy, format⟩

/- The command that lists routes. -/
def ofListArguments : Reader :=
  fun arguments => do
    let options := [searchOption, sortOption, formatOption]
    let a ← Arguments.read ⟨0, 1, options⟩ arguments
    return .listRoutes (a.operand 0 defaultWorkspace)
      (a.option? searchOption) (listView? a)

/- The command that detects an endpoint. -/
def ofDetectArguments : Reader :=
  fun arguments => do
    let options := [formatOption, workspaceOption]
    let a ← Arguments.read ⟨2, 0, options⟩ arguments
    let line ← known (Conversion.intOfText? (a.operand 1 []))
    let format :=
      ((a.option? formatOption).map
        EndpointFormat.ofText).getD .text
    return .detectEndpoint (a.operand 0 []) line format
      (workspaceOf a)

------------------------------------------------------------
-- Groups
------------------------------------------------------------

/-
  A group of commands, each named by its word, behind flags
  that are passed over.
-/
def ofGroup
    (isFlag : Text → Bool)
    (readers : List (Text × Reader)) :
    Reader :=
  fun arguments => do
    match ← dropFlags isFlag arguments with
    | [] => throw .misuse
    | word :: rest =>
        match readers.lookup word with
        | some read => read rest
        | none => throw .misuse

/- A group without flags. -/
def ofPlainGroup
    (readers : List (Text × Reader)) :
    Reader :=
  ofGroup (fun _ => false) readers

/- The commands on routes. -/
def ofRouteArguments : Reader :=
  ofPlainGroup
    [("list".toList, ofListArguments),
     ("detect".toList, ofDetectArguments)]

/- The commands on aliases. -/
def ofAliasArguments : Reader :=
  ofPlainGroup
    [("list".toList, ofWorkspace .listAliases),
     ("set".toList, ofOperands 3 fun a =>
       return .setAlias (a.operand 0 []) (a.operand 1 [])
         (a.operand 2 []) (workspaceOf a)),
     ("clear".toList, ofOperands 2 fun a =>
       return .clearAlias (a.operand 0 []) (a.operand 1 [])
         (workspaceOf a))]

/- The commands on variables. -/
def ofVariableArguments : Reader :=
  ofPlainGroup
    [("list".toList, ofWorkspace .listVariables),
     ("set".toList, ofOperands 2 fun a =>
       return .setVariable (a.operand 0 []) (a.operand 1 [])
         (workspaceOf a)),
     ("remove".toList, ofOperands 1 fun a =>
       return .removeVariable (a.operand 0 [])
         (workspaceOf a)),
     ("init".toList, ofWorkspace .initVariables)]

/- Whether an argument asks for more to be logged. -/
def isVerboseFlag
    (argument : Text) :
    Bool :=
  match argument with
  | '-' :: 'v' :: rest => rest.all (· == 'v')
  | _ => argument == "--verbose".toList

/- The command that some arguments name. -/
def ofArguments : Reader :=
  ofGroup isVerboseFlag
    [("routes".toList, ofRouteArguments),
     ("alias".toList, ofAliasArguments),
     ("vars".toList, ofVariableArguments),
     ("goto".toList, ofOperands 1 fun a =>
       return .locateRoutes (a.operand 0 []) (workspaceOf a)),
     ("baseurl".toList, ofOperands 1 fun a =>
       return .showBaseUrl (a.operand 0 []) (workspaceOf a)),
     ("ping".toList, fun arguments => do
       let _ ← Arguments.read ⟨0, 0, []⟩ arguments
       return .ping)]

end Command

end RouteAtlas
