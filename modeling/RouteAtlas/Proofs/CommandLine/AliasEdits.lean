import Mathlib
import RouteAtlas.Proofs.CommandLine.Jobs
import RouteAtlas.Proofs.Store.Aliases
import RouteAtlas.Proofs.Workspace.Listing

/-
  Aliases that are set and cleared by commands.

  Each command loads the aliases of the workspace, changes
  one of them and saves all.  A scan afterwards names each
  route as the last command on it says, and is otherwise the
  same as a scan without names.

  Main statements:
    * `disk_perform_edit`
    * `Ready.performAll`
    * `get?_foldl_apply`
    * `namedScan_performAll`
-/

------------------------------------------------------------
-- Edits
------------------------------------------------------------

namespace RouteAtlas

/- A command on the alias of a route. -/
inductive AliasEdit where
  | give (verb route aliasName : Text)
  | take (verb route : Text)
deriving DecidableEq, Repr

namespace AliasEdit

/- The command in a workspace. -/
def command
    (place : Text) :
    AliasEdit → Command
  | .give verb route aliasName =>
      .setAlias verb route aliasName place
  | .take verb route => .clearAlias verb route place

def verb :
    AliasEdit → Text
  | .give verb _ _ => verb
  | .take verb _ => verb

def route :
    AliasEdit → Text
  | .give _ route _ => route
  | .take _ route => route

/- The name that is given, none if it is taken away. -/
def aliasName? :
    AliasEdit → Option Text
  | .give _ _ aliasName => some aliasName
  | .take _ _ => none

/- The aliases after the edit. -/
def apply
    (aliases : Aliases) :
    AliasEdit → Aliases
  | .give verb route aliasName =>
      aliases.set route verb aliasName
  | .take verb route => aliases.clear route verb

/- Whether the edit is on a route, letter case aside. -/
def concerns
    (edit : AliasEdit)
    (route : Route) :
    Bool :=
  Text.lower edit.verb == Text.lower route.verb.text &&
    Text.lower edit.route == Text.lower route.path

/- The last edit on a route. -/
def last?
    (edits : List AliasEdit)
    (route : Route) :
    Option AliasEdit :=
  edits.reverse.find? (·.concerns route)

/- The name that edits leave a route with; none if empty. -/
def nameAfter
    (edits : List AliasEdit)
    (route : Route) :
    Option Text :=
  match last? edits route with
  | some (.give _ _ (c :: rest)) => some (c :: rest)
  | _ => none

/- The disk after commands in a workspace. -/
def performAll
    (place : Text)
    (edits : List AliasEdit)
    (disk : Disk) :
    Disk :=
  edits.foldl
    (fun disk edit => ((edit.command place).perform disk).2)
    disk

end AliasEdit

/- A scan that gives routes the names of the workspace. -/
def Workspace.namedScan
    (disk : Disk)
    (options : ScanOptions)
    (world : World)
    (workspace : Path)
    (resolver : Resolver) :
    Except Failure (ScanResult × Resolver) := do
  let (result, resolver) ←
    scan disk options world workspace resolver
  let (result, _) ←
    (result.named disk workspace []).mapError .broken
  return (result, resolver)

------------------------------------------------------------
-- One Command
------------------------------------------------------------

namespace AliasEdit

section Perform

variable {disk changed : Disk}
variable {place : Text}
variable {workspace : Path}
variable {aliases : Aliases}

theorem disk_performSetAlias
    (hLoaded : Aliases.load disk workspace = .ok aliases)
    {verb route aliasName : Text}
    (hSaved :
      (aliases.set route verb aliasName).save workspace disk =
        .ok changed) :
    (Job.on
      (Command.performSetAlias workspace verb route aliasName)
      disk).2 = changed := by
  unfold Command.performSetAlias
  rw [Job.on_bind (Job.on_get disk), hLoaded,
    Job.on_bind (Job.on_attempt aliases disk)]
  rw [Aliases.saved_assign hSaved]
  change
    (Job.on (set changed >>= fun _ => Job.said _) disk).2 =
      changed
  rw [Job.on_bind (Job.on_set disk changed)]
  exact Job.disk_said _ changed

theorem disk_performClearAlias
    (hLoaded : Aliases.load disk workspace = .ok aliases)
    {verb route : Text}
    (hSaved :
      (aliases.clear route verb).save workspace disk =
        .ok changed) :
    (Job.on (Command.performClearAlias workspace verb route)
      disk).2 = changed := by
  unfold Command.performClearAlias
  rw [Job.on_bind (Job.on_get disk), hLoaded,
    Job.on_bind (Job.on_attempt aliases disk)]
  rw [Aliases.saved_withdraw hSaved]
  change
    (Job.on (set changed >>= fun _ => Job.said _) disk).2 =
      changed
  rw [Job.on_bind (Job.on_set disk changed)]
  exact Job.disk_said _ changed

/- A command leaves the disk with the changed aliases. -/
theorem disk_perform_edit
    (hPlace : disk.canonical (.ofText place) = .ok workspace)
    (hDirectory : disk.isDirectory workspace = .ok true)
    (hLoaded : Aliases.load disk workspace = .ok aliases)
    (edit : AliasEdit)
    (hSaved :
      (edit.apply aliases).save workspace disk = .ok changed) :
    ((edit.command place).perform disk).2 = changed := by
  have hWorkspace :=
    Command.on_workspace hPlace hDirectory
  cases edit with
  | give verb route aliasName =>
      change
        (Job.on
          (Command.workspace place >>= fun path =>
            Command.performSetAlias path verb route aliasName)
          disk).2 = changed
      rw [Job.on_bind hWorkspace]
      exact disk_performSetAlias hLoaded hSaved
  | take verb route =>
      change
        (Job.on
          (Command.workspace place >>= fun path =>
            Command.performClearAlias path verb route)
          disk).2 = changed
      rw [Job.on_bind hWorkspace]
      exact disk_performClearAlias hLoaded hSaved

end Perform

------------------------------------------------------------
-- Many Commands
------------------------------------------------------------

/-
  What holds of the disk between commands: no directory that
  there was at the start is missing, the aliases can be
  loaded, and they can be saved.
-/
structure Ready
    (start : Disk)
    (workspace : Path)
    (aliases : Aliases)
    (disk : Disk) :
    Prop where
  keeps : start.Keeps disk
  loads : Aliases.load disk workspace = .ok aliases
  saves : ∃ changed, aliases.save workspace disk = .ok changed

section PerformAll

variable {start : Disk}
variable {place : Text}
variable {workspace : Path}
variable
  (hPlace : start.canonical (.ofText place) = .ok workspace)
  (hDirectory : start.isDirectory workspace = .ok true)

include hPlace hDirectory

theorem Ready.step
    {aliases : Aliases}
    {disk : Disk}
    (hReady : Ready start workspace aliases disk)
    (edit : AliasEdit) :
    Ready start workspace (edit.apply aliases)
      ((edit.command place).perform disk).2 := by
  rcases hReady.saves with ⟨same, hSame⟩
  rcases Aliases.exists_save hSame (edit.apply aliases) with
    ⟨changed, hSaved⟩
  have hThere :
      disk.canonical (.ofText place) = .ok workspace := by
    rw [hReady.keeps.canonical_eq, hPlace]
  rw [disk_perform_edit hThere
    (hReady.keeps.isDirectory hDirectory) hReady.loads edit
    hSaved]
  have hFormed : (edit.apply aliases).WellFormed := by
    have hOld := Aliases.wellFormed_load hReady.loads
    cases edit with
    | give verb route aliasName => exact hOld.set _ _ _
    | take verb route => exact hOld.clear _ _
  exact
    { keeps := hReady.keeps.trans (Aliases.keeps_save hSaved)
      loads := Aliases.load_save hFormed hSaved
      saves := ⟨changed, Aliases.save_same hSaved⟩ }

theorem Ready.performAll
    {aliases : Aliases}
    {disk : Disk}
    (hReady : Ready start workspace aliases disk)
    (edits : List AliasEdit) :
    Ready start workspace (edits.foldl apply aliases)
      (performAll place edits disk) := by
  induction edits generalizing aliases disk with
  | nil => exact hReady
  | cons edit edits ih =>
      exact ih (hReady.step hPlace hDirectory edit)

end PerformAll

------------------------------------------------------------
-- Names
------------------------------------------------------------

theorem colon_not_mem_verb
    (verb : HttpVerb) :
    ':' ∉ verb.text := by
  cases verb <;> decide

/- An edit is on a route if both have one key. -/
theorem concerns_eq
    {edit : AliasEdit}
    (hVerb : ':' ∉ edit.verb)
    (route : Route) :
    edit.concerns route =
      (Aliases.key edit.route edit.verb ==
        Aliases.key route.path route.verb.text) := by
  rw [Bool.eq_iff_iff, beq_iff_eq,
    Aliases.key_eq_key_iff hVerb
      (colon_not_mem_verb route.verb)]
  unfold concerns
  rw [Bool.and_eq_true, beq_iff_eq, beq_iff_eq]

theorem get?_apply
    {edit : AliasEdit}
    (hVerb : ':' ∉ edit.verb)
    (route : Route)
    (aliases : Aliases) :
    (edit.apply aliases).get? route.path route.verb.text =
      if edit.concerns route then edit.aliasName?
      else aliases.get? route.path route.verb.text := by
  rw [concerns_eq hVerb]
  cases edit with
  | give verb path aliasName =>
      exact Pairs.get?_put _ _ aliasName aliases
  | take verb path => exact Pairs.get?_erase _ _ aliases

/-
  By induction from the last edit on: it decides if it is on
  the route, and else does not change what was decided.
-/
theorem get?_foldl_apply
    {edits : List AliasEdit}
    (hVerbs : ∀ edit ∈ edits, ':' ∉ edit.verb)
    (route : Route) :
    Aliases.get? route.path route.verb.text
        (edits.foldl apply []) =
      (last? edits route).bind aliasName? := by
  induction edits using List.reverseRecOn with
  | nil => rfl
  | append_singleton edits edit ih =>
      have hVerb : ':' ∉ edit.verb :=
        hVerbs edit (by simp)
      have hBefore := ih fun other hOther =>
        hVerbs other (List.mem_append_left _ hOther)
      unfold last? at hBefore ⊢
      rw [List.foldl_append, List.foldl_cons, List.foldl_nil,
        get?_apply hVerb, hBefore, List.reverse_concat,
        List.find?_cons]
      cases edit.concerns route with
      | true => rfl
      | false => rfl

/- The edits decide the name of a route. -/
theorem withAlias_foldl_apply
    {edits : List AliasEdit}
    (hVerbs : ∀ edit ∈ edits, ':' ∉ edit.verb)
    (route : Route) :
    route.withAlias
        (Aliases.get? route.path route.verb.text
          (edits.foldl apply [])) =
      { route with aliasName := nameAfter edits route } := by
  rw [get?_foldl_apply hVerbs]
  unfold Route.withAlias nameAfter
  congr 1
  cases last? edits route with
  | none => rfl
  | some edit =>
      cases edit with
      | give verb path aliasName => cases aliasName <;> rfl
      | take verb path => rfl

end AliasEdit

------------------------------------------------------------
-- Scans
------------------------------------------------------------

namespace Workspace

/- The result with names for its routes, else the same. -/
def ScanResult.renamed
    (aliasName? : Route → Option Text)
    (result : ScanResult) :
    ScanResult :=
  { result with
    routes :=
      result.routes.map fun route =>
        { route with aliasName := aliasName? route } }

section Scan

variable {disk : Disk}
variable {options : ScanOptions}
variable {world : World}
variable {workspace : Path}
variable {resolver : Resolver}

/- A scan with names is a scan whose routes are named. -/
theorem namedScan_of_load
    {aliases : Aliases}
    (hLoads : Aliases.load disk workspace = .ok aliases) :
    namedScan disk options world workspace resolver =
      (scan disk options world workspace resolver).map
        fun (result, resolver) =>
          (result.withNames aliases, resolver) := by
  unfold namedScan
  cases hScan :
    scan disk options world workspace resolver with
  | error failure => rfl
  | ok found =>
      rcases found with ⟨result, resolver'⟩
      cases hProject : result.hasProject with
      | true =>
          simp only [ScanResult.named, hProject, if_true,
            hLoads, bind, Except.bind]
          rfl
      | false =>
          have hNames : result.withNames aliases = result := by
            have hRoutes := (scan_cases hScan).2 hProject
            unfold ScanResult.withNames Aliases.apply
            rw [hRoutes, List.map_nil, ← hRoutes]
          simp only [ScanResult.named, hProject,
            Bool.false_eq_true, if_false, bind, Except.bind,
            Except.map, hNames]
          rfl

end Scan

end Workspace

namespace AliasEdit

theorem withNames_foldl_apply
    {edits : List AliasEdit}
    (hVerbs : ∀ edit ∈ edits, ':' ∉ edit.verb)
    (result : Workspace.ScanResult) :
    result.withNames (edits.foldl apply []) =
      result.renamed (nameAfter edits) := by
  unfold Workspace.ScanResult.withNames
    Workspace.ScanResult.renamed Aliases.apply
  simp only [withAlias_foldl_apply hVerbs]

/-
  Whatever commands set and cleared aliases in a workspace
  that had none: a later scan names each route as the last
  command on it says, and tells the same of it otherwise as a
  scan without names.
-/
theorem namedScan_performAll
    (start : Disk)
    (place : Text)
    (workspace : Path)
    (hPlace : start.canonical (.ofText place) = .ok workspace)
    (hDirectory : start.isDirectory workspace = .ok true)
    (hNone :
      start.isFile
          (StateFile.path workspace Aliases.fileName) =
        .ok false)
    (hWritable :
      ∃ changed, Aliases.save [] workspace start = .ok changed)
    (edits : List AliasEdit)
    (hVerbs : ∀ edit ∈ edits, ':' ∉ edit.verb)
    (later : Disk)
    (hLater :
      later.walk (StateFile.path workspace Aliases.fileName) =
        (performAll place edits start).walk
          (StateFile.path workspace Aliases.fileName))
    (options : Workspace.ScanOptions)
    (world : World)
    (resolver : Resolver) :
    Workspace.namedScan later options world workspace resolver =
      (Workspace.scan later options world workspace
        resolver).map
          fun (result, resolver) =>
            (result.renamed (nameAfter edits), resolver) := by
  have hReady : Ready start workspace [] start :=
    ⟨.refl start, Aliases.load_of_no_file hNone, hWritable⟩
  have hLoads :=
    (hReady.performAll hPlace hDirectory edits).loads
  rw [← Aliases.load_of_walk_eq hLater] at hLoads
  rw [Workspace.namedScan_of_load hLoads]
  simp only [withNames_foldl_apply hVerbs]

/- A workspace with a project and no aliases. -/
def ordersDisk : Disk where
  root :=
    .directory
      [("w".toList, .directory
        [("Orders.csproj".toList, .file [])])]
  here := ⟨['/'], []⟩
  denied := []

/- Two routes are named, and one loses its name again. -/
def ordersEdits : List AliasEdit :=
  [.give "GET".toList "/orders".toList "first".toList,
   .give "post".toList "/ORDERS".toList "second".toList,
   .take "POST".toList "/orders".toList,
   .give "get".toList "/Orders".toList "last".toList]

/- One of these routes. -/
def ordersRoute
    (verb : HttpVerb) :
    Route :=
  ⟨"/orders".toList, verb, [], [], [], 1, none, none, none⟩

theorem ordersDisk_namedScan :
    ordersDisk.canonical (.ofText "/w".toList) =
        .ok ⟨['/'], ["w".toList]⟩ ∧
      (∃ changed,
        Aliases.save [] ⟨['/'], ["w".toList]⟩ ordersDisk =
          .ok changed) ∧
      (∀ edit ∈ ordersEdits, ':' ∉ edit.verb) ∧
      (∀ options world resolver,
        Workspace.namedScan
            (performAll "/w".toList ordersEdits ordersDisk)
            options world ⟨['/'], ["w".toList]⟩ resolver =
          (Workspace.scan
            (performAll "/w".toList ordersEdits ordersDisk)
            options world ⟨['/'], ["w".toList]⟩ resolver).map
              fun (result, resolver) =>
                (result.renamed (nameAfter ordersEdits),
                  resolver)) ∧
      nameAfter ordersEdits (ordersRoute .get) =
        some "last".toList ∧
      nameAfter ordersEdits (ordersRoute .post) = none := by
  have hPlace :
      ordersDisk.canonical (.ofText "/w".toList) =
        .ok ⟨['/'], ["w".toList]⟩ := by
    rfl
  have hWritable :
      ∃ changed,
        Aliases.save [] ⟨['/'], ["w".toList]⟩ ordersDisk =
          .ok changed :=
    ⟨_, rfl⟩
  have hVerbs : ∀ edit ∈ ordersEdits, ':' ∉ edit.verb := by
    decide
  refine
    ⟨hPlace, hWritable, hVerbs, ?_, by decide, by decide⟩
  exact
    namedScan_performAll ordersDisk "/w".toList _ hPlace rfl
      rfl hWritable ordersEdits hVerbs _ rfl

end AliasEdit

end RouteAtlas
