import RouteAtlas.Memo
import RouteAtlas.Project.Descriptor
import RouteAtlas.Project.LaunchSettings

/-
  The resolver: from a source file to its project, and from
  a project to its base URL.

  Both steps are remembered, also when nothing was found.
  What is remembered goes stale when files change, so a
  change of launch settings forgets the base URL of their
  project, and a change of a descriptor forgets all projects
  of source files.

  A look-up that breaks down is not remembered; what was
  found on the way to it is.
-/

------------------------------------------------------------
-- What a Resolver Looks At
------------------------------------------------------------

namespace RouteAtlas

/- The texts of files, and the descriptors of source files. -/
structure World where
  readText : Path → Except Breakdown (Option Text)
  locate : Text → Except Breakdown (Option Path)

/- An access to the world. -/
inductive Access where
  | read (path : Path)
  | located (file : Text)
deriving DecidableEq, Repr

/-
  What has been found so far, by source file and by project
  directory, and every access made to find it.
-/
structure Resolver where
  launchSettings : Path
  descriptors : Memo Text (Option Path)
  baseUrls : Memo Text (Option Text)
  journal : List Access
deriving DecidableEq, Repr

namespace Resolver

/- A resolver that has found nothing yet. -/
def fresh
    (launchSettings : Path) :
    Resolver :=
  ⟨launchSettings, [], [], []⟩

------------------------------------------------------------
-- Look-ups
------------------------------------------------------------

/- What a look-up answers, and the resolver behind it. -/
abbrev Lookup (α : Type) := Except Breakdown α × Resolver

/- Goes on with what a look-up answers, unless it broke. -/
def Lookup.andThen
    {α β : Type}
    (lookup : Lookup α)
    (next : α → Resolver → Lookup β) :
    Lookup β :=
  match lookup with
  | (.ok a, resolver) => next a resolver
  | (.error cause, resolver) => (.error cause, resolver)

/- Changes what a look-up answers. -/
def Lookup.map
    {α β : Type}
    (f : α → β)
    (lookup : Lookup α) :
    Lookup β :=
  (Except.map f lookup.1, lookup.2)

/- The resolver that has made another access. -/
def noting
    (access : Access)
    (resolver : Resolver) :
    Resolver :=
  { resolver with journal := resolver.journal ++ [access] }

/- The resolver after an access, if it was made. -/
def notingIf
    (made : Bool)
    (access : Access)
    (resolver : Resolver) :
    Resolver :=
  if made then resolver.noting access else resolver

/- The descriptor of the project of a source file. -/
def descriptor
    (world : World)
    (file : Text)
    (resolver : Resolver) :
    Lookup (Option Path) :=
  let recalled :=
    Memo.lookUp world.locate file resolver.descriptors
  let noted :=
    resolver.notingIf recalled.computed (.located file)
  (recalled.result, { noted with descriptors := recalled.memo })

/- The directory of the project of a source file. -/
def directory
    (world : World)
    (file : Text)
    (resolver : Resolver) :
    Lookup (Option Path) :=
  (resolver.descriptor world file).map fun found =>
    found.map (·.parent)

/- Where the launch settings of a project lie. -/
def settingsPath
    (resolver : Resolver)
    (project : Path) :
    Path :=
  project.join resolver.launchSettings

/- The base URL that the launch settings at a path give. -/
def baseUrlAt
    (world : World)
    (path : Path) :
    Except Breakdown (Option Text) := do
  match ← world.readText path with
  | some text => LaunchSettings.baseUrl text
  | none => return none

/- The base URL of the project in a directory. -/
def baseUrl
    (world : World)
    (project : Path)
    (resolver : Resolver) :
    Lookup (Option Text) :=
  let path := resolver.settingsPath project
  let recalled :=
    Memo.lookUp (fun _ => baseUrlAt world path) project.text
      resolver.baseUrls
  let noted :=
    resolver.notingIf recalled.computed (.read path)
  (recalled.result, { noted with baseUrls := recalled.memo })

/- The base URL of the project of a source file. -/
def baseUrlOfFile
    (world : World)
    (file : Text)
    (resolver : Resolver) :
    Lookup (Option Text) :=
  (resolver.directory world file).andThen
    fun found resolver =>
      match found with
      | none => (.ok none, resolver)
      | some project => resolver.baseUrl world project

/-
  The URL of a route of a project, given by its descriptor:
  the route itself if there is no project or no base URL.
-/
def fullUrl
    (world : World)
    (project : Option Text)
    (route : Text)
    (resolver : Resolver) :
    Lookup Text :=
  match project with
  | none | some [] => (.ok route, resolver)
  | some project =>
      (resolver.baseUrl world
        (Path.ofText project).parent).map
          fun base => (base.map (· ++ route)).getD route

------------------------------------------------------------
-- Invalidation
------------------------------------------------------------

/- Forgets the base URL of a project. -/
def forgetProject
    (project : Path)
    (resolver : Resolver) :
    Bool × Resolver :=
  let (known, baseUrls) :=
    Memo.forget project.text resolver.baseUrls
  (known, { resolver with baseUrls })

/- The directory that lies some steps above a path. -/
def above
    (steps : Nat)
    (path : Path) :
    Path :=
  steps.repeat Path.parent path

/- The project that launch settings at a path belong to. -/
def projectOfSettings
    (resolver : Resolver)
    (path : Path) :
    Path :=
  above resolver.launchSettings.size path

/- Takes note that launch settings changed or vanished. -/
def settingsChanged
    (path : Path)
    (resolver : Resolver) :
    Bool × Resolver :=
  resolver.forgetProject (resolver.projectOfSettings path)

/- Takes note that a descriptor came, changed or vanished. -/
def projectChanged
    (path : Path)
    (resolver : Resolver) :
    Resolver :=
  ({ resolver with descriptors := [] }.forgetProject
    path.parent).2

/- Forgets all base URLs. -/
def forgetBaseUrls
    (resolver : Resolver) :
    Resolver :=
  { resolver with baseUrls := [] }

/- Forgets everything. -/
def forgetAll
    (resolver : Resolver) :
    Resolver :=
  { resolver with descriptors := [], baseUrls := [] }

end Resolver

end RouteAtlas
