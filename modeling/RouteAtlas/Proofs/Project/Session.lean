import RouteAtlas.Project.Resolver

/-
  A resolver at work while files change.

  A session is what the files hold and a resolver.  In each
  step the resolver is asked for something, or is told that
  something went stale, or files change and the resolver is
  told at once.

  Main definitions:
    * `Session.Step`
    * `Session.run`
    * `Session.Step.Forgets`
-/

------------------------------------------------------------
-- Files
------------------------------------------------------------

namespace RouteAtlas

/-
  What the launch settings at each path hold, nothing if
  they cannot be read, and which path the descriptor of each
  source file has, if there is one.
-/
structure Files where
  settingsText : Path → Except Breakdown (Option Text)
  descriptorText : Text → Except Breakdown (Option Text)

namespace Files

/- The files as a resolver looks at them. -/
def world
    (files : Files) :
    World where
  readText := files.settingsText
  locate := fun file =>
    (files.descriptorText file).map fun found =>
      found.map Path.ofText

/- The files after a change or deletion at one path. -/
def rewrite
    (path : Path)
    (content : Except Breakdown (Option Text))
    (files : Files) :
    Files :=
  { files with
    settingsText := fun other =>
      if other = path then content
      else files.settingsText other }

end Files

------------------------------------------------------------
-- Queries
------------------------------------------------------------

/- What a resolver can be asked for. -/
inductive Query where
  | descriptor (file : Text)
  | directory (file : Text)
  | baseUrl (project : Text)
  | baseUrlOfFile (file : Text)
  | fullUrl (descriptor : Option Text) (route : Text)

/- What is answered. -/
inductive Answer where
  | path (found : Option Path)
  | baseUrl (found : Option Text)
  | url (url : Text)
deriving DecidableEq, Repr

/- What a resolver answers to a query. -/
def Query.ask
    (world : World)
    (resolver : Resolver) :
    Query → Resolver.Lookup Answer
  | .descriptor file =>
      (resolver.descriptor world file).map .path
  | .directory file =>
      (resolver.directory world file).map .path
  | .baseUrl project =>
      (resolver.baseUrl world (.ofText project)).map .baseUrl
  | .baseUrlOfFile file =>
      (resolver.baseUrlOfFile world file).map .baseUrl
  | .fullUrl project route =>
      (resolver.fullUrl world project route).map .url

------------------------------------------------------------
-- Notices
------------------------------------------------------------

/- What a resolver can be told. -/
inductive Notice where
  | project (directory : Text)
  | settings (path : Text)
  | descriptor (path : Text)
  | baseUrls
  | everything

namespace Notice

/- What a resolver does on a notice. -/
def apply
    (resolver : Resolver) :
    Notice → Resolver
  | .project directory =>
      (resolver.forgetProject (.ofText directory)).2
  | .settings path =>
      (resolver.settingsChanged (.ofText path)).2
  | .descriptor path =>
      resolver.projectChanged (.ofText path)
  | .baseUrls => resolver.forgetBaseUrls
  | .everything => resolver.forgetAll

/-
  Whether a notice invalidates a project, when the launch
  settings of a project lie at the given path in it.
-/
def Forgets
    (launchSettings project : Path) :
    Notice → Prop
  | .project directory => Path.ofText directory = project
  | .settings path =>
      Resolver.above launchSettings.size (.ofText path) =
        project
  | .descriptor path => (Path.ofText path).parent = project
  | .baseUrls => True
  | .everything => True

end Notice

------------------------------------------------------------
-- Sessions
------------------------------------------------------------

/- The files as they are, and the resolver. -/
structure Session where
  files : Files
  resolver : Resolver

namespace Session

/- What happens next. -/
inductive Step where
  | ask (query : Query)
  | tell (notice : Notice)
  | settings
      (path : Text)
      (content : Except Breakdown (Option Text))
  | descriptors
      (descriptorText :
        Text → Except Breakdown (Option Text))
      (path : Text)

/- Whether a step invalidates a project. -/
def Step.Forgets
    (launchSettings project : Path) :
    Step → Prop
  | .ask _ => False
  | .tell notice => notice.Forgets launchSettings project
  | .settings path _ =>
      Notice.Forgets launchSettings project (.settings path)
  | .descriptors _ path =>
      Notice.Forgets launchSettings project
        (.descriptor path)

/- The session after a step. -/
def next
    (session : Session) :
    Step → Session
  | .ask query =>
      { session with
        resolver :=
          (query.ask session.files.world session.resolver).2 }
  | .tell notice =>
      { session with
        resolver := notice.apply session.resolver }
  | .settings path content =>
      ⟨session.files.rewrite (.ofText path) content,
        Notice.apply session.resolver (.settings path)⟩
  | .descriptors descriptorText path =>
      ⟨{ session.files with descriptorText },
        Notice.apply session.resolver (.descriptor path)⟩

/- The session after some steps. -/
def run
    (session : Session)
    (steps : List Step) :
    Session :=
  steps.foldl next session

/- A session with a resolver that has found nothing. -/
def start
    (launchSettings : Path)
    (files : Files) :
    Session :=
  ⟨files, .fresh launchSettings⟩

end Session

end RouteAtlas
