import RouteAtlas.Text.Basic

/-
  Settings of route discovery and presentation.  Each has a
  default; a workspace may override any of them.
-/

------------------------------------------------------------
-- Sort Keys
------------------------------------------------------------

namespace RouteAtlas

/- What routes are ordered by. -/
inductive SortKey where
  | route
  | controller
  | httpVerb
deriving DecidableEq, Repr

namespace SortKey

/- All sort keys. -/
def all : List SortKey :=
  [.route, .controller, .httpVerb]

/- The key as it is written in settings. -/
def text :
    SortKey → Text
  | .route => "route".toList
  | .controller => "controller".toList
  | .httpVerb => "httpVerb".toList

/- The key written by the given text, letter case kept. -/
def ofText?
    (t : Text) :
    Option SortKey :=
  all.find? fun key => key.text == t

end SortKey

------------------------------------------------------------
-- Settings
------------------------------------------------------------

/- Directories and files that are never enumerated. -/
def defaultExcludePatterns : List Text :=
  ["**/bin/**".toList, "**/obj/**".toList,
   "**/node_modules/**".toList, "**/.vs/**".toList,
   "**/.git/**".toList, "**/.github/**".toList,
   "**/.idea/**".toList, "**/.vscode/**".toList,
   "**/dist/**".toList, "**/out/**".toList,
   "**/build/**".toList, "**/wwwroot/lib/**".toList]

/-
  The settings of a run.  Windows count lines, and the
  search depth counts directories; both are at least one
  when they come from a settings file.
-/
structure Settings where
  excludePatterns : List Text := defaultExcludePatterns
  sourceExtension : Text := ".cs".toList
  controllerSuffix : Text := "Controller".toList
  projectExtension : Text := ".csproj".toList
  launchSettingsPath : Text :=
    "Properties/launchSettings.json".toList
  controllerWindow : Nat := 10
  actionWindow : Nat := 5
  detectorWindow : Nat := 10
  signatureWindow : Nat := 10
  searchDepth : Nat := 10
  sortBy : SortKey := .route
  inferOptional : Bool := false
deriving DecidableEq, Repr

namespace Settings

/- The settings of a workspace that overrides none. -/
def default : Settings := {}

/- How the file names of controllers end. -/
def controllerFileSuffix
    (settings : Settings) :
    Text :=
  settings.controllerSuffix ++ settings.sourceExtension

end Settings

end RouteAtlas
