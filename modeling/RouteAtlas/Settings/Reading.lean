import RouteAtlas.Settings.Basic
import RouteAtlas.Validation.Conversion

/-
  Settings as JSON objects.  Keys that are not
  known are passed over; a key that is missing leaves the
  default.
-/

------------------------------------------------------------
-- Settings
------------------------------------------------------------

namespace RouteAtlas

open Conversion

namespace Settings

/- The settings that an object gives. -/
def ofMembers
    (members : List (Text × Json)) :
    Checked Settings :=
  let d := Settings.default
  Settings.mk
    <$> optional "exclude_patterns".toList (list text)
      d.excludePatterns members
    <*> optional "source_extension".toList text
      d.sourceExtension members
    <*> optional "controller_suffix".toList text
      d.controllerSuffix members
    <*> optional "project_extension".toList text
      d.projectExtension members
    <*> optional "launch_settings_path".toList text
      d.launchSettingsPath members
    <*> optional "controller_window".toList positive
      d.controllerWindow members
    <*> optional "action_window".toList positive
      d.actionWindow members
    <*> optional "detector_window".toList positive
      d.detectorWindow members
    <*> optional "signature_window".toList positive
      d.signatureWindow members
    <*> optional "project_search_depth".toList positive
      d.searchDepth members
    <*> optional "sort_by".toList (choice SortKey.ofText?)
      d.sortBy members
    <*> optional "infer_optional_parameters".toList truth
      d.inferOptional members

/- The settings that a JSON value gives. -/
def ofJson
    (value : Json) :
    Checked Settings :=
  object ofMembers value

end Settings

end RouteAtlas
