import RouteAtlas.Endpoint.Basic
import RouteAtlas.Project.Resolver

/-
  Endpoints of files: the action detected on a line, put
  into its project and given the project's base URL.
-/

------------------------------------------------------------
-- Detection in Files
------------------------------------------------------------

namespace RouteAtlas

namespace Endpoint

/-
  The endpoint declared on a line of a file, with the full
  URL that a resolver gives it.  A text that lies in no file
  is not looked up.
-/
def resolve
    (world : World)
    (settings : Settings)
    (file source : Text)
    (line : Int)
    (resolver : Resolver) :
    Resolver.Lookup (Option Endpoint) :=
  match detect? settings (Text.lines source) line with
  | none => (.ok none, resolver)
  | some detected =>
      if file.isEmpty then
        (.ok (some (ofDetected detected line ⟨file, none⟩ none)),
          resolver)
      else
        (resolver.descriptor world file).andThen
          fun descriptor resolver =>
            (resolver.baseUrlOfFile world file).map
              fun base =>
                some
                  (ofDetected detected line
                    ⟨file, descriptor.map (·.text)⟩
                    (base.map (· ++ detected.action.path)))

/-
  The endpoint declared on a line of a file, in the project
  that is located for the file, without a full URL.
-/
def locate
    (find : Text → Except Breakdown (Option Path))
    (settings : Settings)
    (file source : Text)
    (line : Int) :
    Except Breakdown (Option Endpoint) :=
  match detect? settings (Text.lines source) line with
  | none => .ok none
  | some detected => do
      let project ←
        if file.isEmpty then pure none else find file
      return some
        (ofDetected detected line
          ⟨file, project.map (·.text)⟩ none)

end Endpoint

end RouteAtlas
