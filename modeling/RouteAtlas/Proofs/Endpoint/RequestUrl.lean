import Mathlib
import RouteAtlas.Endpoint.Resolve
import RouteAtlas.Proofs.Except
import RouteAtlas.Proofs.Project.Remembered

/-
  The URL of an endpoint, told twice.

  Detection goes from the file to its descriptor and from
  there to the base URL of the project.  Later the resolver
  may be asked for the URL of the endpoint's route in the
  project whose descriptor the endpoint names by its text.
  That text leads back to the descriptor, and the base URL
  is remembered by then, so both URLs are the same.

  Main statements:
    * `eq_ofDetected_of_resolve`
    * `fullUrl_of_isSpelled`
    * `fullUrl_eq_requestUrl`
-/

------------------------------------------------------------
-- Descriptors by Their Text
------------------------------------------------------------

namespace RouteAtlas

/- A spelled path has a text that is not empty. -/
theorem Path.IsSpelled.text_ne_nil
    {path : Path}
    (hSpelled : path.IsSpelled) :
    path.text ≠ [] := by
  intro hText
  have hSame := ofText_text hSpelled
  rw [hText] at hSame
  rw [← hSame] at hText
  exact absurd hText (by decide)

/- The URL in a project that is named by its descriptor. -/
theorem Resolver.fullUrl_of_isSpelled
    {descriptor : Path}
    (hSpelled : descriptor.IsSpelled)
    (world : World)
    (route : Text)
    (resolver : Resolver) :
    resolver.fullUrl world (some descriptor.text) route =
      (resolver.baseUrl world descriptor.parent).map
        fun base => (base.map (· ++ route)).getD route := by
  have hBack := Path.ofText_text hSpelled
  cases hText : descriptor.text with
  | nil => exact absurd hText hSpelled.text_ne_nil
  | cons c rest =>
      rw [hText] at hBack
      rw [fullUrl, hBack]
      exact nofun

------------------------------------------------------------
-- Detection
------------------------------------------------------------

namespace Endpoint

variable {settings : Settings}
variable {source file : Text}
variable {line : Int}
variable {world : World}
variable {resolver : Resolver}
variable {detected : Detected}

/- The look-ups for an action that is detected in a file. -/
theorem resolve_of_detected
    (hDetected :
      detect? settings (Text.lines source) line =
        some detected)
    (hFile : file.isEmpty = false) :
    resolve world settings file source line resolver =
      (resolver.descriptor world file).andThen
        fun descriptor resolver =>
          (resolver.baseUrlOfFile world file).map
            fun base =>
              some
                (ofDetected detected line
                  ⟨file, descriptor.map (·.text)⟩
                  (base.map (· ++ detected.action.path))) := by
  unfold resolve
  simp only [hDetected, hFile, Bool.false_eq_true, if_false]

theorem resolve_of_no_file
    (hDetected :
      detect? settings (Text.lines source) line =
        some detected)
    (hFile : file.isEmpty = true) :
    resolve world settings file source line resolver =
      (.ok
          (some
            (ofDetected detected line ⟨file, none⟩ none)),
        resolver) := by
  unfold resolve
  simp only [hDetected, hFile, if_true]

/-
  What a resolver answers on a line with an action, unless
  a look-up breaks down.
-/
theorem eq_ofDetected_of_resolve
    (hDetected :
      detect? settings (Text.lines source) line =
        some detected)
    {found : Option Endpoint}
    (hFound :
      (resolve world settings file source line
        resolver).1 = .ok found) :
    ∃ origin fullUrl,
      found =
        some (ofDetected detected line origin fullUrl) := by
  cases hFile : file.isEmpty with
  | true =>
      rw [resolve_of_no_file hDetected hFile] at hFound
      exact ⟨_, _, (Except.ok.inj hFound).symm⟩
  | false =>
      rw [resolve_of_detected hDetected hFile] at hFound
      rcases Resolver.Lookup.exists_of_andThen_eq_ok hFound
        with ⟨descriptor, -, hRest⟩
      rw [hRest] at hFound
      rcases exists_of_map_eq_ok hFound with ⟨base, -, hSame⟩
      exact ⟨_, _, hSame.symm⟩

/- Nothing is found on a line without an action. -/
theorem detected_of_resolve
    {endpoint : Endpoint}
    {next : Resolver}
    (hResolved :
      resolve world settings file source line resolver =
        (.ok (some endpoint), next)) :
    ∃ detected,
      detect? settings (Text.lines source) line =
        some detected := by
  cases hDetect :
      detect? settings (Text.lines source) line with
  | some detected => exact ⟨detected, rfl⟩
  | none =>
      unfold resolve at hResolved
      simp only [hDetect] at hResolved
      cases hResolved

------------------------------------------------------------
-- URLs
------------------------------------------------------------

/- The URL to request, from the base URL if there is one. -/
theorem requestUrl_ofDetected
    (detected : Detected)
    (line : Int)
    (origin : Controller.Origin)
    (base : Option Text) :
    (ofDetected detected line origin
        (base.map (· ++ detected.action.path))).requestUrl =
      (base.map (· ++ detected.action.path)).getD
        detected.action.path := by
  cases base with
  | none => rfl
  | some text =>
      unfold requestUrl ofDetected
      dsimp only [Option.map_some, Option.getD_some]
      cases hJoined : text ++ detected.action.path with
      | cons c rest => rfl
      | nil => exact (List.append_eq_nil_iff.mp hJoined).2

/-
  Once detection has answered an endpoint, the resolver
  tells for its descriptor and route the URL that the
  endpoint tells, in whatever state the resolver was before
  and however the files look by then.
-/
theorem fullUrl_eq_requestUrl
    (world : World)
    (hWorld : world.SpellsPaths)
    (resolver : Resolver)
    (hReachable : resolver.Reachable)
    (settings : Settings)
    (file source : Text)
    (line : Int)
    (endpoint : Endpoint)
    (next : Resolver)
    (hResolved :
      resolve world settings file source line resolver =
        (.ok (some endpoint), next))
    (later : World) :
    (next.fullUrl later endpoint.route.project
        endpoint.route.path).1 =
      .ok endpoint.requestUrl := by
  rcases detected_of_resolve hResolved with
    ⟨detected, hDetected⟩
  cases hFile : file.isEmpty with
  | true =>
      rw [resolve_of_no_file hDetected hFile] at hResolved
      cases hResolved
      rfl
  | false =>
      rw [resolve_of_detected hDetected hFile] at hResolved
      have hAnswered := congrArg Prod.fst hResolved
      rcases Resolver.Lookup.exists_of_andThen_eq_ok
          hAnswered with
        ⟨descriptor, hDescriptor, hRest⟩
      rw [hRest, Resolver.baseUrlOfFile_of_known
        (Resolver.get?_descriptor hDescriptor)] at hResolved
      cases descriptor with
      | none =>
          cases hResolved
          rfl
      | some path =>
          have hSpelled :=
            Resolver.isSpelled_of_descriptor
              hReachable.knowsSpelled hWorld hDescriptor
          rcases Prod.mk.inj hResolved with ⟨hFound, rfl⟩
          rcases exists_of_map_eq_ok hFound with
            ⟨base, hBase, hEndpoint⟩
          cases hEndpoint
          have hKnown := Resolver.get?_baseUrl hBase
          rw [requestUrl_ofDetected]
          change
            (Resolver.fullUrl later (some path.text)
                detected.action.path _).1 =
              _
          rw [Resolver.fullUrl_of_isSpelled hSpelled,
            Resolver.baseUrl_of_known hKnown]
          rfl

/- A project that listens on all addresses. -/
def shopFiles : Files where
  settingsText := fun path =>
    if path.text = "src/Properties/launchSettings.json".toList
    then
      .ok
        (some
          ("\x7b\"profiles\": \x7b\"Shop\": \x7b\"commandName\":"
            ++ " \"Project\", \"applicationUrl\":"
            ++ " \"http://*:5000\"\x7d\x7d\x7d").toList)
    else
      .ok none
  descriptorText := fun _ => .ok (some "src/Shop.csproj".toList)

/- One of its controllers. -/
def ordersSource : Text :=
  Text.joinWith ['\n']
    ["[Route(\"orders\")]".toList,
     "public class OrdersController \x7b".toList,
     "  [HttpGet(\"\x7bid\x7d\")]".toList,
     "  public int Get(int id) => 1;".toList,
     "\x7d".toList]

/- A resolver that knows the descriptor of the controller. -/
def shopResolver : Resolver :=
  ((Query.descriptor "src/OrdersController.cs".toList).ask
    shopFiles.world (.ofSettings .default)).2

/- Afterwards nothing can be read any more. -/
def brokenWorld : World :=
  ⟨fun _ => .error .nullCharacter,
    fun _ => .error .nullCharacter⟩

theorem ordersSource_fullUrl :
    ∃ endpoint next,
      shopFiles.world.SpellsPaths ∧
        shopResolver.Reachable ∧
        resolve shopFiles.world .default
            "src/OrdersController.cs".toList ordersSource 4
            shopResolver =
          (.ok (some endpoint), next) ∧
        endpoint.requestUrl =
          "http://localhost:5000/orders/\x7bid\x7d".toList ∧
        (next.fullUrl brokenWorld endpoint.route.project
            endpoint.route.path).1 =
          .ok endpoint.requestUrl := by
  have hWorld := shopFiles.spellsPaths_world
  have hReachable : shopResolver.Reachable :=
    .asked (.fresh _) hWorld _
  have hUrl :
      ((resolve shopFiles.world .default
          "src/OrdersController.cs".toList ordersSource 4
          shopResolver).1.toOption.join.map
            (·.requestUrl)) =
        some
          "http://localhost:5000/orders/\x7bid\x7d".toList := by
    decide +kernel
  rcases hResolved :
      resolve shopFiles.world .default
        "src/OrdersController.cs".toList ordersSource 4
        shopResolver with
    ⟨answer, next⟩
  rw [hResolved] at hUrl
  rcases Option.map_eq_some_iff.mp hUrl with
    ⟨endpoint, hEndpoint, hSame⟩
  cases answer with
  | error cause => cases hEndpoint
  | ok found =>
      cases found with
      | none => cases hEndpoint
      | some answered =>
          cases hEndpoint
          exact
            ⟨endpoint, next, hWorld, hReachable, rfl, hSame,
              fullUrl_eq_requestUrl shopFiles.world hWorld
                shopResolver hReachable .default
                "src/OrdersController.cs".toList ordersSource
                4 endpoint next hResolved brokenWorld⟩

end Endpoint

end RouteAtlas
