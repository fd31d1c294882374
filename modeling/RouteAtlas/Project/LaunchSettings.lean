import RouteAtlas.Json.Document
import RouteAtlas.Url.Basic

/-
  Base URLs from launch settings.

  The launch settings of a project hold profiles; the first
  one that runs the project itself gives a list of URLs to
  listen on, of which one is chosen.  A host that stands for
  every address cannot be requested and becomes `localhost`.
-/

------------------------------------------------------------
-- Profiles
------------------------------------------------------------

namespace RouteAtlas

namespace LaunchSettings

/- The command of a profile that runs the project. -/
def projectCommand : Text :=
  "Project".toList

/- Whether a profile runs the project. -/
def runsProject :
    Json → Bool
  | .object members =>
      match Pairs.get? "commandName".toList members with
      | some (.string command) => command == projectCommand
      | _ => false
  | _ => false

/- The first profile that runs the project. -/
def projectProfile?
    (settings : Json) :
    Option Json :=
  match settings.member? "profiles".toList with
  | some (.object profiles) =>
      (profiles.map (·.2)).find? runsProject
  | _ => none

------------------------------------------------------------
-- Choosing a URL
------------------------------------------------------------

/- The URLs of a list, trimmed; blank ones are none. -/
def listedUrls
    (raw : Text) :
    List Text :=
  ((Text.splitOn ';' raw).map Text.strip).filter
    fun url => !url.isEmpty

/- The first URL with a scheme, in any letter case. -/
def firstWithScheme?
    (scheme : Text)
    (urls : List Text) :
    Option Text :=
  urls.find? fun url => Text.startsWith scheme (Text.lower url)

/- The first `http` URL of a list, else the first `https`. -/
def chooseUrl?
    (raw : Text) :
    Option Text :=
  let urls := listedUrls raw
  (firstWithScheme? "http://".toList urls).orElse fun _ =>
    firstWithScheme? "https://".toList urls

------------------------------------------------------------
-- Normal Form
------------------------------------------------------------

/- The hosts that stand for every address. -/
def wildcardHosts : List Text :=
  ["0.0.0.0".toList, "*".toList, "+".toList,
   "::".toList, "[::]".toList]

/- The host and port of an authority, as far as written. -/
def splitAuthority
    (authority : Text) :
    Text × Text :=
  match authority with
  | '[' :: _ =>
      let (address, rest) := Url.cutAt ']' authority
      (address ++ [']'],
        if Text.startsWith [':'] rest then rest.drop 1
        else [])
  | _ =>
      (Text.cutLast? ':' authority).getD (authority, [])

/- The authority with `localhost` for a wildcard host. -/
def reachable
    (authority : Text) :
    Text :=
  let (host, port) := splitAuthority authority
  if wildcardHosts.contains host then
    "localhost".toList ++ Url.delimited [':'] port
  else
    authority

/- The URL with an authority that can be requested. -/
def withReachableHost?
    (url : Text) :
    Option Text :=
  (Text.cut? "://".toList url).map fun (scheme, rest) =>
    let (authority, path) := rest.span (· != '/')
    scheme ++ "://".toList ++ reachable authority ++ path

/- The text without one final slash. -/
def dropFinalSlash
    (t : Text) :
    Text :=
  (Text.dropEnding? ['/'] t).getD t

/-
  The URL with a host that can be requested and without a
  final slash; `none` when it has no host or no valid port.
-/
def normalize?
    (raw : Text) :
    Option Text := do
  let reachable ← withReachableHost? raw
  let url ← Url.ofText? reachable
  let _ ← url.hostName?
  if url.portIsValid then
    some (dropFinalSlash url.text)
  else
    none

------------------------------------------------------------
-- Reading
------------------------------------------------------------

/- The byte order mark. -/
def byteOrderMark : Char := '\ufeff'

/- The text without a leading byte order mark. -/
def dropByteOrderMark :
    Text → Text
  | [] => []
  | c :: rest =>
      if c == byteOrderMark then rest else c :: rest

/- The base URL that launch settings give. -/
def baseUrlIn?
    (settings : Json) :
    Option Text := do
  let profile ← projectProfile? settings
  match profile.member? "applicationUrl".toList with
  | some (.string raw) =>
      let chosen ← chooseUrl? raw
      normalize? chosen
  | _ => none

/- The base URL that a launch settings text gives. -/
def baseUrl
    (t : Text) :
    Except Breakdown (Option Text) :=
  (Json.document (dropByteOrderMark t)).map
    fun settings => settings.bind baseUrlIn?

end LaunchSettings

end RouteAtlas
