import RouteAtlas.Controller.Extract
import RouteAtlas.Path.Basic

/-
  Controller files.

  A file is read for routes only if its name follows the
  naming convention and its text mentions a routing
  attribute at all.
-/

------------------------------------------------------------
-- Names
------------------------------------------------------------

namespace RouteAtlas

open Text

namespace Controller

/- Names of abstract bases, which declare no actions. -/
def baseMarks : List Text :=
  ["basecontroller".toList, "controllerbase".toList]

/-
  Whether the last name of a path is that of a controller
  file and not that of an abstract base.
-/
def isFileName
    (settings : Settings)
    (path : Text) :
    Bool :=
  let name := baseName path
  endsWith settings.controllerFileSuffix name &&
    !baseMarks.any fun mark => Text.contains mark (lower name)

------------------------------------------------------------
-- Marks
------------------------------------------------------------

/- The words without which a text declares no route. -/
def routeMarks : List Text :=
  ["HttpGet".toList, "HttpPost".toList, "HttpPut".toList,
   "HttpDelete".toList, "Route".toList]

/- Reads one of the route marks as a whole word. -/
def readRouteMark
    (previous : Option Char)
    (t : Text) :
    Option Unit :=
  if wordMayStart previous &&
      routeMarks.any fun mark =>
        (mark.isPrefixOf? t).any wordEndsAt then
    some ()
  else
    none

/- Whether a text mentions a routing attribute. -/
def hasRouteMark
    (source : Text) :
    Bool :=
  (find? readRouteMark source).isSome

/- Whether a file has to be read for routes. -/
def isCandidate
    (settings : Settings)
    (path source : Text) :
    Bool :=
  isFileName settings path && hasRouteMark source

end Controller

------------------------------------------------------------
-- Routes of Files
------------------------------------------------------------

namespace Route

/- The routes that a file with the given text declares. -/
def ofFile
    (settings : Settings)
    (path source : Text)
    (project : Option Text) :
    List Route :=
  if Controller.isCandidate settings path source then
    ofSource settings ⟨path, project⟩ source
  else
    []

end Route

end RouteAtlas
