import RouteAtlas.Text.Quoted

/-
  What can go wrong, and how it is told.
-/

------------------------------------------------------------
-- Files
------------------------------------------------------------

namespace RouteAtlas

/- Why a file or directory could not be used. -/
inductive FileFault where
  | missing (path : Text)
  | permissionDenied (path : Text)
  | fileExists (path : Text)
  | notDirectory (path : Text)
  | isDirectory (path : Text)
  | nameTooLong (path : Text)
deriving DecidableEq, Repr

/- The fault with its number and the path it concerns. -/
def FileFault.message :
    FileFault → Text
  | .missing path =>
      "[Errno 2] No such file or directory: ".toList ++
        Text.quoted path
  | .permissionDenied path =>
      "[Errno 13] Permission denied: ".toList ++
        Text.quoted path
  | .fileExists path =>
      "[Errno 17] File exists: ".toList ++ Text.quoted path
  | .notDirectory path =>
      "[Errno 20] Not a directory: ".toList ++
        Text.quoted path
  | .isDirectory path =>
      "[Errno 21] Is a directory: ".toList ++
        Text.quoted path
  | .nameTooLong path =>
      "[Errno 36] File name too long: ".toList ++
        Text.quoted path

------------------------------------------------------------
-- Breakdowns
------------------------------------------------------------

/-
  Why a computation cannot go on at all.  A breakdown is not
  an answer: it ends whatever asked for the computation, and
  what was changed before it stays changed.
-/
inductive Breakdown where
  | nestedTooDeep
  | nullCharacter
  | unmatchedTag (tag : Text)
  | unusable (fault : FileFault)
deriving DecidableEq, Repr

/- The breakdown in words. -/
def Breakdown.message :
    Breakdown → Text
  | .nestedTooDeep =>
      "a document is nested too deep".toList
  | .nullCharacter =>
      "a path holds a null character".toList
  | .unmatchedTag tag =>
      "closing tag ".toList ++ Text.quoted tag ++
        " matches no open tag".toList
  | .unusable fault => fault.message

------------------------------------------------------------
-- Failures
------------------------------------------------------------

/- Why a scan or a change of the stores failed. -/
inductive Failure where
  | notWorkspace (workspace : Text)
  | unlistable (workspace : Text) (fault : FileFault)
  | cancelled (workspace : Text)
  | unwritable (path : Text) (fault : FileFault)
  | broken (cause : Breakdown)
deriving DecidableEq, Repr

/- The failure in words. -/
def Failure.message :
    Failure → Text
  | .notWorkspace workspace =>
      "Failed to scan workspace ".toList ++ workspace ++
        ": not a directory".toList
  | .unlistable workspace fault =>
      "Failed to scan workspace ".toList ++ workspace ++
        ": ".toList ++ fault.message
  | .cancelled workspace =>
      "Scan of ".toList ++ workspace ++ " cancelled".toList
  | .unwritable path fault =>
      "Cannot write ".toList ++ path ++ ": ".toList ++
        fault.message
  | .broken cause => cause.message

end RouteAtlas
