import RouteAtlas.Path.Basic

/-
  The project of a file: the nearest directory, from that of
  the file upwards, that holds a project descriptor.

  The directories above a file form a chain, cut off at the
  depth bound.  The search ends at the first directory that
  holds a descriptor or cannot be listed.
-/

------------------------------------------------------------
-- Chains
------------------------------------------------------------

namespace RouteAtlas

namespace Project

/-
  A directory and those above it, at most `depth` of them;
  the last one possible is its own parent.
-/
def chain
    (directory : Path) :
    Nat → List Path
  | 0 => []
  | depth + 1 =>
      if directory.parent = directory then
        [directory]
      else
        directory :: chain directory.parent depth

------------------------------------------------------------
-- Search
------------------------------------------------------------

/- The names in a directory, with whether each is a file. -/
abbrev Listing := List (Text × Bool)

/- The first file of a listing with the given extension. -/
def descriptorIn?
    (extension : Text)
    (listing : Listing) :
    Option Text :=
  (listing.find? fun (name, isFile) =>
    isFile && Text.endsWith extension name).map (·.1)

/-
  The descriptor of the first directory that has one, and
  the directories listed in search of it.
-/
def searchAlong
    (list : Path → Option Listing)
    (extension : Text) :
    List Path → Option Path × List Path
  | [] => (none, [])
  | directory :: above =>
      match list directory with
      | none => (none, [directory])
      | some listing =>
          match descriptorIn? extension listing with
          | some name =>
              (some (directory.join (.ofText name)),
                [directory])
          | none =>
              let (found, listed) :=
                searchAlong list extension above
              (found, directory :: listed)

/-
  The descriptor of the project that a file belongs to, and
  the directories listed in search of it.
-/
def search
    (list : Path → Option Listing)
    (extension : Text)
    (depth : Nat)
    (file : Path) :
    Option Path × List Path :=
  searchAlong list extension (chain file.parent depth)

end Project

end RouteAtlas
