import RouteAtlas.Workspace.Disk

/-
  What has to be written so that one disk becomes another.
-/

------------------------------------------------------------
-- Files of a Tree
------------------------------------------------------------

namespace RouteAtlas

namespace Entry

mutual

/- The files in an entry, with the names that lead to them. -/
def filesAt
    (place : List Text) :
    Entry → List (List Text × Utf8.Bytes)
  | .file content => [(place, content)]
  | .directory entries => filesBelow place entries

/- The files in the entries of a directory. -/
def filesBelow
    (place : List Text) :
    List (Text × Entry) → List (List Text × Utf8.Bytes)
  | [] => []
  | (name, entry) :: rest =>
      filesAt (place ++ [name]) entry ++ filesBelow place rest

end

end Entry

------------------------------------------------------------
-- Changes
------------------------------------------------------------

/- The files of a disk that another one does not hold so. -/
def Disk.changes
    (before after : Disk) :
    List (Path × Utf8.Bytes) :=
  (after.root.filesAt []).filterMap fun (names, content) =>
    let path : Path := ⟨['/'], names⟩
    if before.bytes? path == some content then none
    else some (path, content)

end RouteAtlas
