import Mathlib
import RouteAtlas.Proofs.Json.RoundTrip
import RouteAtlas.Proofs.Workspace.Disk
import RouteAtlas.Store.StateFile

/-
  State files read back as they were written.

  A document that was written is the one that is read, and
  writing it once more changes nothing.  Where one document
  can be written, any other can.

  Main statements:
    * `read_write`
    * `write_same`
    * `exists_write`
-/

------------------------------------------------------------
-- Writing
------------------------------------------------------------

namespace RouteAtlas

namespace StateFile

variable {workspace : Path}
variable {name : Text}
variable {document : Json}
variable {disk changed : Disk}

/- What it means that a document was written. -/
theorem write_eq_ok
    (hWritten :
      write workspace name document disk = .ok changed) :
    (path workspace name).holdsNull = false ∧
      ∃ between,
        disk.makeDirectory (directory workspace) =
            .ok between ∧
          between.writeFile (Utf8.encode document.indented)
              (path workspace name) =
            .ok changed := by
  unfold write at hWritten
  by_cases hNull : (path workspace name).holdsNull = true
  · simp only [if_pos hNull] at hWritten
    cases hWritten
  · simp only [if_neg hNull] at hWritten
    refine ⟨Bool.eq_false_iff.mpr hNull, ?_⟩
    exact
      exists_of_bind_eq_ok (eq_ok_of_mapError_eq_ok hWritten)

/- A document is written once its directory is there. -/
theorem write_of_writeFile
    {between : Disk}
    (hNull : (path workspace name).holdsNull = false)
    (hMade :
      disk.makeDirectory (directory workspace) = .ok between)
    (hFile :
      between.writeFile (Utf8.encode document.indented)
          (path workspace name) =
        .ok changed) :
    write workspace name document disk = .ok changed := by
  unfold write
  simp only [hNull, Bool.false_eq_true, if_false, hMade, bind,
    Except.bind, hFile]
  rfl

/- Where one document can be written, any other can. -/
theorem exists_write
    (hWritten :
      write workspace name document disk = .ok changed)
    (other : Json) :
    ∃ changed',
      write workspace name other disk = .ok changed' := by
  rcases write_eq_ok hWritten with
    ⟨hNull, between, hMade, hFile⟩
  rcases Disk.exists_writeFile hFile
      (Utf8.encode other.indented) with
    ⟨changed', hFile'⟩
  exact ⟨changed', write_of_writeFile hNull hMade hFile'⟩

------------------------------------------------------------
-- What Was Written
------------------------------------------------------------

section Written

variable
  (hPlain : (name == ['.', '.']) ≠ true)
  (hWritten :
    write workspace name document disk = .ok changed)

include hPlain hWritten

/- The file holds the document, and directories stay. -/
theorem walk_write :
    changed.walk (path workspace name) =
        .ok (.file (Utf8.encode document.indented)) ∧
      disk.Keeps changed := by
  rcases write_eq_ok hWritten with ⟨-, between, hMade, hFile⟩
  rcases Disk.hasDirectory_makeDirectory hMade with
    ⟨hDirectory, hKeeps⟩
  rcases Disk.walk_writeFile hDirectory hPlain hFile with
    ⟨hWalk, hKeeps'⟩
  exact ⟨hWalk, hKeeps.trans hKeeps'⟩

/- Writing a document once more changes nothing. -/
theorem write_same :
    write workspace name document changed = .ok changed := by
  rcases write_eq_ok hWritten with
    ⟨hNull, between, hMade, hFile⟩
  rcases Disk.hasDirectory_makeDirectory hMade with
    ⟨hDirectory, -⟩
  rcases Disk.walk_writeFile hDirectory hPlain hFile with
    ⟨-, hKeeps⟩
  exact write_of_writeFile hNull
    (Disk.makeDirectory_of_hasDirectory
      (hKeeps.hasDirectory hDirectory))
    (Disk.writeFile_same hDirectory hPlain hFile)

end Written

------------------------------------------------------------
-- Reading
------------------------------------------------------------

/- What is read from a file that holds a document. -/
theorem read_of_walk
    (hNull : (path workspace name).holdsNull = false)
    (hTextual : Json.IsTextual Json.maxDepth document)
    (hWalk :
      disk.walk (path workspace name) =
        .ok (.file (Utf8.encode document.indented))) :
    read disk workspace name = .ok (some document) := by
  have hFile : disk.isFile (path workspace name) = .ok true := by
    unfold Disk.isFile Disk.probe
    simp only [hNull, Bool.false_eq_true, if_false, hWalk]
    rfl
  have hText :
      disk.stateText? (path workspace name) =
        some document.indented := by
    unfold Disk.stateText? Disk.bytes? Disk.entry?
    rw [hWalk]
    exact Json.decode_indented hTextual
  unfold read
  simp only [hFile, bind, Except.bind, if_true, hText]
  exact Json.document_indented hTextual

/- What is read depends only on the file. -/
theorem read_of_walk_eq
    {disk' : Disk}
    (hWalk :
      disk'.walk (path workspace name) =
        disk.walk (path workspace name)) :
    read disk' workspace name = read disk workspace name := by
  simp only [read, Disk.isFile_of_walk hWalk,
    Disk.stateText?_of_walk hWalk]

/- Where there is no file, no document is read. -/
theorem read_of_no_file
    (hNone : disk.isFile (path workspace name) = .ok false) :
    read disk workspace name = .ok none := by
  simp only [read, hNone]
  rfl

/- A document that is read is that of some text. -/
theorem exists_document_of_read
    (hRead : read disk workspace name = .ok (some document)) :
    ∃ t, Json.document t = .ok (some document) := by
  rcases exists_of_bind_eq_ok hRead with ⟨isFile, -, hFound⟩
  split at hFound
  next =>
    split at hFound
    next t hText => exact ⟨t, hFound⟩
    next => cases hFound
  next => cases hFound

/- A document that was written is the one that is read. -/
theorem read_write
    (hPlain : (name == ['.', '.']) ≠ true)
    (hTextual : Json.IsTextual Json.maxDepth document)
    (hWritten :
      write workspace name document disk = .ok changed) :
    read changed workspace name = .ok (some document) :=
  read_of_walk (write_eq_ok hWritten).1 hTextual
    (walk_write hPlain hWritten).1

end StateFile

end RouteAtlas
