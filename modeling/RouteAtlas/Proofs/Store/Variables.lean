import Mathlib
import RouteAtlas.Proofs.Except
import RouteAtlas.Proofs.Pairs
import RouteAtlas.Proofs.Store.StateFile
import RouteAtlas.Store.Variables

/-
  Variables read back as they were saved.

  No object that is read from a text has a key twice, and
  neither has any collection of variables that the program
  can build.  Such a collection is the one that its document
  describes.

  Main statements:
    * `nodup_of_document`
    * `ofJson_toJson`
    * `load_save`
-/

------------------------------------------------------------
-- Objects
------------------------------------------------------------

namespace RouteAtlas

namespace Json

variable {fuel room : Nat}
variable {t rest : Text}
variable {members : List (Text × Json)}

/- A word or a number is no object. -/
theorem not_object_of_readWord
    {value : Json}
    (hRead : readWord t = some (value, rest)) :
    value ≠ .object members := by
  rcases List.exists_of_findSome?_eq_some hRead with
    ⟨⟨word, other⟩, hWord, hSome⟩
  rcases Option.map_eq_some_iff.mp hSome with
    ⟨tail, -, hPair⟩
  rw [← (Prod.mk.inj hPair).1]
  rintro rfl
  simp [words] at hWord

theorem not_object_of_readNumber
    {value : Json}
    (hRead : readNumber t = some (value, rest)) :
    value ≠ .object members := by
  rintro rfl
  unfold readNumber at hRead
  simp only [Option.bind_eq_bind, Option.bind_eq_some_iff]
    at hRead
  rcases hRead with ⟨⟨whole, tail⟩, -, hValue⟩
  split_ifs at hValue <;> simp at hValue

/- An object that is read has no key twice. -/
theorem nodup_of_readValue
    (hRead :
      readValue fuel room t = .ok (.object members, rest)) :
    (members.map (·.1)).Nodup := by
  cases fuel with
  | zero =>
      rw [readValue] at hRead
      cases hRead
  | succ fuel =>
      unfold readValue at hRead
      split at hRead
      next =>
        rcases exists_of_bind_eq_ok hRead with
          ⟨⟨text, tail⟩, -, hString⟩
        cases hString
      next => cases hRead
      next => cases hRead
      next =>
        split at hRead
        next => cases hRead
        next =>
          rcases exists_of_bind_eq_ok hRead with
            ⟨⟨items, tail⟩, -, hArray⟩
          cases hArray
      next =>
        split at hRead
        next =>
          cases hRead
          exact .nil
        next =>
          rcases exists_of_bind_eq_ok hRead with
            ⟨⟨read, tail⟩, -, hObject⟩
          cases hObject
          exact Pairs.nodup_putAll read .nil
      next =>
        cases hWord : readWord t with
        | some found =>
            rw [hWord] at hRead
            cases hRead
            exact absurd rfl (not_object_of_readWord hWord)
        | none =>
            rw [hWord] at hRead
            cases hNumber : readNumber t with
            | none =>
                simp [hNumber, orMalformed] at hRead
            | some found =>
                simp only [hNumber, Option.orElse, orMalformed]
                  at hRead
                cases hRead
                exact absurd rfl
                  (not_object_of_readNumber hNumber)

/- An object that is a whole document has no key twice. -/
theorem nodup_of_document
    (hDocument : document t = .ok (some (.object members))) :
    (members.map (·.1)).Nodup := by
  unfold document at hDocument
  split at hDocument
  next value hRead =>
    cases hDocument
    unfold read at hRead
    rcases exists_of_bind_eq_ok hRead with
      ⟨⟨found, tail⟩, hValue, hWhole⟩
    simp only at hWhole
    split at hWhole
    next =>
      cases hWhole
      exact nodup_of_readValue hValue
    next => cases hWhole
  next => cases hDocument
  next => cases hDocument

end Json

------------------------------------------------------------
-- Documents of Variables
------------------------------------------------------------

namespace Variables

/- Whether no key stands twice. -/
def AreDistinct
    (values : Variables) :
    Prop :=
  (values.map (·.1)).Nodup

theorem areDistinct_nil :
    AreDistinct [] :=
  .nil

theorem AreDistinct.set
    {values : Variables}
    (hDistinct : values.AreDistinct)
    (key value : Text) :
    (values.set key value).AreDistinct :=
  Pairs.nodup_put hDistinct key value

theorem AreDistinct.remove
    {values : Variables}
    (hDistinct : values.AreDistinct)
    (key : Text) :
    (values.remove key).AreDistinct :=
  Pairs.nodup_erase hDistinct key

/- Variables are read from the document that they are. -/
theorem ofJson_toJson
    (values : Variables) :
    ofJson values.toJson = values := by
  unfold ofJson toJson
  simp only [List.map_map]
  exact List.map_id values

theorem isTextual_toJson
    {values : Variables}
    (hDistinct : values.AreDistinct) :
    Json.IsTextual Json.maxDepth values.toJson := by
  have hKeys :
      (values.map fun pair =>
        (pair.1, Json.string pair.2)).map (·.1) =
        values.map (·.1) := by
    simp
  have hDepth :
      ∀ room, Json.IsTextual (room + 1) values.toJson := by
    intro room
    refine ⟨hKeys ▸ hDistinct, ?_⟩
    intro member hMember
    rcases List.mem_map.mp hMember with ⟨pair, -, rfl⟩
    exact Json.isTextual_string room pair.2
  exact hDepth 988

/- What a document holds is read without repeated keys. -/
theorem areDistinct_ofJson
    {t : Text}
    {document : Json}
    (hDocument : Json.document t = .ok (some document)) :
    (ofJson document).AreDistinct := by
  cases document with
  | object members =>
      have hKeys :
          (ofJson (.object members)).map (·.1) =
            members.map (·.1) := by
        simp [ofJson]
      unfold AreDistinct
      rw [hKeys]
      exact Json.nodup_of_document hDocument
  | _ => exact .nil

------------------------------------------------------------
-- Files
------------------------------------------------------------

section Saved

variable {values : Variables}
variable {workspace : Path}
variable {disk changed : Disk}

theorem areDistinct_load
    (hLoaded : load disk workspace = .ok values) :
    values.AreDistinct := by
  rcases exists_of_map_eq_ok hLoaded with
    ⟨found, hRead, hValues⟩
  rw [← hValues]
  cases found with
  | none => exact .nil
  | some document =>
      rcases StateFile.exists_document_of_read hRead with
        ⟨t, hDocument⟩
      exact areDistinct_ofJson hDocument

/- Saved variables are those that are loaded. -/
theorem load_save
    (hDistinct : values.AreDistinct)
    (hSaved : values.save workspace disk = .ok changed) :
    load changed workspace = .ok values := by
  have hPlain : (fileName == ['.', '.']) ≠ true := by decide
  unfold load StateFile.load
  rw [StateFile.read_write hPlain (isTextual_toJson hDistinct)
    hSaved]
  simp only [Except.map, Option.bind_some, Function.comp,
    ofJson_toJson]
  rfl

end Saved

end Variables

end RouteAtlas
