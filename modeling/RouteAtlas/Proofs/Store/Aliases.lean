import Mathlib
import RouteAtlas.Proofs.Store.StateFile
import RouteAtlas.Proofs.Text.Split
import RouteAtlas.Proofs.Unicode.Lowering
import RouteAtlas.Store.Aliases

/-
  Aliases read back as they were saved.

  A key holds only characters that lower-casing keeps, and at
  least one colon.  Cut at the first colon and joined again
  it is the same key, even where the verb holds a colon.
  Every collection of aliases that the program can build has
  such keys only, none of them twice.

  Main statements:
    * `wellFormed_ofJson`
    * `ofJson_toJson`
    * `load_save`
-/

------------------------------------------------------------
-- Keys
------------------------------------------------------------

namespace RouteAtlas

namespace Aliases

/- Whether a text can be the key of an alias. -/
def IsKey
    (key : Text) :
    Prop :=
  (∀ c ∈ key, Unicode.IsLowered c) ∧ ':' ∈ key

theorem isKey_key
    (route verb : Text) :
    IsKey (key route verb) := by
  constructor
  · intro c hChar
    rcases List.mem_append.mp hChar with hVerb | hTail
    · exact Unicode.isLowered_of_mem_lower hVerb
    · rcases List.mem_cons.mp hTail with hColon | hRoute
      · rw [hColon]
        exact ⟨rfl, by decide, by decide⟩
      · exact Unicode.isLowered_of_mem_lower hRoute
  · exact List.mem_append_right _ List.mem_cons_self

/-
  Verbs without colons and routes have one key only if they
  are the same, letter case aside.
-/
theorem key_eq_key_iff
    {route verb route' verb' : Text}
    (hVerb : ':' ∉ verb)
    (hVerb' : ':' ∉ verb') :
    key route verb = key route' verb' ↔
      Text.lower verb = Text.lower verb' ∧
        Text.lower route = Text.lower route' := by
  have hLower : ':' ∉ Text.lower verb :=
    Unicode.not_mem_lower hVerb
  have hLower' : ':' ∉ Text.lower verb' :=
    Unicode.not_mem_lower hVerb'
  unfold key
  constructor
  · intro hSame
    have hVerbs := congrArg (Text.before ':') hSame
    have hRoutes := congrArg (Text.after? ':') hSame
    rw [Text.before_append hLower,
      Text.before_append hLower'] at hVerbs
    rw [Text.after?_append hLower,
      Text.after?_append hLower'] at hRoutes
    exact ⟨hVerbs, Option.some.inj hRoutes⟩
  · rintro ⟨hVerbs, hRoutes⟩
    rw [hVerbs, hRoutes]

/- A key is that of the entry it is written as. -/
theorem key_ofPair
    {pair : Text × Text}
    (hKey : IsKey pair.1) :
    key (Item.ofPair pair).route (Item.ofPair pair).verb =
      pair.1 := by
  rcases Text.exists_cut? hKey.2 with ⟨verb, route, hCut, hText⟩
  have hLowered := hKey.1
  rw [hText] at hLowered
  have hVerb : Text.lower verb = verb :=
    Unicode.lower_of_isLowered fun c hChar =>
      hLowered c (List.mem_append_left _ hChar)
  have hRoute : Text.lower route = route :=
    Unicode.lower_of_isLowered fun c hChar =>
      hLowered c
        (List.mem_append_right _
          (List.mem_cons_of_mem _ hChar))
  unfold Item.ofPair
  rw [hCut]
  unfold key
  rw [hVerb, hRoute, hText]

theorem aliasName_ofPair
    (pair : Text × Text) :
    (Item.ofPair pair).aliasName = pair.2 := by
  unfold Item.ofPair
  cases Text.cut? [':'] pair.1 with
  | none => rfl
  | some parts => rfl

------------------------------------------------------------
-- Well-Formed Aliases
------------------------------------------------------------

/- Aliases by proper keys, each of which stands once. -/
structure WellFormed
    (aliases : Aliases) :
    Prop where
  isKey : ∀ pair ∈ aliases, IsKey pair.1
  distinct : (aliases.map (·.1)).Nodup

theorem wellFormed_nil :
    WellFormed [] :=
  ⟨fun _ hPair => absurd hPair List.not_mem_nil, .nil⟩

theorem WellFormed.set
    {aliases : Aliases}
    (hFormed : aliases.WellFormed)
    (route verb aliasName : Text) :
    (aliases.set route verb aliasName).WellFormed := by
  constructor
  · intro pair hPair
    have hKeys :=
      Pairs.mem_map_fst_put (List.mem_map_of_mem hPair)
    rcases hKeys with hNew | hOld
    · rw [hNew]
      exact isKey_key route verb
    · rcases List.mem_map.mp hOld with ⟨old, hOld, hSame⟩
      rw [← hSame]
      exact hFormed.isKey old hOld
  · exact Pairs.nodup_put hFormed.distinct _ _

theorem WellFormed.clear
    {aliases : Aliases}
    (hFormed : aliases.WellFormed)
    (route verb : Text) :
    (aliases.clear route verb).WellFormed :=
  ⟨fun pair hPair =>
    hFormed.isKey pair (List.mem_of_mem_filter hPair),
    Pairs.nodup_erase hFormed.distinct _⟩

theorem wellFormed_ofEntries
    (items : List Item) :
    (ofEntries items).WellFormed := by
  have hFold :
      ∀ aliases : Aliases, aliases.WellFormed →
        WellFormed
          (items.foldl
            (fun aliases item =>
              Aliases.set item.route item.verb item.aliasName
                aliases)
            aliases) := by
    induction items with
    | nil => exact fun _ hFormed => hFormed
    | cons item items ih =>
        intro aliases hFormed
        exact ih _ (hFormed.set _ _ _)
  exact hFold [] wellFormed_nil

/- Whatever a document holds, its aliases are well formed. -/
theorem wellFormed_ofJson
    (document : Json) :
    (ofJson document).WellFormed := by
  unfold ofJson
  split
  next items hItems => exact wellFormed_ofEntries items
  next => exact wellFormed_nil

theorem wellFormed_load
    {disk : Disk}
    {workspace : Path}
    {aliases : Aliases}
    (hLoaded : load disk workspace = .ok aliases) :
    aliases.WellFormed := by
  rcases exists_of_map_eq_ok hLoaded with
    ⟨found, hRead, hAliases⟩
  rw [← hAliases]
  cases found with
  | none => exact wellFormed_nil
  | some document => exact wellFormed_ofJson document

------------------------------------------------------------
-- Documents
------------------------------------------------------------

/- Entries of proper keys give the aliases they are of. -/
theorem ofEntries_entries
    {aliases : Aliases}
    (hFormed : aliases.WellFormed) :
    ofEntries aliases.entries = aliases := by
  have hFold :
      ∀ collection : Aliases,
        aliases.entries.foldl
            (fun collection item =>
              Aliases.set item.route item.verb item.aliasName
                collection)
            collection =
          Pairs.putAll aliases collection := by
    have hKeys := hFormed.isKey
    unfold entries Pairs.putAll
    generalize aliases = pairs at hKeys
    induction pairs with
    | nil => exact fun _ => rfl
    | cons pair pairs ih =>
        intro collection
        have hKey := key_ofPair (hKeys pair List.mem_cons_self)
        rw [List.map_cons, List.foldl_cons, List.foldl_cons]
        unfold Aliases.set at ih ⊢
        rw [hKey, aliasName_ofPair]
        exact
          ih
            (fun other hOther =>
              hKeys other (List.mem_cons_of_mem pair hOther))
            _
  unfold ofEntries
  rw [hFold []]
  exact Pairs.putAll_of_nodup hFormed.distinct

theorem ofMembers_toJson
    (item : Item) :
    Conversion.object Item.ofMembers item.toJson =
      .valid item := by
  rfl

theorem list_toJson
    (items : List Item) :
    Conversion.list (Conversion.object Item.ofMembers)
        (.array (items.map (·.toJson))) =
      .valid items := by
  have hItems :
      ∀ index,
        Checked.items (Conversion.object Item.ofMembers) index
            (items.map (·.toJson)) =
          .valid items := by
    induction items with
    | nil => exact fun _ => rfl
    | cons item items ih =>
        intro index
        rw [List.map_cons, Checked.items, ofMembers_toJson,
          ih (index + 1)]
        rfl
  exact hItems 0

/- Aliases are read from the document that they are. -/
theorem ofJson_toJson
    {aliases : Aliases}
    (hFormed : aliases.WellFormed) :
    ofJson aliases.toJson = aliases := by
  unfold ofJson toJson
  rw [list_toJson]
  exact ofEntries_entries hFormed

theorem isTextual_toJson
    (aliases : Aliases) :
    Json.IsTextual Json.maxDepth aliases.toJson := by
  have hDepth :
      ∀ room, Json.IsTextual (room + 2) aliases.toJson := by
    intro room document hDocument
    rcases List.mem_map.mp hDocument with ⟨item, -, rfl⟩
    have hNames :
        ["Route".toList, "HttpVerb".toList,
          "Alias".toList].Nodup := by
      decide
    refine ⟨hNames, ?_⟩
    intro member hMember
    simp only [List.mem_cons, List.not_mem_nil, or_false]
      at hMember
    rcases hMember with rfl | rfl | rfl
    · exact Json.isTextual_string room _
    · exact Json.isTextual_string room _
    · exact Json.isTextual_string room _
  exact hDepth 987

------------------------------------------------------------
-- Files
------------------------------------------------------------

section Saved

variable {aliases : Aliases}
variable {workspace : Path}
variable {disk changed : Disk}

theorem fileName_plain :
    (fileName == ['.', '.']) ≠ true := by
  decide

theorem saved_assign
    {route verb aliasName : Text}
    (hSaved :
      (aliases.set route verb aliasName).save workspace disk =
        .ok changed) :
    (aliases.assign workspace route verb aliasName disk).2 =
      .ok changed :=
  hSaved

theorem saved_withdraw
    {route verb : Text}
    (hSaved :
      (aliases.clear route verb).save workspace disk =
        .ok changed) :
    (aliases.withdraw workspace route verb disk).2 =
      .ok ((aliases.get? route verb).isSome, changed) := by
  change
    Except.map _ ((aliases.clear route verb).save workspace
      disk) = _
  rw [hSaved]
  rfl

/- Saved aliases are those that are loaded. -/
theorem load_save
    (hFormed : aliases.WellFormed)
    (hSaved : aliases.save workspace disk = .ok changed) :
    load changed workspace = .ok aliases := by
  unfold load StateFile.load
  rw [StateFile.read_write fileName_plain
    (isTextual_toJson aliases) hSaved]
  simp only [Except.map, Option.bind_some, Function.comp,
    ofJson_toJson hFormed]
  rfl

/- Where some aliases can be saved, any others can. -/
theorem exists_save
    (hSaved : aliases.save workspace disk = .ok changed)
    (others : Aliases) :
    ∃ changed', others.save workspace disk = .ok changed' :=
  StateFile.exists_write hSaved others.toJson

/- Saving keeps all directories. -/
theorem keeps_save
    (hSaved : aliases.save workspace disk = .ok changed) :
    disk.Keeps changed :=
  (StateFile.walk_write fileName_plain hSaved).2

/- What is loaded depends only on the file of aliases. -/
theorem load_of_walk_eq
    {disk' : Disk}
    (hFile :
      disk'.walk (StateFile.path workspace fileName) =
        disk.walk (StateFile.path workspace fileName)) :
    load disk' workspace = load disk workspace := by
  unfold load StateFile.load
  rw [StateFile.read_of_walk_eq hFile]

/- A workspace without the file has no aliases. -/
theorem load_of_no_file
    (hNone :
      disk.isFile (StateFile.path workspace fileName) =
        .ok false) :
    load disk workspace = .ok [] := by
  unfold load StateFile.load
  rw [StateFile.read_of_no_file hNone]
  rfl

/- Saving the same aliases once more changes nothing. -/
theorem save_same
    (hSaved : aliases.save workspace disk = .ok changed) :
    aliases.save workspace changed = .ok changed :=
  StateFile.write_same fileName_plain hSaved

end Saved

end Aliases

end RouteAtlas
