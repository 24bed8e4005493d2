import ApiForge.Output.Layout
import ApiForge.Proofs.Entries
import ApiForge.Proofs.FileStem
import ApiForge.Proofs.FileTree
import ApiForge.Proofs.Occurrences
import ApiForge.Proofs.Pieces

/-!
Where the units go and what the indexes say. A path is cut at its slashes and a stem has none, so a
unit's file stands directly in its folder; an index is cut at its line breaks and a stem has none,
so it declares the stems as they are. Main statements: `Place.ofPath_join`,
`Emit.declaredModules_moduleIndex` and `Generated.shelved_actions`.
-/

namespace ApiForge

namespace Place

/-- A name that a file or a folder can have: a path of its own, which leads to that name. -/
structure IsName (name : String) : Prop where
  ne_empty : name ≠ ""
  ne_dot : name ≠ "."
  no_slash : '/' ∉ name.toList

theorem ofPath_of_isName {name : String} (h : IsName name) : ofPath name = [name] := by
  have hpieces : Text.pieces (· == '/') name.toList = [name.toList] := by
    apply Text.pieces_of_forall_not
    intro c hc
    rw [beq_eq_false_iff_ne]
    rintro rfl
    exact h.no_slash hc
  rw [ofPath, hpieces]
  simp [h.ne_empty, h.ne_dot]

theorem ofPath_slash {path first second : String}
    (h : path.toList = first.toList ++ '/' :: second.toList) :
    ofPath path = ofPath first ++ ofPath second := by
  have hpieces : Text.pieces (· == '/') (first.toList ++ '/' :: second.toList) =
      Text.pieces (· == '/') first.toList ++ Text.pieces (· == '/') second.toList := by
    apply Text.pieces_append_cons
    rfl
  rw [ofPath, h, hpieces, List.map_append, List.filter_append]
  rfl

theorem ofPath_empty : ofPath "" = [] := by decide

/-- A path with one more name leads to the place of that name in the place of the path. -/
theorem ofPath_join (path : String) {name : String} (h : IsName name) :
    ofPath (join path name) = ofPath path ++ [name] := by
  rw [join, ← ofPath_of_isName h]
  split
  · next hend =>
    rw [Bool.or_eq_true] at hend
    rcases hend with hempty | hslash
    · rw [String.isEmpty_iff.mp hempty, String.empty_append, ofPath_empty, List.nil_append]
    · -- The path already ends in a slash, behind which nothing stands.
      have hsuffix : "/".toList <:+ path.toList := by
        rw [String.endsWith_eq_endsWith_toSlice, String.Slice.endsWith_string_iff] at hslash
        simpa using hslash
      obtain ⟨front, hfront⟩ := hsuffix
      have hpath : ofPath path = ofPath (String.ofList front) ++ ofPath "" :=
        ofPath_slash (by simp [← hfront])
      rw [hpath, ofPath_empty, List.append_nil]
      exact ofPath_slash (by simp [← hfront])
  · exact ofPath_slash (by simp)

theorem isName_file {stem : String} (h : Name.IsStem stem) : IsName (stem ++ ".rs") := by
  refine ⟨by simp, ?_, ?_⟩
  · intro heq
    have hlength := congrArg (fun s => s.toList.length) heq
    simp at hlength
  · intro hslash
    rw [String.toList_append, List.mem_append] at hslash
    rcases hslash with hslash | hslash
    · exact absurd (h.isStemChar _ hslash) (by decide)
    · revert hslash
      simp

end Place

namespace Emit

/-- The module that a line of an index declares. -/
def declaredModule? (line : List Char) : Option String :=
  if "pub mod ".toList.isPrefixOf line && line.getLast? == some ';' then
    some (String.ofList (line.drop 8).dropLast)
  else none

def declaredModules (index : String) : List String :=
  (Text.pieces (· == '\n') index.toList).filterMap declaredModule?

theorem declaredModule?_nil : declaredModule? [] = none := by simp [declaredModule?]

theorem declaredModule?_declaration (stem : String) :
    declaredModule? ("pub mod " ++ stem ++ ";").toList = some stem := by
  have hend : (' ' :: (stem.toList ++ [';'])).getLast? = some ';' :=
    List.getLast?_concat (l := ' ' :: stem.toList)
  simp [declaredModule?, hend]

theorem filterMap_declarations (stems : List String) :
    ((stems.map fun s => "pub mod " ++ s ++ ";").map String.toList).filterMap declaredModule? =
      stems := by
  rw [List.map_map, List.filterMap_map]
  exact (List.filterMap_congr fun s _ => declaredModule?_declaration s).trans List.filterMap_some

theorem declaredModule?_reexport (stem : String) :
    declaredModule? ("pub use " ++ stem ++ "::*;").toList = none := by
  simp [declaredModule?]

/-- An index begins with a line that declares nothing and an empty one. -/
theorem exists_indexHead : ∃ line : List Char,
    "#![allow(unused_imports)]\n\n".toList = line ++ '\n' :: ([] ++ ['\n']) ∧ '\n' ∉ line ∧
      declaredModule? line = none :=
  ⟨"#![allow(unused_imports)]".toList, by simp, by simp, by simp [declaredModule?]⟩

/-- An index declares the stems that it is made for. -/
theorem declaredModules_moduleIndex {stems : List String} (h : ∀ s ∈ stems, '\n' ∉ s.toList) :
    declaredModules (moduleIndex stems) = stems := by
  have hempty : '\n' ∉ ([] : List Char) := List.not_mem_nil
  have hdeclarations : ∀ l ∈ stems.map (fun s => "pub mod " ++ s ++ ";"), '\n' ∉ l.toList := by
    intro l hl
    obtain ⟨s, hs, rfl⟩ := List.mem_map.mp hl
    simp [h s hs]
  have hreexports : ∀ l ∈ stems.map (fun s => "pub use " ++ s ++ "::*;"), '\n' ∉ l.toList := by
    intro l hl
    obtain ⟨s, hs, rfl⟩ := List.mem_map.mp hl
    simp [h s hs]
  have hdeclared := filterMap_declarations stems
  have hundeclared : ((stems.map fun s => "pub use " ++ s ++ "::*;").map String.toList).filterMap
      declaredModule? = [] := by
    rw [List.map_map, List.filterMap_map, List.filterMap_eq_nil_iff]
    exact fun s _ => declaredModule?_reexport s
  obtain ⟨line, hhead, hline, hlineNone⟩ := exists_indexHead
  unfold declaredModules moduleIndex
  generalize "#![allow(unused_imports)]\n\n" = head at hhead
  generalize stems.map (fun s => "pub mod " ++ s ++ ";") = declarations at *
  generalize stems.map (fun s => "pub use " ++ s ++ "::*;") = reexports at *
  have htext : (head ++ lines declarations ++ "\n" ++ lines reexports).toList =
      line ++ '\n' :: ([] ++ '\n' :: ((lines declarations).toList ++
        ([] ++ '\n' :: ((lines reexports).toList ++ [])))) := by
    simp [hhead]
  rw [htext, pieces_line_append hline, pieces_line_append hempty, pieces_lines_append hdeclarations,
    pieces_line_append hempty, pieces_lines_append hreexports, List.filterMap_cons_none hlineNone,
    List.filterMap_cons_none declaredModule?_nil, List.filterMap_append, hdeclared,
    List.filterMap_cons_none declaredModule?_nil, List.filterMap_append, hundeclared]
  simp [Text.pieces, declaredModule?_nil]

end Emit

theorem Name.IsStem.no_lineBreak {stem : String} (h : IsStem stem) : '\n' ∉ stem.toList := by
  intro hbreak
  exact absurd (h.isStemChar _ hbreak) (by decide)

namespace FileAction

variable (path content : String) (rest : List FileAction)

@[simp] theorem filterMap_written_write :
    (write path content :: rest).filterMap written? =
      (Place.ofPath path, content.toUTF8) :: rest.filterMap written? := rfl

@[simp] theorem filterMap_written_makeFolder :
    (makeFolder path :: rest).filterMap written? = rest.filterMap written? := rfl

@[simp] theorem filterMap_made_write :
    (write path content :: rest).filterMap made? = rest.filterMap made? := rfl

@[simp] theorem filterMap_made_makeFolder :
    (makeFolder path :: rest).filterMap made? = Place.ofPath path :: rest.filterMap made? := rfl

theorem map_fst_written (actions : List FileAction) :
    (actions.filterMap written?).map Prod.fst = (actions.filterMap file?).map Place.ofPath := by
  rw [List.map_filterMap, List.map_filterMap]
  apply List.filterMap_congr
  intro action _
  cases action <;> rfl

end FileAction

/-- What the units of a folder get: as many stems as there are units, all different, and an index
that declares them. -/
structure Shelved (units : Entries String) (stems : List String) (index : String) : Prop where
  length_eq : stems.length = units.length
  nodup : stems.Nodup
  isStem : ∀ s ∈ stems, Name.IsStem s
  declared : Emit.declaredModules index = stems

namespace Generated

/-- The files of a folder of units: one for each of them and the index. -/
def folderFiles (folder : Place) (units : Entries String) (stems : List String) (index : String) :
    List (Place × String) :=
  stems.zipWith (fun stem unit => (folder ++ [stem ++ ".rs"], unit.2)) units ++
    [(folder ++ [indexFile], index)]

theorem filterMap_lookup_eq_zipWith {units : Entries String} {stems : List String}
    {table : List (String × String)} (hlength : stems.length = units.length)
    (htable : ∀ p ∈ units.keys.zip stems, table.lookup p.1 = some p.2) (folder : String) :
    (units.filterMap fun (name, code) =>
        (table.lookup name).map fun stem =>
          FileAction.write (Place.join folder (stem ++ ".rs")) code) =
      stems.zipWith (fun stem unit => .write (Place.join folder (stem ++ ".rs")) unit.2) units := by
  induction units generalizing stems with
  | nil => rw [List.zipWith_nil_right]; rfl
  | cons unit units ih =>
    cases stems with
    | nil => cases hlength
    | cons stem stems =>
      obtain ⟨name, code⟩ := unit
      have hstem : table.lookup name = some stem := htable (name, stem) List.mem_cons_self
      have hrestLength : stems.length = units.length := by simpa using hlength
      have hrest := ih hrestLength fun p hp => htable p (List.mem_cons_of_mem _ hp)
      rw [List.filterMap_cons, hrest]
      simp [hstem]

def encoded (files : List (Place × String)) : List (Place × ByteArray) :=
  files.map fun f => (f.1, f.2.toUTF8)

theorem isName_indexFile : Place.IsName indexFile := by
  refine ⟨by decide, by decide, ?_⟩
  simp [indexFile]

theorem isName_models : Place.IsName "models" := by
  refine ⟨by decide, by decide, ?_⟩
  simp

theorem isName_api : Place.IsName "api" := by
  refine ⟨by decide, by decide, ?_⟩
  simp

theorem lookup_of_mem_zip {units : Entries String} (h : units.keys.Nodup)
    (hkeys : (Name.moduleStems units.keys).map Prod.fst = units.keys) :
    ∀ p ∈ units.keys.zip ((Name.moduleStems units.keys).map Prod.snd),
      (Name.moduleStems units.keys).lookup p.1 = some p.2 := by
  rintro ⟨name, stem⟩ hp
  rw [← List.zip_of_prod hkeys rfl] at hp
  exact (Entries.get?_eq_some_iff (by rwa [Entries.keys, hkeys])).mpr hp

theorem filterMap_unitWrites {stems : List String} (h : ∀ s ∈ stems, Name.IsStem s)
    (folder : String) (units : Entries String) :
    (stems.zipWith (fun stem unit => FileAction.write (Place.join folder (stem ++ ".rs")) unit.2)
        units).filterMap FileAction.written? =
      encoded (stems.zipWith (fun stem unit => (Place.ofPath folder ++ [stem ++ ".rs"], unit.2))
        units) ∧
    (stems.zipWith (fun stem unit => FileAction.write (Place.join folder (stem ++ ".rs")) unit.2)
        units).filterMap FileAction.made? = [] := by
  induction stems generalizing units with
  | nil => exact ⟨rfl, rfl⟩
  | cons stem stems ih =>
    cases units with
    | nil => exact ⟨rfl, rfl⟩
    | cons unit units =>
      obtain ⟨hwritten, hmade⟩ := ih (fun s hs => h s (List.mem_cons_of_mem stem hs)) units
      have hplace := Place.ofPath_join folder (Place.isName_file (h stem List.mem_cons_self))
      rw [List.zipWith_cons_cons, List.zipWith_cons_cons]
      constructor
      · rw [FileAction.filterMap_written_write, hwritten, hplace]
        rfl
      · rw [FileAction.filterMap_made_write, hmade]

/-- The steps for a folder make it and write one file for each unit in it, besides the index. -/
theorem shelved_folderActions {units : Entries String} (h : units.keys.Nodup) (folder : String) :
    ∃ stems index, Shelved units stems index ∧
      (folderActions folder units).filterMap FileAction.written? =
        encoded (folderFiles (Place.ofPath folder) units stems index) ∧
      (folderActions folder units).filterMap FileAction.made? = [Place.ofPath folder] := by
  have hkeys : (Name.moduleStems units.keys).map Prod.fst = units.keys := by
    rw [Name.keys_moduleStems, eraseDups_eq_self h]
  have hstems : ∀ s ∈ (Name.moduleStems units.keys).map Prod.snd, Name.IsStem s :=
    fun s hs => Name.isStem_of_mem_moduleStems hs
  have hlength : ((Name.moduleStems units.keys).map Prod.snd).length = units.length := by
    rw [List.length_map, ← List.length_map Prod.fst, hkeys]
    exact List.length_map Prod.fst
  have hunits := filterMap_lookup_eq_zipWith hlength (lookup_of_mem_zip h hkeys) folder
  obtain ⟨hwritten, hmade⟩ := filterMap_unitWrites hstems folder units
  refine ⟨(Name.moduleStems units.keys).map Prod.snd, _,
    ⟨hlength, Name.nodup_values_moduleStems units.keys, hstems,
      Emit.declaredModules_moduleIndex fun s hs => (hstems s hs).no_lineBreak⟩, ?_, ?_⟩
  · rw [folderActions, hunits, List.cons_append, FileAction.filterMap_written_makeFolder,
      List.filterMap_append, hwritten, folderFiles, ← Place.ofPath_join folder isName_indexFile,
      encoded, encoded, List.map_append]
    rfl
  · rw [folderActions, hunits, List.cons_append, FileAction.filterMap_made_makeFolder,
      List.filterMap_append, hmade]
    rfl

theorem declaredModules_rootIndex : Emit.declaredModules rootIndex = ["api", "models"] := by
  have htext : rootIndex.toList =
      (Emit.lines (["api", "models"].map fun s => "pub mod " ++ s ++ ";")).toList ++ [] := by
    simp [rootIndex, Emit.lines]
  have hbreaks : ∀ l ∈ ["api", "models"].map (fun s => "pub mod " ++ s ++ ";"),
      '\n' ∉ l.toList := by
    simp
  unfold Emit.declaredModules
  rw [htext, Emit.pieces_lines_append hbreaks, List.filterMap_append, Emit.filterMap_declarations]
  simp only [Text.pieces, List.filterMap_cons_none Emit.declaredModule?_nil, List.filterMap_nil,
    List.append_nil]

/-- The files of a generation in a folder: those of its models, those of its clients, and the index
of both folders. -/
def files (g : Generated) (base : Place) (modelStems clientStems : List String)
    (modelIndex clientIndex : String) : List (Place × String) :=
  folderFiles (base ++ ["models"]) g.models modelStems modelIndex ++
    folderFiles (base ++ ["api"]) g.clients clientStems clientIndex ++
    [(base ++ [indexFile], rootIndex)]

/-- The steps of a generation write its files, and make the folders of its models and clients. -/
theorem shelved_actions {g : Generated} (hmodels : g.models.keys.Nodup)
    (hclients : g.clients.keys.Nodup) (folder : String) :
    ∃ modelStems clientStems modelIndex clientIndex,
      Shelved g.models modelStems modelIndex ∧ Shelved g.clients clientStems clientIndex ∧
      (g.actions folder).filterMap FileAction.written? =
        encoded (g.files (Place.ofPath folder) modelStems clientStems modelIndex clientIndex) ∧
      (g.actions folder).filterMap FileAction.made? =
        [Place.ofPath folder ++ ["models"], Place.ofPath folder ++ ["api"]] := by
  obtain ⟨modelStems, modelIndex, hmodelShelf, hmodelFiles, hmodelFolder⟩ :=
    shelved_folderActions hmodels (Place.join folder "models")
  obtain ⟨clientStems, clientIndex, hclientShelf, hclientFiles, hclientFolder⟩ :=
    shelved_folderActions hclients (Place.join folder "api")
  rw [Place.ofPath_join folder isName_models] at hmodelFiles hmodelFolder
  rw [Place.ofPath_join folder isName_api] at hclientFiles hclientFolder
  refine ⟨modelStems, clientStems, modelIndex, clientIndex, hmodelShelf, hclientShelf, ?_, ?_⟩
  · rw [actions, List.filterMap_append, List.filterMap_append, hmodelFiles, hclientFiles, files,
      ← Place.ofPath_join folder isName_indexFile]
    simp only [encoded, List.map_append]
    rfl
  · rw [actions, List.filterMap_append, List.filterMap_append, hmodelFolder, hclientFolder]
    rfl

/-- The index stands where a unit with its stem would. -/
theorem places_folderFiles {folder : Place} {units : Entries String} {stems : List String}
    {index : String} (h : stems.length = units.length) :
    (folderFiles folder units stems index).map Prod.fst =
      (stems ++ ["mod"]).map fun s => folder ++ [s ++ ".rs"] := by
  have hunits : (stems.zipWith (fun stem unit => (folder ++ [stem ++ ".rs"], unit.2)) units).map
      Prod.fst = stems.map fun s => folder ++ [s ++ ".rs"] := by
    induction stems generalizing units with
    | nil => rfl
    | cons stem stems ih =>
      cases units with
      | nil => cases h
      | cons unit units =>
        rw [List.zipWith_cons_cons, List.map_cons, List.map_cons, ih (by simpa using h)]
  rw [folderFiles, List.map_append, hunits, List.map_append]
  rfl

theorem nodup_folderFiles {folder : Place} {units : Entries String} {stems : List String}
    {index : String} (h : Shelved units stems index) :
    ((folderFiles folder units stems index).map Prod.fst).Nodup := by
  have hstems : (stems ++ ["mod"]).Nodup := by
    refine List.nodup_append.mpr ⟨h.nodup, List.nodup_singleton "mod", ?_⟩
    intro s hs t ht
    rw [List.mem_singleton.mp ht]
    exact (h.isStem s hs).ne_index
  rw [places_folderFiles h.length_eq]
  refine hstems.map ?_
  intro s t hst
  simpa using hst

/-- No two files of a generation have one place. -/
theorem nodup_files {g : Generated} {base : Place} {modelStems clientStems : List String}
    {modelIndex clientIndex : String} (hmodels : Shelved g.models modelStems modelIndex)
    (hclients : Shelved g.clients clientStems clientIndex) :
    ((g.files base modelStems clientStems modelIndex clientIndex).map Prod.fst).Nodup := by
  rw [files, List.map_append, List.map_append]
  refine List.nodup_append.mpr ⟨List.nodup_append.mpr
    ⟨nodup_folderFiles hmodels, nodup_folderFiles hclients, ?_⟩, List.nodup_singleton _, ?_⟩
  · intro p hp q hq
    rw [places_folderFiles hmodels.length_eq] at hp
    rw [places_folderFiles hclients.length_eq] at hq
    obtain ⟨s, _, rfl⟩ := List.mem_map.mp hp
    obtain ⟨t, _, rfl⟩ := List.mem_map.mp hq
    simp
  · intro p hp q hq
    rw [places_folderFiles hmodels.length_eq, places_folderFiles hclients.length_eq] at hp
    have hlength : p.length = base.length + 2 := by
      rcases List.mem_append.mp hp with hp | hp
      all_goals
        obtain ⟨s, _, rfl⟩ := List.mem_map.mp hp
        simp
    rintro rfl
    rw [List.mem_singleton.mp hq] at hlength
    simp at hlength

end Generated

end ApiForge
