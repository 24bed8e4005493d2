import ApiForge.Output.Command
import ApiForge.Proofs.Layout
import ApiForge.Proofs.Pipeline

/-!
What the command does to the files. It writes nothing before all has been made, so a document that
is missing or cannot be worked with leaves the tree as it was; and when the steps that write do not
fail, the tree has one file more for every unit, and the indexes. Main statement:
`execute_all_or_nothing`.
-/

namespace ApiForge

theorem FileTree.readText_of_find? {t : FileTree} {p : Place} {text : String}
    (h : t.find? p = some (.file text.toUTF8)) : t.readText p = .ok text := by
  have hread : t.read p = .ok text.toUTF8 := by rw [read, h]
  have htext : String.fromUTF8? text.toUTF8 = some text := dif_pos text.isValidUTF8
  rw [readText, hread]
  show Except.bind (.ok text.toUTF8) _ = _
  rw [Except.bind, htext]
  rfl

namespace Command

variable (c : Command) (t : FileTree)

/-- Whether there is nothing where the document should be. -/
def IsMissing : Prop := c.document = "" ∨ t.find? (Place.ofPath c.document) = none

variable {c t}

theorem execute_of_isMissing (h : c.IsMissing t) :
    c.execute t = (.error (.general c.missingDocument), t) := by
  have hmissing : (c.document.isEmpty || (t.find? (Place.ofPath c.document)).isNone) = true := by
    simpa [IsMissing] using h
  unfold execute
  rw [if_pos hmissing]

theorem not_isMissing_of_readText {text : String}
    (h : t.readText (Place.ofPath c.document) = .ok text) : ¬ c.IsMissing t := by
  rintro (hempty | hnone)
  · rw [hempty, Place.ofPath_empty] at h
    cases h
  · have hread : t.read (Place.ofPath c.document) =
        .error (if t.isBlocked (Place.ofPath c.document) then .notFolder else .notFound) := by
      rw [FileTree.read, hnone]
    rw [FileTree.readText, hread] at h
    cases h

theorem nodup_keys_of_generateFromText {config : Config} {text : String} {g : Generated}
    (h : Document.generateFromText config text = .ok g) :
    g.models.keys.Nodup ∧ g.clients.keys.Nodup := by
  unfold Document.generateFromText at h
  rcases hparse : Document.parse text with p | d
  · rw [hparse] at h
    cases h
  · rw [hparse] at h
    exact ⟨Document.nodup_keys_models h, Document.nodup_keys_clients h⟩

theorem plan_eq_ok {text : String} {g : Generated}
    (h : Document.generateFromText c.config text = .ok g) :
    c.plan text = .ok (g.actions c.outputFolder) := by
  rw [plan, h]
  rfl

theorem plan_eq_error {text : String} {p : Problem}
    (h : Document.generateFromText c.config text = .error p) : c.plan text = .error p := by
  rw [plan, h]
  rfl

theorem not_missing_of_readText {text : String}
    (h : t.readText (Place.ofPath c.document) = .ok text) :
    ¬ (c.document.isEmpty || (t.find? (Place.ofPath c.document)).isNone) = true := by
  simpa [IsMissing] using not_isMissing_of_readText h

theorem execute_of_plan_eq_error {text : String} {p : Problem}
    (hread : t.readText (Place.ofPath c.document) = .ok text) (hplan : c.plan text = .error p) :
    c.execute t = (.error (.core p), t) := by
  unfold execute
  rw [if_neg (not_missing_of_readText hread), hread]
  dsimp only
  rw [hplan]

/-- Once its steps are known, the command does them and gives the files that they write. -/
theorem execute_of_plan_eq_ok {text : String} {actions : List FileAction}
    (hread : t.readText (Place.ofPath c.document) = .ok text) (hplan : c.plan text = .ok actions) :
    c.execute t = (((FileAction.performAll t actions).1.mapError .io).map
      fun _ => actions.filterMap (·.file?), (FileAction.performAll t actions).2) := by
  unfold execute
  rw [if_neg (not_missing_of_readText hread), hread]
  dsimp only
  rw [hplan]
  dsimp only
  rcases FileAction.performAll t actions with ⟨f | ⟨⟩, t'⟩ <;> rfl

/-- A run whose writes do not fail does all of its steps. -/
theorem execute_of_generate {text : String} {g : Generated}
    (hread : t.readText (Place.ofPath c.document) = .ok text)
    (hgenerate : Document.generateFromText c.config text = .ok g)
    (hwrites : ∀ f, (c.execute t).1 ≠ .error (.io f)) :
    ∃ t', FileAction.performAll t (g.actions c.outputFolder) = (.ok (), t') ∧
      c.execute t = (.ok ((g.actions c.outputFolder).filterMap (·.file?)), t') := by
  have hexecute := execute_of_plan_eq_ok hread (plan_eq_ok hgenerate)
  rcases hperform : FileAction.performAll t (g.actions c.outputFolder) with ⟨f | ⟨⟩, t'⟩
  · rw [hperform] at hexecute
    exact absurd (congrArg Prod.fst hexecute) (hwrites f)
  · rw [hperform] at hexecute
    exact ⟨t', rfl, hexecute⟩

/-- A command whose document is missing or cannot be worked with changes nothing. Otherwise, if its
writes do not fail, it sets one file for every unit, named by a stem of its own in the folder of its
kind, an index of each folder that declares these stems, and the index of both; it changes no other
file, and it gives the paths of these files, which are all different. -/
theorem execute_all_or_nothing (c : Command) (t : FileTree) :
    (c.IsMissing t → c.execute t = (.error (.general c.missingDocument), t)) ∧
    (∀ text p, t.readText (Place.ofPath c.document) = .ok text →
      Document.generateFromText c.config text = .error p → c.execute t = (.error (.core p), t)) ∧
    (∀ text g, t.readText (Place.ofPath c.document) = .ok text →
      Document.generateFromText c.config text = .ok g →
      (∀ f, (c.execute t).1 ≠ .error (.io f)) →
      ∃ paths t', c.execute t = (.ok paths, t') ∧ paths.Nodup ∧
        ∃ modelStems clientStems modelIndex clientIndex files,
          files = g.files (Place.ofPath c.outputFolder) modelStems clientStems modelIndex
            clientIndex ∧
          Shelved g.models modelStems modelIndex ∧ Shelved g.clients clientStems clientIndex ∧
          Emit.declaredModules Generated.rootIndex = ["api", "models"] ∧
          paths.map Place.ofPath = files.map Prod.fst ∧ (files.map Prod.fst).Nodup ∧
          FileTree.Sets (Generated.encoded files)
            [Place.ofPath c.outputFolder ++ ["models"], Place.ofPath c.outputFolder ++ ["api"]]
            t t') := by
  refine ⟨execute_of_isMissing, ?_, ?_⟩
  · intro text p hread hgenerate
    exact execute_of_plan_eq_error hread (plan_eq_error hgenerate)
  · intro text g hread hgenerate hwrites
    obtain ⟨t', hperform, hexecute⟩ := execute_of_generate hread hgenerate hwrites
    obtain ⟨hmodels, hclients⟩ := nodup_keys_of_generateFromText hgenerate
    obtain ⟨modelStems, clientStems, modelIndex, clientIndex, hmodelShelf, hclientShelf, hwritten,
      hmade⟩ := Generated.shelved_actions hmodels hclients c.outputFolder
    have hplaces : ((g.files (Place.ofPath c.outputFolder) modelStems clientStems modelIndex
        clientIndex).map Prod.fst).Nodup := Generated.nodup_files hmodelShelf hclientShelf
    have hencoded : (Generated.encoded (g.files (Place.ofPath c.outputFolder) modelStems clientStems
        modelIndex clientIndex)).map Prod.fst = (g.files (Place.ofPath c.outputFolder) modelStems
        clientStems modelIndex clientIndex).map Prod.fst := by
      rw [Generated.encoded, List.map_map]
      rfl
    have hpaths : ((g.actions c.outputFolder).filterMap (·.file?)).map Place.ofPath =
        (g.files (Place.ofPath c.outputFolder) modelStems clientStems modelIndex
          clientIndex).map Prod.fst := by
      rw [← FileAction.map_fst_written, hwritten, hencoded]
    have hsets := FileAction.sets_of_performAll hperform (by rwa [hwritten, hencoded])
    rw [hwritten, hmade] at hsets
    refine ⟨_, t', hexecute, List.Nodup.of_map Place.ofPath (by rwa [hpaths]), modelStems,
      clientStems, modelIndex, clientIndex, _, rfl, hmodelShelf, hclientShelf,
      Generated.declaredModules_rootIndex, hpaths, hplaces, hsets⟩

/-- A document whose only schema has the name of the index. -/
def modDocument : String :=
  "\x7b\"openapi\":\"3\",\"info\":\x7b\"title\":\"T\",\"version\":\"1\"\x7d,\"paths\":\x7b\x7d," ++
    "\"components\":\x7b\"schemas\":\x7b\"Mod\":\x7b\"enum\":[\"a\"]\x7d\x7d\x7d\x7d"

def modCommand : Command where
  document := "api.json"
  outputFolder := "out"
  noVerify := true

def modTree : FileTree := ⟨[(["api.json"], .file modDocument.toUTF8)]⟩

/-- Whether a generation succeeds and its steps can be done. -/
def canWrite (c : Command) (t : FileTree) (text : String) : Bool :=
  match c.plan text with
  | .ok actions => (FileAction.performAll t actions).1.isOk
  | .error _ => false

theorem exists_of_canWrite {text : String} (h : c.canWrite t text = true) :
    ∃ g t', Document.generateFromText c.config text = .ok g ∧
      FileAction.performAll t (g.actions c.outputFolder) = (.ok (), t') := by
  unfold canWrite plan at h
  rcases hgenerate : Document.generateFromText c.config text with p | g
  · rw [hgenerate] at h
    cases h
  · rw [hgenerate] at h
    change (FileAction.performAll t (g.actions c.outputFolder)).1.isOk = true at h
    rcases hperform : FileAction.performAll t (g.actions c.outputFolder) with ⟨f | ⟨⟩, t'⟩
    · rw [hperform] at h
      cases h
    · exact ⟨g, t', rfl, hperform⟩

/-- A schema that is named after the index does not get in its way. -/
theorem execute_modCommand : ∃ paths t',
    modCommand.execute modTree = (.ok paths, t') ∧ paths.Nodup := by
  have hread : modTree.readText (Place.ofPath modCommand.document) = .ok modDocument := by
    have hplace : Place.ofPath modCommand.document = ["api.json"] := by decide
    rw [hplace]
    exact FileTree.readText_of_find? rfl
  have hworks : modCommand.canWrite modTree modDocument = true := by decide +kernel
  obtain ⟨g, t', hgenerate, hperform⟩ := exists_of_canWrite hworks
  have hexecute := execute_of_plan_eq_ok hread (plan_eq_ok hgenerate)
  rw [hperform] at hexecute
  have hwrites : ∀ f, (modCommand.execute modTree).1 ≠ .error (.io f) := by
    intro f hf
    rw [hexecute] at hf
    cases hf
  obtain ⟨paths, t'', hpaths, hnodup, _⟩ :=
    (execute_all_or_nothing modCommand modTree).2.2 modDocument g hread hgenerate hwrites
  exact ⟨paths, t'', hpaths, hnodup⟩

end Command

end ApiForge
