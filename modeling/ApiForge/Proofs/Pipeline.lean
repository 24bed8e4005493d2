import ApiForge.Generation
import ApiForge.Proofs.ClientAccount
import ApiForge.Proofs.NameOrder

/-!
What a generation that succeeds gives: the clients of the document, and what is left of one run of
the types, which takes up the schemas of the document first and then those that the clients ask
for. Main statements: `generate_eq_ok_iff`, and no unit of models or of clients stands twice.
-/

namespace ApiForge.Document

open Client

variable (config : Config) (d : Document)

def calls : List ModelRun.Call :=
  [.components d.schemas, .discovered (Clients.generate config d).found]

/-- The run of the types of a document, once all has been taken up. -/
def modelRun : ModelRun := ModelRun.afterCalls config d.info.modelsNamespace (d.calls config)

variable {config d}

theorem reached_modelRun (config : Config) (d : Document) :
    ∃ history, ModelRun.Reached config d.info.modelsNamespace history (d.modelRun config) :=
  ModelRun.reached_afterCalls config d.info.modelsNamespace (d.calls config)

theorem generate_eq_ok_iff {g : Generated} :
    d.generate config = .ok g ↔
      config.verify (errorUnit d.info.namespaceName) = .ok () ∧
        g = { models := ((d.modelRun config).finish config).units
              clients := (Clients.generate config d).units
              types := ModelType.boxAll (d.modelRun config).types
              plans := (d.modelRun config).plans
              issues := (Clients.generate config d).issues ++
                unresolvedReferences (d.modelRun config).registry
                  (Clients.generate config d).references ++
                ((d.modelRun config).finish config).issues } := by
  unfold generate
  rcases config.verify (errorUnit d.info.namespaceName) with p | ⟨⟩
  · constructor
    · intro h
      cases h
    · rintro ⟨h, _⟩
      cases h
  · constructor
    · intro h
      exact ⟨rfl, (Except.ok.inj h).symm⟩
    · rintro ⟨_, rfl⟩
      rfl

theorem nodup_keys_models {g : Generated} (h : d.generate config = .ok g) :
    g.models.keys.Nodup := by
  obtain ⟨_, rfl⟩ := generate_eq_ok_iff.mp h
  obtain ⟨history, hreached⟩ := reached_modelRun config d
  obtain ⟨put, hput, _⟩ := (hreached.of_invariant ModelRun.invariant_kept).units
  dsimp only [ModelRun.finish]
  rw [ModelRun.keys_foldl_rerender, hput]
  exact Entries.nodup_keys_putAll (t := []) .nil put

theorem nodup_keys_clients {g : Generated} (h : d.generate config = .ok g) :
    g.clients.keys.Nodup := by
  obtain ⟨_, rfl⟩ := generate_eq_ok_iff.mp h
  dsimp only
  rw [generate_eq, units_foldl]
  apply Entries.nodup_keys_putAll
  exact List.nodup_singleton errorUnitName

end ApiForge.Document
