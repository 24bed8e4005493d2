import ApiForge.Proofs.Occurrences
import ApiForge.Proofs.Potential
import ApiForge.Proofs.Units

/-!
Names in the order in which they were taken. A name is taken before its type is made, given back
when nothing comes of it, and taken in bulk for a union. Whatever calls there were, the names that
are taken are those of the types in the order of the types, and the units are those of the types and
of what decodes the unions (`registry_lists_types`).
-/

namespace ApiForge

namespace Registry

theorem names_claim {r : Registry} {before : List String} (h : r.names = before.eraseDups)
    (name : String) : (r.claim name).names = (before ++ [name]).eraseDups := by
  have htaken : r.contains name = true ↔ name ∈ before := by
    rw [contains_iff, h, List.mem_eraseDups]
  rw [eraseDups_concat, claim]
  by_cases hmem : name ∈ before
  · rw [if_pos (htaken.mpr hmem), if_pos hmem, h]
  · rw [if_neg (mt htaken.mp hmem), if_neg hmem, h]

theorem names_foldl_claim {α : Type} (name : α → String) (l : List α) {r : Registry}
    {before : List String} (h : r.names = before.eraseDups) :
    (l.foldl (fun r a => r.claim (name a)) r).names = (before ++ l.map name).eraseDups := by
  induction l generalizing r before with
  | nil => simpa using h
  | cons a rest ih =>
    have hrest := ih (names_claim h (name a))
    rwa [List.append_assoc, List.singleton_append, ← List.map_cons] at hrest

end Registry

namespace ModelRun

variable {config : Config} {namespaceName : String} {history : List Making} {run : ModelRun}

/-- The names that are taken are those of the types, in the order of the types. -/
def InTypeOrder (run : ModelRun) : Prop := run.registry.names = run.typeNames.eraseDups

theorem invariant_inTypeOrder : Invariant config namespaceName fun _ run => run.InTypeOrder := by
  constructor
  case start => rfl
  case note => exact fun _ h => h
  case commit => exact fun _ h => h
  case take => exact fun _ _ h => h
  case named =>
    intro history run key body notes type code found h _ hmake
    have hnames := typeNames_addNamed (run.claim (Name.className key)) hmake
    rw [InTypeOrder, hnames]
    exact Registry.names_claim h (Name.className key)
  case union =>
    intro history run group u found h _
    -- The marker comes before its variants, both among the names and among the types.
    have hmarker := Registry.names_claim h u.marker.name
    have hvariants := Registry.names_foldl_claim (fun v : Variant => v.name) u.variants hmarker
    rw [InTypeOrder, typeNames_addUnion]
    rwa [List.append_assoc, List.singleton_append] at hvariants

theorem reached_call (h : Reached config namespaceName history run) (c : Call) :
    ∃ more, Reached config namespaceName more (run.call config namespaceName c) := by
  cases c with
  | components schemas => exact ⟨_, .components schemas h⟩
  | discovered found => exact ⟨_, .discovered found h⟩

theorem reached_foldl_call (h : Reached config namespaceName history run) (calls : List Call) :
    ∃ more, Reached config namespaceName more (calls.foldl (call config namespaceName) run) := by
  induction calls generalizing history run with
  | nil => exact ⟨history, h⟩
  | cons c rest ih =>
    obtain ⟨_, hcall⟩ := reached_call h c
    exact ih hcall

theorem reached_afterCalls (config : Config) (namespaceName : String) (calls : List Call) :
    ∃ history, Reached config namespaceName history (afterCalls config namespaceName calls) :=
  reached_foldl_call .start calls

theorem Kept.mem_keys_units (h : Kept namespaceName run) {name : String} :
    name ∈ run.units.keys ↔
      name ∈ run.typeNames ∨ ∃ p ∈ run.plans, name = Name.codecName p.union := by
  obtain ⟨put, hput, hperm⟩ := h.units
  have hkeys : name ∈ run.units.keys ↔ name ∈ Entries.keys (deposits namespaceName run) := by
    rw [hput, Entries.mem_keys_putAll, Entries.keys_nil]
    simp only [List.not_mem_nil, false_or]
    exact (hperm.map Prod.fst).mem_iff
  rw [hkeys, keys_deposits, List.mem_append, List.mem_map]
  simp only [eq_comm]

/-- After any calls of a new generator, the names that are taken are those of the types in their
order, each once; the units have these names and those of what decodes the unions; and no work
waits. -/
theorem registry_lists_types (config : Config) (namespaceName : String) (calls : List Call) :
    (∀ t ∈ (afterCalls config namespaceName calls).types, ∃ name, t.name? = some name) ∧
    (afterCalls config namespaceName calls).registry.names =
      ((afterCalls config namespaceName calls).types.filterMap (·.name?)).eraseDups ∧
    (∀ name, name ∈ (afterCalls config namespaceName calls).units.keys ↔
      name ∈ (afterCalls config namespaceName calls).registry.names ∨
        ∃ p ∈ (afterCalls config namespaceName calls).plans, name = Name.codecName p.union) ∧
    (afterCalls config namespaceName calls).pending = [] ∧
    (afterCalls config namespaceName calls).unions = [] := by
  obtain ⟨history, hreached⟩ := reached_afterCalls config namespaceName calls
  have kept := hreached.of_invariant invariant_kept
  have horder := hreached.of_invariant invariant_inTypeOrder
  have hwork := work_afterCalls config namespaceName calls
  refine ⟨kept.named, horder, fun name => ?_, hwork⟩
  rw [kept.mem_keys_units, kept.taken name]

end ModelRun

end ApiForge
