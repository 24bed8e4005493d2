import ApiForge.Client.Generation
import ApiForge.Proofs.Entries
import Mathlib.Data.List.Nodup

/-!
The operations of a document by the first segment of their paths. Main statements: the group of a
segment holds the operations under that segment and no others, and when no path comes twice an
operation is known by its path and verb.
-/

namespace ApiForge

open Client

def Client.Endpoint.key (e : Endpoint) : String × Verb := (e.path, e.verb)

def Document.endpoints (d : Document) : List Endpoint :=
  d.paths.flatMap fun p => endpointsOf p.1 p.2

def Document.endpointsUnder (d : Document) (segment : String) : List Endpoint :=
  d.endpoints.filter fun e => firstSegment e.path = segment

/-- The operations of a path come in the order of their verbs, each verb once. -/
theorem PathItem.verbs_sublist (item : PathItem) :
    (item.operations.map Prod.fst).Sublist Verb.all := by
  rw [operations, List.map_filterMap]
  generalize Verb.all = verbs
  induction verbs with
  | nil => exact .slnil
  | cons verb verbs ih =>
    rw [List.filterMap_cons]
    cases item.declared.lookup verb with
    | none => exact ih.cons verb
    | some operation => exact ih.cons_cons verb

namespace Client

theorem path_of_mem_endpointsOf {path : String} {item : PathItem} {e : Endpoint}
    (h : e ∈ endpointsOf path item) : e.path = path := by
  obtain ⟨_, _, rfl⟩ := List.mem_map.mp h
  rfl

theorem filter_endpointsOf (path segment : String) (item : PathItem) :
    (endpointsOf path item).filter (fun e => firstSegment e.path = segment) =
      if firstSegment path = segment then endpointsOf path item else [] := by
  split
  · next h =>
    rw [List.filter_eq_self]
    intro e he
    simpa [path_of_mem_endpointsOf he] using h
  · next h =>
    rw [List.filter_eq_nil_iff]
    intro e he
    simpa [path_of_mem_endpointsOf he] using h

def takePath (groups : Entries (List Endpoint)) (p : String × PathItem) :
    Entries (List Endpoint) :=
  groups.put (firstSegment p.1) ((groups.get? (firstSegment p.1)).getD [] ++ endpointsOf p.1 p.2)

theorem bySegment_eq (paths : Entries PathItem) : bySegment paths = paths.foldl takePath [] := rfl

theorem get?_takePath (groups : Entries (List Endpoint)) (p : String × PathItem)
    (segment : String) :
    ((takePath groups p).get? segment).getD [] = (groups.get? segment).getD [] ++
      (endpointsOf p.1 p.2).filter fun e => firstSegment e.path = segment := by
  rw [takePath, Entries.get?_put, filter_endpointsOf]
  by_cases h : segment = firstSegment p.1
  · simp [h]
  · rw [if_neg h, if_neg (Ne.symm h), List.append_nil]

theorem get?_foldl_takePath (paths : List (String × PathItem)) (groups : Entries (List Endpoint))
    (segment : String) :
    ((paths.foldl takePath groups).get? segment).getD [] = (groups.get? segment).getD [] ++
      (paths.flatMap fun p => endpointsOf p.1 p.2).filter
        fun e => firstSegment e.path = segment := by
  induction paths generalizing groups with
  | nil => simp
  | cons p paths ih =>
    rw [List.foldl_cons, ih, get?_takePath, List.flatMap_cons, List.filter_append,
      List.append_assoc]

theorem nodup_keys_bySegment (paths : Entries PathItem) : (bySegment paths).keys.Nodup := by
  have hfold : ∀ (ps : List (String × PathItem)) (groups : Entries (List Endpoint)),
      groups.keys.Nodup → (ps.foldl takePath groups).keys.Nodup := by
    intro ps
    induction ps with
    | nil => exact fun _ h => h
    | cons p ps ih => exact fun groups h => ih _ (Entries.nodup_keys_put h _ _)
  exact hfold paths [] .nil

theorem mem_keys_bySegment {paths : Entries PathItem} {segment : String} :
    segment ∈ (bySegment paths).keys ↔ ∃ p ∈ paths, firstSegment p.1 = segment := by
  have hfold : ∀ (ps : List (String × PathItem)) (groups : Entries (List Endpoint)),
      segment ∈ (ps.foldl takePath groups).keys ↔
        segment ∈ groups.keys ∨ ∃ p ∈ ps, firstSegment p.1 = segment := by
    intro ps
    induction ps with
    | nil => simp
    | cons p ps ih =>
      intro groups
      rw [List.foldl_cons, ih, takePath, Entries.mem_keys_put]
      simp only [List.mem_cons, exists_eq_or_imp]
      rw [eq_comm, or_comm (a := firstSegment p.1 = segment), or_assoc]
  rw [bySegment_eq, hfold]
  simp

/-- The group of a segment holds the operations under it. -/
theorem eq_endpointsUnder_of_mem {d : Document} {segment : String} {endpoints : List Endpoint}
    (h : (segment, endpoints) ∈ bySegment d.paths) : endpoints = d.endpointsUnder segment := by
  have hget := (Entries.get?_eq_some_iff (nodup_keys_bySegment d.paths)).mpr h
  have hfold := get?_foldl_takePath d.paths [] segment
  rw [← bySegment_eq, hget] at hfold
  simpa [Document.endpointsUnder, Document.endpoints] using hfold

end Client

/-- The first segments of the paths of a document, in the order in which they come up. -/
def Document.segments (d : Document) : List String := (bySegment d.paths).keys

namespace Document

theorem nodup_segments (d : Document) : d.segments.Nodup := nodup_keys_bySegment d.paths

theorem mem_endpoints {d : Document} {e : Endpoint} :
    e ∈ d.endpoints ↔ ∃ p ∈ d.paths, e ∈ endpointsOf p.1 p.2 :=
  List.mem_flatMap

theorem mem_endpointsUnder {d : Document} {segment : String} {e : Endpoint} :
    e ∈ d.endpointsUnder segment ↔ e ∈ d.endpoints ∧ firstSegment e.path = segment := by
  simp [endpointsUnder]

theorem firstSegment_mem_segments {d : Document} {e : Endpoint} (h : e ∈ d.endpoints) :
    firstSegment e.path ∈ d.segments := by
  obtain ⟨p, hp, he⟩ := mem_endpoints.mp h
  exact mem_keys_bySegment.mpr ⟨p, hp, by rw [path_of_mem_endpointsOf he]⟩

theorem bySegment_paths (d : Document) :
    bySegment d.paths = d.segments.map fun segment => (segment, d.endpointsUnder segment) := by
  rw [segments, Entries.keys, List.map_map]
  refine (List.map_id _).symm.trans (List.map_congr_left fun p hp => ?_)
  rw [Function.comp_apply, id, ← eq_endpointsUnder_of_mem hp]

/-- The verbs of the operations of a path are its own. -/
theorem nodup_map_key_endpointsOf (path : String) (item : PathItem) :
    ((endpointsOf path item).map Endpoint.key).Nodup := by
  have hverbs := item.verbs_sublist
  have hkeys : (endpointsOf path item).map Endpoint.key =
      (item.operations.map Prod.fst).map fun verb => (path, verb) := by
    simp [endpointsOf, Endpoint.key, Function.comp_def]
  rw [hkeys]
  refine List.Nodup.map (fun a b h => (Prod.mk.inj h).2) (hverbs.nodup ?_)
  decide

theorem nodup_map_key_endpoints {d : Document} (hpaths : d.paths.keys.Nodup) :
    (d.endpoints.map Endpoint.key).Nodup := by
  rw [endpoints, List.map_flatMap, List.nodup_flatMap]
  refine ⟨fun p _ => nodup_map_key_endpointsOf p.1 p.2, ?_⟩
  rw [Entries.keys, List.Nodup, List.pairwise_map] at hpaths
  refine hpaths.imp fun {p q} hne => ?_
  intro key hp hq
  obtain ⟨e, he, rfl⟩ := List.mem_map.mp hp
  obtain ⟨f, hf, hkey⟩ := List.mem_map.mp hq
  refine hne ?_
  rw [← path_of_mem_endpointsOf he, ← path_of_mem_endpointsOf hf]
  exact (Prod.mk.inj hkey).1.symm

end Document

end ApiForge
