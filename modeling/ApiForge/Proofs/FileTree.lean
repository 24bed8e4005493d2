import ApiForge.Output.Layout
import ApiForge.Proofs.Entries
import Mathlib.Tactic.Common

/-!
What a list of writing steps does to a tree. Making a folder and writing a file each change the
places they name and no others, and neither takes a place that the other kind has. Main statement:
when the steps name each file once and none of them fails, the tree has exactly their files and
folders more (`sets_of_performAll`).
-/

namespace ApiForge

namespace FileTree

theorem lookup_filter_ne {p q : Place} (h : q ≠ p) (nodes : List (Place × FileNode)) :
    (nodes.filter (·.1 != p)).lookup q = nodes.lookup q := by
  induction nodes with
  | nil => rfl
  | cons entry nodes ih =>
    obtain ⟨place, node⟩ := entry
    rw [List.filter_cons, List.lookup_cons]
    by_cases hp : place = p
    · have hq : (q == place) = false := by rwa [hp, beq_eq_false_iff_ne]
      simp [hp ▸ hq, hp, ih]
    · simp [hp, List.lookup_cons, ih]

theorem find?_put {t : FileTree} {p : Place} (hp : p ≠ []) (n : FileNode) (q : Place) :
    (t.put p n).find? q = if q = p then some n else t.find? q := by
  cases q with
  | nil => rw [if_neg hp.symm]; rfl
  | cons name rest =>
    change ((p, n) :: t.nodes.filter (·.1 != p)).lookup (name :: rest) = _
    rw [List.lookup_cons]
    by_cases h : name :: rest = p
    · rw [if_pos h, h, beq_self_eq_true]
    · rw [if_neg h, beq_false_of_ne h]
      exact lookup_filter_ne h t.nodes

/-- Whether a place is a folder or can be made one. -/
def IsPassable (t : FileTree) (p : Place) : Prop := t.find? p = some .folder ∨ t.find? p = none

/-- What making the folders below a place does: those on the way are folders, and all else is as
before. -/
structure Paves (top rest : Place) (t t' : FileTree) : Prop where
  passable : ∀ p, p <+: rest → t.IsPassable (top ++ p)
  folder : ∀ p, p <+: rest → t'.find? (top ++ p) = some .folder
  other : ∀ q, (∀ p, p <+: rest → q ≠ top ++ p) → t'.find? q = t.find? q

/-- One tree has a folder at a place where the other has one or nothing, and is the same
elsewhere. -/
structure PavesOne (p : Place) (t u : FileTree) : Prop where
  passable : t.IsPassable p
  folder : u.find? p = some .folder
  other : ∀ q, q ≠ p → u.find? q = t.find? q

/-- Whether the folder was there or is made, the rest begins from a tree that differs there only. -/
theorem pavesOne_of_makeFoldersBelow {name : String} {rest top : Place} {t t' : FileTree}
    (h : t.makeFoldersBelow top (name :: rest) = .ok t') :
    ∃ u : FileTree, u.makeFoldersBelow (top ++ [name]) rest = .ok t' ∧
      PavesOne (top ++ [name]) t u := by
  rw [makeFoldersBelow] at h
  have hne : top ++ [name] ≠ [] := by simp
  split at h
  · next hfolder => exact ⟨t, h, .inl hfolder, hfolder, fun _ _ => rfl⟩
  · cases h
  · next hnone =>
    refine ⟨t.put (top ++ [name]) .folder, h, .inr hnone, ?_, ?_⟩
    · rw [find?_put hne, if_pos rfl]
    · intro q hq
      rw [find?_put hne, if_neg hq]

theorem paves_nil {top : Place} {t : FileTree} (htop : t.find? top = some .folder) :
    Paves top [] t t where
  passable p hp := by
    rw [List.prefix_nil.mp hp, List.append_nil]
    exact .inl htop
  folder p hp := by
    rw [List.prefix_nil.mp hp, List.append_nil]
    exact htop
  other _ _ := rfl

theorem Paves.cons {name : String} {rest top : Place} {t u t' : FileTree}
    (hstep : PavesOne (top ++ [name]) t u) (hrest : Paves (top ++ [name]) rest u t')
    (htop : t.find? top = some .folder) : Paves top (name :: rest) t t' where
  passable := by
    intro p hp
    rcases List.prefix_cons_iff.mp hp with rfl | ⟨r, rfl, hr⟩
    · rw [List.append_nil]
      exact .inl htop
    · have hpass := hrest.passable r hr
      rw [List.append_assoc] at hpass
      cases r with
      | nil => exact hstep.passable
      | cons m r => rwa [IsPassable, hstep.other _ (by simp)] at hpass
  folder := by
    intro p hp
    rcases List.prefix_cons_iff.mp hp with rfl | ⟨r, rfl, hr⟩
    · have hne : ∀ r, top ≠ top ++ name :: r := by simp
      rw [List.append_nil, hrest.other top, hstep.other top (hne []), htop]
      intro r _
      rw [List.append_assoc]
      exact hne r
    · have hfolder := hrest.folder r hr
      rwa [List.append_assoc] at hfolder
  other := by
    intro q hq
    have hname : q ≠ top ++ [name] := hq [name] (List.cons_prefix_cons.mpr ⟨rfl, List.nil_prefix⟩)
    rw [hrest.other q, hstep.other q hname]
    intro r hr
    rw [List.append_assoc]
    exact hq (name :: r) (List.cons_prefix_cons.mpr ⟨rfl, hr⟩)

theorem paves_of_makeFoldersBelow {rest top : Place} {t t' : FileTree}
    (h : t.makeFoldersBelow top rest = .ok t') (htop : t.find? top = some .folder) :
    Paves top rest t t' := by
  induction rest generalizing top t with
  | nil =>
    obtain rfl : t = t' := by simpa [makeFoldersBelow] using h
    exact paves_nil htop
  | cons name rest ih =>
    obtain ⟨u, hu, hstep⟩ := pavesOne_of_makeFoldersBelow h
    exact Paves.cons hstep (ih hu hstep.folder) htop

theorem paves_of_makeFolders {p : Place} {t t' : FileTree} (h : t.makeFolders p = .ok t') :
    Paves [] p t t' :=
  paves_of_makeFoldersBelow h rfl

theorem write_eq_ok {t t' : FileTree} {p : Place} {content : ByteArray}
    (h : t.write p content = .ok t') :
    p ≠ [] ∧ t.find? p ≠ some .folder ∧ t' = t.put p (.file content) := by
  rw [write] at h
  split at h
  · cases h
  · next hfree =>
    refine ⟨fun hp => hfree (by rw [hp]; rfl), hfree, ?_⟩
    split at h
    · exact (Except.ok.inj h).symm
    · cases h
    · cases h

/-- One tree has exactly some files and folders more than another: the files hold what they are
given, the folders and those on the way to them are there, and every other place is as before. No
file takes the place of a folder, and no folder that of a file. -/
structure Sets (files : List (Place × ByteArray)) (folders : List Place) (t t' : FileTree) :
    Prop where
  file : ∀ p content, (p, content) ∈ files → t'.find? p = some (.file content)
  free : ∀ p ∈ files.map Prod.fst, t.find? p ≠ some .folder
  folder : ∀ p, (∃ f ∈ folders, p <+: f) → t'.find? p = some .folder
  passable : ∀ p, (∃ f ∈ folders, p <+: f) → t.IsPassable p
  other : ∀ p, p ∉ files.map Prod.fst → (∀ f ∈ folders, ¬ p <+: f) → t'.find? p = t.find? p

variable {files : List (Place × ByteArray)} {folders : List Place} {t u t' : FileTree}

theorem Sets.refl (t : FileTree) : Sets [] [] t t where
  file _ _ h := by cases h
  free _ h := by cases h
  folder _ h := by simp at h
  passable _ h := by simp at h
  other _ _ _ := rfl

theorem Sets.cons_folder {f : Place} (hf : Paves [] f t u) (h : Sets files folders u t') :
    Sets files (f :: folders) t t' := by
  -- A place on the way to the folder is a folder from now on.
  have hkept : ∀ p, p <+: f → t'.find? p = some .folder := by
    intro p hp
    have hfolder : u.find? p = some .folder := hf.folder p hp
    by_cases hfolders : ∃ g ∈ folders, p <+: g
    · exact h.folder p hfolders
    · rw [h.other p (fun hp' => h.free p hp' hfolder) (by simpa using hfolders), hfolder]
  have hother : ∀ p, ¬ p <+: f → u.find? p = t.find? p := by
    intro p hp
    refine hf.other p ?_
    rintro q hq rfl
    exact hp hq
  constructor
  case file => exact h.file
  case free =>
    intro p hp hfolder
    by_cases hpf : p <+: f
    · exact h.free p hp (hf.folder p hpf)
    · exact h.free p hp (by rw [hother p hpf, hfolder])
  case folder =>
    rintro p ⟨g, hg, hp⟩
    rcases List.mem_cons.mp hg with rfl | hg
    · exact hkept p hp
    · exact h.folder p ⟨g, hg, hp⟩
  case passable =>
    rintro p ⟨g, hg, hp⟩
    by_cases hpf : p <+: f
    · exact hf.passable p hpf
    · rcases List.mem_cons.mp hg with rfl | hg
      · exact absurd hp hpf
      · have hpass := h.passable p ⟨g, hg, hp⟩
        rwa [IsPassable, hother p hpf] at hpass
  case other =>
    intro p hp hfolders
    rw [h.other p hp fun g hg => hfolders g (List.mem_cons_of_mem f hg),
      hother p (hfolders f List.mem_cons_self)]

theorem Sets.cons_file {p : Place} {content : ByteArray} (hp : p ≠ [])
    (hfree : t.find? p ≠ some .folder) (hfresh : p ∉ files.map Prod.fst)
    (h : Sets files folders (t.put p (.file content)) t') :
    Sets ((p, content) :: files) folders t t' := by
  have hself : (t.put p (.file content)).find? p = some (.file content) := by
    rw [find?_put hp, if_pos rfl]
  have hother : ∀ q, q ≠ p → (t.put p (.file content)).find? q = t.find? q := by
    intro q hq
    rw [find?_put hp, if_neg hq]
  -- The file is not on the way to a folder that is made later.
  have hway : ∀ f ∈ folders, ¬ p <+: f := by
    intro f hf hpf
    rcases h.passable p ⟨f, hf, hpf⟩ with hpass | hpass
    · rw [hself] at hpass
      cases hpass
    · rw [hself] at hpass
      cases hpass
  constructor
  case file =>
    intro q other hq
    rcases List.mem_cons.mp hq with heq | hq
    · obtain ⟨rfl, rfl⟩ := Prod.mk.inj heq
      rw [h.other q hfresh hway, hself]
    · exact h.file q other hq
  case free =>
    intro q hq
    rcases List.mem_cons.mp hq with rfl | hq
    · exact hfree
    · have hne : q ≠ p := fun heq => hfresh (heq ▸ hq)
      rw [← hother q hne]
      exact h.free q hq
  case folder => exact h.folder
  case passable =>
    rintro q ⟨f, hf, hq⟩
    have hne : q ≠ p := fun heq => hway f hf (heq ▸ hq)
    have hpass := h.passable q ⟨f, hf, hq⟩
    rwa [IsPassable, hother q hne] at hpass
  case other =>
    intro q hq hfolders
    have hne : q ≠ p := fun heq => hq (by simp [heq])
    rw [h.other q (fun hmem => hq (List.mem_cons_of_mem _ hmem)) hfolders, hother q hne]

end FileTree

namespace FileAction

def written? : FileAction → Option (Place × ByteArray)
  | makeFolder _ => none
  | write path content => some (Place.ofPath path, content.toUTF8)

def made? : FileAction → Option Place
  | makeFolder path => some (Place.ofPath path)
  | write _ _ => none

theorem sets_of_performAll {actions : List FileAction} {t t' : FileTree}
    (h : performAll t actions = (.ok (), t'))
    (hnodup : ((actions.filterMap written?).map Prod.fst).Nodup) :
    FileTree.Sets (actions.filterMap written?) (actions.filterMap made?) t t' := by
  induction actions generalizing t with
  | nil =>
    obtain rfl : t = t' := congrArg Prod.snd h
    exact .refl t
  | cons action rest ih =>
    rw [performAll] at h
    rcases haction : action.perform t with f | u
    · rw [haction] at h
      cases congrArg Prod.fst h
    · rw [haction] at h
      cases action with
      | makeFolder path => exact .cons_folder (FileTree.paves_of_makeFolders haction) (ih h hnodup)
      | write path content =>
        obtain ⟨hne, hfree, rfl⟩ := FileTree.write_eq_ok haction
        obtain ⟨hfresh, hnodup⟩ := List.nodup_cons.mp hnodup
        exact .cons_file hne hfree hfresh (ih h hnodup)

end FileAction

end ApiForge
