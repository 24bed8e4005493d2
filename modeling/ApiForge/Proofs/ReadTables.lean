import ApiForge.Document.Parsing
import ApiForge.Proofs.ParsedYaml

/-!
Documents that are read from text. A table that is read puts one entry after the other, so no key
of it stands twice, and the parts of a draft whose values are proper have proper values. Main
statement: the paths of a document have keys of their own (`nodup_keys_of_parse`).
-/

namespace ApiForge

section Loops

variable {ε α β γ : Type}

/-- What every step of a loop keeps holds of its result. -/
theorem foldlM_induction {step : β → α → Except ε β} {P : β → Prop}
    (hstep : ∀ b a c, P b → step b a = .ok c → P c) {l : List α} {start last : β} (hstart : P start)
    (h : l.foldlM step start = .ok last) : P last := by
  induction l generalizing start with
  | nil =>
    cases h
    exact hstart
  | cons a l ih =>
    rw [List.foldlM_cons] at h
    obtain ⟨next, hnext, h⟩ := bind_eq_ok h
    exact ih (hstep _ _ _ hstart hnext) h

theorem map_eq_of_mapM {f : α → Except ε β} {p : α → γ} {q : β → γ}
    (hf : ∀ a b, f a = .ok b → q b = p a) {l : List α} {m : List β} (h : l.mapM f = .ok m) :
    m.map q = l.map p := by
  induction l generalizing m with
  | nil =>
    cases h
    rfl
  | cons a l ih =>
    rw [List.mapM_cons] at h
    obtain ⟨first, hfirst, h⟩ := bind_eq_ok h
    obtain ⟨rest, hrest, h⟩ := bind_eq_ok h
    cases h
    rw [List.map_cons, List.map_cons, hf _ _ hfirst, ih hrest]

theorem forall_mem_of_mapM {f : α → Except ε β} {Q : α → Prop} {P : β → Prop}
    (hf : ∀ a b, Q a → f a = .ok b → P b) {l : List α} (hl : ∀ a ∈ l, Q a) {m : List β}
    (h : l.mapM f = .ok m) : ∀ b ∈ m, P b := by
  induction l generalizing m with
  | nil =>
    cases h
    exact List.forall_mem_nil _
  | cons a l ih =>
    rw [List.forall_mem_cons] at hl
    rw [List.mapM_cons] at h
    obtain ⟨first, hfirst, h⟩ := bind_eq_ok h
    obtain ⟨rest, hrest, h⟩ := bind_eq_ok h
    cases h
    exact List.forall_mem_cons.mpr ⟨hf a first hl.1 hfirst, ih hl.2 hrest⟩

end Loops

namespace Draft

variable {α σ : Type}

/-! The parts that are got at. -/

theorem Proper.items : (d : Draft) → d.Proper → ∀ {l}, d.items = .ok l → ∀ e ∈ l, e.Proper
  | scalar s, _, l, hl => by
    rw [Draft.items] at hl
    split at hl
    · cases hl
      exact List.forall_mem_nil _
    · obtain ⟨_, -, hl⟩ := bind_eq_ok hl
      cases hl
  | list _ items, h, l, hl => by
    cases hl
    exact itemsProper_iff.mp h
  | dict _, _, _, hl => by cases hl
  | sealed _ inner, _, _, hl => by cases inner <;> cases hl
  | marked inner, h, _, hl => Proper.items inner h hl
  | broken _, _, _, hl => by cases hl

theorem Proper.entries : (d : Draft) → d.Proper → ∀ {l}, d.entries = .ok l → ∀ e ∈ l, e.2.Proper
  | scalar s, _, l, hl => by
    rw [Draft.entries] at hl
    split at hl
    · cases hl
      exact List.forall_mem_nil _
    · obtain ⟨_, -, hl⟩ := bind_eq_ok hl
      cases hl
  | dict entries, h, l, hl => by
    cases hl
    exact entriesProper_iff.mp h
  | list _ _, _, _, hl => by cases hl
  | sealed _ inner, _, _, hl => by cases inner <;> cases hl
  | marked inner, h, _, hl => Proper.entries inner h hl
  | broken _, _, _, hl => by cases hl

theorem of_optional {read : Draft → Except Fault α} {d : Draft} {a : α}
    (h : d.optional read = .ok (some a)) : read d = .ok a := by
  unfold optional at h
  split at h
  · split at h
    · cases h
    · obtain ⟨_, ha, h⟩ := bind_eq_ok h
      cases h
      exact ha
  · obtain ⟨_, ha, h⟩ := bind_eq_ok h
    cases h
    exact ha

theorem nodup_keys_tableOf {read : Draft → Except Fault α} {d : Draft} {t : Entries α}
    (h : d.tableOf read = .ok t) : t.keys.Nodup := by
  obtain ⟨entries, _, h⟩ := bind_eq_ok h
  refine foldlM_induction (P := fun t => t.keys.Nodup) ?_ List.nodup_nil h
  intro t p u ht hu
  obtain ⟨key, _, hu⟩ := bind_eq_ok hu
  obtain ⟨value, _, hu⟩ := bind_eq_ok hu
  cases hu
  exact Entries.nodup_keys_put ht _ _

section Records

variable {set : σ → String → Draft → Except Fault σ} {P : σ → Prop}

theorem readMembers_induction (hset : ∀ s name d t, d.Proper → P s → set s name d = .ok t → P t)
    {names seen : List String} {entries : List (Draft × Draft)} {s t : σ}
    (hentries : ∀ e ∈ entries, e.2.Proper) (hs : P s)
    (h : readMembers names set s seen entries = .ok t) : P t := by
  induction entries generalizing s seen with
  | nil =>
    cases h
    exact hs
  | cons p rest ih =>
    rw [List.forall_mem_cons] at hentries
    rw [readMembers] at h
    obtain ⟨key, _, h⟩ := bind_eq_ok h
    split at h
    · split at h
      · cases h
      · obtain ⟨next, hnext, h⟩ := bind_eq_ok h
        exact ih hentries.2 (hset _ _ _ _ hentries.1 hs hnext) h
    · obtain ⟨_, _, h⟩ := bind_eq_ok h
      exact ih hentries.2 hs h

theorem readPositions_induction (hset : ∀ s name d t, d.Proper → P s → set s name d = .ok t → P t)
    {surplus : Fault} {needed : Nat} {names : List String} {items : List Draft} {s t : σ}
    (hitems : ∀ d ∈ items, d.Proper) (hs : P s)
    (h : readPositions surplus set needed s names items = .ok t) : P t := by
  induction items generalizing s names needed with
  | nil =>
    rw [readPositions] at h
    split at h
    · cases h
      exact hs
    · cases h
  | cons d rest ih =>
    rw [List.forall_mem_cons] at hitems
    cases names with
    | nil => cases d <;> cases h
    | cons name names =>
      rw [readPositions] at h
      obtain ⟨next, hnext, h⟩ := bind_eq_ok h
      exact ih hitems.2 (hset _ _ _ _ hitems.1 hs hnext) h

/-- What every member keeps holds of the record. -/
theorem record_induction (hset : ∀ s name d t, d.Proper → P s → set s name d = .ok t → P t)
    {layout : Layout} {start t : σ} {d : Draft} (hd : d.Proper) (hstart : P start)
    (h : d.record layout start set = .ok t) : P t := by
  unfold record at h
  split at h
  · exact readPositions_induction hset (itemsProper_iff.mp hd) hstart h
  · cases h
  · obtain ⟨entries, hentries, h⟩ := bind_eq_ok h
    exact readMembers_induction hset (hd.entries _ hentries) hstart h

end Records

end Draft

open Draft

theorem nodup_keys_readPaths {d : Draft} {paths : Entries PathItem} (h : readPaths d = .ok paths) :
    paths.keys.Nodup := by
  obtain ⟨raw, hraw, h⟩ := bind_eq_ok h
  have hkeys := map_eq_of_mapM (p := Prod.fst) (q := Prod.fst) (by
    intro p item hitem
    obtain ⟨key, v⟩ := p
    dsimp only at hitem
    split at hitem
    · cases hitem
      rfl
    · cases hitem) h
  rw [Entries.keys, hkeys]
  exact (nodup_keys_tableOf hraw).sublist (List.filter_sublist.map Prod.fst)

theorem nodup_keys_rawDocument {d : Draft} (hd : d.Proper) {raw : RawDocument}
    (h : RawDocument.read d = .ok raw) : raw.paths.keys.Nodup := by
  refine record_induction (P := fun doc => doc.paths.keys.Nodup) ?_ hd List.nodup_nil h
  intro doc name d next _ hdoc hnext
  split at hnext
  · obtain ⟨_, _, hnext⟩ := bind_eq_ok hnext
    cases hnext
    exact hdoc
  · obtain ⟨_, _, hnext⟩ := bind_eq_ok hnext
    cases hnext
    exact hdoc
  · obtain ⟨paths, hpaths, hnext⟩ := bind_eq_ok hnext
    cases hnext
    exact nodup_keys_readPaths hpaths
  · obtain ⟨_, _, hnext⟩ := bind_eq_ok hnext
    cases hnext
    exact hdoc
  · cases hnext

theorem Format.proper_root_read (format : Format) (text : String) :
    (format.read text).root.Proper := by
  cases format with
  | json => exact Json.proper_root_read text
  | yaml => exact Yaml.proper_root_read text

/-- A document that is read from a text comes from a draft with proper values. -/
theorem exists_raw_of_parse {text : String} {d : Document} (h : Document.parse text = .ok d) :
    ∃ (root : Draft) (raw : RawDocument), root.Proper ∧ RawDocument.read root = .ok raw ∧
      d.paths = raw.paths ∧ d.schemas = raw.components.getD [] := by
  obtain ⟨raw, hraw, h⟩ := bind_eq_ok h
  refine ⟨_, raw, (Format.detect text).proper_root_read text, ?_, ?_⟩
  · unfold Format.parse at hraw
    rcases hget : ((Format.detect text).read text).get RawDocument.read with fault | got
    · rw [hget] at hraw
      cases hraw
    · rw [hget] at hraw
      cases hraw
      exact Reading.of_get hget
  · obtain ⟨_, _, h⟩ := bind_eq_ok h
    split at h
    · cases h
    · obtain ⟨_, _, h⟩ := bind_eq_ok h
      obtain ⟨_, _, h⟩ := bind_eq_ok h
      cases h
      exact ⟨rfl, rfl⟩

/-- No path of a document that is read stands twice. -/
theorem nodup_keys_of_parse {text : String} {d : Document} (h : Document.parse text = .ok d) :
    d.paths.keys.Nodup := by
  obtain ⟨root, raw, hroot, hraw, hpaths, -⟩ := exists_raw_of_parse h
  rw [hpaths]
  exact nodup_keys_rawDocument hroot hraw

end ApiForge
