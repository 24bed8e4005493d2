import ApiForge.Proofs.Resolution

/-!
Resolution does not depend on what came before it. From every table of names that answers what the
derivation of a name would, a property has the same type and adds the same work, so a type that was
resolved in the middle of a run is the one that its schema resolves to on its own. Main statement:
`gives_outcome_property`.
-/

namespace ApiForge

namespace Resolving

variable {α β : Type}

/-- Wherever it starts, a resolution has a given result and adds given work. -/
def ComesTo (m : Resolving α) (r : Except Problem α) (d : Discovered) : Prop :=
  ∀ s, s.names.Faithful →
    (m.after s).1 = r ∧ (m.after s).2.found = s.found ++ d ∧ (m.after s).2.names.Faithful

/-- A resolution comes to the same wherever it starts. -/
def Steady (m : Resolving α) : Prop := ∃ r d, ComesTo m r d

namespace Steady

theorem pure (a : α) : Steady (Pure.pure a : Resolving α) :=
  ⟨.ok a, {}, fun s hs => ⟨rfl, (Discovered.append_empty s.found).symm, hs⟩⟩

theorem lift (e : Except Problem α) : Steady (Resolving.lift e) :=
  ⟨e, {}, fun s hs => ⟨rfl, (Discovered.append_empty s.found).symm, hs⟩⟩

theorem bind {m : Resolving α} {f : α → Resolving β} (hm : Steady m) (hf : ∀ a, Steady (f a)) :
    Steady (m >>= f) := by
  obtain ⟨r, d, hm⟩ := hm
  cases r with
  | error p =>
    refine ⟨.error p, d, fun s hs => ?_⟩
    obtain ⟨hresult, hfound, hnames⟩ := hm s hs
    rw [after_bind]
    rcases ha : m.after s with ⟨r, t⟩
    rw [ha] at hresult hfound hnames
    obtain rfl : r = .error p := hresult
    exact ⟨rfl, hfound, hnames⟩
  | ok a =>
    obtain ⟨q, e, hf⟩ := hf a
    refine ⟨q, d ++ e, fun s hs => ?_⟩
    obtain ⟨hresult, hfound, hnames⟩ := hm s hs
    rw [after_bind]
    rcases ha : m.after s with ⟨r, t⟩
    rw [ha] at hresult hfound hnames
    obtain rfl : r = .ok a := hresult
    obtain ⟨hresult', hfound', hnames'⟩ := hf t hnames
    refine ⟨hresult', ?_, hnames'⟩
    rw [hfound', hfound, Discovered.append_assoc]

theorem className (key : String) : Steady (Resolving.className key) := by
  refine ⟨.ok (Name.className key), {}, fun s hs => ?_⟩
  obtain ⟨hname, hnames⟩ := Name.ClassNames.nameOf_of_faithful hs key
  exact ⟨congrArg Except.ok hname, (Discovered.append_empty s.found).symm, hnames⟩

theorem enqueue (key : String) (schema : Schema) : Steady (Resolving.enqueue key schema) :=
  ⟨.ok (), { pending := [⟨key, schema⟩] }, fun _ hs => ⟨rfl, rfl, hs⟩⟩

theorem enqueueUnion (owner : String) (variants : List Schema) :
    Steady (Resolving.enqueueUnion owner variants) := by
  have hqueue : Steady (modify fun s => { s with
      found := s.found ++ { unions := [⟨owner, variants⟩] } } : Resolving PUnit) :=
    ⟨.ok (), { unions := [⟨owner, variants⟩] }, fun _ hs => ⟨rfl, rfl, hs⟩⟩
  exact hqueue.bind fun _ => (className owner).bind fun _ => pure _

/-- What a resolution comes to anywhere is what it comes to on its own. -/
theorem gives_outcome {m : Resolving α} (h : Steady m) :
    Gives m fun a d => m.outcome = .ok (a, d) := by
  obtain ⟨r, d, h⟩ := h
  intro s hs
  obtain ⟨hresult, hfound, hnames⟩ := h s hs
  refine ⟨hnames, fun a ha => ⟨d, hfound, ?_⟩⟩
  have hr : r = .ok a := hresult.symm.trans ha
  obtain ⟨hstart, hstartFound, _⟩ := h {} nofun
  show m.outcome = .ok (a, d)
  rw [outcome_eq]
  rcases hm : m.after {} with ⟨q, t⟩
  rw [hm] at hstart hstartFound
  obtain rfl : q = .ok a := hstart.trans hr
  have hd : t.found = d := hstartFound
  dsimp only
  rw [hd]

end Steady

theorem steady_resolution (key : String) : ∀ s : Schema,
    Steady (property key s) ∧ Steady (itemsOf key s) := by
  apply schema_induction
  case reference =>
    intro notes target
    rw [property, propertyOfShape]
    exact (Steady.className target).bind fun _ => .pure _
  case enumeration =>
    intro notes values
    rw [property, propertyOfShape]
    exact (Steady.className key).bind fun _ => (Steady.enqueue key _).bind fun _ => .pure _
  case oneOf =>
    intro notes variants
    rw [property, propertyOfShape]
    exact (Steady.enqueueUnion key variants).bind fun _ => .pure _
  case list =>
    intro notes
    rw [property, propertyOfShape]
    exact .pure _
  case listOf =>
    intro notes items hitems
    rw [property, propertyOfShape]
    exact hitems.bind fun _ => .pure _
  case object =>
    intro notes properties required
    rw [property, propertyOfShape]
    split
    · exact .pure _
    · exact (Steady.className key).bind fun _ => (Steady.enqueue key _).bind fun _ => .pure _
  case untyped =>
    intro notes
    rw [property, propertyOfShape]
    exact .pure _
  case primitive =>
    intro notes kind format
    rw [property, propertyOfShape]
    exact (Steady.lift _).bind fun _ => .pure _
  case objectItem =>
    intro notes properties required
    rw [itemsOf]
    split
    · exact .pure _
    · exact (Steady.className key).bind fun _ => (Steady.enqueue _ _).bind fun _ => .pure _
  case item =>
    intro notes shape hshape h
    rwa [itemsOf_eq_property hshape]

theorem steady_property (key : String) (s : Schema) : Steady (property key s) :=
  (steady_resolution key s).1

theorem gives_outcome_property (key : String) (s : Schema) :
    Gives (property key s) fun t d => (property key s).outcome = .ok (t, d) :=
  (steady_property key s).gives_outcome

end Resolving

end ApiForge
