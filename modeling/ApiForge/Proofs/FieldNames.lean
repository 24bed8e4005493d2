import ApiForge.Proofs.Identifier
import ApiForge.Proofs.Resolution

/-!
The fields of the properties of an object. There is one for each property, in order and with its
wire name, and its name in the code is the first candidate whose identifier no field before it has.
Main statement: `fields_named`.
-/

namespace ApiForge

namespace Name

open Text

/-- A name is the first candidate for a wanted one whose identifier is not used. -/
def FirstFree (used : List String) (wanted name : String) : Prop :=
  ∃ n, name = candidate wanted n ∧ snakeIdent name ∉ used ∧
    ∀ k < n, snakeIdent (candidate wanted k) ∈ used

theorem FirstFree.congr {used others : List String} {wanted name : String}
    (h : FirstFree used wanted name) (hsame : ∀ ident, ident ∈ used ↔ ident ∈ others) :
    FirstFree others wanted name := by
  obtain ⟨n, hn, hfree, hbefore⟩ := h
  exact ⟨n, hn, (hsame _).not.mp hfree, fun k hk => (hsame _).mp (hbefore k hk)⟩

theorem firstFree_freshBy (used : List String) (wanted : String) :
    FirstFree used wanted (freshBy used snakeIdent wanted) := by
  obtain ⟨n, hn, hbefore⟩ : ∃ k,
      searchFresh used snakeIdent wanted used.length 0 = candidate wanted (0 + k) ∧
        ∀ j < k, snakeIdent (candidate wanted (0 + j)) ∈ used :=
    exists_first_searchFresh used.length 0
  rw [Nat.zero_add] at hn
  refine ⟨n, hn, freshBy_notMem (snakeIdent_candidate_injective wanted), fun k hk => ?_⟩
  simpa using hbefore k hk

theorem titleChars_ascii (start : Bool) {s : List Char} (hs : ∀ c ∈ s, isAscii c = true) :
    ∀ c ∈ titleChars start s, isAscii c = true := by
  have hall : ∀ c : Char, c.toNat < 128 → (toUppercase c).all isAscii = true :=
    forall_toNat_lt (by decide +kernel)
  induction s generalizing start with
  | nil => nofun
  | cons c s ih =>
    obtain ⟨hc, hs⟩ := List.forall_mem_cons.mp hs
    rw [titleChars]
    split
    · exact ih true hs
    · split
      · refine List.forall_mem_append.mpr ⟨fun d hd => ?_, ih false hs⟩
        exact List.all_eq_true.mp (hall c (of_decide_eq_true hc)) d hd
      · exact List.forall_mem_cons.mpr ⟨hc, ih false hs⟩

theorem fieldName_ascii {wire : String} (h : ∀ c ∈ wire.toList, isAscii c = true) :
    ∀ c ∈ (fieldName wire).toList, isAscii c = true := by
  rw [fieldName]
  split
  · exact List.all_eq_true.mp (by decide)
  · rw [titleWords, String.toList_ofList]
    refine titleChars_ascii true fun c hc => ?_
    obtain ⟨d, hd, rfl⟩ := List.mem_map.mp hc
    split
    · exact h d hd
    · decide

theorem candidate_ascii {wanted : String} (h : ∀ c ∈ wanted.toList, isAscii c = true) (n : Nat) :
    ∀ c ∈ (candidate wanted n).toList, isAscii c = true := by
  cases n with
  | zero => exact h
  | succ n =>
    rw [toList_candidate_succ]
    refine List.forall_mem_append.mpr ⟨h, fun c hc => ?_⟩
    exact isAscii_of_isPlain (by rw [isPlain, isDigit_of_mem_toString hc, Bool.or_true])

end Name

namespace Resolving

open Name Text

def wantedName (owner wire : String) : String :=
  if fieldName wire = owner then fieldName wire ++ collisionSuffix else fieldName wire

theorem wantedName_ascii (owner : String) {wire : String}
    (h : ∀ c ∈ wire.toList, isAscii c = true) :
    ∀ c ∈ (wantedName owner wire).toList, isAscii c = true := by
  rw [wantedName]
  split
  · rw [String.toList_append]
    exact List.forall_mem_append.mpr ⟨fieldName_ascii h, List.all_eq_true.mp (by decide)⟩
  · exact fieldName_ascii h

/-- Fields with identifiers of their own besides those in `used`, each named by the first candidate
that neither these nor the fields before it take. -/
structure Named (owner : String) (used : List String) (fields : List ModelField) : Prop where
  firstFree : ∀ before f after, fields = before ++ f :: after →
    FirstFree (used ++ before.map (·.ident)) (wantedName owner f.wireName) f.name
  nodup : (fields.map (·.ident)).Nodup

theorem Named.nil {owner : String} {used : List String} : Named owner used [] := by
  refine ⟨fun before f after h => ?_, .nil⟩
  exact absurd h.symm (List.append_ne_nil_of_right_ne_nil before (List.cons_ne_nil f after))

theorem Named.cons {owner : String} {used : List String} {f : ModelField}
    {fields : List ModelField} (hf : FirstFree used (wantedName owner f.wireName) f.name)
    (h : Named owner (f.ident :: used) fields) : Named owner used (f :: fields) := by
  refine ⟨fun before g after heq => ?_, ?_⟩
  · cases before with
    | nil =>
      obtain ⟨rfl, rfl⟩ := List.cons.inj heq
      exact hf.congr fun ident => by simp
    | cons b before =>
      obtain ⟨rfl, rfl⟩ := List.cons.inj heq
      refine (h.firstFree before g after rfl).congr fun ident => ?_
      simp [or_left_comm]
  · rw [List.map_cons, List.nodup_cons]
    refine ⟨fun hmem => ?_, h.nodup⟩
    obtain ⟨g, hg, hsame⟩ := List.mem_map.mp hmem
    obtain ⟨before, after, rfl⟩ := List.append_of_mem hg
    obtain ⟨n, -, hfree, -⟩ := h.firstFree before g after rfl
    exact hfree (List.mem_append_left _ (hsame ▸ List.mem_cons_self))

theorem name_fieldOf (owner : String) (required used : List String) (wire : String)
    (schema : Schema) (type : ModelType) :
    (fieldOf owner required used wire schema type).name =
      freshBy used snakeIdent (wantedName owner wire) := by
  rw [fieldOf, wantedName]

theorem returns_fieldsFrom (owner : String) (required used : List String)
    (properties : List (String × Schema)) :
    Returns (fieldsFrom owner required used properties) fun fields =>
      fields.map (·.wireName) = properties.map (·.1) ∧
        (∀ f ∈ fields, f.required = required.contains f.wireName) ∧
          Named owner used fields := by
  induction properties generalizing used with
  | nil => exact .pure ⟨rfl, nofun, .nil⟩
  | cons p rest ih =>
    obtain ⟨wire, schema⟩ := p
    rw [fieldsFrom]
    refine Returns.bind fun type => (ih _).andThen fun more hmore => .pure ?_
    obtain ⟨hwires, hrequired, hnamed⟩ := hmore
    refine ⟨?_, List.forall_mem_cons.mpr ⟨rfl, hrequired⟩, .cons ?_ hnamed⟩
    · rw [List.map_cons, List.map_cons, hwires]
      rfl
    · rw [name_fieldOf]
      exact firstFree_freshBy used (wantedName owner wire)

theorem nodup_plainIdent {fields : List ModelField} (h : (fields.map (·.ident)).Nodup) :
    (fields.map (·.plainIdent)).Nodup := by
  have hmap : fields.map (·.plainIdent) = (fields.map (·.ident)).map plainIdent := by
    rw [List.map_map]
    refine List.map_congr_left fun f _ => ?_
    rw [Field.plainIdent, Function.comp_apply]
  rw [hmap]
  refine h.map_on fun a ha b hb hsame => ?_
  obtain ⟨f, -, rfl⟩ := List.mem_map.mp ha
  obtain ⟨g, -, rfl⟩ := List.mem_map.mp hb
  exact @snakeIdent_eq_of_plainIdent_eq f.name g.name hsame

theorem returns_fields (owner : String) (schema : Schema) :
    Returns (fields owner schema) fun fs =>
      fs.map (·.wireName) = schema.properties.map (·.1) ∧
        (∀ f ∈ fs, f.required = schema.requires f.wireName) ∧ Named owner [] fs := by
  obtain ⟨notes, shape⟩ := schema
  cases shape with
  | object properties required => exact returns_fieldsFrom owner required [] properties
  | reference | enumeration | oneOf | array | untyped | primitive =>
    exact .pure ⟨rfl, nofun, .nil⟩

theorem fields_named (owner : String) (schema : Schema) :
    Returns (fields owner schema) fun fs =>
      fs.map (·.wireName) = schema.properties.map (·.1) ∧
        (∀ f ∈ fs, f.required = schema.requires f.wireName) ∧
        (∀ before f after, fs = before ++ f :: after →
          FirstFree (before.map (·.ident)) (wantedName owner f.wireName) f.name) ∧
        (fs.map (·.ident)).Nodup ∧ (fs.map (·.plainIdent)).Nodup ∧
        ∀ f ∈ fs, (∀ c ∈ f.wireName.toList, isAscii c = true) → IsIdentifier f.ident := by
  intro s fs hfs
  obtain ⟨hwires, hrequired, hnamed⟩ := returns_fields owner schema s fs hfs
  refine ⟨hwires, hrequired, hnamed.firstFree, hnamed.nodup, nodup_plainIdent hnamed.nodup,
    fun f hf hascii => ?_⟩
  obtain ⟨before, after, rfl⟩ := List.append_of_mem hf
  obtain ⟨n, hn, -, -⟩ := hnamed.firstFree before f after rfl
  rw [Field.ident, hn]
  exact isIdentifier_snakeIdent (candidate_ascii (wantedName_ascii owner hascii) n)

/-! An object with properties that want one name, a keyword, a name that begins with a digit, the
name of the type itself and no name at all. -/

def ticketSchema : Schema :=
  .node {} (.object
    (["user-name", "userName", "match", "1st", "Ticket", "!"].map fun name =>
      (name, .node {} (.primitive "string" none))) ["match"])

theorem ticketSchema_named :
    ∃ fs found, (fields "Ticket" ticketSchema).outcome = .ok (fs, found) ∧
      fs.map (·.ident) =
        ["user_name", "user_name2", "r#match", "_1st", "ticket_property", "value"] ∧
      (fs.map (·.plainIdent)).Nodup ∧ ∀ f ∈ fs, IsIdentifier f.ident := by
  have hidents : (fields "Ticket" ticketSchema).outcome.toOption.map
      (fun r => (r.1.map (·.ident), r.1.all fun f => f.wireName.toList.all isAscii)) =
        some
          (["user_name", "user_name2", "r#match", "_1st", "ticket_property", "value"], true) := by
    decide +kernel
  cases houtcome : (fields "Ticket" ticketSchema).outcome with
  | error p =>
    rw [houtcome] at hidents
    cases hidents
  | ok r =>
    obtain ⟨fs, found⟩ := r
    rw [houtcome] at hidents
    obtain ⟨hfs, hascii⟩ := Prod.mk.inj (Option.some.inj hidents)
    obtain ⟨-, -, -, -, hplain, hvalid⟩ :=
      (fields_named "Ticket" ticketSchema).of_outcome houtcome
    refine ⟨fs, found, rfl, hfs, hplain, fun f hf => hvalid f hf ?_⟩
    exact List.all_eq_true.mp (List.all_eq_true.mp hascii f hf)

end Resolving

end ApiForge
