import ApiForge.Proofs.CodecTemplate
import ApiForge.Proofs.RenameLiterals
import ApiForge.Proofs.Tasks
import ApiForge.Proofs.VariantIdent

/-!
Reading the units that decode unions. The table stands in the lines behind the one that begins with
`const`, a variant in each, and is read by its literals; the arms stand behind the line that opens
the choice between the variants. No name of a table and no name that a union is derived with holds
two underscores side by side, so the fixed code is filled as it should be. Main statement: what
units tell of names is read back from them (`names_read_back`).
-/

namespace ApiForge.Emit

open Code

/-! What is read. -/

/-- The pairs of names up to the bracket that ends a list of them, and what follows it. -/
def fieldKeys? : List Lexeme → Option (List FieldKey × List Lexeme)
  | .mark ']' :: rest => some ([], rest)
  | .mark '(' :: .text name :: .mark ',' :: .text wire :: .mark ')' :: .mark ']' :: rest =>
    some ([⟨String.ofList name, String.ofList wire⟩], rest)
  | .mark '(' :: .text name :: .mark ',' :: .text wire :: .mark ')' :: .mark ',' :: rest =>
    (fieldKeys? rest).map fun (keys, after) =>
      (⟨String.ofList name, String.ofList wire⟩ :: keys, after)
  | _ => none

def variantTable? (line : List Char) : Option VariantTable :=
  match lexemes? line with
  | some (.mark '(' :: .text typeName :: .mark ',' :: .mark '&' :: .mark '[' :: rest) =>
    match fieldKeys? rest with
    | some (keys, [.mark ')', .mark ',']) => some ⟨String.ofList typeName, keys⟩
    | _ => none
  | _ => none

def beginsTable (line : List Char) : Bool := "const ".toList.isPrefixOf line

def tableLines (unit : String) : List (List Char) :=
  (((textLines unit).dropWhile (!beginsTable ·)).drop 1).takeWhile (· != "];".toList)

def variantTables? (unit : String) : Option (List VariantTable) :=
  (tableLines unit).mapM variantTable?

def between? (front back line : List Char) : Option String :=
  if front.isPrefixOf line && back.isSuffixOf (line.drop front.length) then
    some (String.ofList ((line.drop front.length).take
      (line.length - front.length - back.length)))
  else none

def armNumber? (line : List Char) : Option String :=
  between? "                    ".toList " => serde_json::from_value(value)".toList line

def armWrapper? (line : List Char) : Option String :=
  between? "                        .map(".toList ")".toList line

/-- The arms that lines begin with: the number of each and what it wraps a value in. -/
def armsFrom : List (List Char) → List (String × String)
  | head :: wrap :: last :: rest =>
    match armNumber? head, armWrapper? wrap with
    | some number, some wrapper =>
      if last = "                        .map_err(de::Error::custom),".toList then
        (number, wrapper) :: armsFrom rest
      else []
    | _, _ => []
  | _ => []

def dispatchArms (unit : String) : List (String × String) :=
  armsFrom (((textLines unit).dropWhile (· != armsOpening.toList)).drop 1)

/-! Lines of the table. -/

def pairLexemes : List FieldKey → List Lexeme
  | [] => []
  | f :: rest =>
    [.mark '(', .text f.name.toList, .mark ',', .text f.wire.toList, .mark ')'] ++
      (if rest.isEmpty then [] else [.mark ',']) ++ pairLexemes rest

theorem fieldKeys?_pairLexemes (keys : List FieldKey) (rest : List Lexeme) :
    fieldKeys? (pairLexemes keys ++ .mark ']' :: rest) = some (keys, rest) := by
  induction keys with
  | nil => simp [pairLexemes, fieldKeys?]
  | cons f keys ih =>
    cases keys with
    | nil => simp [pairLexemes, fieldKeys?]
    | cons g keys =>
      have hcomma : fieldKeys? (pairLexemes (f :: g :: keys) ++ .mark ']' :: rest) =
          (fieldKeys? (pairLexemes (g :: keys) ++ .mark ']' :: rest)).map
            fun (keys, after) => (f :: keys, after) := by
        simp [pairLexemes, fieldKeys?]
      rw [hcomma, ih]
      rfl

/-- A pair of names in the table. -/
def pairText (f : FieldKey) : String :=
  "(" ++ Text.literal f.name ++ ", " ++ Text.literal f.wire ++ ")"

theorem readFrom_comma : readFrom (.code []) ", ".toList = some ([.mark ','], .code []) := rfl

theorem readFrom_pairText (f : FieldKey) :
    readFrom (.code []) (pairText f).toList =
      some ([.mark '(', .text f.name.toList, .mark ',', .text f.wire.toList, .mark ')'],
        .code []) := by
  have hopen : readFrom (.code []) "(".toList = some ([.mark '('], .code []) := rfl
  have hclose : readFrom (.code []) ")".toList = some ([.mark ')'], .code []) := rfl
  have hname := readFrom_literalChars f.name.toList
  have hwire := readFrom_literalChars f.wire.toList
  simp only [pairText, String.toList_append, Text.toList_literal]
  exact readFrom_append (readFrom_append (readFrom_append (readFrom_append hopen hname)
    readFrom_comma) hwire) hclose

theorem readFrom_pairs (keys : List FieldKey) :
    readFrom (.code []) (joined ", " (keys.map pairText)).toList =
      some (pairLexemes keys, .code []) := by
  induction keys with
  | nil => rfl
  | cons f keys ih =>
    cases keys with
    | nil => simpa [joined, pairLexemes] using readFrom_pairText f
    | cons g keys =>
      rw [List.map_cons, List.map_cons, joined_cons_cons, String.toList_append,
        String.toList_append]
      exact readFrom_append (readFrom_append (readFrom_pairText f) readFrom_comma) ih

def entryLexemes (t : VariantTable) : List Lexeme :=
  [.mark '(', .text t.typeName.toList, .mark ',', .mark '&', .mark '['] ++ pairLexemes t.fields ++
    [.mark ']', .mark ')', .mark ',']

theorem lexemes?_tableEntry (t : VariantTable) :
    lexemes? (tableEntry t).toList = some (entryLexemes t) := by
  have hopen : readFrom (.code []) "    (".toList = some ([.mark '('], .code []) := rfl
  have hlist : readFrom (.code []) ", &[".toList =
      some ([.mark ',', .mark '&', .mark '['], .code []) := rfl
  have hclose : readFrom (.code []) "]),".toList =
      some ([.mark ']', .mark ')', .mark ','], .code []) := rfl
  have htype := readFrom_literalChars t.typeName.toList
  have hread := readFrom_append (readFrom_append (readFrom_append (readFrom_append hopen htype)
    hlist) (readFrom_pairs t.fields)) hclose
  have htext : (tableEntry t).toList = "    (".toList ++ Text.literalChars t.typeName.toList ++
      ", &[".toList ++ (joined ", " (t.fields.map pairText)).toList ++ "]),".toList := by
    rw [← Text.toList_literal]
    simp only [tableEntry, ← String.toList_append]
    rfl
  rw [← htext] at hread
  have hend : (Spot.code []).finish? = some [] := rfl
  simp [lexemes?, hread, hend, entryLexemes]

/-- A line of the table is read as its variant, whatever the names are. -/
theorem variantTable?_tableEntry (t : VariantTable) :
    variantTable? (tableEntry t).toList = some t := by
  simp [variantTable?, lexemes?_tableEntry, entryLexemes, fieldKeys?_pairLexemes]

/-! The lines of a unit before the fixed code. -/

theorem toUppercase_ne_nil (c : Char) : Text.toUppercase c ≠ [] := by
  rcases Name.toUppercase_cases c with heq | ⟨_, _, heq, _, _⟩
  · rw [heq]
    exact List.cons_ne_nil _ _
  · rw [heq]
    exact List.cons_ne_nil _ _

/-- A letter or number has no underscore in its capital. -/
theorem underscore_notMem_toUppercase {c : Char} (hc : Text.isAlphanumeric c = true) :
    '_' ∉ Text.toUppercase c := by
  have hmarked : Name.isMark '_' = true := by decide
  intro hmem
  rcases Name.toUppercase_cases c with heq | ⟨_, _, _, _, hmarks⟩
  · rw [heq, List.mem_singleton] at hmem
    rw [hmem, Name.isMark_of_isAlphanumeric hc] at hmarked
    cases hmarked
  · rw [hmarks '_' hmem] at hmarked
    cases hmarked

theorem newline_notMem_tableName (marker : String) : '\n' ∉ (tableName marker).toList := by
  rw [tableName, Name.shoutCase, String.toList_append, String.toList_ofList, Text.shoutCase,
    List.mem_append, not_or]
  refine ⟨fun hmem => ?_, by decide⟩
  rcases Text.mem_intercalate hmem with heq | ⟨shout, hshout, hmem⟩
  · exact absurd heq (by decide)
  · obtain ⟨word, hword, rfl⟩ := List.mem_map.mp hshout
    obtain ⟨c, hc, hmem⟩ := List.mem_flatMap.mp hmem
    have hbreaks := Text.notMem_breaks_of_isAlphanumeric (Text.isAlphanumeric_of_mem_words hword hc)
    exact (Text.inert_toUppercase hbreaks).newline_notMem hmem

/-- No name of a table holds a mark. -/
theorem hasMark_tableName (marker : String) : Text.hasMark (tableName marker).toList = false := by
  rw [tableName, Name.shoutCase, String.toList_append, String.toList_ofList, Text.shoutCase]
  have hwords : ∀ shout ∈ (Text.words marker.toList).map (·.flatMap Text.toUppercase),
      shout ≠ [] ∧ '_' ∉ shout := by
    rw [List.forall_mem_map]
    intro word hword
    constructor
    · obtain ⟨c, rest, rfl⟩ := List.exists_cons_of_ne_nil (Text.ne_nil_of_mem_words hword)
      rw [List.flatMap_cons]
      exact List.append_ne_nil_of_left_ne_nil (toUppercase_ne_nil c) _
    · intro hmem
      obtain ⟨c, hc, hmem⟩ := List.mem_flatMap.mp hmem
      exact underscore_notMem_toUppercase (Text.isAlphanumeric_of_mem_words hword hc) hmem
  obtain ⟨hplain, -, hlast⟩ := Text.hasMark_intercalate hwords
  exact Text.hasMark_append hplain (by decide) (.inl hlast)

theorem hasMark_unionName (owner : String) :
    Text.hasMark (Name.unionName owner).toList = false := by
  apply Text.hasMark_of_notMem
  rw [Name.unionName, String.toList_append, List.mem_append, not_or]
  refine ⟨fun hmem => ?_, by decide⟩
  have hunmarked := (Name.settled_className owner).unmarked '_' hmem
  exact absurd hunmarked (by decide)

/-- The lines before the table, the last of which tells of the union. -/
def frontLines (p : Plan) (namespaceName : String) : List String :=
  ["//! Generated from \x60" ++ namespaceName ++ "\x60.",
    "#![allow(" ++ joined ", " [unusedImports] ++ ")]", ""] ++ codecImports.map braced ++
  ["", "/// \x60(variant, [(field, wire name)])\x60 for every variant of [\x60" ++ p.union ++
    "\x60], in declaration order."]

def tableOpening (p : Plan) : String :=
  "const " ++ tableName p.union ++ ": &[(&str, &[(&str, &str)])] = &["

theorem codecUnit_eq (p : Plan) (namespaceName : String) :
    codecUnit p namespaceName =
      lines (frontLines p namespaceName ++ tableOpening p :: p.variants.map tableEntry ++
        ["];", ""]) ++
      fill armsMark (String.join (p.variants.mapIdx (arm p.union)))
        (fill tableMark (tableName p.union) (fill markerMark p.union codecTemplate)) := by
  have horigin : "\x60], in declaration order.\n" = "\x60], in declaration order." ++ "\n" := rfl
  have hopening : ": &[(&str, &[(&str, &str)])] = &[\n" =
      ": &[(&str, &[(&str, &str)])] = &[" ++ "\n" := rfl
  have hclosing : "];\n\n" = lines ["];", ""] := rfl
  unfold codecUnit frontLines tableOpening prelude header
  rw [horigin, hopening, hclosing]
  simp only [lines_append, lines_cons, lines_nil, String.append_assoc, List.cons_append,
    List.nil_append, String.append_empty, String.empty_append]

/-! Arms. -/

def armLines (marker : String) (index : Nat) (t : VariantTable) : List String :=
  ["                    " ++ toString index ++ " => serde_json::from_value(value)",
    "                        .map(" ++ marker ++ "::" ++ t.typeName ++ ")",
    "                        .map_err(de::Error::custom),"]

theorem join_arms (marker : String) (tables : List VariantTable) :
    String.join (tables.mapIdx (arm marker)) = lines (tables.mapIdx (armLines marker)).flatten := by
  have hjoin : ∀ blocks : List (List String),
      String.join (blocks.map lines) = lines blocks.flatten := by
    intro blocks
    induction blocks with
    | nil => rfl
    | cons block blocks ih =>
      rw [List.map_cons, String.join_cons, ih, List.flatten_cons, lines_append]
  rw [← hjoin, List.mapIdx_eq_zipIdx_map, List.mapIdx_eq_zipIdx_map, List.map_map]
  rfl

/-- What stands between a beginning and an end is found, whatever it is. -/
theorem between?_append (front middle back : List Char) :
    between? front back (front ++ (middle ++ back)) = some (String.ofList middle) := by
  have hprefix : front.isPrefixOf (front ++ (middle ++ back)) = true :=
    List.isPrefixOf_iff_prefix.mpr (List.prefix_append _ _)
  have hsuffix : back.isSuffixOf (middle ++ back) = true :=
    List.isSuffixOf_iff_suffix.mpr (List.suffix_append _ _)
  have hlength : (front ++ (middle ++ back)).length - front.length - back.length =
      middle.length := by
    simp only [List.length_append]
    omega
  rw [between?, List.drop_left, hprefix, hsuffix, hlength, List.take_left]
  rfl

theorem armNumber?_line (index : Nat) :
    armNumber? ("                    " ++ toString index ++
      " => serde_json::from_value(value)").toList = some (toString index) := by
  rw [armNumber?, String.toList_append, String.toList_append, List.append_assoc, between?_append,
    String.ofList_toList]

theorem armWrapper?_line (marker typeName : String) :
    armWrapper? ("                        .map(" ++ marker ++ "::" ++ typeName ++ ")").toList =
      some (marker ++ "::" ++ typeName) := by
  have htext : ("                        .map(" ++ marker ++ "::" ++ typeName ++ ")").toList =
      "                        .map(".toList ++ ((marker ++ "::" ++ typeName).toList ++
        ")".toList) := by
    simp only [String.toList_append, List.append_assoc]
  rw [armWrapper?, htext, between?_append, String.ofList_toList]

theorem armNumber?_armsEnding : armNumber? armsEnding.toList = none := by
  rw [armNumber?, armsEnding, String.toList_ofList, String.toList_ofList, String.toList_ofList]
  rfl

/-- Arms are read up to the line that follows them, however they are numbered. -/
theorem armsFrom_arms (marker : String) (tables : List VariantTable) (number : Nat → Nat)
    (rest : List (List Char)) :
    armsFrom ((tables.mapIdx fun i t => armLines marker (number i) t).flatten.map String.toList ++
        armsEnding.toList :: rest) =
      tables.mapIdx fun i t => (toString (number i), marker ++ "::" ++ t.typeName) := by
  induction tables generalizing number with
  | nil =>
    show armsFrom (armsEnding.toList :: rest) = []
    rcases rest with _ | ⟨wrap, _ | ⟨last, rest⟩⟩
    · rfl
    · rfl
    · rw [armsFrom, armNumber?_armsEnding]
  | cons t tables ih =>
    have htail := ih fun i => number (i + 1)
    rw [List.mapIdx_cons, List.mapIdx_cons, List.flatten_cons, List.map_append, List.append_assoc,
      armLines, List.map_cons, List.map_cons, List.map_cons, List.map_nil, List.cons_append,
      List.cons_append, List.cons_append, List.nil_append, armsFrom, armNumber?_line,
      armWrapper?_line]
    dsimp only
    rw [if_pos rfl, htail]

/-! Units. -/

theorem notMem_joined {c : Char} {separator : String} (hseparator : c ∉ separator.toList)
    {pieces : List String} (h : ∀ piece ∈ pieces, c ∉ piece.toList) :
    c ∉ (joined separator pieces).toList := by
  induction pieces with
  | nil => simp [joined]
  | cons piece pieces ih =>
    obtain ⟨hpiece, hpieces⟩ := List.forall_mem_cons.mp h
    cases pieces with
    | nil => simpa [joined] using hpiece
    | cons next pieces => simp [joined_cons_cons, hpiece, hseparator, ih hpieces]

theorem newline_notMem_tableEntry (t : VariantTable) : '\n' ∉ (tableEntry t).toList := by
  have hliteral : ∀ s : String, '\n' ∉ (Text.literal s).toList := by
    intro s
    rw [Text.toList_literal]
    exact Text.newline_notMem_literalChars _
  have hpairs : '\n' ∉ (joined ", " (t.fields.map pairText)).toList := by
    refine notMem_joined (by decide) (List.forall_mem_map.mpr fun f _ => ?_)
    simp [pairText, hliteral]
  have htext : tableEntry t = "    (" ++ Text.literal t.typeName ++ ", &[" ++
      joined ", " (t.fields.map pairText) ++ "])," := rfl
  rw [htext]
  simp [hliteral, hpairs]

/-- What neither the table nor the arms begin with. -/
def beginsApart (l : String) : Prop := ∃ c, l.toList.head? = some c ∧ c ≠ 'c' ∧ c ≠ ' '

theorem beginsApart_ofList {c : Char} {rest : List Char} (hword : c ≠ 'c') (hblank : c ≠ ' ') :
    beginsApart (String.ofList (c :: rest)) :=
  ⟨c, by rw [String.toList_ofList, List.head?_cons], hword, hblank⟩

theorem beginsApart_append {l : String} (h : beginsApart l) (more : String) :
    beginsApart (l ++ more) := by
  obtain ⟨c, hc, hother⟩ := h
  refine ⟨c, ?_, hother⟩
  rw [String.toList_append, List.head?_append, hc]
  rfl

theorem apart_of_beginsApart {l : String} (h : beginsApart l) :
    beginsTable l.toList = false ∧ l ≠ armsOpening := by
  obtain ⟨c, hc, hword, hblank⟩ := h
  constructor
  · obtain ⟨rest, hl⟩ := List.head?_eq_some_iff.mp hc
    have hconst : "const ".toList = 'c' :: "onst ".toList := rfl
    rw [beginsTable, hconst, hl, List.isPrefixOf_cons_cons, beq_eq_false_iff_ne.mpr hword.symm,
      Bool.false_and]
  · rintro rfl
    exact hblank (Option.some.inj hc).symm

/-- No line before the table begins it or the arms. -/
theorem frontLines_apart {p : Plan} {namespaceName : String} (hunion : '\n' ∉ p.union.toList)
    (hnamespace : '\n' ∉ namespaceName.toList) :
    ∀ l ∈ frontLines p namespaceName, '\n' ∉ l.toList ∧ beginsTable l.toList = false ∧
      l ≠ armsOpening := by
  have hempty : '\n' ∉ "".toList ∧ beginsTable "".toList = false ∧ "" ≠ armsOpening := by decide
  have himports : ∀ l ∈ codecImports.map braced, '\n' ∉ l.toList ∧ beginsApart l := by
    have hbraced : ∀ {c : Char} {rest : List Char}, '\n' ∉ c :: rest → braceOf c ≠ 'c' →
        braceOf c ≠ ' ' → '\n' ∉ (braced (String.ofList (c :: rest))).toList ∧
          beginsApart (braced (String.ofList (c :: rest))) := by
      intro c rest hline hword hblank
      refine ⟨newline_notMem_braced (by rwa [String.toList_ofList]), ?_⟩
      rw [braced, String.toList_ofList, List.map_cons]
      exact beginsApart_ofList hword hblank
    rw [List.forall_mem_map, codecImports]
    simp only [List.forall_mem_cons]
    exact ⟨hbraced (by decide) (by decide) (by decide), hbraced (by decide) (by decide) (by decide),
      hbraced (by decide) (by decide) (by decide), hbraced (by decide) (by decide) (by decide),
      List.forall_mem_nil _⟩
  have horigin : beginsApart "//! Generated from \x60" := beginsApart_ofList (by decide) (by decide)
  have hlints : '\n' ∉ ("#![allow(" ++ joined ", " [unusedImports] ++ ")]").toList ∧
      beginsApart ("#![allow(" ++ joined ", " [unusedImports] ++ ")]") :=
    ⟨by decide, beginsApart_append (beginsApart_append
      (beginsApart_ofList (by decide) (by decide)) _) _⟩
  have hnote :
      beginsApart "/// \x60(variant, [(field, wire name)])\x60 for every variant of [\x60" :=
    beginsApart_ofList (by decide) (by decide)
  rw [frontLines, List.forall_mem_append, List.forall_mem_append]
  refine ⟨⟨?_, fun l hl => ⟨(himports l hl).1, apart_of_beginsApart (himports l hl).2⟩⟩, ?_⟩
  · rw [List.forall_mem_cons, List.forall_mem_cons, List.forall_mem_singleton]
    refine ⟨⟨by simp [hnamespace], ?_⟩, ⟨hlints.1, apart_of_beginsApart hlints.2⟩, hempty⟩
    exact apart_of_beginsApart (beginsApart_append (beginsApart_append horigin _) _)
  · rw [List.forall_mem_cons, List.forall_mem_singleton]
    refine ⟨hempty, ⟨by simp [hunion], ?_⟩⟩
    exact apart_of_beginsApart (beginsApart_append (beginsApart_append hnote _) _)

theorem beginsTable_tableOpening (p : Plan) : beginsTable (tableOpening p).toList = true := by
  rw [beginsTable, List.isPrefixOf_iff_prefix, tableOpening, String.toList_append,
    String.toList_append, List.append_assoc]
  exact List.prefix_append _ _

/-- What stands behind the first that a search does not pass over. -/
theorem drop_dropWhile_append {α : Type} {passes : α → Bool} {l : List α} {a : α}
    (hl : ∀ b ∈ l, passes b = true) (ha : passes a = false) (rest : List α) :
    ((l ++ a :: rest).dropWhile passes).drop 1 = rest := by
  rw [List.dropWhile_append_of_pos hl, List.dropWhile_cons_of_neg (Bool.not_eq_true _ ▸ ha)]
  rfl

theorem variantTable?_of_closing :
    variantTable? "];".toList = none ∧ variantTable? armsOpening.toList = none := by
  rw [armsOpening, String.toList_ofList, String.toList_ofList]
  decide

/-- No line of the table is read as anything but its variant. -/
theorem toList_tableEntry_ne (t : VariantTable) {l : List Char} (hl : variantTable? l = none) :
    (tableEntry t).toList ≠ l := by
  rintro rfl
  rw [variantTable?_tableEntry] at hl
  cases hl

theorem mapM_variantTable? (tables : List VariantTable) :
    ((tables.map tableEntry).map String.toList).mapM variantTable? = some tables := by
  induction tables with
  | nil => rfl
  | cons t tables ih =>
    rw [List.map_cons, List.map_cons, List.mapM_cons, variantTable?_tableEntry, ih]
    rfl

theorem newline_notMem_armLines {marker : String} (hmarker : '\n' ∉ marker.toList) (index : Nat)
    {t : VariantTable} (ht : '\n' ∉ t.typeName.toList) :
    ∀ l ∈ armLines marker index t, '\n' ∉ l.toList := by
  have hindex := (Name.inert_toString index).newline_notMem
  rw [armLines, List.forall_mem_cons, List.forall_mem_cons, List.forall_mem_singleton]
  refine ⟨?_, by simp [hmarker, ht], by decide⟩
  rw [String.toList_append, String.toList_append, List.mem_append, List.mem_append, not_or, not_or]
  exact ⟨⟨by decide, hindex⟩, by decide⟩

/-- The lines of the table of a plan, and of what ends it. -/
def tableBlock (p : Plan) : List String := p.variants.map tableEntry ++ ["];", ""]

/-- The lines of the arms of a plan, and of what ends them. -/
def armsBlock (p : Plan) : List String :=
  (p.variants.mapIdx (armLines p.union)).flatten ++ [armsEnding]

theorem newline_notMem_blocks {p : Plan} (hunion : '\n' ∉ p.union.toList)
    (hnames : ∀ t ∈ p.variants, '\n' ∉ t.typeName.toList) :
    (∀ l ∈ tableBlock p, '\n' ∉ l.toList) ∧ ∀ l ∈ armsBlock p, '\n' ∉ l.toList := by
  rw [tableBlock, armsBlock, List.forall_mem_append, List.forall_mem_append, List.forall_mem_map]
  have hending := plain_armsEnding.2.2.2.2
  refine ⟨⟨fun t _ => newline_notMem_tableEntry t, by decide⟩, fun l hl => ?_,
    by simpa using hending⟩
  obtain ⟨block, hblock, hl⟩ := List.mem_flatten.mp hl
  obtain ⟨i, hi, rfl⟩ := List.mem_mapIdx.mp hblock
  exact newline_notMem_armLines hunion i (hnames _ (List.getElem_mem hi)) l hl

section

variable {p : Plan} {namespaceName : String} (hplain : Text.hasMark p.union.toList = false)
  (hunion : '\n' ∉ p.union.toList) (hnamespace : '\n' ∉ namespaceName.toList)
  (hnames : ∀ t ∈ p.variants, '\n' ∉ t.typeName.toList)

include hplain hunion hnamespace hnames

/-- A unit line by line. -/
theorem exists_textLines_codecUnit :
    ∃ (before : List String) (rest : List (List Char)),
      textLines (codecUnit p namespaceName) =
        (frontLines p namespaceName ++ tableOpening p :: (tableBlock p ++ before ++
          armsOpening :: armsBlock p)).map String.toList ++ rest ∧
      ∀ l ∈ before, l ≠ armsOpening := by
  obtain ⟨before, behind, hcode, hbefore⟩ := exists_filled_codecTemplate hunion
    (newline_notMem_tableName p.union) hplain (hasMark_tableName p.union)
    (p.variants.mapIdx (armLines p.union)).flatten
  have hunit : codecUnit p namespaceName =
      lines ((frontLines p namespaceName ++ tableOpening p :: (tableBlock p ++ before ++
        armsOpening :: armsBlock p)) ++ behind) := by
    rw [codecUnit_eq, join_arms, hcode, tableBlock, armsBlock]
    simp only [lines_append, lines_cons, lines_nil, String.append_assoc, String.empty_append]
  have hopening : '\n' ∉ (tableOpening p).toList := by
    simp [tableOpening, newline_notMem_tableName p.union]
  have harms : '\n' ∉ armsOpening.toList := by decide
  obtain ⟨htable, hblock⟩ := newline_notMem_blocks hunion hnames
  refine ⟨before, textLines (lines behind), ?_, fun l hl => (hbefore l hl).2⟩
  rw [hunit, textLines_lines_append]
  simp only [List.forall_mem_append, List.forall_mem_cons]
  exact ⟨fun l hl => (frontLines_apart hunion hnamespace l hl).1, hopening,
    ⟨htable, fun l hl => (hbefore l hl).1⟩, harms, hblock⟩

/-- Reading a unit finds the variants of the plan in its table. -/
theorem variantTables?_codecUnit :
    variantTables? (codecUnit p namespaceName) = some p.variants := by
  obtain ⟨before, rest, hlines, -⟩ :=
    exists_textLines_codecUnit hplain hunion hnamespace hnames
  have hfront : ∀ l ∈ (frontLines p namespaceName).map String.toList, (!beginsTable l) = true :=
    List.forall_mem_map.mpr fun l hl => by
      rw [(frontLines_apart hunion hnamespace l hl).2.1, Bool.not_false]
  have hopening : (!beginsTable (tableOpening p).toList) = false := by
    rw [beginsTable_tableOpening, Bool.not_true]
  have hentries : ∀ l ∈ (p.variants.map tableEntry).map String.toList,
      (l != "];".toList) = true := by
    rw [List.forall_mem_map, List.forall_mem_map]
    exact fun t _ => bne_iff_ne.mpr (toList_tableEntry_ne t variantTable?_of_closing.1)
  rw [variantTables?, tableLines, hlines, tableBlock]
  simp only [List.map_append, List.map_cons, List.append_assoc, List.cons_append]
  rw [drop_dropWhile_append hfront hopening, List.takeWhile_append_of_pos hentries,
    List.takeWhile_cons_of_neg (by decide), List.append_nil, mapM_variantTable?]

/-- Reading a unit finds an arm for every variant of the plan. -/
theorem dispatchArms_codecUnit :
    dispatchArms (codecUnit p namespaceName) =
      p.variants.mapIdx fun i t => (toString i, p.union ++ "::" ++ t.typeName) := by
  obtain ⟨before, rest, hlines, hbefore⟩ :=
    exists_textLines_codecUnit hplain hunion hnamespace hnames
  have hopening : tableOpening p ≠ armsOpening := by
    intro heq
    have hbegins := beginsTable_tableOpening p
    rw [heq] at hbegins
    exact absurd hbegins (by decide)
  have hpassed : ∀ l ∈ (frontLines p namespaceName ++ tableOpening p ::
      (tableBlock p ++ before)).map String.toList, (l != armsOpening.toList) = true := by
    rw [List.forall_mem_map]
    intro l hl
    rw [bne_iff_ne, ne_eq, String.toList_inj]
    revert l
    simp only [tableBlock, List.forall_mem_append, List.forall_mem_cons, List.forall_mem_map]
    refine ⟨fun l hl => (frontLines_apart hunion hnamespace l hl).2.2, hopening,
      ⟨fun t _ => ?_, by decide, by decide, List.forall_mem_nil _⟩, hbefore⟩
    exact fun heq => toList_tableEntry_ne t variantTable?_of_closing.2 (congrArg String.toList heq)
  have hfound : (armsOpening.toList != armsOpening.toList) = false := bne_self_eq_false _
  rw [dispatchArms, hlines]
  have hshape : ∀ (front table before block : List (List Char)) (l m : List Char),
      (front ++ l :: (table ++ before ++ m :: block)) ++ rest =
        (front ++ l :: (table ++ before)) ++ m :: (block ++ rest) := by
    simp
  simp only [List.map_append, List.map_cons, hshape] at hpassed ⊢
  rw [drop_dropWhile_append hpassed hfound, armsBlock, List.map_append, List.append_assoc]
  exact armsFrom_arms p.union p.variants (fun i => i) rest

end

/-! What a document gives rise to. -/

theorem hasMark_union_of_derive {registry : Registry} {group : UnionGroup} {namespaceName : String}
    {u : DerivedUnion} {found : Discovered}
    (h : (DerivedUnion.derive registry group namespaceName).outcome = .ok (some u, found)) :
    Text.hasMark u.plan.union.toList = false := by
  obtain ⟨-, vs, rfl, -⟩ := (Resolving.gives_derive registry group namespaceName).of_outcome h u rfl
  exact hasMark_unionName group.owner

/-- The names that units tell, whatever wire names and listed texts are: the table of a union that
is derived is read back as its variants, and the arm of each number wraps a value in the variant of
that number; a record is read back as the wire names of its fields, and an enumeration as its listed
texts. What units spell as it is, the names of namespaces, unions, variants and types, must stay in
its line, in records without quotes and slashes, and so must the notes in their comments. -/
theorem names_read_back (registry : Registry) (group : UnionGroup) (namespaceName : String)
    (r : Record) (e : EnumType) (notes : Option String) :
    (∀ (u : DerivedUnion) (found : Discovered),
      (DerivedUnion.derive registry group namespaceName).outcome = .ok (some u, found) →
      '\n' ∉ namespaceName.toList → '\n' ∉ u.plan.union.toList →
      (∀ t ∈ u.plan.variants, '\n' ∉ t.typeName.toList) →
      variantTables? (codecUnit u.plan namespaceName) = some u.plan.variants ∧
        dispatchArms (codecUnit u.plan namespaceName) =
          u.plan.variants.mapIdx fun i t => (toString i, u.plan.union ++ "::" ++ t.typeName)) ∧
    (PlainNotes notes → '\n' ∉ r.namespaceName.toList → Inert r.name.toList →
      (∀ f ∈ r.fields, Inert f.expression.toList) →
      renames? (recordUnit r notes) = some (r.fields.map (·.wireName))) ∧
    (PlainNotes notes → '\n' ∉ e.namespaceName.toList → Inert e.name.toList →
      renames? (enumerationUnit e notes) = some e.values) := by
  refine ⟨fun u found hu hnamespace hunion hnames => ?_,
    fun hnotes hnamespace hname hfields => ?_, fun hnotes hnamespace hname => ?_⟩
  · have hplain := hasMark_union_of_derive hu
    exact ⟨variantTables?_codecUnit hplain hunion hnamespace hnames,
      dispatchArms_codecUnit hplain hunion hnamespace hnames⟩
  · exact (reads_recordUnit hnotes hnamespace hname hfields).renames?
  · exact (reads_enumerationUnit hnotes hnamespace hname).renames?

/-- Two alternatives with wire names that would end a literal, a line, or the table. -/
def petGroup : UnionGroup where
  owner := "pet"
  variants := [
    .node { title := some "Cat" } (.object (["me\"ow", "],\n"].map fun wire =>
      (wire, .node {} (.primitive "string" none))) []),
    .node { title := some "Dog" } (.object
      [("__ARMS__\\", .node {} (.primitive "string" none))] [])]

def toyRecord : Record where
  name := "Toy"
  namespaceName := "Demo"
  fields := ["\"rename = \"", "\\\n\x7b\x7d"].map fun wire =>
    { name := "Part", wireName := wire, type := .reference "Part" }

def toyLevels : EnumType := ⟨"Level", "Demo", ["\\\"", "\n\x7d"], none⟩

theorem petGroup_readsBack :
    (∃ u found, (DerivedUnion.derive {} petGroup "Demo").outcome = .ok (some u, found) ∧
      u.plan = ⟨"PetOneOf", [⟨"petCat", [⟨"me_ow", "me\"ow"⟩, ⟨"value", "],\n"⟩]⟩,
        ⟨"petDog", [⟨"arms", "__ARMS__\\"⟩]⟩]⟩ ∧
      variantTables? (codecUnit u.plan "Demo") = some u.plan.variants ∧
      dispatchArms (codecUnit u.plan "Demo") =
        [("0", "PetOneOf::petCat"), ("1", "PetOneOf::petDog")]) ∧
    renames? (recordUnit toyRecord none) = some ["\"rename = \"", "\\\n\x7b\x7d"] ∧
    renames? (enumerationUnit toyLevels none) = some ["\\\"", "\n\x7d"] := by
  obtain ⟨hunions, hrecord, henumeration⟩ :=
    names_read_back {} petGroup "Demo" toyRecord toyLevels none
  refine ⟨?_, ?_, ?_⟩
  · have hplan : (DerivedUnion.derive {} petGroup "Demo").outcome.toOption.map
        (fun r => r.1.map (·.plan)) = some (some ⟨"PetOneOf", [
          ⟨"petCat", [⟨"me_ow", "me\"ow"⟩, ⟨"value", "],\n"⟩]⟩,
          ⟨"petDog", [⟨"arms", "__ARMS__\\"⟩]⟩]⟩) := by
      decide
    cases houtcome : (DerivedUnion.derive {} petGroup "Demo").outcome with
    | error p =>
      rw [houtcome] at hplan
      cases hplan
    | ok r =>
      obtain ⟨u?, found⟩ := r
      rw [houtcome] at hplan
      obtain ⟨u, rfl, hu⟩ := Option.map_eq_some_iff.mp (Option.some.inj hplan)
      obtain ⟨htables, harms⟩ := hunions u found houtcome (by decide) (by rw [hu]; decide)
        (by rw [hu]; decide)
      refine ⟨u, found, rfl, hu, htables, ?_⟩
      rw [harms, hu]
      decide
  · exact hrecord nofun (by decide) (by decide) (by decide)
  · exact henumeration nofun (by decide) (by decide)

/-- A type whose name goes on as another field of a record. -/
def spillingSchema : Schema :=
  .node {} (.object [("a", .node {} (.reference
    "#/components/schemas/X,\n\t#[serde(rename=\"b\")]\n\tpub\tb:Y"))] ["a"])

/-- The line that declares the field of such a record tells the name of another. -/
theorem reads_spilledLine {f : ModelField} (hident : f.ident = "a")
    (hexpression : f.expression = "X,\n\t#[serde(rename=\"b\")]\n\tpub\tb:Y") :
    Reads (fieldLine f ++ "\n") ["b"] := by
  rw [fieldLine, hident, hexpression]
  refine ⟨[.word "pub".toList, .word "a".toList, .mark ':', .word "X".toList, .mark ',', .mark '#',
    .mark '[', .word "serde".toList, .mark '(', .word "rename".toList, .mark '=', .text "b".toList,
    .mark ')', .mark ']', .word "pub".toList, .word "b".toList, .mark ':', .word "Y".toList,
    .mark ','], ?_, fun heard => ?_⟩
  · decide
  · cases heard <;> rfl

/-- The record has one field, and its unit tells the wire names of two. -/
theorem spillingSchema_tellsMore :
    (Resolving.record "Item" spillingSchema "Demo").outcome.toOption.map (fun r =>
        (r.1.fields.map (·.wireName), renames? (recordUnit r.1 none))) =
      some (["a"], some ["a", "b"]) := by
  have hrecord : (Resolving.record "Item" spillingSchema "Demo").outcome.toOption.map (fun r =>
      (r.1.namespaceName, r.1.name, r.1.fields.map fun f => (f.wireName, f.ident, f.expression))) =
      some ("Demo", "Item", [("a", "a", "X,\n\t#[serde(rename=\"b\")]\n\tpub\tb:Y")]) := by
    decide
  obtain ⟨⟨r, found⟩, heq, hparts⟩ := Option.map_eq_some_iff.mp hrecord
  obtain ⟨hnamespace, hparts⟩ := Prod.mk.inj hparts
  obtain ⟨hname, hparts⟩ := Prod.mk.inj hparts
  obtain ⟨f, hfields, hf⟩ := List.map_eq_singleton_iff.mp hparts
  obtain ⟨hwire, hline⟩ := Prod.mk.inj hf
  obtain ⟨hident, hexpression⟩ := Prod.mk.inj hline
  dsimp only at hnamespace hname hfields hwire hident hexpression
  have htold :
      List.Forall₂ (fun f names => Reads (fieldLine f ++ "\n") names) r.fields [["b"]] := by
    rw [hfields]
    exact .cons (reads_spilledLine hident hexpression) .nil
  have hnotes : PlainNotes none := nofun
  have hread := reads_recordUnit_of_lines hnotes (by rw [hnamespace]; decide)
    (by rw [hname]; decide) htold
  rw [heq, Option.map_some, hread.renames?, hfields]
  simp [hwire]

end ApiForge.Emit
