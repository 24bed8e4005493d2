import ApiForge.Name.ClassNames
import ApiForge.Proofs.Capital
import Mathlib.Data.List.TakeWhile

/-!
Class names that are derived a second time. A key in a document may be a pointer, a path or a text
with punctuation; its class name is none of these, so deriving a class name from a class name
changes nothing, with an ending behind it or without. Main statement: `className_append`.
-/

namespace ApiForge.Name

open Text

/-- A text that the derivation of a class name leaves alone: it holds no mark, and it does not
begin with a small letter that has a capital. -/
structure Settled (l : List Char) : Prop where
  unmarked : ∀ c ∈ l, isMark c = false
  head : ∀ c rest, l = c :: rest → isLowercase c = true → toUppercase c = [c]

theorem unmarked_of_all {l : List Char} (h : l.all (fun c => !isMark c) = true) :
    ∀ c ∈ l, isMark c = false := by
  intro c hc
  simpa using List.all_eq_true.mp h c hc

theorem not_separatesWords {c : Char} (h : isMark c = false) : separatesWords c = false := by
  simp only [isMark, Bool.or_eq_false_iff] at h
  exact h.1.1

theorem not_isPunctuation {c : Char} (h : isMark c = false) : isPunctuation c = false := by
  simp only [isMark, Bool.or_eq_false_iff] at h
  exact h.1.2

theorem afterLast_of_notMem {separator : Char} {l : List Char} (h : separator ∉ l) :
    afterLast separator l = l := by
  have hall : l.reverse.takeWhile (· != separator) = l.reverse := by
    rw [List.takeWhile_eq_self_iff]
    intro c hc
    have hne : c ≠ separator := fun he => h (he ▸ List.mem_reverse.mp hc)
    simpa using hne
  rw [afterLast, hall, List.reverse_reverse]

theorem notMem_afterLast (separator : Char) (l : List Char) :
    separator ∉ afterLast separator l := by
  intro h
  have hne := List.mem_takeWhile_imp (List.mem_reverse.mp h)
  simp at hne

theorem mem_of_mem_afterLast {separator c : Char} {l : List Char} (h : c ∈ afterLast separator l) :
    c ∈ l :=
  List.mem_reverse.mp ((List.takeWhile_sublist _).subset (List.mem_reverse.mp h))

theorem sanitizeChars_of_unmarked {l : List Char} (h : ∀ c ∈ l, isMark c = false) :
    sanitizeChars l = l := by
  have hslash : '/' ∉ l := fun hm => absurd (h _ hm) (by decide)
  have hdot : '.' ∉ l := fun hm => absurd (h _ hm) (by decide)
  rw [sanitizeChars, afterLast_of_notMem hslash, afterLast_of_notMem hdot]
  refine (List.map_congr_left fun c hc => ?_).trans (List.map_id l)
  rw [not_isPunctuation (h c hc)]
  rfl

/-- What is left of a key bears no mark but underscores. -/
theorem isMark_of_mem_sanitizeChars {l : List Char} {c : Char} (h : c ∈ sanitizeChars l)
    (hc : separatesWords c = false) : isMark c = false := by
  obtain ⟨d, hd, rfl⟩ := List.mem_map.mp h
  split at hc
  · cases hc
  · next hp =>
    rw [if_neg hp]
    have hslash : d ≠ '/' := by
      rintro rfl
      exact notMem_afterLast '/' l (mem_of_mem_afterLast hd)
    simp [isMark, hc, hp, hslash]

theorem titleChars_false_of_unmarked {l : List Char} (h : ∀ c ∈ l, isMark c = false) :
    titleChars false l = l := by
  induction l with
  | nil => rfl
  | cons c rest ih =>
    rw [List.forall_mem_cons] at h
    rw [titleChars, not_separatesWords h.1, ih h.2]
    rfl

theorem titleChars_of_settled {l : List Char} (h : Settled l) : titleChars true l = l := by
  cases l with
  | nil => rfl
  | cons c rest =>
    have hunmarked := List.forall_mem_cons.mp h.unmarked
    rw [titleChars, not_separatesWords hunmarked.1, titleChars_false_of_unmarked hunmarked.2]
    cases hc : isLowercase c with
    | true =>
      rw [h.head c rest rfl hc]
      rfl
    | false => rfl

/-- What title case makes of characters is settled if the marks among them only separate words. -/
theorem settled_titleChars {l : List Char} (start : Bool)
    (h : ∀ c ∈ l, separatesWords c = false → isMark c = false) :
    (∀ c ∈ titleChars start l, isMark c = false) ∧
      (start = true → Settled (titleChars start l)) := by
  induction l generalizing start with
  | nil => exact ⟨nofun, fun _ => ⟨nofun, nofun⟩⟩
  | cons c rest ih =>
    rw [List.forall_mem_cons] at h
    obtain ⟨hfalse, _⟩ := ih false h.2
    obtain ⟨htrue, hsettled⟩ := ih true h.2
    rw [titleChars]
    cases hc : separatesWords c with
    | true => exact ⟨htrue, fun _ => hsettled rfl⟩
    | false =>
      have hmark := h.1 hc
      have hkept : ∀ d ∈ c :: titleChars false rest, isMark d = false :=
        List.forall_mem_cons.mpr ⟨hmark, hfalse⟩
      cases hs : start && isLowercase c with
      | false =>
        refine ⟨hkept, fun hstart => ⟨hkept, fun d more hd hsmall => ?_⟩⟩
        rw [hstart, Bool.true_and] at hs
        obtain ⟨rfl, _⟩ := List.cons.inj hd
        rw [hs] at hsmall
        cases hsmall
      | true =>
        -- A word begins: its capital holds no mark, and the letter itself holds none either.
        have hcapital : ∀ d ∈ toUppercase c ++ titleChars false rest, isMark d = false := by
          intro d hd
          rcases List.mem_append.mp hd with hd | hd
          · rcases toUppercase_cases c with heq | ⟨_, _, _, _, hmarks⟩
            · rw [heq, List.mem_singleton] at hd
              rwa [hd]
            · exact hmarks d hd
          · exact hfalse d hd
        refine ⟨hcapital, fun _ => ⟨hcapital, fun d more hd hsmall => ?_⟩⟩
        simp only [Bool.false_eq_true, if_false, if_true] at hd
        rcases toUppercase_cases c with heq | ⟨head, tail, heq, hhead, _⟩
        · rw [heq, List.singleton_append] at hd
          obtain ⟨rfl, _⟩ := List.cons.inj hd
          exact heq
        · rw [heq, List.cons_append] at hd
          obtain ⟨rfl, _⟩ := List.cons.inj hd
          rw [hhead] at hsmall
          cases hsmall

theorem settled_className (key : String) : Settled (className key).toList := by
  rw [className, titleCase, String.toList_ofList]
  refine (settled_titleChars true ?_).2 rfl
  rw [sanitizeKey]
  split
  · have hunmarked : ∀ c ∈ fallbackKey.toList, isMark c = false := unmarked_of_all (by decide)
    exact fun c hc _ => hunmarked c hc
  · rw [String.toList_ofList]
    exact fun c hc => isMark_of_mem_sanitizeChars hc

theorem settled_append {l m : List Char} (hl : Settled l) (hm : Settled m) : Settled (l ++ m) := by
  refine ⟨fun c hc => ?_, fun c rest h hc => ?_⟩
  · rcases List.mem_append.mp hc with hc | hc
    · exact hl.unmarked c hc
    · exact hm.unmarked c hc
  · cases l with
    | nil => exact hm.head c rest h hc
    | cons d l =>
      obtain ⟨rfl, _⟩ := List.cons.inj h
      exact hl.head d l rfl hc

theorem className_of_settled {s : String} (hne : s ≠ "") (h : Settled s.toList) :
    className s = s := by
  have hempty : s.isEmpty = false := by simpa using hne
  rw [className, sanitizeKey, hempty, sanitizeChars_of_unmarked h.unmarked, titleCase]
  simp only [Bool.false_eq_true, if_false, titleChars_of_settled h, String.ofList_toList]

/-- A class name with a settled ending is a class name. -/
theorem className_append (key : String) {ending : String} (hne : ending ≠ "")
    (h : Settled ending.toList) :
    className (className key ++ ending) = className key ++ ending := by
  apply className_of_settled
  · intro he
    refine hne ?_
    have hlength := congrArg String.toList he
    rw [String.toList_append] at hlength
    exact String.toList_inj.mp (List.append_eq_nil_iff.mp hlength).2
  · rw [String.toList_append]
    exact settled_append (settled_className key) h

end ApiForge.Name
