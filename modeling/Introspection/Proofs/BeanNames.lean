import Mathlib.Logic.ExistsUnique
import Introspection.Namer
import Introspection.Proofs.LetterCase

/-!
# Which accessors share a property

In the usual convention an accessor name is a prefix and something behind it (`Accesses`), and its
property is what stands behind the prefix with the first letter in lower case, unless a capital
follows. So two accessors stand for one property when what they access is the same but for the case
of the first letter, and only where no capital follows (`beans_toProperty`).
-/

set_option autoImplicit false

namespace Introspection.Namer

inductive Accesses : String → String → Prop where
  | get {suffix : String} : suffix ≠ "" → Accesses ("get" ++ suffix) suffix
  | is {suffix : String} : suffix ≠ "" → Accesses ("is" ++ suffix) suffix
  | set {suffix : String} : suffix ≠ "" → Accesses ("set" ++ suffix) suffix

def IsAscii (text : String) : Prop := ∀ char ∈ text.toList, char.toNat < 128

instance (text : String) : Decidable (IsAscii text) := List.decidableBAll _ text.toList

/-- The texts differ in nothing but the case of the first letter, and no capital of ASCII comes
next. -/
def SameButFirstCase (left right : String) : Prop :=
  ∃ first other rest, left.toList = first :: rest ∧ right.toList = other :: rest ∧
    first.toLower = other.toLower ∧ ∀ second ∈ rest.head?, second.isUpper = false

variable {name suffix word : String}

/-! ## Prefixes -/

theorem after?_eq_some_iff {rest : List Char} :
    after? word name = some rest ↔ name.toList = word.toList ++ rest := by
  unfold after?
  rw [Option.ite_none_right_eq_some, List.isPrefixOf_iff_prefix, Option.some.injEq,
    ← String.length_toList]
  constructor
  · rintro ⟨⟨behind, split⟩, rfl⟩
    rw [← split, List.drop_left]
  · intro split
    rw [split, List.drop_left]
    exact ⟨List.prefix_append _ _, rfl⟩

theorem after?_append (word suffix : String) :
    after? word (word ++ suffix) = some suffix.toList :=
  after?_eq_some_iff.mpr (String.toList_append ..)

theorem startsWith_iff :
    startsWith word name = true ↔ ∃ suffix, suffix ≠ "" ∧ name = word ++ suffix := by
  unfold startsWith
  constructor
  · intro starts
    cases found : after? word name with
    | none => simp [found] at starts
    | some rest =>
        refine ⟨String.ofList rest, ?_, ?_⟩
        · rintro empty
          simp_all
        · rw [← String.toList_inj, String.toList_append, String.toList_ofList]
          exact after?_eq_some_iff.mp found
  · rintro ⟨suffix, occupied, rfl⟩
    simpa [after?_append] using occupied

theorem accepts_iff :
    (beans.isGetter name = true ∨ beans.isSetter name = true) ↔
      ∃ suffix, Accesses name suffix := by
  have getter : beans.isGetter name = (startsWith "get" name || startsWith "is" name) := rfl
  have setter : beans.isSetter name = startsWith "set" name := rfl
  rw [getter, setter, Bool.or_eq_true, startsWith_iff, startsWith_iff, startsWith_iff]
  constructor
  · rintro ((⟨suffix, occupied, rfl⟩ | ⟨suffix, occupied, rfl⟩) | ⟨suffix, occupied, rfl⟩)
    · exact ⟨suffix, .get occupied⟩
    · exact ⟨suffix, .is occupied⟩
    · exact ⟨suffix, .set occupied⟩
  · rintro ⟨suffix, accesses⟩
    cases accesses with
    | get occupied => exact .inl (.inl ⟨suffix, occupied, rfl⟩)
    | is occupied => exact .inl (.inr ⟨suffix, occupied, rfl⟩)
    | set occupied => exact .inr ⟨suffix, occupied, rfl⟩

/-- The first letters tell the prefixes apart, so it does not matter which is tried first. -/
theorem stem_of_accesses (accesses : Accesses name suffix) : stem name = suffix.toList := by
  have differ : ∀ {word : String} {char first : Char} {chars rest : List Char},
      word.toList = char :: chars → name.toList = first :: rest → char ≠ first →
        after? word name = none := by
    intro word char first chars rest spelt written differs
    simp [after?, spelt, written, differs]
  unfold stem
  cases accesses with
  | get =>
      rw [differ rfl (by rw [String.toList_append]; rfl) (by decide), after?_append]
      rfl
  | is => rw [after?_append]
  | set =>
      rw [differ rfl (by rw [String.toList_append]; rfl) (by decide),
        differ rfl (by rw [String.toList_append]; rfl) (by decide), after?_append]
      rfl

theorem Accesses.unique {other : String} (accesses : Accesses name suffix)
    (accessesToo : Accesses name other) : suffix = other := by
  rw [← String.toList_inj, ← stem_of_accesses accesses, stem_of_accesses accessesToo]

theorem Accesses.occupied (accesses : Accesses name suffix) : suffix ≠ "" := by
  cases accesses <;> assumption

theorem Accesses.ascii (accesses : Accesses name suffix) (ascii : IsAscii name) :
    IsAscii suffix := by
  intro char inside
  apply ascii
  cases accesses <;> exact String.toList_append ▸ List.mem_append_right _ inside

/-! ## The first letter -/

theorem decapitalize_cons (first : Char) (rest : List Char) :
    decapitalize (first :: rest) =
      if rest.head?.any Text.isUppercase then first :: rest
      else Text.lowerChar first ++ rest := by
  cases rest with
  | nil => simp [decapitalize]
  | cons => rfl

theorem decapitalize_of_lower {first : Char} (small : Text.lowerChar first = [first])
    (rest : List Char) : decapitalize (first :: rest) = first :: rest := by
  rw [decapitalize_cons, small, List.singleton_append, ite_self]

/-- The rule leaves alone what it has made. -/
theorem decapitalize_decapitalize (chars : List Char) :
    decapitalize (decapitalize chars) = decapitalize chars := by
  cases chars with
  | nil => rfl
  | cons first rest =>
      cases capital : rest.head?.any Text.isUppercase with
      | true => simp [decapitalize_cons, capital]
      | false =>
          obtain ⟨lower, marks, form, small⟩ := Text.settled_lowerChar first
          have made : decapitalize (first :: rest) = lower :: (marks ++ rest) := by
            rw [decapitalize_cons, capital, form]
            rfl
          rw [made, decapitalize_of_lower small]

theorem decapitalize_ne_nil {chars : List Char} (occupied : chars ≠ []) :
    decapitalize chars ≠ [] := by
  obtain ⟨first, rest, rfl⟩ := List.exists_cons_of_ne_nil occupied
  obtain ⟨lower, marks, form, _⟩ := Text.settled_lowerChar first
  rw [decapitalize_cons, form]
  split <;> simp

theorem decapitalize_ascii {first : Char} {rest : List Char}
    (ascii : ∀ char ∈ first :: rest, char.toNat < 128) :
    decapitalize (first :: rest) =
      (if rest.head?.any Char.isUpper then first else first.toLower) :: rest := by
  have lower : Text.lowerChar first = [first.toLower] := if_pos (ascii first List.mem_cons_self)
  have upper : rest.head?.any Text.isUppercase = rest.head?.any Char.isUpper := by
    cases rest with
    | nil => rfl
    | cons second rest => exact if_pos (ascii second (by simp))
  rw [decapitalize_cons, upper, lower]
  split <;> rfl

theorem any_head?_eq_false_iff {rest : List Char} :
    rest.head?.any Char.isUpper = false ↔ ∀ second ∈ rest.head?, second.isUpper = false := by
  cases rest <;> simp

/-- When two texts of ASCII have the same form. -/
theorem decapitalize_eq_iff {left right : String} (ascii : IsAscii left)
    (asciiToo : IsAscii right) (occupied : left ≠ "") (occupiedToo : right ≠ "") :
    decapitalize left.toList = decapitalize right.toList ↔
      left = right ∨ SameButFirstCase left right := by
  obtain ⟨first, rest, written⟩ :=
    List.exists_cons_of_ne_nil (mt String.toList_eq_nil_iff.mp occupied)
  obtain ⟨other, others, writtenToo⟩ :=
    List.exists_cons_of_ne_nil (mt String.toList_eq_nil_iff.mp occupiedToo)
  unfold IsAscii at ascii asciiToo
  rw [written] at ascii
  rw [writtenToo] at asciiToo
  rw [written, writtenToo, decapitalize_ascii ascii, decapitalize_ascii asciiToo, List.cons.injEq]
  constructor
  · rintro ⟨sameForm, rfl⟩
    cases capital : rest.head?.any Char.isUpper with
    | true =>
        rw [capital, if_pos rfl, if_pos rfl] at sameForm
        left
        rw [← String.toList_inj, written, writtenToo, sameForm]
    | false =>
        simp only [capital, Bool.false_eq_true, if_false] at sameForm
        exact .inr ⟨first, other, rest, written, writtenToo, sameForm,
          any_head?_eq_false_iff.mp capital⟩
  · rintro (rfl | ⟨first', other', rest', written', writtenToo', sameLetter, lower⟩)
    · rw [written, List.cons.injEq] at writtenToo
      obtain ⟨rfl, rfl⟩ := writtenToo
      exact ⟨rfl, rfl⟩
    · rw [written, List.cons.injEq] at written'
      rw [writtenToo, List.cons.injEq] at writtenToo'
      obtain ⟨rfl, rfl⟩ := written'
      obtain ⟨rfl, rfl⟩ := writtenToo'
      simp [any_head?_eq_false_iff.mpr lower, sameLetter]

/-! ## Accessors -/

theorem toProperty_of_accesses (accesses : Accesses name suffix) :
    beans.toProperty name = String.ofList (decapitalize suffix.toList) := by
  change String.ofList (decapitalize (stem name)) = _
  rw [stem_of_accesses accesses]

theorem toProperty_eq_iff {left right first second : String} (accesses : Accesses left first)
    (accessesToo : Accesses right second) (ascii : IsAscii left) (asciiToo : IsAscii right) :
    beans.toProperty left = beans.toProperty right ↔
      first = second ∨ SameButFirstCase first second := by
  rw [toProperty_of_accesses accesses, toProperty_of_accesses accessesToo, String.ofList_inj]
  exact decapitalize_eq_iff (accesses.ascii ascii) (accessesToo.ascii asciiToo)
    accesses.occupied accessesToo.occupied

theorem toProperty_ne_empty (accesses : Accesses name suffix) : beans.toProperty name ≠ "" := by
  rw [toProperty_of_accesses accesses]
  intro empty
  rw [← String.toList_eq_nil_iff, String.toList_ofList] at empty
  exact decapitalize_ne_nil (mt String.toList_eq_nil_iff.mp accesses.occupied) empty

/-- The rule has nothing left to do on any property, of accessors or not. -/
theorem decapitalize_toProperty (name : String) :
    String.ofList (decapitalize (beans.toProperty name).toList) = beans.toProperty name := by
  change String.ofList (decapitalize (String.ofList (decapitalize (stem name))).toList) =
    String.ofList (decapitalize (stem name))
  rw [String.toList_ofList, decapitalize_decapitalize]

/-- The accessors are the names that have something behind a prefix, and what that is decides which
of them share a property. The property of an accessor is never empty, and the rule for the first
letter has nothing left to do on it. -/
theorem beans_toProperty :
    (∀ name, (beans.isGetter name = true ∨ beans.isSetter name = true) ↔
      ∃! suffix, Accesses name suffix) ∧
    (∀ left right first second,
      Accesses left first → Accesses right second → IsAscii left → IsAscii right →
        (beans.toProperty left = beans.toProperty right ↔
          first = second ∨ SameButFirstCase first second)) ∧
    ∀ name suffix, Accesses name suffix → beans.toProperty name ≠ "" ∧
      String.ofList (decapitalize (beans.toProperty name).toList) = beans.toProperty name := by
  refine ⟨fun name => accepts_iff.trans ⟨?_, ExistsUnique.exists⟩, ?_, ?_⟩
  · rintro ⟨suffix, accesses⟩
    exact ⟨suffix, accesses, fun _ accessesToo => accessesToo.unique accesses⟩
  · intro left right first second accesses accessesToo
    exact toProperty_eq_iff accesses accessesToo
  · intro name suffix accesses
    exact ⟨toProperty_ne_empty accesses, decapitalize_toProperty name⟩

/-- A capital behind the first letter keeps `getURL` and `setuRL` apart, but not `getURL` and
`isURL`. Where none follows the case of the first letter does not matter. -/
theorem beans_toProperty_urls :
    beans.toProperty "getURL" = beans.toProperty "isURL" ∧
      beans.toProperty "getURL" ≠ beans.toProperty "setuRL" ∧
      beans.toProperty "getName" = beans.toProperty "setname" := by
  obtain ⟨-, same, -⟩ := beans_toProperty
  have getURL : Accesses "getURL" "URL" := .get (show "URL" ≠ "" by decide)
  have isURL : Accesses "isURL" "URL" := .is (show "URL" ≠ "" by decide)
  have setuRL : Accesses "setuRL" "uRL" := .set (show "uRL" ≠ "" by decide)
  have getName : Accesses "getName" "Name" := .get (show "Name" ≠ "" by decide)
  have setname : Accesses "setname" "name" := .set (show "name" ≠ "" by decide)
  refine ⟨(same _ _ _ _ getURL isURL (by decide) (by decide)).mpr (.inl rfl), ?_,
    (same _ _ _ _ getName setname (by decide) (by decide)).mpr
      (.inr ⟨'N', 'n', "ame".toList, rfl, rfl, rfl, any_head?_eq_false_iff.mp rfl⟩)⟩
  rw [ne_eq, same _ _ _ _ getURL setuRL (by decide) (by decide)]
  rintro (alike | ⟨first, other, rest, written, -, -, small⟩)
  · exact absurd alike (by decide)
  · obtain ⟨rfl, rfl⟩ := List.cons.inj (show 'U' :: "RL".toList = first :: rest from written)
    exact absurd (small 'R' rfl) (by decide)

end Introspection.Namer
