import Introspection.Registry.Methods

/-!
# The written form of signatures

A signature is written as one text, with a separator of its own behind the return type, before the
parameters and between them, and a pair of brackets behind the element of an array. Where no name
contains a separator that could end it, the text can be read back (`ofText_text`), so methods can be
told apart by the text as well as by the signature (`text_eq_iff`).
-/

set_option autoImplicit false

namespace Introspection

/-- A name that stands for a class and nothing else wherever a signature mentions it. -/
def IsClassName (name : String) : Prop :=
  name ≠ "" ∧ (∀ separator ∈ ['#', ':', ',', '[', ']'], separator ∉ name.toList) ∧
    name ≠ "void" ∧ ∀ kind ∈ Primitive.all, name ≠ kind.name

instance (name : String) : Decidable (IsClassName name) :=
  -- Without this the separators are looked for among all characters.
  have _separators : Decidable (∀ separator ∈ ['#', ':', ',', '[', ']'],
      separator ∉ name.toList) := List.decidableBAll _ _
  inferInstanceAs (Decidable (_ ∧ _ ∧ _ ∧ _))

namespace TypeExpr

def className? : TypeExpr → Option String
  | named name => some name
  | array element => element.className?
  | _ => none

/-- An erased type made of a class with a proper name, of a primitive, or of none of both. -/
structure IsPlain (type : TypeExpr) : Prop where
  erased : type.isErased = true
  named : ∀ name ∈ type.className?, IsClassName name

instance (type : TypeExpr) : Decidable type.IsPlain :=
  decidable_of_iff (type.isErased = true ∧ ∀ name ∈ type.className?, IsClassName name)
    ⟨fun both => ⟨both.1, both.2⟩, fun plain => ⟨plain.erased, plain.named⟩⟩

def ofName (text : String) : TypeExpr :=
  if text = "void" then void
  else
    match Primitive.ofName? text with
    | some kind => primitive kind
    | none => named text

def ofReversed : List Char → TypeExpr
  | ']' :: '[' :: rest => array (ofReversed rest)
  | chars => ofName (String.ofList chars.reverse)

def ofChars (chars : List Char) : TypeExpr := ofReversed chars.reverse

variable {type : TypeExpr} {name : String}

theorem IsPlain.of_array {element : TypeExpr} (plain : (array element).IsPlain) : element.IsPlain :=
  ⟨plain.erased, plain.named⟩

theorem ofName_of_isClassName (proper : IsClassName name) : ofName name = named name := by
  obtain ⟨_, _, notVoid, notPrimitive⟩ := proper
  have missing : Primitive.ofName? name = none := by
    rw [Primitive.ofName?, List.find?_eq_none]
    intro kind listed same
    exact notPrimitive kind listed (eq_of_beq same).symm
  rw [ofName, if_neg notVoid, missing]

theorem ofReversed_of_not_mem {chars : List Char} (unbracketed : ']' ∉ chars) :
    ofReversed chars = ofName (String.ofList chars.reverse) := by
  unfold ofReversed
  split
  · simp at unbracketed
  · rfl

theorem IsPlain.not_mem_text (plain : type.IsPlain) {separator : Char}
    (separates : separator ∈ ['#', ':', ',']) : separator ∉ type.text.toList := by
  induction type using TypeExpr.rec (motive_2 := fun _ => True) with
  | void => revert separator; simp [text]
  | primitive kind => revert separator; cases kind <;> simp [text, Primitive.name]
  | named name =>
      obtain ⟨_, free, _⟩ := plain.named name rfl
      exact free separator (List.mem_append_left ['[', ']'] separates)
  | array element ih =>
      have brackets : ∀ separator ∈ ['#', ':', ','], separator ∉ "[]".toList := by simp
      rw [text, String.toList_append, List.mem_append, not_or]
      exact ⟨ih plain.of_array, brackets separator separates⟩
  | applied | var => cases plain.erased
  | nil | cons => trivial

/-- What has been written of a plain type can be read back. -/
theorem IsPlain.ofChars_text (plain : type.IsPlain) : ofChars type.text.toList = type := by
  induction type using TypeExpr.rec (motive_2 := fun _ => True) with
  | void => decide
  | primitive kind => cases kind <;> decide
  | named name =>
      have proper := plain.named name rfl
      have unbracketed : ']' ∉ name.toList.reverse := by
        rw [List.mem_reverse]
        exact proper.2.1 ']' (by decide)
      rw [text, ofChars, ofReversed_of_not_mem unbracketed, List.reverse_reverse,
        String.ofList_toList, ofName_of_isClassName proper]
  | array element ih =>
      have written : (array element).text.toList.reverse =
          ']' :: '[' :: element.text.toList.reverse := by
        rw [text, String.toList_append, List.reverse_append]
        rfl
      rw [ofChars, written]
      exact congrArg array (ih plain.of_array)
  | applied | var => cases plain.erased
  | nil | cons => trivial

end TypeExpr

namespace Signature

/-- A signature that can be read back from its text: its types are plain, and the name of the method
ends neither at a return type nor at parameters. -/
structure IsPlain (signature : Signature) : Prop where
  returns : signature.returns.IsPlain
  parameters : ∀ parameter ∈ signature.parameters, parameter.IsPlain
  name : '#' ∉ signature.name.toList ∧ ':' ∉ signature.name.toList

instance (signature : Signature) : Decidable signature.IsPlain :=
  decidable_of_iff (signature.returns.IsPlain ∧
      (∀ parameter ∈ signature.parameters, parameter.IsPlain) ∧
      '#' ∉ signature.name.toList ∧ ':' ∉ signature.name.toList)
    ⟨fun all => ⟨all.1, all.2.1, all.2.2⟩, fun plain => ⟨plain.returns, plain.parameters, plain.name⟩⟩

def parametersOf : List Char → List TypeExpr
  | [] => []
  | _ :: listed => (listed.splitOn ',').map TypeExpr.ofChars

def ofMember (returns : TypeExpr) (chars : List Char) : Signature where
  returns := returns
  name := String.ofList (chars.takeWhile (· != ':'))
  parameters := parametersOf (chars.dropWhile (· != ':'))

def ofText (text : String) : Signature :=
  ofMember (TypeExpr.ofChars (text.toList.takeWhile (· != '#')))
    ((text.toList.dropWhile (· != '#')).drop 1)

variable {signature left right : Signature}

theorem toList_commaJoined (texts : List String) :
    (commaJoined texts).toList = [','].intercalate (texts.map String.toList) := by
  fun_induction commaJoined texts with
  | case1 => rfl
  | case2 => simp
  | case3 first rest occupied ih =>
      obtain ⟨second, others, rfl⟩ := List.exists_cons_of_ne_nil occupied
      simp [ih, List.intercalate_cons_cons]

def parameterChars : List TypeExpr → List Char
  | [] => []
  | first :: rest => ':' :: [','].intercalate ((first :: rest).map fun type => type.text.toList)

theorem toList_text (signature : Signature) :
    signature.text.toList = signature.returns.text.toList ++
      '#' :: (signature.name.toList ++ parameterChars signature.parameters) := by
  unfold text
  cases signature.parameters with
  | nil => simp [parameterChars]
  | cons first rest => simp [parameterChars, toList_commaJoined, Function.comp_def]

theorem parametersOf_parameterChars {parameters : List TypeExpr}
    (plain : ∀ parameter ∈ parameters, parameter.IsPlain) :
    parametersOf (parameterChars parameters) = parameters := by
  cases parameters with
  | nil => rfl
  | cons first rest =>
      have commaless : ∀ chars ∈ (first :: rest).map (fun type => type.text.toList),
          ',' ∉ chars := by
        intro chars written
        obtain ⟨type, listed, rfl⟩ := List.mem_map.mp written
        exact (plain type listed).not_mem_text (by decide)
      rw [parameterChars, parametersOf, List.splitOn_intercalate ',' commaless (by simp),
        List.map_map]
      exact List.map_congr_left (fun type listed => (plain type listed).ofChars_text)
        |>.trans (List.map_id _)

/-- A text falls apart where its first part meets the stop that it does not contain. -/
theorem span_stop {stop : Char} {front rest : List Char} (free : stop ∉ front)
    (stops : ∀ char ∈ rest.head?, char = stop) :
    (front ++ rest).takeWhile (· != stop) = front ∧
      (front ++ rest).dropWhile (· != stop) = rest := by
  have passes : ∀ char ∈ front, (char != stop) = true := by
    intro char inside
    exact bne_iff_ne.mpr fun same => free (same ▸ inside)
  rw [List.takeWhile_append_of_pos passes, List.dropWhile_append_of_pos passes]
  cases rest with
  | nil => simp
  | cons char rest =>
      cases stops char rfl
      simp

theorem ofMember_append (plain : signature.IsPlain) :
    ofMember signature.returns (signature.name.toList ++ parameterChars signature.parameters) =
      signature := by
  have stops : ∀ char ∈ (parameterChars signature.parameters).head?, char = ':' := by
    cases signature.parameters <;> simp [parameterChars]
  obtain ⟨name, parameters⟩ := span_stop plain.name.2 stops
  rw [ofMember, name, parameters, parametersOf_parameterChars plain.parameters,
    String.ofList_toList]

/-- What has been written of a plain signature can be read back. -/
theorem ofText_text (plain : signature.IsPlain) : ofText signature.text = signature := by
  have hashless : '#' ∉ signature.returns.text.toList := plain.returns.not_mem_text (by decide)
  have stops : ∀ char ∈ ('#' :: (signature.name.toList ++
      parameterChars signature.parameters)).head?, char = '#' := by simp
  obtain ⟨returns, member⟩ := span_stop hashless stops
  rw [ofText, toList_text, returns, member, List.drop_one, List.tail_cons,
    plain.returns.ofChars_text, ofMember_append plain]

/-- The text of a plain signature tells as much as the signature itself. -/
theorem text_eq_iff (plain : left.IsPlain) (plainToo : right.IsPlain) :
    left.text = right.text ↔ left = right := by
  constructor
  · intro same
    rw [← ofText_text plain, ← ofText_text plainToo, same]
  · exact congrArg text

def pointsAt : Signature :=
  ⟨.array (.named "Point"), "at[],", [.primitive .int, .array (.named "Key")]⟩

def pointsAtAll : Signature :=
  ⟨.array (.named "Point"), "at[],", [.primitive .int, .array (.array (.named "Key"))]⟩

theorem text_eq_iff_brackets :
    pointsAt.IsPlain ∧ pointsAtAll.IsPlain ∧ pointsAt.text = "Point[]#at[],:int,Key[]" ∧
      pointsAt.text ≠ pointsAtAll.text := by
  have plain : pointsAt.IsPlain := by decide
  have plainToo : pointsAtAll.IsPlain := by decide
  refine ⟨plain, plainToo, by decide, fun same => ?_⟩
  have impossible : pointsAt = pointsAtAll := (text_eq_iff plain plainToo).mp same
  revert impossible
  decide

end Signature

end Introspection
