import Introspection.Proofs.Methods

/-!
# The list of methods

The methods of a type are those written by hand in the types that the way up from it passes: each
class of its chain before the root class and, right after the class, its interfaces. An interface
that several of these classes implement is passed at each of them, and only the first method of
each signature stays in the list (`methods_enumerated`). Every passed method is signed, in the type
that declares it, so a ring among the bounds there leaves the search without an end.
-/

set_option autoImplicit false

namespace Introspection

/-- A method and the type that it was found in, in which its signature is read. -/
structure FoundMethod where
  owner : TypeDecl
  method : Method

def FoundMethod.signature (found : FoundMethod) : Signature :=
  Signature.ofMethod found.owner found.method

def TypeDecl.handwritten (decl : TypeDecl) : List FoundMethod :=
  (decl.methods.filter fun method => !method.isGenerated).map fun method => ⟨decl, method⟩

theorem TypeDecl.signedMethods_eq (decl : TypeDecl) :
    decl.signedMethods = decl.handwritten.map fun found => (found.signature, found.method) := by
  rw [signedMethods, handwritten, List.map_map]
  rfl

namespace Registry

def passedMethods (registry : Registry) (chain : List TypeDecl) : List FoundMethod :=
  (registry.passedTypes chain).flatMap TypeDecl.handwritten

/-- The first method of each signature, in the order of the way up. -/
def firstMethods (registry : Registry) (chain : List TypeDecl) : List FoundMethod :=
  (registry.passedMethods chain).eraseDupsBy fun later earlier =>
    later.signature == earlier.signature

variable {registry : Registry} {name : String} {chain : List TypeDecl} {methods : List Method}

/-- The map that is filled along the way up keeps the first method of each signature. -/
theorem values_ofFirst_signedMethods :
    (OrderedMap.ofFirst ((registry.passedTypes chain).flatMap TypeDecl.signedMethods)).values =
      (registry.firstMethods chain).map FoundMethod.method := by
  have signed : (registry.passedTypes chain).flatMap TypeDecl.signedMethods =
      (registry.passedMethods chain).map fun found => (found.signature, found.method) := by
    rw [passedMethods, List.map_flatMap, funext TypeDecl.signedMethods_eq]
  rw [signed, OrderedMap.values, OrderedMap.entries_ofFirst_map, List.map_map]
  rfl

theorem methodsAlong_eq_ok_iff :
    registry.methodsAlong chain = .ok methods ↔
      (∀ decl ∈ belowRoot chain, ∃ interfaces, registry.interfaces decl = .ok interfaces) ∧
        methods = (registry.firstMethods chain).map FoundMethod.method := by
  rw [methodsAlong, Fallible.map_eq_ok_iff]
  simp only [contributors_eq_ok_iff]
  constructor
  · rintro ⟨_, ⟨succeed, rfl⟩, rfl⟩
    exact ⟨succeed, values_ofFirst_signedMethods⟩
  · rintro ⟨succeed, rfl⟩
    exact ⟨_, ⟨succeed, rfl⟩, values_ofFirst_signedMethods⟩

theorem mem_passedMethods_iff {found : FoundMethod} :
    found ∈ registry.passedMethods chain ↔
      found.owner ∈ registry.passedTypes chain ∧ found.method ∈ found.owner.methods ∧
        found.method.isGenerated = false := by
  simp only [passedMethods, List.mem_flatMap, TypeDecl.handwritten, List.mem_map, List.mem_filter,
    Bool.not_eq_true']
  constructor
  · rintro ⟨owner, passed, method, ⟨written, byHand⟩, rfl⟩
    exact ⟨passed, written, byHand⟩
  · rintro ⟨passed, written, byHand⟩
    exact ⟨found.owner, passed, found.method, ⟨written, byHand⟩, rfl⟩

/-- Every method written by hand in a contributing type is represented by one of the same
signature, itself or one that comes before it. -/
theorem exists_mem_methodsAlong {contributors : List TypeDecl}
    (collected : registry.methodsAlong chain = .ok methods)
    (gathered : registry.contributors chain = .ok contributors) {owner : TypeDecl}
    (ownerMember : owner ∈ contributors) {method : Method} (written : method ∈ owner.methods)
    (byHand : method.isGenerated = false) :
    ∃ kept ∈ methods, ∃ keeper ∈ contributors, kept ∈ keeper.methods ∧
      Signature.ofMethod keeper kept = Signature.ofMethod owner method := by
  obtain ⟨_, rfl⟩ := methodsAlong_eq_ok_iff.mp collected
  obtain ⟨_, rfl⟩ := contributors_eq_ok_iff.mp gathered
  have passed : ⟨owner, method⟩ ∈ registry.passedMethods chain :=
    mem_passedMethods_iff.mpr ⟨ownerMember, written, byHand⟩
  obtain ⟨earlier, kept, later, split, same, _, first⟩ :=
    OrderedMap.exists_first_mem_eraseDupsBy FoundMethod.signature passed
  have keptPassed : kept ∈ registry.passedMethods chain := split ▸ List.mem_append_cons_self
  obtain ⟨keeperMember, keptWritten, _⟩ := mem_passedMethods_iff.mp keptPassed
  exact ⟨kept.method, List.mem_map_of_mem first, kept.owner, keeperMember, keptWritten, same⟩

end Registry

end Introspection
