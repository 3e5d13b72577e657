import Introspection.Text.Case

/-!
# Lower case is final

The lower-case form of a character begins with a character that is its own lower-case form
(`settled_lowerChar`). Outside ASCII this is a fact about the table: no run leads to a code point
that has a lower-case form of its own, which is decided run by run and not character by character
(`lowerRuns_miss`).
-/

set_option autoImplicit false

namespace Introspection.Text

def loweredRuns : List CodeRun :=
  ⟨65, 90, 1⟩ :: (toLowerSequences.map fun entry => ⟨entry.1, entry.1, 1⟩) ++
    toLowerRuns.map Prod.fst

/-- No member of the run is led to a member of the other one: what the run leads to ends before the
other begins, or begins behind it, or lies at the places that the other leaves out. -/
def misses (entry : CodeRun × Int) (other : CodeRun) : Bool :=
  Nat.blt (entry.1.last + entry.2).toNat other.first ||
    Nat.blt other.last (entry.1.first + entry.2).toNat ||
    (Nat.beq other.step 2 && (Nat.beq entry.1.step 2 || Nat.beq entry.1.first entry.1.last) &&
      decide ((entry.1.first + entry.2 - other.first) % 2 = 1) &&
      decide (0 ≤ entry.1.first + entry.2))

theorem covers_eq_false_of_misses {entry : CodeRun × Int} {other : CodeRun} {code : Nat}
    (inside : entry.1.covers code = true) (apart : misses entry other = true) :
    other.covers (code + entry.2).toNat = false := by
  obtain ⟨⟨first, last, step⟩, offset⟩ := entry
  obtain ⟨otherFirst, otherLast, otherStep⟩ := other
  simp only [CodeRun.covers, Bool.and_eq_true, decide_eq_true_eq, beq_iff_eq] at inside
  simp only [misses, Bool.or_eq_true, Bool.and_eq_true, Nat.blt_eq, Nat.beq_eq,
    decide_eq_true_eq] at apart
  rw [Bool.eq_false_iff]
  simp only [CodeRun.covers, ne_eq, Bool.and_eq_true, decide_eq_true_eq, beq_iff_eq]
  rcases apart with (ends | begins) | ⟨⟨⟨rfl, rfl | rfl⟩, odd⟩, positive⟩
  · omega
  · omega
  · omega
  · omega

theorem lowerRuns_miss :
    (toLowerRuns.all fun entry => loweredRuns.all fun other => misses entry other) = true := by
  decide +kernel

/-- A character outside ASCII that neither part of the table lists is in lower case already. -/
theorem lowerChar_of_unlisted {char : Char} (ascii : ¬ char.toNat < 128)
    (sequenceless : toLowerSequences.find? (fun entry => entry.1 == char.toNat) = none)
    (runless : toLowerRuns.find? (fun run => run.1.covers char.toNat) = none) :
    lowerChar char = [char] := by
  rw [lowerChar, if_neg ascii, caseForm, sequenceless, counterpart, runless]
  exact congrArg (fun char => [char]) (Char.ofNat_toNat char)

/-- A character whose code point has no lower-case form of its own is in lower case already. -/
theorem lowerChar_eq_self {char : Char}
    (free : ∀ run ∈ loweredRuns, run.covers char.toNat = false) : lowerChar char = [char] := by
  by_cases ascii : char.toNat < 128
  · have kept : ∀ code < 128, CodeRun.covers ⟨65, 90, 1⟩ code = false →
        (Char.ofNat code).toLower = Char.ofNat code := by decide
    have same := kept _ ascii (free ⟨65, 90, 1⟩ (by simp [loweredRuns]))
    rw [Char.ofNat_toNat] at same
    rw [lowerChar, if_pos ascii, same]
  · apply lowerChar_of_unlisted ascii
    · rw [List.find?_eq_none]
      intro entry listed same
      have apart := free ⟨entry.1, entry.1, 1⟩ (by
        simp only [loweredRuns, List.mem_append, List.mem_cons, List.mem_map]
        exact .inl (.inr ⟨entry, listed, rfl⟩))
      rw [beq_iff_eq] at same
      simp [CodeRun.covers, same] at apart
    · rw [List.find?_eq_none]
      intro entry listed inside
      rw [free entry.1 (List.mem_append_right _ (List.mem_map_of_mem listed))] at inside
      cases inside

/-- Where a run of the table leads to there is no further lower-case form. A code point that is no
character stands for the first one, which has none either. -/
theorem lowerChar_counterpart {entry : CodeRun × Int} {code : Nat} (listed : entry ∈ toLowerRuns)
    (inside : entry.1.covers code = true) :
    lowerChar (Char.ofNat (code + entry.2).toNat) = [Char.ofNat (code + entry.2).toNat] := by
  have first : ∀ run ∈ loweredRuns, run.covers 0 = false := by decide +kernel
  have misses := List.all_eq_true.mp (List.all_eq_true.mp lowerRuns_miss entry listed)
  apply lowerChar_eq_self
  intro run lowered
  by_cases valid : ((code : Int) + entry.2).toNat.isValidChar
  · have same : (Char.ofNat (code + entry.2).toNat).toNat = (code + entry.2).toNat := by
      rw [Char.ofNat, dif_pos valid]
      rfl
    rw [same]
    exact covers_eq_false_of_misses inside (misses run lowered)
  · rw [Char.ofNat, dif_neg valid]
    exact first run lowered

def Settled (chars : List Char) : Prop :=
  ∃ first rest, chars = first :: rest ∧ lowerChar first = [first]

theorem settled_lowerChar (char : Char) : Settled (lowerChar char) := by
  by_cases ascii : char.toNat < 128
  · have twice : ∀ code < 128, (Char.ofNat code).toLower.toNat < 128 ∧
        (Char.ofNat code).toLower.toLower = (Char.ofNat code).toLower := by decide
    obtain ⟨asciiStill, same⟩ := twice _ ascii
    rw [Char.ofNat_toNat] at asciiStill same
    refine ⟨char.toLower, [], by rw [lowerChar, if_pos ascii], ?_⟩
    rw [lowerChar, if_pos asciiStill, same]
  · rw [lowerChar, if_neg ascii, caseForm]
    split
    · next entry found =>
        have listed := List.mem_of_find?_eq_some found
        rw [toLowerSequences, List.mem_singleton] at listed
        subst listed
        exact ⟨'i', ['\u0307'], rfl, rfl⟩
    · next sequenceless =>
        refine ⟨_, [], rfl, ?_⟩
        unfold counterpart
        split
        · next entry found =>
            have inside : entry.1.covers char.toNat = true := by
              simpa using List.find?_some found
            exact lowerChar_counterpart (List.mem_of_find?_eq_some found) inside
        · next runless =>
            rw [Char.ofNat_toNat]
            exact lowerChar_of_unlisted ascii sequenceless runless

end Introspection.Text
