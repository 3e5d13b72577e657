import Introspection.Permissions
import Mathlib.Data.List.Forall2
import Mathlib.Data.List.TakeWhile
import Mathlib.Data.Nat.Digits.Defs
import Mathlib.Tactic.IntervalCases
import Mathlib.Tactic.Ring

/-!
# The written form of permissions

A text of permissions is one or more parts between bars, and each part is, in upper case and without
the white space around it, a flag name or a number below 256. `Written` says so without a reader:
the reader accepts just these texts, and joins the flags of the parts (`combined?_written`).
-/

set_option autoImplicit false

namespace Introspection

/-! ## White space around a text -/

namespace Text

variable {text core : List Char}

def Pads (core text : List Char) : Prop :=
  ∃ before after, (∀ char ∈ before, isBlank char = true) ∧
    (∀ char ∈ after, isBlank char = true) ∧ text = before ++ core ++ after

/-- The core is the text but for the white space around it, and has none itself at its ends. -/
structure Trims (text core : List Char) : Prop where
  pads : Pads core text
  first : ∀ char ∈ core.head?, isBlank char = false
  last : ∀ char ∈ core.getLast?, isBlank char = false

def SameCore (left right : List Char) : Prop := ∃ core, Pads core left ∧ Pads core right

theorem Pads.refl (core : List Char) : Pads core core :=
  ⟨[], [], by simp, by simp, (List.append_nil core).symm⟩

theorem trimEnd_append_of_blank {after : List Char} (blank : ∀ char ∈ after, isBlank char = true) :
    trimEnd (text ++ after) = trimEnd text := by
  have reversed : ∀ char ∈ after.reverse, isBlank char = true :=
    fun char inside => blank char (List.mem_reverse.mp inside)
  unfold trimEnd
  rw [List.reverse_append, List.dropWhile_append_of_pos reversed]

theorem trim_eq_of_pads (pads : Pads core text) : trim text = trim core := by
  obtain ⟨before, after, blankBefore, blankAfter, rfl⟩ := pads
  unfold trim
  rw [List.append_assoc, List.dropWhile_append_of_pos blankBefore, List.dropWhile_append]
  split
  · next empty =>
      have none : after.dropWhile isBlank = [] := List.dropWhile_eq_nil_iff.mpr blankAfter
      rw [none, List.isEmpty_iff.mp empty]
  · exact trimEnd_append_of_blank blankAfter

theorem not_blank_of_head?_dropWhile {char : Char}
    (head : char ∈ (text.dropWhile isBlank).head?) : isBlank char = false := by
  have start := List.head?_dropWhile_not isBlank text
  rw [Option.mem_def.mp head] at start
  exact start

theorem dropWhile_eq_self (first : ∀ char ∈ text.head?, isBlank char = false) :
    text.dropWhile isBlank = text := by
  cases text with
  | nil => rfl
  | cons char rest => exact List.dropWhile_cons_of_neg (by simp [first char rfl])

theorem exists_eq_trimEnd_append (text : List Char) :
    ∃ after, (∀ char ∈ after, isBlank char = true) ∧ text = trimEnd text ++ after := by
  refine ⟨(text.reverse.takeWhile isBlank).reverse, ?_, ?_⟩
  · intro char inside
    exact List.mem_takeWhile_imp (List.mem_reverse.mp inside)
  · have split : text.reverse.takeWhile isBlank ++ text.reverse.dropWhile isBlank = text.reverse :=
      List.takeWhile_append_dropWhile
    have turned := congrArg List.reverse split
    rw [List.reverse_append, List.reverse_reverse] at turned
    exact turned.symm

theorem trims_trim (text : List Char) : Trims text (trim text) := by
  obtain ⟨after, blank, split⟩ := exists_eq_trimEnd_append (text.dropWhile isBlank)
  refine ⟨⟨text.takeWhile isBlank, after, fun _ => List.mem_takeWhile_imp, blank, ?_⟩, ?_, ?_⟩
  · rw [List.append_assoc, trim, ← split, List.takeWhile_append_dropWhile]
  · intro char head
    have first : (trimEnd (text.dropWhile isBlank)).head? = some char := head
    have whole : char ∈ (text.dropWhile isBlank).head? := by
      rw [split, List.head?_append, first]
      rfl
    exact not_blank_of_head?_dropWhile whole
  · intro char last
    rw [trim, trimEnd, List.getLast?_reverse] at last
    exact not_blank_of_head?_dropWhile last

/-- There is just one way to take the white space off a text. -/
theorem trim_eq_iff : trim text = core ↔ Trims text core := by
  constructor
  · intro same
    exact same ▸ trims_trim text
  · intro trims
    rw [trim_eq_of_pads trims.pads, trim, dropWhile_eq_self trims.first, trimEnd,
      dropWhile_eq_self (by simpa using trims.last), List.reverse_reverse]

end Text

namespace Permissions

variable {chars : List Char} {base value : Nat} {permissions : Permissions}

/-! ## Numbers -/

def digitChars : List Char := "0123456789ABCDEF".toList

def IsDigit (base : Nat) (char : Char) (digit : Nat) : Prop :=
  digitChars[digit]? = some char ∧ digit < base

def Spells (base : Nat) (chars : List Char) (value : Nat) : Prop :=
  ∃ digits, List.Forall₂ (IsDigit base) chars digits ∧ Nat.ofDigits base digits.reverse = value

/-- One or more digits after a plus sign or none. -/
inductive Numeral (base : Nat) : List Char → Nat → Prop where
  | plain {chars : List Char} {value : Nat} : chars ≠ [] → Spells base chars value →
      Numeral base chars value
  | signed {chars : List Char} {value : Nat} : chars ≠ [] → Spells base chars value →
      Numeral base ('+' :: chars) value

/-- The upper-case texts of one set, each with a number whose lowest six bits spell the set. -/
inductive Denotes : List Char → Nat → Prop where
  | name {entry : String × Permissions} : entry ∈ names → Denotes entry.1.toList entry.2.bits
  | hexadecimal {chars : List Char} {value : Nat} : Numeral 16 chars value → value ≤ 255 →
      Denotes ('0' :: 'X' :: chars) value
  | decimal {chars : List Char} {value : Nat} : Numeral 10 chars value → value ≤ 255 →
      Denotes chars value

theorem digitValue?_eq_some_iff {char : Char} {digit : Nat} :
    digitValue? char = some digit ↔ digitChars[digit]? = some char := by
  constructor
  · intro read
    have spelt : Char.ofNat char.toNat = char := Char.ofNat_toNat char
    unfold digitValue? at read
    split at read
    · next decimal =>
        have low : 48 ≤ char.toNat := decimal.1
        have high : char.toNat ≤ 57 := decimal.2
        cases read
        rw [← spelt]
        generalize char.toNat = code at low high
        interval_cases code <;> rfl
    · split at read
      · next letter =>
          have low : 65 ≤ char.toNat := letter.1
          have high : char.toNat ≤ 70 := letter.2
          cases read
          rw [← spelt]
          generalize char.toNat = code at low high
          interval_cases code <;> rfl
      · cases read
  · intro placed
    have short : digit < 16 := (List.getElem?_eq_some_iff.mp placed).1
    interval_cases digit <;> cases placed <;> rfl

theorem digits?_cons_eq_some_iff {char : Char} {result : Nat} :
    digits? base value (char :: chars) = some result ↔
      ∃ digit, IsDigit base char digit ∧
        digits? base (value * base + digit) chars = some result := by
  unfold IsDigit
  simp only [← digitValue?_eq_some_iff]
  cases read : digitValue? char with
  | none => simp [digits?, read]
  | some digit => simp [digits?, read]

theorem digits?_eq_some_iff {result : Nat} :
    digits? base value chars = some result ↔
      ∃ digits, List.Forall₂ (IsDigit base) chars digits ∧
        value * base ^ digits.length + Nat.ofDigits base digits.reverse = result := by
  induction chars generalizing value with
  | nil => simp [digits?]
  | cons char chars ih =>
      have appended : ∀ digit : Nat, ∀ digits : List Nat,
          value * base ^ (digit :: digits).length + Nat.ofDigits base (digit :: digits).reverse =
            (value * base + digit) * base ^ digits.length +
              Nat.ofDigits base digits.reverse := by
        intro digit digits
        rw [List.reverse_cons, Nat.ofDigits_append, Nat.ofDigits_singleton, List.length_reverse,
          List.length_cons]
        ring
      rw [digits?_cons_eq_some_iff]
      simp only [ih]
      constructor
      · intro ⟨digit, isDigit, digits, spelt, total⟩
        exact ⟨digit :: digits, .cons isDigit spelt, (appended digit digits).trans total⟩
      · intro ⟨_, spelt, total⟩
        cases spelt with
        | cons isDigit spelt =>
            exact ⟨_, isDigit, _, spelt, (appended _ _).symm.trans total⟩

theorem spells_iff : Spells base chars value ↔ digits? base 0 chars = some value := by
  simp only [digits?_eq_some_iff, Nat.zero_mul, Nat.zero_add, Spells]

theorem not_spells_plus : ¬ Spells base ('+' :: chars) value := by
  intro ⟨_, spelt, _⟩
  cases spelt with
  | cons isDigit _ =>
      have read := digitValue?_eq_some_iff.mpr isDigit.1
      cases read

theorem numeral_signed_iff :
    Numeral base ('+' :: chars) value ↔ chars ≠ [] ∧ Spells base chars value := by
  constructor
  · intro numeral
    cases numeral with
    | plain _ spelt => exact absurd spelt not_spells_plus
    | signed occupied spelt => exact ⟨occupied, spelt⟩
  · intro ⟨occupied, spelt⟩
    exact .signed occupied spelt

theorem numeral_unsigned_iff (unsigned : ∀ rest, chars ≠ '+' :: rest) :
    Numeral base chars value ↔ chars ≠ [] ∧ Spells base chars value := by
  constructor
  · intro numeral
    cases numeral with
    | plain occupied spelt => exact ⟨occupied, spelt⟩
    | signed => exact absurd rfl (unsigned _)
  · intro ⟨occupied, spelt⟩
    exact .plain occupied spelt

theorem digits?_filter_eq_some_iff :
    (if chars.isEmpty then none else (digits? base 0 chars).filter (· < 256)) = some value ↔
      (chars ≠ [] ∧ Spells base chars value) ∧ value ≤ 255 := by
  rw [Option.ite_none_left_eq_some, Option.filter_eq_some_iff, spells_iff, List.isEmpty_iff,
    decide_eq_true_iff, and_assoc, Nat.lt_succ_iff]

theorem byte?_eq_some_iff :
    byte? base chars = some value ↔ Numeral base chars value ∧ value ≤ 255 := by
  unfold byte?
  dsimp only
  split
  · rw [digits?_filter_eq_some_iff, numeral_signed_iff]
  · next unsigned =>
      rw [digits?_filter_eq_some_iff, numeral_unsigned_iff unsigned]

/-! ## Parts -/

theorem find?_names {entry : String × Permissions} (listed : entry ∈ names) :
    names.find? (fun other => other.1.toList == entry.1.toList) = some entry := by
  have distinct : ∀ entry ∈ names,
      names.find? (fun other => other.1.toList == entry.1.toList) = some entry := by decide
  exact distinct entry listed

/-- No name begins like a number. -/
theorem find?_names_eq_none {char : Char} (numeric : char = '+' ∨ ∃ digit, IsDigit 10 char digit)
    (rest : List Char) : names.find? (fun entry => entry.1.toList == char :: rest) = none := by
  have letters : ∀ entry ∈ names, entry.1.toList.head?.any
      (fun first => first == '+' || (digitValue? first).any (· < 10)) = false := by decide
  rw [List.find?_eq_none]
  intro entry listed same
  have first : entry.1.toList.head? = some char := by
    rw [eq_of_beq same]
    rfl
  have letter := letters entry listed
  rw [first, Option.any_some, Bool.or_eq_false_iff] at letter
  obtain ⟨unsigned, wordy⟩ := letter
  rcases numeric with sign | ⟨digit, placed, decimal⟩
  · exact beq_eq_false_iff_ne.mp unsigned sign
  · rw [digitValue?_eq_some_iff.mpr placed, Option.any_some, decide_eq_false_iff_not] at wordy
    exact wordy decimal

theorem exists_numeric_of_numeral (numeral : Numeral 10 chars value) :
    ∃ char rest, chars = char :: rest ∧ (char = '+' ∨ ∃ digit, IsDigit 10 char digit) := by
  cases numeral with
  | plain occupied spelt =>
      obtain ⟨digits, spelt, _⟩ := spelt
      cases spelt with
      | nil => exact absurd rfl occupied
      | cons isDigit _ => exact ⟨_, _, rfl, .inr ⟨_, isDigit⟩⟩
  | signed => exact ⟨_, _, rfl, .inl rfl⟩

theorem not_numeral_hexadecimal : ¬ Numeral 10 ('0' :: 'X' :: chars) value := by
  intro numeral
  cases numeral with
  | plain _ spelt =>
      obtain ⟨digits, spelt, _⟩ := spelt
      cases spelt with
      | cons _ spelt =>
          cases spelt with
          | cons isDigit _ =>
              have read := digitValue?_eq_some_iff.mpr isDigit.1
              cases read

theorem ofBits_bits (permissions : Permissions) : ofBits permissions.bits = permissions := by
  unfold ofBits bits
  rw [BitVec.ofNat_toNat, BitVec.setWidth_eq]

theorem exists_denotes_of_ofUpper? (read : ofUpper? chars = some permissions) :
    ∃ value, Denotes chars value ∧ ofBits value = permissions := by
  unfold ofUpper? at read
  split at read
  · next entry found =>
      have spelt : entry.1.toList = chars := by simpa using List.find?_some found
      cases read
      exact ⟨entry.2.bits, spelt ▸ .name (List.mem_of_find?_eq_some found), ofBits_bits _⟩
  · split at read
    all_goals
      obtain ⟨value, number, same⟩ := Option.map_eq_some_iff.mp read
      obtain ⟨numeral, small⟩ := byte?_eq_some_iff.mp number
    · exact ⟨value, .hexadecimal numeral small, same⟩
    · exact ⟨value, .decimal numeral small, same⟩

theorem ofUpper?_of_denotes (denotes : Denotes chars value) :
    ofUpper? chars = some (ofBits value) := by
  unfold ofUpper?
  cases denotes with
  | name listed =>
      rw [find?_names listed, ofBits_bits]
  | hexadecimal numeral small =>
      have zero : IsDigit 10 '0' 0 := ⟨rfl, by decide⟩
      rw [find?_names_eq_none (.inr ⟨0, zero⟩)]
      show (byte? 16 _).map ofBits = _
      rw [byte?_eq_some_iff.mpr ⟨numeral, small⟩, Option.map_some]
  | decimal numeral small =>
      obtain ⟨char, rest, begins, numeric⟩ := exists_numeric_of_numeral numeral
      have nameless : names.find? (fun entry => entry.1.toList == chars) = none :=
        begins ▸ find?_names_eq_none numeric rest
      rw [nameless]
      dsimp only
      split
      · exact absurd numeral not_numeral_hexadecimal
      · rw [byte?_eq_some_iff.mpr ⟨numeral, small⟩, Option.map_some]

theorem ofUpper?_eq_some_iff :
    ofUpper? chars = some permissions ↔
      ∃ value, Denotes chars value ∧ ofBits value = permissions := by
  constructor
  · exact exists_denotes_of_ofUpper?
  · intro ⟨value, denotes, same⟩
    rw [ofUpper?_of_denotes denotes, same]

def PartDenotes (part : List Char) (value : Nat) : Prop :=
  ∃ core, Text.Trims part core ∧ Denotes (Text.upper core) value

theorem ofPart?_eq_some_iff {part : List Char} :
    ofPart? part = some permissions ↔
      ∃ value, PartDenotes part value ∧ ofBits value = permissions := by
  unfold ofPart? PartDenotes
  rw [ofUpper?_eq_some_iff]
  constructor
  · intro ⟨value, denotes, same⟩
    exact ⟨value, ⟨_, Text.trims_trim part, denotes⟩, same⟩
  · intro ⟨value, ⟨core, trims, denotes⟩, same⟩
    rw [Text.trim_eq_iff.mpr trims]
    exact ⟨value, denotes, same⟩

/-! ## Bars -/

/-- The text is the pieces with bars between them, and no piece has a bar of its own. -/
structure Splits (text : List Char) (pieces : List (List Char)) : Prop where
  occupied : pieces ≠ []
  barless : ∀ piece ∈ pieces, '|' ∉ piece
  joined : ['|'].intercalate pieces = text

theorem parts_eq_splitOn (text : List Char) : parts text = text.splitOn '|' := by
  induction text with
  | nil => rfl
  | cons char rest ih =>
      rw [List.splitOn, List.splitOnP_cons_eq_if_modifyHead, parts, ih, List.splitOn]
      by_cases bar : char = '|'
      · simp [bar]
      · rw [if_neg bar, if_neg (by simpa using bar)]
        cases split : rest.splitOnP (· == '|') with
        | nil => exact absurd split (List.splitOnP_ne_nil _ _)
        | cons first others => rfl

theorem bar_not_mem_of_mem_parts {text piece : List Char} (inside : piece ∈ parts text) :
    '|' ∉ piece := by
  induction text generalizing piece with
  | nil =>
      rw [List.mem_singleton.mp inside]
      exact List.not_mem_nil
  | cons char rest ih =>
      rw [parts] at inside
      split at inside
      · rcases List.mem_cons.mp inside with rfl | later
        · exact List.not_mem_nil
        · exact ih later
      · next plain =>
          split at inside
          · rw [List.mem_singleton.mp inside]
            exact fun bar => plain (List.mem_singleton.mp bar).symm
          · next first others split =>
              have clear := ih (split ▸ List.mem_cons_self)
              rcases List.mem_cons.mp inside with rfl | later
              · intro bar
                rcases List.mem_cons.mp bar with same | within
                · exact plain same.symm
                · exact clear within
              · exact ih (split ▸ List.mem_cons_of_mem _ later)

theorem parts_eq_iff {text : List Char} {pieces : List (List Char)} :
    parts text = pieces ↔ Splits text pieces := by
  constructor
  · intro same
    subst same
    refine ⟨?_, fun piece => bar_not_mem_of_mem_parts, ?_⟩
    · rw [parts_eq_splitOn]
      exact List.splitOnP_ne_nil _ _
    · rw [parts_eq_splitOn, List.intercalate_splitOn]
  · intro splits
    rw [parts_eq_splitOn, ← splits.joined]
    exact List.splitOn_intercalate '|' splits.barless splits.occupied

theorem parts_append (left right : List Char) :
    parts (left ++ '|' :: right) = parts left ++ parts right := by
  simp only [parts_eq_splitOn, List.splitOn]
  exact List.splitOnP_append_cons left right (by decide)

/-! ## Joining flags -/

theorem bits_ofBits (bits : Nat) : (ofBits bits).bits = bits &&& all.bits := by
  have lowest : all.bits = 2 ^ 6 - 1 := rfl
  rw [lowest, Nat.and_two_pow_sub_one_eq_mod]
  exact BitVec.toNat_ofNat bits 6

theorem bits_union (left right : Permissions) :
    (left.union right).bits = left.bits ||| right.bits :=
  BitVec.toNat_or left.word right.word

theorem eq_of_bits_eq {left right : Permissions} (same : left.bits = right.bits) : left = right := by
  rw [← ofBits_bits left, same, ofBits_bits]

theorem all_contains (permissions : Permissions) : all.contains permissions = true := by
  have ones : all.word = BitVec.allOnes 6 := by decide
  rw [contains, ones, BitVec.allOnes_and, beq_self_eq_true]

theorem ofBits_or (left right : Nat) :
    ofBits (left ||| right) = (ofBits left).union (ofBits right) := by
  apply eq_of_bits_eq
  rw [bits_union, bits_ofBits, bits_ofBits, bits_ofBits, Nat.and_or_distrib_right]

theorem union_assoc (first second third : Permissions) :
    (first.union second).union third = first.union (second.union third) :=
  congrArg Permissions.mk (BitVec.or_assoc ..)

theorem unionOf?_cons (part : List Char) (rest : List (List Char)) :
    unionOf? (part :: rest) =
      (ofPart? part).bind fun first => (unionOf? rest).map first.union := by
  rw [unionOf?]
  cases ofPart? part with
  | none => rfl
  | some first => cases unionOf? rest <;> rfl

theorem unionOf?_append (left right : List (List Char)) :
    unionOf? (left ++ right) =
      (unionOf? left).bind fun first => (unionOf? right).map first.union := by
  induction left with
  | nil =>
      have neutral : empty.union = id := by
        funext permissions
        exact congrArg Permissions.mk BitVec.zero_or
      simp [unionOf?, neutral]
  | cons part left ih =>
      rw [List.cons_append, unionOf?_cons, unionOf?_cons, ih]
      cases ofPart? part with
      | none => rfl
      | some first =>
          cases unionOf? left with
          | none => rfl
          | some second =>
              cases unionOf? right with
              | none => rfl
              | some third => exact congrArg some (union_assoc first second third).symm

theorem unionOf?_eq_some_iff {pieces : List (List Char)} :
    unionOf? pieces = some permissions ↔
      ∃ values, List.Forall₂ PartDenotes pieces values ∧
        ofBits (values.foldr (· ||| ·) 0) = permissions := by
  induction pieces generalizing permissions with
  | nil => simp [unionOf?, ofBits, empty]
  | cons piece pieces ih =>
      rw [unionOf?_cons, Option.bind_eq_some_iff]
      simp only [ofPart?_eq_some_iff, Option.map_eq_some_iff, ih]
      constructor
      · intro ⟨_, ⟨value, denotes, rfl⟩, _, ⟨values, rest, rfl⟩, same⟩
        exact ⟨value :: values, .cons denotes rest, (ofBits_or _ _).trans same⟩
      · intro ⟨_, spelt, same⟩
        cases spelt with
        | cons denotes rest =>
            exact ⟨_, ⟨_, denotes, rfl⟩, _, ⟨_, rest, rfl⟩, (ofBits_or _ _).symm.trans same⟩

/-! ## Other orders -/

theorem exists_unionOf?_iff {pieces : List (List Char)} :
    (∃ joined, unionOf? pieces = some joined) ↔
      ∀ piece ∈ pieces, ∃ part, ofPart? piece = some part := by
  induction pieces with
  | nil => simp [unionOf?]
  | cons piece pieces ih =>
      rw [List.forall_mem_cons, ← ih, unionOf?_cons]
      cases ofPart? piece with
      | none => simp
      | some part => cases unionOf? pieces <;> simp

/-- A flag is in the union just when it is in what one of the parts stands for. -/
theorem getLsbD_of_unionOf? {pieces : List (List Char)} {joined : Permissions}
    (joins : unionOf? pieces = some joined) (place : Nat) :
    joined.word.getLsbD place = true ↔
      ∃ piece ∈ pieces, ∃ part, ofPart? piece = some part ∧ part.word.getLsbD place = true := by
  induction pieces generalizing joined with
  | nil =>
      cases joins
      simp [empty]
  | cons piece pieces ih =>
      rw [unionOf?_cons] at joins
      obtain ⟨first, read, joins⟩ := Option.bind_eq_some_iff.mp joins
      obtain ⟨others, rest, rfl⟩ := Option.map_eq_some_iff.mp joins
      have split : (first.union others).word.getLsbD place =
          (first.word.getLsbD place || others.word.getLsbD place) := BitVec.getLsbD_or
      rw [split, Bool.or_eq_true, ih rest, List.exists_mem_cons_iff, read]
      simp

theorem unionOf?_congr {pieces others : List (List Char)}
    (forth : ∀ piece ∈ pieces, ∃ other ∈ others, ofPart? piece = ofPart? other)
    (back : ∀ other ∈ others, ∃ piece ∈ pieces, ofPart? piece = ofPart? other) :
    unionOf? pieces = unionOf? others := by
  have readable : (∃ joined, unionOf? pieces = some joined) ↔
      ∃ joined, unionOf? others = some joined := by
    rw [exists_unionOf?_iff, exists_unionOf?_iff]
    constructor
    · intro all other inside
      obtain ⟨piece, listed, same⟩ := back other inside
      exact same ▸ all piece listed
    · intro all piece inside
      obtain ⟨other, listed, same⟩ := forth piece inside
      exact same ▸ all other listed
  cases found : unionOf? pieces with
  | none =>
      cases foundToo : unionOf? others with
      | none => rfl
      | some again =>
          obtain ⟨joined, impossible⟩ := readable.mpr ⟨again, foundToo⟩
          rw [found] at impossible
          cases impossible
  | some joined =>
      obtain ⟨again, foundToo⟩ := readable.mp ⟨joined, found⟩
      rw [foundToo]
      have sameFlags : ∀ place < 6, joined.word.getLsbD place = again.word.getLsbD place := by
        intro place _
        rw [Bool.eq_iff_iff, getLsbD_of_unionOf? found, getLsbD_of_unionOf? foundToo]
        constructor
        · intro ⟨piece, inside, part, read, flag⟩
          obtain ⟨other, listed, same⟩ := forth piece inside
          exact ⟨other, listed, part, same ▸ read, flag⟩
        · intro ⟨other, inside, part, read, flag⟩
          obtain ⟨piece, listed, same⟩ := back other inside
          exact ⟨piece, listed, part, same.trans read, flag⟩
      exact congrArg (some ∘ Permissions.mk) (BitVec.eq_of_getLsbD_eq sameFlags)

theorem ofPart?_eq_of_sameCore {left right : List Char} (same : Text.SameCore left right) :
    ofPart? left = ofPart? right := by
  obtain ⟨core, padsLeft, padsRight⟩ := same
  rw [ofPart?, ofPart?, Text.trim_eq_of_pads padsLeft, Text.trim_eq_of_pads padsRight]

/-! ## The written form -/

/-- The grammar of permissions: parts between bars, each standing for a number, and the set that is
spelt by the lowest six bits of all these numbers. -/
def Written (text : List Char) (permissions : Permissions) : Prop :=
  ∃ pieces values, Splits text pieces ∧ List.Forall₂ PartDenotes pieces values ∧
    permissions.bits = values.foldr (· ||| ·) 0 &&& all.bits

theorem combined?_eq_some_iff {text : String} :
    combined? text = some permissions ↔ Written text.toList permissions := by
  unfold combined? Written
  rw [unionOf?_eq_some_iff]
  constructor
  · intro ⟨values, denote, same⟩
    exact ⟨_, values, parts_eq_iff.mp rfl, denote, by rw [← same, bits_ofBits]⟩
  · intro ⟨pieces, values, splits, denote, same⟩
    rw [parts_eq_iff.mpr splits]
    exact ⟨values, denote, eq_of_bits_eq ((bits_ofBits _).trans same.symm)⟩

/-- The reader accepts just the texts of the grammar, with the flags that the parts stand for and no
others. What stands on either side of a bar is read on its own; and texts whose parts agree but for
order, repetition and the white space around them are read alike. -/
theorem combined?_written :
    (∀ text permissions, combined? text = some permissions ↔ Written text.toList permissions) ∧
    (∀ text permissions, combined? text = some permissions → all.contains permissions = true) ∧
    (∀ left right, combined? (left ++ "|" ++ right) =
      (combined? left).bind fun first => (combined? right).map first.union) ∧
    ∀ text other pieces others, Splits text.toList pieces → Splits other.toList others →
      (∀ piece ∈ pieces, ∃ fellow ∈ others, Text.SameCore piece fellow) →
      (∀ fellow ∈ others, ∃ piece ∈ pieces, Text.SameCore piece fellow) →
      combined? text = combined? other := by
  refine ⟨fun _ _ => combined?_eq_some_iff, fun _ permissions _ => permissions.all_contains, ?_, ?_⟩
  · intro left right
    have bar : (left ++ "|" ++ right).toList = left.toList ++ '|' :: right.toList := by
      simp [String.toList_append]
    rw [combined?, bar, parts_append, unionOf?_append]
    rfl
  · intro text other pieces others splits splitsToo forth back
    rw [combined?, combined?, parts_eq_iff.mpr splits, parts_eq_iff.mpr splitsToo]
    apply unionOf?_congr
    · intro piece inside
      obtain ⟨fellow, listed, same⟩ := forth piece inside
      exact ⟨fellow, listed, ofPart?_eq_of_sameCore same⟩
    · intro fellow inside
      obtain ⟨piece, listed, same⟩ := back fellow inside
      exact ⟨piece, listed, ofPart?_eq_of_sameCore same⟩

/-- An upper-case look-alike, a signed number of either base, and a number too large by one. -/
theorem combined?_written_settings :
    Written " wrıte_all|0x+00C\t|+0020".toList ⟨0x1C⟩ ∧ all.contains ⟨0x1C⟩ = true ∧
      combined? ("READ_ALL" ++ "|" ++ "0X100") = none ∧
      combined? "READ_ALL|+0020" = combined? " +0020 |READ_ALL|READ_ALL\t" := by
  obtain ⟨grammar, within, apart, unordered⟩ := combined?_written
  have read : combined? " wrıte_all|0x+00C\t|+0020" = some ⟨0x1C⟩ := by decide
  have name : Text.SameCore "READ_ALL".toList "READ_ALL".toList := ⟨_, .refl _, .refl _⟩
  have nameToo : Text.SameCore "READ_ALL".toList "READ_ALL\t".toList :=
    ⟨_, .refl _, [], ['\t'], by simp, List.forall_mem_singleton.mpr rfl, rfl⟩
  have number : Text.SameCore "+0020".toList " +0020 ".toList :=
    ⟨_, .refl _, [' '], [' '], List.forall_mem_singleton.mpr rfl, List.forall_mem_singleton.mpr rfl,
      rfl⟩
  refine ⟨(grammar _ _).mp read, within _ _ read, ?_, ?_⟩
  · rw [apart]
    decide
  · have splits : Splits "READ_ALL|+0020".toList ["READ_ALL".toList, "+0020".toList] :=
      parts_eq_iff.mp (by decide)
    have splitsToo : Splits " +0020 |READ_ALL|READ_ALL\t".toList
        [" +0020 ".toList, "READ_ALL".toList, "READ_ALL\t".toList] := parts_eq_iff.mp (by decide)
    apply unordered _ _ _ _ splits splitsToo
    · intro piece inside
      rcases List.mem_pair.mp inside with rfl | rfl
      · exact ⟨_, by simp, name⟩
      · exact ⟨_, by simp, number⟩
    · intro fellow inside
      simp only [List.mem_cons, List.not_mem_nil, or_false] at inside
      rcases inside with rfl | rfl | rfl
      · exact ⟨_, by simp, number⟩
      · exact ⟨_, by simp, name⟩
      · exact ⟨_, by simp, nameToo⟩

end Permissions

end Introspection
