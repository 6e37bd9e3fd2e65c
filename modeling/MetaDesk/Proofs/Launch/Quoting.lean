import MetaDesk.Proofs.Launch.CommandLine
import Mathlib.Data.List.Forall2

/-! # Quoting arguments

The value behind a path flag is put between quotation marks, once, and nothing else of the arguments
is touched.  A flag counts in any case (`Behind`): its characters stand at the start of the argument,
each letter small or capital.  That is the same as being the start of the lower form of the argument
(`prefix_lower_iff`), although lower forms may be longer than what they are of: the only letter whose
lower form is longer becomes one with a dot above, and no flag has such a dot.

So the argument and what is made of it have the flag in the same place (`quoteFlag_of_behind`), and
quoting again meets a value that is quoted already (`quoteFlags_settle`). -/

namespace MetaDesk.Launch

variable {arg flag written value : Text}

/-- The argument is the flag as it is written, in any case, and the value behind it. -/
structure Behind (flag arg written value : Text) : Prop where
  arg_eq : arg = written ++ value
  same : written.map Char.toLower = flag

/-- The argument starts with the flag in some case. -/
def StartsWith (flag arg : Text) : Prop := ∃ written value, Behind flag arg written value

/-- The value is between quotation marks. -/
structure IsBetweenQuotes (value : Text) : Prop where
  long : 2 ≤ value.length
  first : value.head? = some '"'
  last : value.getLast? = some '"'

/-! ### Flags in any case -/

theorem isPhrase_of_mem_pathFlags (hflag : flag ∈ pathFlags) : Text.IsPhrase flag := by
  have hall : ∀ f ∈ pathFlags, (f.all fun p => decide (Text.IsAscii p)) = true ∧ 'k' ∉ f ∧
      f.getLast? ≠ some 'i' := by decide
  obtain ⟨hascii, hkelvin, hdotted⟩ := hall flag hflag
  exact ⟨Text.forall_mem_of_all hascii, hkelvin, hdotted⟩

/-- The flag starts the lower form of an argument just when the argument starts with it in some
case. -/
theorem prefix_lower_iff (hflag : flag ∈ pathFlags) :
    flag <+: Text.lower arg ↔ StartsWith flag arg := by
  have hphrase := isPhrase_of_mem_pathFlags hflag
  constructor
  · intro hprefix
    obtain ⟨written, ⟨value, harg⟩, hsame⟩ := Text.exists_prefix_of_lowerAfter hphrase hprefix
    exact ⟨written, value, harg.symm, hsame⟩
  · rintro ⟨written, value, rfl, rfl⟩
    exact Text.prefix_lowerAfter hphrase.isAscii false value

theorem flagOf?_eq_none (h : ∀ flag ∈ pathFlags, ¬ StartsWith flag arg) : flagOf? arg = none := by
  refine List.find?_eq_none.mpr fun flag hflag hprefix => ?_
  exact h flag hflag ((prefix_lower_iff hflag).mp (List.isPrefixOf_iff_prefix.mp hprefix))

/-! ### One argument -/

/-- The flag stays as it is written, and its value is quoted. -/
theorem quoteFlag_of_behind (hflag : flag ∈ pathFlags) (h : Behind flag arg written value) :
    quoteFlag arg = written ++ quoteValue value := by
  have hfound : flagOf? arg = some flag :=
    flagOf?_of_prefix_lower hflag ((prefix_lower_iff hflag).mpr ⟨written, value, h⟩)
  have hlength : flag.length = written.length := by rw [← h.same, List.length_map]
  unfold quoteFlag
  rw [hfound]
  dsimp only
  rw [hlength, h.arg_eq, List.take_left, List.drop_left]

theorem quoteFlag_of_not_startsWith (h : ∀ flag ∈ pathFlags, ¬ StartsWith flag arg) :
    quoteFlag arg = arg := by
  unfold quoteFlag
  rw [flagOf?_eq_none h]

theorem quoteFlag_quoteFlag (arg : Text) : quoteFlag (quoteFlag arg) = quoteFlag arg := by
  by_cases hstarts : ∃ flag ∈ pathFlags, StartsWith flag arg
  · obtain ⟨flag, hflag, written, value, h⟩ := hstarts
    -- the flag is still in front, so what is quoted the second time is the quoted value
    have hagain : Behind flag (quoteFlag arg) written (quoteValue value) :=
      ⟨quoteFlag_of_behind hflag h, h.same⟩
    rw [quoteFlag_of_behind hflag hagain, quoteValue_quoteValue, quoteFlag_of_behind hflag h]
  · have hnone : ∀ flag ∈ pathFlags, ¬ StartsWith flag arg := fun flag hflag h =>
      hstarts ⟨flag, hflag, h⟩
    rw [quoteFlag_of_not_startsWith hnone, quoteFlag_of_not_startsWith hnone]

theorem isBetweenQuotes_quoteValue (value : Text) : IsBetweenQuotes (quoteValue value) := by
  have hquoted := isQuoted_quoteValue value
  unfold isQuoted at hquoted
  simp only [Bool.and_eq_true, decide_eq_true_eq] at hquoted
  obtain ⟨⟨hlong, hfirst⟩, hlast⟩ := hquoted
  exact ⟨hlong, hfirst, hlast⟩

theorem quoteValue_eq_or (value : Text) : quoteValue value = value ∨ quoteValue value = quoted value := by
  unfold quoteValue
  split
  · exact Or.inl rfl
  · exact Or.inr rfl

/-- What is made of an argument: without a flag it stays what it is, and behind a flag the value comes
between quotation marks unless it is there already. -/
structure IsQuotedFrom (arg out : Text) : Prop where
  unchanged : (∀ flag ∈ pathFlags, ¬ StartsWith flag arg) → out = arg
  quoted : ∀ flag ∈ pathFlags, ∀ written value, Behind flag arg written value →
    ∃ value', out = written ++ value' ∧ IsBetweenQuotes value' ∧
      (value' = value ∨ value' = quoted value)

theorem isQuotedFrom_quoteFlag (arg : Text) : IsQuotedFrom arg (quoteFlag arg) where
  unchanged := quoteFlag_of_not_startsWith
  quoted _ hflag _ value h := ⟨quoteValue value, quoteFlag_of_behind hflag h,
    isBetweenQuotes_quoteValue value, quoteValue_eq_or value⟩

/-- **Quoting arguments again changes nothing, and quoting them touches only the values of path
flags.**  One argument comes out for each that goes in.  It is the same unless it starts with a path
flag in some case, and then the flag is as it was written and the value between quotation marks.  To
start with a flag in some case is to have it at the start of the lower form. -/
theorem quoteFlags_settle (args : List Text) :
    quoteFlags (quoteFlags args) = quoteFlags args ∧
      List.Forall₂ IsQuotedFrom args (quoteFlags args) ∧
      ∀ flag ∈ pathFlags, ∀ arg, StartsWith flag arg ↔ flag <+: Text.lower arg := by
  refine ⟨?_, ?_, fun flag hflag arg => (prefix_lower_iff hflag).symm⟩
  · unfold quoteFlags
    rw [List.map_map]
    exact List.map_congr_left fun arg _ => quoteFlag_quoteFlag arg
  · unfold quoteFlags
    rw [List.forall₂_map_right_iff, List.forall₂_same]
    exact fun arg _ => isQuotedFrom_quoteFlag arg

/-- One quotation mark is no pair, and a dotted capital i is not the i of a flag. -/
example : quoteFlags ["/LOG:\"", "/Inc:\"a b\"", "/İnc:a", "/portable"] =
    ["/LOG:\"\"\"", "/Inc:\"a b\"", "/İnc:a", "/portable"] := by decide

end MetaDesk.Launch
