import MetaDesk.Text.Basic
import MetaDesk.Text.CaseTable
import MetaDesk.Text.CasedTable

/-! # Letters and their case

`lower` and `upper` are the full case mappings: a dotted capital i becomes two characters, a sharp
s becomes two capitals, and a capital sigma takes its final form at the end of a word.
`sameLetter` is the weaker comparison of one letter with another regardless of case, in which the
two i's without a partner of their own, the long s and the kelvin sign join the ASCII letters. -/

namespace MetaDesk.Text

/-- The lower form of a character other than capital sigma. -/
def lowerChar (c : Char) : Text :=
  if c.toNat < 0x80 then [c.toLower]
  else if c = 'İ' then ['i', '\u0307']
  else [Char.ofNat (shiftBy lowerRuns c.toNat)]

/-- The upper form of a character. -/
def upperChar (c : Char) : Text :=
  if c.toNat < 0x80 then [c.toUpper]
  else match longUppers.lookup c.toNat with
    | some ns => ns.map Char.ofNat
    | none => [Char.ofNat (shiftBy upperRuns c.toNat)]

/-- Passed over when the neighbours of a sigma are looked at. -/
def isCaseIgnorable (c : Char) : Bool :=
  if c.toNat < 0x80 then c = '\'' || c = '.' || c = ':' || c = '^' || c.toNat == 0x60
  else inRanges caseIgnorableRanges c.toNat

/-- A letter that has case. -/
def isCased (c : Char) : Bool :=
  if c.toNat < 0x80 then c.isAlpha else inRanges casedRanges c.toNat

/-- The first character that is not passed over has case. -/
def leadsCased : Text → Bool
  | [] => false
  | c :: rest => if isCaseIgnorable c then leadsCased rest else isCased c

/-- The lower form of a text that follows a cased letter or not. -/
def lowerAfter : Bool → Text → Text
  | _, [] => []
  | cased, c :: rest =>
    (if c = 'Σ' then [if cased && !leadsCased rest then 'ς' else 'σ'] else lowerChar c)
      ++ lowerAfter (if isCaseIgnorable c then cased else isCased c) rest

/-- The lower form of a text. -/
def lower (t : Text) : Text := lowerAfter false t

/-- The upper form of a text. -/
def upper (t : Text) : Text := t.flatMap upperChar

/-- The character is the ASCII character `p`, in either case if `p` is a letter. -/
def sameLetter (p c : Char) : Bool :=
  c.toLower = p.toLower || (p.toLower = 'i' && (c = 'İ' || c = 'ı'))
    || (p.toLower = 's' && c = 'ſ') || (p.toLower = 'k' && c.toNat == 0x212A)

/-- What follows `piece`, in any case, in a text that starts with it. -/
def afterAnyCase? : Text → Text → Option Text
  | [], t => some t
  | _ :: _, [] => none
  | p :: piece, c :: rest => if sameLetter p c then afterAnyCase? piece rest else none

/-- The text has `piece`, in any case, somewhere in it. -/
def holdsAnyCase (piece : Text) : Text → Bool
  | [] => piece.isEmpty
  | c :: rest => (afterAnyCase? piece (c :: rest)).isSome || holdsAnyCase piece rest

theorem length_lowerChar {c : Char} (h : c ≠ 'İ') : (lowerChar c).length = 1 := by
  simp only [lowerChar, if_neg h]
  split <;> rfl

theorem length_lowerAfter {cased : Bool} {t : Text} (h : 'İ' ∉ t) :
    (lowerAfter cased t).length = t.length := by
  induction t generalizing cased with
  | nil => rfl
  | cons c t ih =>
    have hc : c ≠ 'İ' := fun heq => h (heq ▸ List.mem_cons_self)
    have ht : 'İ' ∉ t := fun hmem => h (List.mem_cons_of_mem c hmem)
    rw [lowerAfter, List.length_append, ih ht, List.length_cons, Nat.add_comm]
    split
    · rfl
    · rw [length_lowerChar hc]

/-- Only the dotted capital i has a lower form of more than one character. -/
theorem length_lower {t : Text} (h : 'İ' ∉ t) : (lower t).length = t.length :=
  length_lowerAfter h

end MetaDesk.Text
