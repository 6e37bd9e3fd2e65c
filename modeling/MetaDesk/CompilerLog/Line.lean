import MetaDesk.Diagnostic.Basic
import MetaDesk.Path.FileUri
import MetaDesk.Text.Blank
import MetaDesk.Text.Digit

/-! # Lines of a compiler log

A log line is one of these, and the first that fits is taken:

* a header that names the file that is compiled or checked,
* a notice that names a file that is included,
* any other notice,
* the result with its counts,
* a diagnostic, `path(line,column) : severity code: message`, where path and code may be missing,
* anything else.

Words of the compiler are recognised in any case.  A path ends at the first place where the rest
can be read, so it may itself hold brackets, colons and blanks. -/

namespace MetaDesk.CompilerLog

/-- What a line is. -/
inductive LineKind where
  | compilingHeader
  | includeNotice
  | infoNotice
  | resultSummary
  | pathDiagnostic
  | plain
deriving DecidableEq, Repr

/-- The name of a kind of line. -/
def LineKind.label : LineKind → Text
  | .compilingHeader => "compiling_header"
  | .includeNotice => "include_notice"
  | .infoNotice => "info_notice"
  | .resultSummary => "result_summary"
  | .pathDiagnostic => "path_diagnostic"
  | .plain => "plain"

/-- The part of a line up to its line feed. -/
def untilFeed (t : Text) : Text := t.takeWhile (· != '\n')

/-- Split at the first place, after at least one character and before any line feed, from which
`f` can read the rest. -/
def splitAtFirst {α : Type} (f : Text → Option α) : Text → Option (Text × α)
  | [] => none
  | c :: rest =>
    if c = '\n' then none
    else match f rest with
      | some a => some ([c], a)
      | none => (splitAtFirst f rest).map fun found => (c :: found.1, found.2)

/-- A drive path of at least one more character, up to the first place from which `f` can read the
rest. -/
def drivePathBefore {α : Type} (f : Text → Option α) : Text → Option (Text × α)
  | letter :: ':' :: '\\' :: rest =>
    if letter.isAlpha then
      (splitAtFirst f rest).map fun found => (letter :: ':' :: '\\' :: found.1, found.2)
    else none
  | _ => none

/-- The drive path at the start of a line, up to a colon between blanks. -/
def leadingPath? (line : Text) : Option Text :=
  (drivePathBefore (Text.after? " : ") line).map (·.1)

/-! ## Notices -/

/-- What stands before a notice. -/
def marker : Text := ": information:"

/-- What follows one of some words of a notice. -/
def afterWord? (words : List Text) (t : Text) : Option Text :=
  words.findSome? fun word => Text.afterAnyCase? (marker ++ " " ++ word) t

/-- A text between apostrophes at the start: up to the last apostrophe of the line, and with
something between the two. -/
def quotedName? : Text → Option Text
  | '\'' :: rest =>
    let name := ((untilFeed rest).reverse.dropWhile (· != '\'')).reverse
    if 2 ≤ name.length then some ('\'' :: name) else none
  | _ => none

/-- The name after one of some words of a notice. -/
def namedBy? (words : List Text) (line : Text) : Option Text :=
  Text.search (fun t => do
    let rest ← afterWord? words t
    if rest.head?.any Text.isBlank then quotedName? (Text.trimStart rest) else none) line

/-- The words of a header. -/
def headerWords : List Text := ["compiling", "checking"]

/-- The word of an include notice. -/
def includeWords : List Text := ["including"]

/-- The name in a header. -/
def header? (line : Text) : Option Text := namedBy? headerWords line

/-- The name in an include notice. -/
def include? (line : Text) : Option Text := namedBy? includeWords line

/-- What a notice says. -/
def notice? (line : Text) : Option Text :=
  Text.search (fun t => do
    let rest ← Text.afterAnyCase? (marker ++ " ") t
    if rest.isEmpty then none else some (Text.trim rest)) line

/-- The line tells the result. -/
def isResult (line : Text) : Bool :=
  (Text.afterAnyCase? "Result:" line).isSome || Text.holdsAnyCase (marker ++ " result") line

/-- The line is a notice and does not tell the result. -/
def isNotice (line : Text) : Bool := Text.holds marker (Text.lower line) && !isResult line

/-- Notices that say nothing to the reader. -/
def isSilent (line : Text) : Bool :=
  let lowered := Text.lower line
  Text.holds "information: generating code" lowered
    || Text.holds "information: code generated" lowered

/-! ## Counts -/

/-- The digits of a count of `noun`, from which the count reaches to the end of the line. -/
def countAt? (noun t : Text) : Option Text :=
  let digits := t.takeWhile Text.isDigit
  if digits.isEmpty then none
  else
    match Text.afterAnyCase? noun (Text.trimStart (t.dropWhile Text.isDigit)) with
    | some _ => some digits
    | none => none

/-- The number that counts `noun` in a line, zero when there is none. -/
def count (noun line : Text) : Except LongNumeral Nat :=
  match Text.search (countAt? noun) line with
  | some digits => Text.readNumeral digits
  | none => .ok 0

/-- The line from its count of errors on. -/
def summary? (line : Text) : Option Text :=
  Text.search (fun t => (countAt? "error" t).map fun _ => t) line

/-! ## Diagnostics -/

/-- Line and column, as written, and what is said about the place. -/
structure Placed where
  line : Text
  column : Text
  body : Text
deriving DecidableEq, Repr

/-- The end of a line from its first character that is no blank, or its last blank, on. -/
def bodyOf? (t : Text) : Option Text :=
  let t := if t.getLast? = some '\n' then t.dropLast else t
  match Text.trimStart t with
  | [] => t.getLast?.bind fun c => if c = '\n' then none else some [c]
  | body => if body.contains '\n' then none else some body

/-- A place in brackets, a colon and a text. -/
def placed? : Text → Option Placed
  | '(' :: rest =>
    let line := rest.takeWhile Text.isDigit
    match rest.dropWhile Text.isDigit with
    | ',' :: rest =>
      let column := rest.takeWhile Text.isDigit
      match rest.dropWhile Text.isDigit with
      | ')' :: rest =>
        match Text.trimStart rest with
        | ':' :: rest =>
          if line.isEmpty || column.isEmpty then none
          else (bodyOf? rest).map fun body => ⟨line, column, body⟩
        | _ => none
      | _ => none
    | _ => none
  | _ => none

/-- A path, if there is one, before a place and what is said about it. -/
def pathAndPlace? (line : Text) : Option (Option Text × Placed) :=
  match drivePathBefore placed? line with
  | some found => some (some found.1, found.2)
  | none => (placed? line).map fun found => (none, found)

/-- How bad a problem is, its code and what it is. -/
structure Said where
  severity : Severity
  code : Option Text
  message : Text
deriving DecidableEq, Repr

/-- Code and message after the word for the severity. -/
def saidAfter? (severity : Severity) (t : Text) : Option Said :=
  let t := Text.trimStart t
  let code := t.takeWhile Text.isDigit
  match Text.trimStart (t.dropWhile Text.isDigit) with
  | ':' :: rest =>
    some ⟨severity, if code.isEmpty then none else some code, Text.trim (untilFeed rest)⟩
  | _ => none

/-- A text that starts with the word for a severity. -/
def saidAs? (severity : Severity) (body : Text) : Option Said :=
  (Text.afterAnyCase? severity.label body).bind (saidAfter? severity)

/-- What the text behind a place says; without the word for a severity it is an error if it speaks
of one. -/
def said (body : Text) : Said :=
  match (saidAs? .error body).or (saidAs? .warning body) with
  | some found => found
  | none =>
    ⟨if Text.holds "error" (Text.lower body) then .error else .warning, none, body⟩

/-- The code of a conversion of a number to a text that the source does not ask for. -/
def conversionCode : Text := "181"

/-- The problem is such a conversion, which is never reported. -/
def isSuppressed (code : Option Text) (message : Text) : Bool :=
  let lowered := Text.lower message
  code = some conversionCode
    || (Text.holds "implicit conversion" lowered && Text.holds "number" lowered
      && Text.holds "string" lowered)

/-! ## Kinds -/

/-- The kind of a line: the first one that fits. -/
def classify (line : Text) : LineKind :=
  if (header? line).isSome then .compilingHeader
  else if (include? line).isSome then .includeNotice
  else if isNotice line then .infoNotice
  else if isResult line then .resultSummary
  else if (pathAndPlace? line).isSome then .pathDiagnostic
  else .plain

theorem splitAtFirst_append {α : Type} {f : Text → Option α} {t p : Text} {a : α}
    (h : splitAtFirst f t = some (p, a)) : ∃ rest, t = p ++ rest ∧ f rest = some a := by
  induction t generalizing p with
  | nil => simp [splitAtFirst] at h
  | cons c rest ih =>
    rw [splitAtFirst] at h
    split at h
    · simp at h
    · split at h
      · next b hb =>
        simp only [Option.some.injEq, Prod.mk.injEq] at h
        exact ⟨rest, by simp [← h.1], h.2 ▸ hb⟩
      · obtain ⟨found, hfound, heq⟩ := Option.map_eq_some_iff.1 h
        simp only [Prod.mk.injEq] at heq
        obtain ⟨more, hmore, hf⟩ := ih (p := found.1) (by rw [hfound, ← heq.2])
        exact ⟨more, by rw [← heq.1, hmore]; rfl, hf⟩

end MetaDesk.CompilerLog
