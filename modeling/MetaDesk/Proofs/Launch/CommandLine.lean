import MetaDesk.Launch.CommandLine
import MetaDesk.Proofs.Text.AnyCase
import MetaDesk.Proofs.Text.Line
import MetaDesk.Text.Blank

/-! # Reading a command line back

A command line is cut at the blanks that are not between quotation marks (`parts`).  A text is a part
(`IsPart`) when it stays together in front of whatever follows it; flags without blanks are parts, and
so is a value between quotation marks, whatever blanks, slashes or colons it has.  The parts of the
line for a job are therefore the program and the arguments, each path behind its flag, and taking the
flags and the quotation marks away gives the job back (`read_commandLine`). -/

namespace MetaDesk.Launch

open Text (pushFront isBlank)

/-- The parts of a text that starts between quotation marks or not. -/
def partsFrom : Bool → Text → List Text
  | _, [] => [[]]
  | inside, c :: rest =>
    if isBlank c && !inside then [] :: partsFrom false rest
    else pushFront c (partsFrom (if c = '"' then !inside else inside) rest)

/-- The parts between the blanks that are not between quotation marks. -/
def parts (line : Text) : List Text := partsFrom false line

/-- A value between quotation marks. -/
def quoted (t : Text) : Text := '"' :: t ++ ['"']

/-- What is between the quotation marks around a text. -/
def unquoted? : Text → Option Text
  | '"' :: rest => if rest.getLast? = some '"' then some rest.dropLast else none
  | _ => none

/-- The value between quotation marks behind a flag. -/
def valueBehind? (flag part : Text) : Option Text := (Text.after? flag part).bind unquoted?

/-- The program and the job that parts tell. -/
def jobOf? : List Text → Option (Text × Job)
  | program :: source :: log :: more => do
    let program ← unquoted? program
    let source ← valueBehind? compileFlag source
    let log ← valueBehind? logFlag log
    return (program, ⟨source, log, more.findSome? (valueBehind? includeFlag),
      more.contains portableSwitch⟩)
  | _ => none

/-- The program and its arguments as they are written, each path in one pair of quotation marks. -/
def Job.written (program : Text) (j : Job) : List Text :=
  quoted program :: (compileFlag ++ quoted j.source) :: (logFlag ++ quoted j.log) ::
    (j.includes.toList.map fun folder => includeFlag ++ quoted folder) ++
    if j.portable then [portableSwitch] else []

/-- No path has a quotation mark in it, and an include folder is not empty. -/
structure Job.IsWritable (program : Text) (j : Job) : Prop where
  program : '"' ∉ program
  source : '"' ∉ j.source
  log : '"' ∉ j.log
  includes : ∀ folder ∈ j.includes, folder ≠ [] ∧ '"' ∉ folder

/-! ### Parts -/

/-- The text stays together at the start of whatever it is put in front of. -/
def IsPart (t : Text) : Prop := ∀ rest, parts (t ++ rest) = t.foldr pushFront (parts rest)

theorem isPart_append {t u : Text} (ht : IsPart t) (hu : IsPart u) : IsPart (t ++ u) := by
  intro rest
  rw [List.append_assoc, ht, hu, List.foldr_append]

/-- Without blanks and quotation marks. -/
theorem isPart_plain {t : Text} (h : ∀ c ∈ t, isBlank c = false ∧ c ≠ '"') : IsPart t := by
  intro rest
  induction t with
  | nil => rfl
  | cons c t ih =>
      rw [List.forall_mem_cons] at h
      obtain ⟨⟨hblank, hquote⟩, ht⟩ := h
      rw [List.foldr_cons, ← ih ht, List.cons_append, parts, partsFrom, if_neg hquote, hblank]
      rfl

theorem partsFrom_inside {t : Text} (h : '"' ∉ t) (rest : Text) :
    partsFrom true (t ++ rest) = t.foldr pushFront (partsFrom true rest) := by
  induction t with
  | nil => rfl
  | cons c t ih =>
      rw [List.mem_cons, not_or] at h
      rw [List.foldr_cons, ← ih h.2, List.cons_append, partsFrom, if_neg (Ne.symm h.1),
        Bool.not_true, Bool.and_false]
      rfl

theorem isPart_quoted {t : Text} (h : '"' ∉ t) : IsPart (quoted t) := by
  intro rest
  have hopen : parts (quoted t ++ rest) = pushFront '"' (partsFrom true (t ++ '"' :: rest)) := by
    rw [quoted, List.append_assoc, List.cons_append]
    rfl
  have hclose : partsFrom true ('"' :: rest) = pushFront '"' (parts rest) := rfl
  rw [hopen, partsFrom_inside h, hclose, quoted, List.foldr_append]
  rfl

theorem foldr_pushFront (t part : Text) (more : List Text) :
    t.foldr pushFront (part :: more) = (t ++ part) :: more := by
  induction t with
  | nil => rfl
  | cons c t ih =>
      rw [List.foldr_cons, ih]
      rfl

/-- Parts with blanks between them are the parts of the whole. -/
theorem parts_joinWith {ts : List Text} (hts : ts ≠ []) (hparts : ∀ t ∈ ts, IsPart t) :
    parts (Text.joinWith [' '] ts) = ts := by
  induction ts with
  | nil => exact absurd rfl hts
  | cons t ts ih =>
      rw [List.forall_mem_cons] at hparts
      cases ts with
      | nil =>
          have hlast := hparts.1 []
          rwa [List.append_nil, parts, parts, partsFrom, foldr_pushFront, List.append_nil] at hlast
      | cons u ts =>
          have hblank : ∀ rest, parts (' ' :: rest) = [] :: parts rest := fun _ => rfl
          rw [Text.joinWith, List.append_assoc, hparts.1, List.singleton_append, hblank,
            foldr_pushFront, List.append_nil, ih (List.cons_ne_nil u ts) hparts.2]

/-! ### Arguments -/

theorem quoteValue_of_not_mem {t : Text} (h : '"' ∉ t) : quoteValue t = quoted t := by
  have hunquoted : isQuoted t = false := by
    cases t with
    | nil => rfl
    | cons c t =>
        have hc : c ≠ '"' := fun hc => h (hc ▸ List.mem_cons_self)
        simp [isQuoted, hc]
  rw [quoteValue, hunquoted]
  rfl

theorem isPrefixOf_lower {flag : Text} (hflag : flag ∈ pathFlags) (t : Text) :
    flag <+: Text.lower (flag ++ t) := by
  have hascii : ∀ f ∈ pathFlags, ((f.map Char.toLower).all fun p => decide (Text.IsAscii p)) = true ∧
      f.map Char.toLower = f := by decide
  obtain ⟨hletters, hlower⟩ := hascii flag hflag
  have hprefix := Text.prefix_lowerAfter (Text.forall_mem_of_all hletters) false t
  rwa [hlower] at hprefix

/-- No path flag is the start of another one, so an argument has at most one. -/
theorem eq_of_isPrefixOf {flag flag' t : Text} (hflag : flag ∈ pathFlags) (hflag' : flag' ∈ pathFlags)
    (h : flag <+: t) (h' : flag' <+: t) : flag = flag' := by
  have hapart : ∀ f ∈ pathFlags, ∀ f' ∈ pathFlags, f <+: f' → f = f' := by decide
  rcases List.prefix_or_prefix_of_prefix h h' with hfirst | hfirst
  · exact hapart flag hflag flag' hflag' hfirst
  · exact (hapart flag' hflag' flag hflag hfirst).symm

/-- The flag that starts the lower form of an argument is the one that is found. -/
theorem flagOf?_of_prefix_lower {flag arg : Text} (hflag : flag ∈ pathFlags)
    (hhere : flag <+: Text.lower arg) : flagOf? arg = some flag := by
  unfold flagOf?
  cases hfound : pathFlags.find? fun f => f.isPrefixOf (Text.lower arg) with
  | none =>
      have hnone := List.find?_eq_none.mp hfound flag hflag
      exact absurd (List.isPrefixOf_iff_prefix.mpr hhere) hnone
  | some f =>
      have hother : f.isPrefixOf (Text.lower arg) = true := by simpa using List.find?_some hfound
      rw [eq_of_isPrefixOf (List.mem_of_find?_eq_some hfound) hflag
        (List.isPrefixOf_iff_prefix.mp hother) hhere]

theorem flagOf?_append {flag : Text} (hflag : flag ∈ pathFlags) (t : Text) :
    flagOf? (flag ++ t) = some flag :=
  flagOf?_of_prefix_lower hflag (isPrefixOf_lower hflag t)

theorem quoteFlag_append {flag t : Text} (hflag : flag ∈ pathFlags) (h : '"' ∉ t) :
    quoteFlag (flag ++ t) = flag ++ quoted t := by
  unfold quoteFlag
  rw [flagOf?_append hflag]
  dsimp only
  rw [List.take_left, List.drop_left, quoteValue_of_not_mem h]

theorem quoteFlag_portableSwitch : quoteFlag portableSwitch = portableSwitch := by decide

variable {program : Text} {j : Job}

theorem commandLine_eq (h : j.IsWritable program) :
    commandLine program j.args = Text.joinWith [' '] (j.written program) := by
  obtain ⟨source, log, includes, portable⟩ := j
  have hsource : quoteFlag (compileFlag ++ source) = compileFlag ++ quoted source :=
    quoteFlag_append (by decide) h.source
  have hlog : quoteFlag (logFlag ++ log) = logFlag ++ quoted log := quoteFlag_append (by decide) h.log
  unfold commandLine Job.args Job.written quoteFlags
  rw [quoteValue_of_not_mem h.program]
  cases includes with
  | none => cases portable <;> simp [hsource, hlog, quoteFlag_portableSwitch]
  | some folder =>
      obtain ⟨hfolder, hquote⟩ := h.includes folder rfl
      have hinclude : quoteFlag (includeFlag ++ folder) = includeFlag ++ quoted folder :=
        quoteFlag_append (by decide) hquote
      cases portable <;> simp [hsource, hlog, hinclude, hfolder, quoteFlag_portableSwitch]

theorem isPart_flag {flag : Text} (hflag : flag ∈ portableSwitch :: pathFlags) : IsPart flag := by
  have hplain : ∀ f ∈ portableSwitch :: pathFlags,
      (f.all fun c => decide (isBlank c = false ∧ c ≠ '"')) = true := by decide
  exact isPart_plain (Text.forall_mem_of_all (hplain flag hflag))

theorem isPart_of_mem_written (h : j.IsWritable program) : ∀ part ∈ j.written program, IsPart part := by
  have hbehind : ∀ flag ∈ pathFlags, ∀ t, '"' ∉ t → IsPart (flag ++ quoted t) := fun flag hflag t ht =>
    isPart_append (isPart_flag (List.mem_cons_of_mem _ hflag)) (isPart_quoted ht)
  intro part hpart
  simp only [Job.written, List.cons_append, List.mem_cons, List.mem_append, List.mem_map,
    Option.mem_toList, List.mem_ite_nil_right, List.not_mem_nil, or_false] at hpart
  rcases hpart with rfl | rfl | rfl | ⟨folder, hfolder, rfl⟩ | ⟨-, rfl⟩
  · exact isPart_quoted h.program
  · exact hbehind compileFlag (by decide) _ h.source
  · exact hbehind logFlag (by decide) _ h.log
  · exact hbehind includeFlag (by decide) _ (h.includes folder hfolder).2
  · exact isPart_flag List.mem_cons_self

/-! ### Reading -/

theorem unquoted?_quoted (t : Text) : unquoted? (quoted t) = some t := by
  simp [quoted, unquoted?]

theorem valueBehind?_append (flag t : Text) : valueBehind? flag (flag ++ quoted t) = some t := by
  unfold valueBehind? Text.after?
  rw [if_pos (List.isPrefixOf_iff_prefix.mpr (List.prefix_append flag _)), List.drop_left]
  exact unquoted?_quoted t

theorem jobOf?_written (program : Text) (j : Job) : jobOf? (j.written program) = some (program, j) := by
  obtain ⟨source, log, includes, portable⟩ := j
  have hswitch : valueBehind? includeFlag portableSwitch = none := by decide
  have hother : ∀ t, portableSwitch ≠ includeFlag ++ t := by
    intro t heq
    have hthird := congrArg (·[1]?) heq
    cases hthird
  cases includes with
  | none => cases portable <;> simp [Job.written, jobOf?, unquoted?_quoted, valueBehind?_append, hswitch]
  | some folder =>
      cases portable <;> simp [Job.written, jobOf?, unquoted?_quoted, valueBehind?_append, hother]

/-- **A command line can be read back.**  Its parts are the program and the arguments of the job, each
path in one pair of quotation marks; without these and the flags they give the program and the job, so
no two jobs have the same command line. -/
theorem read_commandLine (h : j.IsWritable program) :
    parts (commandLine program j.args) = j.written program ∧
      jobOf? (parts (commandLine program j.args)) = some (program, j) ∧
      ∀ program' j', Job.IsWritable program' j' →
        commandLine program' j'.args = commandLine program j.args → program' = program ∧ j' = j := by
  have hparts : ∀ {program j}, Job.IsWritable program j →
      parts (commandLine program j.args) = j.written program := fun h => by
    rw [commandLine_eq h]
    exact parts_joinWith (List.cons_ne_nil _ _) (isPart_of_mem_written h)
  refine ⟨hparts h, by rw [hparts h, jobOf?_written], fun program' j' h' hsame => ?_⟩
  have hread : jobOf? (j'.written program') = jobOf? (j.written program) := by
    rw [← hparts h', ← hparts h, hsame]
  rw [jobOf?_written, jobOf?_written, Option.some_inj, Prod.mk.injEq] at hread
  exact hread

/-- A job whose paths look like flags and switches, one of them empty. -/
def flagLikeJob : Job := ⟨"/log:x /portable", [], some " /inc:", true⟩

/-- They stay what they are. -/
theorem read_commandLine_of_flagLikeJob :
    flagLikeJob.IsWritable "C:\\a b\\me.exe" ∧
      jobOf? (parts (commandLine "C:\\a b\\me.exe" flagLikeJob.args)) =
        some (("C:\\a b\\me.exe" : Text), flagLikeJob) := by
  have hwritable : flagLikeJob.IsWritable "C:\\a b\\me.exe" := by
    refine ⟨by decide, by decide, by decide, ?_⟩
    rintro folder ⟨⟩
    decide
  exact ⟨hwritable, (read_commandLine hwritable).2.1⟩

end MetaDesk.Launch
