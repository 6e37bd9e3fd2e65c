import MetaDesk.Text.Blank

/-! # Include directives

A source file names the files that it includes, one on a line.  Block comments are taken out of the
whole text before its lines are looked at; a block comment that does not end is none. -/

namespace MetaDesk.Include

/-- What follows the first end of a block comment. -/
def afterComment? : Text → Option Text
  | [] => none
  | '*' :: '/' :: rest => some rest
  | _ :: rest => afterComment? rest

theorem length_lt_of_afterComment? {t rest : Text} (h : afterComment? t = some rest) :
    rest.length < t.length := by
  fun_induction afterComment? t with
  | case1 => simp at h
  | case2 r =>
    simp only [Option.some.injEq] at h
    subst h
    simp only [List.length_cons]
    omega
  | case3 c r _ ih =>
    have := ih h
    simp only [List.length_cons]
    omega

/-- The text without its block comments. -/
def withoutComments : Text → Text
  | [] => []
  | '/' :: '*' :: rest =>
    match _h : afterComment? rest with
    | some after => withoutComments after
    | none => '/' :: '*' :: rest
  | c :: rest => c :: withoutComments rest
termination_by t => t.length
decreasing_by
  · have := length_lt_of_afterComment? _h
    simp
    omega
  · simp

/-- The name between two characters of which each is a quotation mark or an angle. -/
def quotedName? : Text → Option Text
  | c :: rest =>
    let name := rest.takeWhile fun c => c != '"' && c != '>'
    if (c = '"' || c = '<') && !name.isEmpty && name.length < rest.length then some name else none
  | [] => none

/-- The name of the file that a line includes. -/
def included? (line : Text) : Option Text := do
  let rest ← Text.after? "#include" line
  let name := Text.trimStart rest
  if name.length < rest.length then quotedName? name else none

/-- The names of all files that a text includes, in order. -/
def names (t : Text) : List Text :=
  (Text.lines (withoutComments t)).filterMap fun line => included? (Text.trim line)

end MetaDesk.Include
