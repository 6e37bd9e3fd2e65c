import MetaDesk.Mishap
import MetaDesk.Path.Basic

/-! # Home folders

A path that starts with a tilde starts at a home folder: that of the user, or with a name behind
the tilde that of the account of this name.  A path whose account is unknown stays as it is. -/

namespace MetaDesk

/-- The home folders on a host. -/
structure Homes where
  /-- That of the user. -/
  own : Text := "/home/tester"
  /-- Those of accounts. -/
  accounts : List (Text × Text) :=
    [("root", "/root"), ("daemon", "/usr/sbin"), ("bin", "/bin"), ("sys", "/dev"),
     ("sync", "/bin"), ("games", "/usr/games"), ("mail", "/var/mail"), ("www-data", "/var/www"),
     ("nobody", "/nonexistent")]
deriving DecidableEq, Repr

namespace Homes

/-- The home folder that a name behind a tilde means; no account has a null in its name. -/
def named (homes : Homes) (name : Text) : Except Refusal (Option Text) :=
  if name.isEmpty then .ok (some homes.own)
  else if name.contains '\x00' then .error .nullInPath
  else .ok (homes.accounts.lookup name)

/-- A text without the slashes at its end. -/
def bare (t : Text) : Text := (t.reverse.dropWhile (· = '/')).reverse

/-- A path from its home folder on. -/
def expand (homes : Homes) : Text → Except Refusal Text
  | '~' :: t =>
    let name := t.takeWhile (· != '/')
    (homes.named name).map fun home =>
      match home with
      | none => '~' :: t
      | some home =>
        match bare home ++ t.drop name.length with
        | [] => ['/']
        | expanded => expanded
  | t => .ok t

theorem expand_of_head_ne {homes : Homes} {t : Text} (h : t.head? ≠ some '~') :
    homes.expand t = .ok t := by
  match t with
  | [] => rfl
  | c :: rest =>
    unfold expand
    split
    · simp_all
    · rfl

end Homes

/-- The path from its home folder on; a tilde at its start has to mean one. -/
def Path.fromHome (homes : Homes) (p : Path) : Except Mishap Path :=
  match p.root, p.names with
  | .none, first :: rest =>
    if first.head? = some '~' then
      match homes.expand first with
      | .error r => .error (.refused r)
      | .ok ('~' :: _) => .error .homeless
      | .ok t => .ok ((Path.ofText t).join ⟨.none, rest⟩)
    else .ok p
  | _, _ => .ok p

end MetaDesk
