import MetaDesk.Flavor
import MetaDesk.Mishap
import MetaDesk.Path.Basic

/-! # Compile targets

A target is a source file, by its path from the root, and the flavor that it is compiled as.  The
suffix of a main file decides its flavor; for a header somebody may be asked, and failing that the
path decides. -/

namespace MetaDesk

/-- A source file to compile. -/
structure Target where
  path : Path
  flavor : Flavor
  isAbsolute : path.isAbsolute = true
deriving DecidableEq, Repr

namespace Target

/-- The target of a path, which has to start at the root. -/
def make (path : Path) (flavor : Flavor) : Except Refusal Target :=
  if h : path.isAbsolute = true then .ok ⟨path, flavor, h⟩ else .error (.relativeTarget path.text)

/-- The name of the file. -/
def name (t : Target) : Text := t.path.name

/-- The log that the compiler leaves beside the file. -/
def log (t : Target) : Except Refusal Path :=
  match t.path.withSuffix? ".log" with
  | some p => .ok p
  | none => .error (.nameless t.path.text)

/-- Somebody who may know the flavor of a header. -/
abbrev HeaderFlavor := Path → Except Mishap (Option Flavor)

/-- Nobody knows. -/
def nobody : HeaderFlavor := fun _ => .ok none

/-- The flavor of a header, as far as its path tells. -/
def guess (p : Path) : Flavor :=
  if Text.holds (Flavor.name .mql4) (Text.lower p.text) then .mql4 else .mql5

/-- The flavor of a file; files that are no sources have none. -/
def flavorOf (ask : HeaderFlavor) (p : Path) : Except Mishap (Option Flavor) :=
  match Flavor.ofSuffix? p.suffix with
  | some f => .ok (some f)
  | none =>
    if Flavor.isHeader p.suffix then do
      match ← ask p with
      | some f => return some f
      | none => return some (guess p)
    else .ok none

theorem make_path {p : Path} {f : Flavor} {t : Target} (h : make p f = .ok t) : t.path = p := by
  simp only [make] at h
  split at h
  · cases h
    rfl
  · cases h

end Target

end MetaDesk
