import MetaDesk.Proofs.Tail.Starting

/-! # Banners and stop markers

Of all that a tailer writes, a banner tells that it has started and a marker that it has stopped.
`Adds before banners markers h` counts how many of each were written since `before`.  Everything
else that a start writes is a note, a line that begins with a bracket (`Adds.note`), so most of its
parts are plain: they write no banner and no marker (`resolveBase_isPlain`, `openSession_isPlain`,
`Library.deploy_isPlain`). -/

namespace MetaDesk.Tail

variable {α β : Type} {before h h' : Host} {banners markers : ℕ}

/-- How every banner begins. -/
def bannerHead : Text := "--- Starting "

/-- How every banner ends. -/
def bannerEnd : Text := " Tail ---\n"

/-- The piece tells of a start. -/
def isBanner (piece : Text) : Bool := bannerHead.isPrefixOf piece && bannerEnd.isSuffixOf piece

/-- The piece tells of a stop. -/
def isMarker (piece : Text) : Bool := decide (piece = stopMarker ++ ['\n'])

/-- The banner of a mode. -/
def bannerOf (mode : TailMode) : Text := "--- Starting " ++ titleOf mode ++ " Tail ---" ++ ['\n']

theorem isBanner_bannerOf (mode : TailMode) : isBanner (bannerOf mode) = true := by
  cases mode <;> decide +kernel

theorem isMarker_bannerOf (mode : TailMode) : isMarker (bannerOf mode) = false := by
  cases mode <;> decide +kernel

theorem isBanner_stopMarker : isBanner (stopMarker ++ ['\n']) = false := by decide +kernel

/-! ### Counting -/

/-- Since `before` so many banners and so many markers were written, and perhaps something else. -/
def Adds (before : Host) (banners markers : ℕ) (h : Host) : Prop :=
  ∃ new, h.output.pieces = before.output.pieces ++ new ∧
    new.countP isBanner = banners ∧ new.countP isMarker = markers

/-- What was written since `before`. -/
def newPieces (before h : Host) : List Text := h.output.pieces.drop before.output.pieces.length

theorem Adds.countP_newPieces (hadds : Adds before banners markers h) :
    (newPieces before h).countP isBanner = banners ∧
      (newPieces before h).countP isMarker = markers := by
  obtain ⟨new, hnew, hcounts⟩ := hadds
  have hpieces : newPieces before h = new := by
    unfold newPieces
    rw [hnew, List.drop_left]
  rw [hpieces]
  exact hcounts

theorem Adds.refl (h : Host) : Adds h 0 0 h := ⟨[], (List.append_nil _).symm, rfl, rfl⟩

theorem Adds.trans {banners' markers' : ℕ} (hadds : Adds before banners markers h)
    (hmore : Adds h banners' markers' h') :
    Adds before (banners + banners') (markers + markers') h' := by
  obtain ⟨first, hfirst, rfl, rfl⟩ := hadds
  obtain ⟨second, hsecond, rfl, rfl⟩ := hmore
  refine ⟨first ++ second, ?_, List.countP_append, List.countP_append⟩
  rw [hsecond, hfirst, List.append_assoc]

/-- Showing a text adds one piece, if there is something in it. -/
theorem Adds.shows (h : Host) (text : Text) :
    Adds h (isBanner text).toNat (isMarker text).toNat (h.shows text) := by
  cases text with
  | nil => exact Adds.refl h
  | cons c rest =>
      refine ⟨[c :: rest], rfl, ?_, ?_⟩
      · rw [List.countP_singleton]
        cases isBanner (c :: rest) <;> rfl
      · rw [List.countP_singleton]
        cases isMarker (c :: rest) <;> rfl

/-- The banner of a mode is one banner. -/
theorem Adds.banner (h : Host) (mode : TailMode) : Adds h 1 0 (h.shows (bannerOf mode)) := by
  have hshows := Adds.shows h (bannerOf mode)
  rw [isBanner_bannerOf, isMarker_bannerOf] at hshows
  exact hshows

/-- The stop marker is one marker. -/
theorem Adds.marker (h : Host) : Adds h 0 1 (h.shows (stopMarker ++ ['\n'])) := by
  have hshows := Adds.shows h (stopMarker ++ ['\n'])
  rw [isBanner_stopMarker, show isMarker (stopMarker ++ ['\n']) = true by decide] at hshows
  exact hshows

/-- A note is a line that begins with a bracket. -/
def IsNote (line : Text) : Prop := line.head? = some '['

/-- A note is neither a banner nor a marker. -/
theorem Adds.note {line : Text} (hnote : IsNote line) (h : Host) :
    Adds h 0 0 (h.shows (line ++ ['\n'])) := by
  cases line with
  | nil => cases hnote
  | cons c rest =>
      obtain rfl : c = '[' := Option.some.inj hnote
      have hmarker : isMarker ('[' :: rest ++ ['\n']) = false := by
        refine decide_eq_false fun heq => ?_
        cases heq
      have hshows := Adds.shows h ('[' :: rest ++ ['\n'])
      rw [hmarker] at hshows
      exact hshows

/-- Notes are neither banners nor markers. -/
theorem Adds.notes {lines : List Text} (hnotes : ∀ line ∈ lines, IsNote line) (h : Host) :
    Adds h 0 0 { h with output := h.output.appendLines lines } := by
  induction lines generalizing h with
  | nil => exact Adds.refl h
  | cons line lines ih =>
      have hfirst := Adds.note (hnotes line List.mem_cons_self) h
      exact hfirst.trans (ih (fun l hl => hnotes l (List.mem_cons_of_mem _ hl)) _)

theorem isNote_of_mem_lines {f : Failure} {line : Text} (hline : line ∈ f.lines) : IsNote line := by
  unfold Failure.lines at hline
  split at hline
  · rcases List.mem_append.mp hline with hlaunch | hmessage
    · unfold Failure.launchLines at hlaunch
      split at hlaunch
      · split at hlaunch
        · cases hlaunch
        · rw [List.mem_singleton.mp hlaunch]
          rfl
      · cases hlaunch
    · rw [List.mem_singleton.mp hmessage]
      rfl
  · rw [List.mem_singleton.mp hline]
    rfl

/-! ### Plain actions -/

/-- An action that writes no banner and no marker, however it ends. -/
def IsPlain (act : Act α) : Prop := ∀ h, Adds h 0 0 (act h).2

namespace IsPlain

theorem of_output_eq {act : Act α} (hact : ∀ h, (act h).2.output = h.output) : IsPlain act := by
  intro h
  refine ⟨[], ?_, rfl, rfl⟩
  rw [hact h, List.append_nil]

/-- What only asks is plain. -/
theorem of_keeps {act : Act α} (hact : ∀ P : Host → Prop, Act.Keeps P act) : IsPlain act :=
  of_output_eq fun h => by rw [Act.host_eq hact h]

/-- What only changes the disk is plain. -/
theorem of_keeps_disk {act : Act α}
    (hact : ∀ P : Host → Prop, (∀ h d, P h → P { h with disk := d }) → Act.Keeps P act) :
    IsPlain act :=
  of_output_eq fun h => hact (fun h₁ => h₁.output = h.output) (fun _ _ hP => hP) h rfl

theorem pure (a : α) : IsPlain (Pure.pure a : Act α) := Adds.refl

theorem throw (m : Mishap) : IsPlain (MonadExcept.throw m : Act α) := Adds.refl

theorem bind {act : Act α} {f : α → Act β} (hact : IsPlain act) (hf : ∀ a, IsPlain (f a)) :
    IsPlain (act >>= f) := by
  intro h
  have hfirst := hact h
  rw [Act.bind_apply]
  rcases hrun : act h with ⟨m | a, h₁⟩ <;> rw [hrun] at hfirst
  · exact hfirst
  · exact hfirst.trans (hf a h₁)

theorem trySystem {act : Act α} (hact : IsPlain act) : IsPlain (Act.trySystem act) := fun h =>
  Act.Keeps.trySystem (P := Adds h 0 0) (fun _ hadds => hadds.trans (hact _)) h (Adds.refl h)

theorem tryConfigured {act : Act α} (hact : IsPlain act) : IsPlain (Act.tryConfigured act) := by
  intro h
  rw [Act.tryConfigured_host]
  exact hact h

theorem display {line : Text} (hnote : IsNote line) :
    IsPlain (Act.display fun o => o.appendLine line) := Adds.note hnote

theorem report (f : Failure) (target : Text) : IsPlain (Act.report f target) := by
  have hentry : IsPlain (Act.note f.category.isForUser .reporting (f.entry target)) :=
    of_output_eq fun _ => rfl
  have hlines : IsPlain (Act.display fun o => o.appendLines f.lines) :=
    Adds.notes fun _ hline => isNote_of_mem_lines hline
  exact hentry.bind fun _ => hlines.bind fun _ => of_output_eq fun _ => rfl

end IsPlain

/-! ### The parts of a start -/

/-- What a tailer works with writes no banner and no marker. -/
structure Setup.IsPlain (s : Setup) : Prop where
  settings : Tail.IsPlain s.settings
  detect : Tail.IsPlain s.detect
  infer : ∀ f, Tail.IsPlain (s.infer f)
  ask : ∀ p, Tail.IsPlain (s.ask p)

theorem resolveBase_isPlain {s : Setup} (hs : s.IsPlain) (settings : Settings) (f : Flavor) :
    IsPlain (resolveBase s settings f) := by
  unfold resolveBase
  refine (IsPlain.of_keeps fun _ => Act.Keeps.get).bind fun host => ?_
  refine (IsPlain.of_keeps fun _ => Act.Keeps.orRefuse _).bind fun includes => ?_
  split
  · exact IsPlain.pure _
  · refine (hs.infer f).bind fun inferred => ?_
    cases inferred with
    | some p => exact IsPlain.pure _
    | none => exact IsPlain.throw _

theorem openSession_isPlain (base : Path) (mode : TailMode) (f : Flavor) :
    IsPlain (openSession base mode f) := by
  cases mode with
  | live =>
      have hfolders := IsPlain.of_keeps_disk fun P hP =>
        Act.Keeps.makeFolders (P := P) hP (base.child "Files")
      refine hfolders.trySystem.bind fun made => ?_
      cases made with
      | ok => exact IsPlain.pure _
      | error e => exact IsPlain.throw _
  | standard =>
      refine (IsPlain.of_keeps fun _ => Act.Keeps.isFolder _).bind fun isThere => ?_
      have hend : IsPlain (do Session.atEnd ((base.child "Logs").child
          (journalName (← get).today)) .standard) :=
        IsPlain.of_keeps fun _ => Act.Keeps.get.bind fun _ =>
          (sizeOf?_keeps _).bind fun _ => Act.Keeps.pure _
      cases isThere with
      | true => exact hend
      | false => exact IsPlain.throw _

theorem undeployed_isPlain (message : Text) (path : Option Text) :
    IsPlain (undeployed message path) :=
  (IsPlain.report _ _).bind fun _ => IsPlain.pure false

theorem Library.deploy_isPlain (l : Library) (base : Path) : IsPlain (l.deploy base) := by
  cases l with
  | missing p => exact undeployed_isPlain _ _
  | bundled =>
      have hwrite := IsPlain.of_keeps_disk fun P hP =>
        (Act.Keeps.makeFolders (P := P) hP (libraryIn base).parent).bind fun _ =>
          Act.Keeps.change hP (libraryIn base)
            fun d here p => d.write here p (Utf8.encode libraryText)
      refine hwrite.trySystem.bind fun written => ?_
      cases written with
      | ok =>
          have hnote : IsNote ("[Info] Installed " ++ libraryName ++ " to: "
            ++ (libraryIn base).text) := rfl
          exact (IsPlain.display hnote).bind fun _ => IsPlain.pure true
      | error e => exact undeployed_isPlain _ _

end MetaDesk.Tail
