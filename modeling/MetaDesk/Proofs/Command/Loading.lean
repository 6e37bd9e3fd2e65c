import MetaDesk.Proofs.Command.ExitCode
import MetaDesk.Proofs.Disk.Looking
import MetaDesk.Proofs.Settings.Checking

/-! # What becomes of settings that do not do

Loading settings gives settings that keep to their bounds, or fails as a configuration, and the
commands tell such a failure and end with two.  There are four exceptions, which end the command as
they are (`Unread`): the path is too long to be looked up, it leads to no file, the bytes of the
file are no text, or a scalar of the document makes no sense.  `load_ends` says that these are
all. -/

namespace MetaDesk

namespace Settings

variable {h : Host} {p : Path} {m : Mishap}

/-- The file of the settings: the one that is named, or else the one that the environment names. -/
def fileOf (file : Option Text) (h : Host) : Option Path :=
  match file with
  | some t => some (.ofText t)
  | none => (h.config.filter fun t => !t.isEmpty).map .ofText

/-- Why a settings file is not read, other than for the configuration. -/
inductive Unread (h : Host) (p : Path) : Mishap → Prop where
  | unseen (hnull : Act.hasNull p = false) (hlook : h.disk.look h.here p = .error .nameTooLong) :
      Unread h p (.system ⟨.nameTooLong, p.text⟩)
  | noFile {n : Node} (hnull : Act.hasNull p = false) (hlook : h.disk.look h.here p = .ok n)
      (hfile : ∀ content, n ≠ .file content) : Unread h p (.system ⟨.isFolder, p.text⟩)
  | noText {content : Bytes} (hnull : Act.hasNull p = false)
      (hlook : h.disk.look h.here p = .ok (.file content))
      (hdecode : Encoding.decode? .utf8 content = none) : Unread h p .undecodable
  | senseless {content : Bytes} {t : Text} {fault : Yaml.Fault} (hnull : Act.hasNull p = false)
      (hlook : h.disk.look h.here p = .ok (.file content))
      (hdecode : Encoding.decode? .utf8 content = some t)
      (hload : Yaml.load .whole (Text.unifyBreaks t) = .error fault)
      (hfault : ∀ layer, fault ≠ .malformed layer) : Unread h p (.document fault)

theorem Unread.ne_failed (hm : Unread h p m) (f : Failure) : m ≠ .failed f := by
  cases hm <;> exact fun heq => nomatch heq

theorem load_apply (file : Option Text) (h : Host) : load file h =
    match fileOf file h with
    | none => (.ok {}, h)
    | some p => loadFile p h := by
  unfold load fileOf
  cases file with
  | some t => rfl
  | none =>
      dsimp only
      rw [Act.bind_of_ok (Act.get_apply h)]
      cases h.config with
      | none => rfl
      | some t => cases t <;> rfl

/-! ### Documents -/

/-- The settings are loaded and keep to their bounds, or the configuration fails. -/
def IsSettled (result : Except Mishap Settings) : Prop :=
  (∃ s, result = .ok s ∧ s.IsValid) ∨ ∃ f, result = .error (.failed f) ∧ f.category = .configuration

theorem isSettled_unreadable (message : Text) (path : Option Text) :
    IsSettled (.error (unreadable message path)) := Or.inr ⟨_, rfl, rfl⟩

/-- A document settles the settings, or has a scalar that makes no sense. -/
theorem parse_cases (source document : Text) : IsSettled (parse source document) ∨
    ∃ fault, Yaml.load .whole document = .error fault ∧ (∀ layer, fault ≠ .malformed layer) ∧
      parse source document = .error (.document fault) := by
  unfold parse
  split
  · exact Or.inl (isSettled_unreadable _ _)
  · next fault hother hload =>
      exact Or.inr ⟨fault, hload, fun layer heq => hother layer (by rw [heq]), rfl⟩
  · left
    split
    · exact Or.inl ⟨_, rfl, isValid_default⟩
    · split
      · next s hs => exact Or.inl ⟨s, rfl, ofValue_isValid hs⟩
      · exact isSettled_unreadable _ _
    · exact isSettled_unreadable _ _

/-! ### Files -/

/-- What a file with these bytes gives. -/
def ofBytes (source : Text) (content : Bytes) : Except Mishap Settings :=
  match Encoding.decode? .utf8 content with
  | none => .error .undecodable
  | some t => parse source (Text.unifyBreaks t)

theorem ofBytes_of_decode {source : Text} {content : Bytes} {t : Text}
    (h : Encoding.decode? .utf8 content = some t) :
    ofBytes source content = parse source (Text.unifyBreaks t) := by
  unfold ofBytes
  rw [h]

theorem ofBytes_of_noText {source : Text} {content : Bytes}
    (h : Encoding.decode? .utf8 content = none) : ofBytes source content = .error .undecodable := by
  unfold ofBytes
  rw [h]

/-- That there is no settings file. -/
def notFound (p : Path) : Mishap :=
  unreadable ("Settings file not found: " ++ p.text) (some p.text)

/-- What a path gives where the disk has this. -/
def ofNode (p : Path) : Except Errno Node → Except Mishap Settings
  | .error e => .error (if e.meansAbsent then notFound p else .system ⟨e, p.text⟩)
  | .ok (.file content) => ofBytes p.text content
  | .ok _ => .error (.system ⟨.isFolder, p.text⟩)

theorem bytesOf_apply (hnull : Act.hasNull p = false) (h : Host) :
    Act.bytesOf p h = match h.disk.look h.here p with
      | .error e => (.error (.system ⟨e, p.text⟩), h)
      | .ok (.file content) => (.ok content, h)
      | .ok _ => (.error (.system ⟨.isFolder, p.text⟩), h) := by
  unfold Act.bytesOf
  rw [Act.ask_apply hnull]
  unfold Disk.read
  cases h.disk.look h.here p with
  | error e => rfl
  | ok n => cases n <;> rfl

theorem pathExists_apply (hnull : Act.hasNull p = false) (h : Host) :
    Act.pathExists p h = match h.disk.look h.here p with
      | .error e => if e.meansAbsent then (.ok false, h) else (.error (.system ⟨e, p.text⟩), h)
      | .ok _ => (.ok true, h) := by
  unfold Act.pathExists
  rw [hnull, if_neg Bool.false_ne_true, Act.ask_apply hnull]
  unfold Disk.exists?
  cases h.disk.look h.here p with
  | error e => by_cases he : e.meansAbsent = true <;> simp [he]
  | ok n => rfl

/-- Loading a file looks at the disk and leaves it as it is. -/
theorem loadFile_apply (hnull : Act.hasNull p = false) (h : Host) :
    loadFile p h = (ofNode p (h.disk.look h.here p), h) := by
  have hexists := pathExists_apply hnull h
  have hbytes := bytesOf_apply hnull h
  unfold loadFile
  cases hlook : h.disk.look h.here p with
  | error e =>
      rw [hlook] at hexists
      by_cases he : e.meansAbsent = true
      · rw [Act.bind_of_ok (hexists.trans (if_pos he))]
        simp only [ofNode, he]
        rfl
      · rw [Act.bind_apply, hexists.trans (if_neg he)]
        simp only [ofNode, he]
        rfl
  | ok n =>
      rw [hlook] at hexists hbytes
      rw [Act.bind_of_ok hexists]
      cases n with
      | file content =>
          refine (Act.bind_of_ok hbytes).trans ?_
          change _ = (ofBytes p.text content, h)
          unfold ofBytes
          cases Encoding.decode? .utf8 content with
          | none => rfl
          | some t =>
              dsimp only
              cases parse p.text (Text.unifyBreaks t) <;> rfl
      | folder => exact (Act.bind_apply _ _ h).trans (by rw [hbytes]; rfl)
      | link target => exact (Act.bind_apply _ _ h).trans (by rw [hbytes]; rfl)

theorem loadFile_of_null (hnull : Act.hasNull p = true) (h : Host) :
    loadFile p h = (.error (notFound p), h) := by
  have hexists : Act.pathExists p h = (.ok false, h) := by
    unfold Act.pathExists
    rw [if_pos hnull]
    rfl
  unfold loadFile
  rw [Act.bind_of_ok hexists]
  rfl

theorem Unread.loadFile_apply (hm : Unread h p m) : loadFile p h = (.error m, h) := by
  cases hm with
  | unseen hnull hlook =>
      rw [Settings.loadFile_apply hnull, hlook]
      rfl
  | @noFile n hnull hlook hfile =>
      rw [Settings.loadFile_apply hnull, hlook]
      cases n with
      | file content => exact absurd rfl (hfile content)
      | folder => rfl
      | link target => rfl
  | noText hnull hlook hdecode =>
      rw [Settings.loadFile_apply hnull, hlook]
      exact congrArg (·, h) (ofBytes_of_noText hdecode)
  | @senseless content t fault hnull hlook hdecode hload hfault =>
      have hparse : parse p.text (Text.unifyBreaks t) = .error (.document fault) := by
        unfold parse
        rw [hload]
        cases fault with
        | malformed layer => exact absurd rfl (hfault layer)
        | _ => rfl
      rw [Settings.loadFile_apply hnull, hlook]
      exact congrArg (·, h) ((ofBytes_of_decode hdecode).trans hparse)

/-- A file that is not unread gives settings or fails as a configuration. -/
theorem loadFile_cases (p : Path) (h : Host) : ∃ result, loadFile p h = (result, h) ∧
    (IsSettled result ∨ ∃ m, Unread h p m ∧ result = .error m) := by
  have hunread : ∀ m, Unread h p m → ∃ result, loadFile p h = (result, h) ∧
      (IsSettled result ∨ ∃ m, Unread h p m ∧ result = .error m) :=
    fun m hm => ⟨_, hm.loadFile_apply, Or.inr ⟨m, hm, rfl⟩⟩
  cases hnull : Act.hasNull p with
  | true => exact ⟨_, loadFile_of_null hnull h, Or.inl (isSettled_unreadable _ _)⟩
  | false =>
      have hload := Settings.loadFile_apply hnull h
      cases hlook : h.disk.look h.here p with
      | error e =>
          -- A look fails because nothing is there, or because the path is too long.
          rcases Disk.isOfLookup_of_look hlook with habsent | rfl
          · rw [hlook] at hload
            simp only [ofNode, habsent, if_true] at hload
            exact ⟨_, hload, Or.inl (isSettled_unreadable _ _)⟩
          · exact hunread _ (.unseen hnull hlook)
      | ok n =>
          cases n with
          | folder => exact hunread _ (.noFile hnull hlook fun _ heq => nomatch heq)
          | link target => exact hunread _ (.noFile hnull hlook fun _ heq => nomatch heq)
          | file content =>
              cases hdecode : Encoding.decode? .utf8 content with
              | none => exact hunread _ (.noText hnull hlook hdecode)
              | some t =>
                  rw [hlook] at hload
                  rcases parse_cases p.text (Text.unifyBreaks t) with
                    hsettled | ⟨fault, hfaulty, hfault, -⟩
                  · rw [← ofBytes_of_decode hdecode] at hsettled
                    exact ⟨_, hload, Or.inl hsettled⟩
                  · exact hunread _ (.senseless hnull hlook hdecode hfaulty hfault)

/-- Loading ends in one of these ways, and leaves the host as it is. -/
theorem load_cases (file : Option Text) (h : Host) : ∃ result, load file h = (result, h) ∧
    (IsSettled result ∨ ∃ p m, fileOf file h = some p ∧ Unread h p m ∧ result = .error m) := by
  rw [load_apply]
  cases hfile : fileOf file h with
  | none => exact ⟨_, rfl, Or.inl (Or.inl ⟨{}, rfl, isValid_default⟩)⟩
  | some p =>
      obtain ⟨result, hload, hsettled | ⟨m, hm, hresult⟩⟩ := loadFile_cases p h
      · exact ⟨result, hload, Or.inl hsettled⟩
      · exact ⟨result, hload, Or.inr ⟨p, m, rfl, hm, hresult⟩⟩

theorem load_of_unread {file : Option Text} (hfile : fileOf file h = some p) (hm : Unread h p m) :
    load file h = (.error m, h) := by
  rw [load_apply, hfile]
  exact hm.loadFile_apply

/-- When loading fails it is for the configuration. -/
theorem configuration_of_load {file : Option Text} {f : Failure} {h' : Host}
    (hload : load file h = (.error (.failed f), h')) : f.category = .configuration ∧ h' = h := by
  obtain ⟨result, hresult, hsettled | ⟨p, m, -, hm, rfl⟩⟩ := load_cases file h
  · rw [hload] at hresult
    cases hresult
    rcases hsettled with ⟨s, hs, -⟩ | ⟨f', hf, hcategory⟩
    · cases hs
    · cases hf
      exact ⟨hcategory, rfl⟩
  · rw [hload] at hresult
    obtain ⟨hfailed, -⟩ := Prod.mk.inj hresult
    exact absurd (Except.error.inj hfailed).symm (hm.ne_failed f)

end Settings

/-! ### Commands -/

namespace Command

variable {i : Invocation} {request : Request} {h : Host} {meanwhile : Tail.Tailing Unit}

/-- The host after an error was told. -/
def told (f : Failure) (h : Host) : Host :=
  { h with complaints := h.complaints ++ ("Error: " ++ f.message) ++ ['\n'] }

theorem withSettings_of_failed {config : Option Text} {f : Failure}
    (hload : Settings.load config h = (.error (.failed f), h)) (next : Settings → Act Nat) :
    withSettings config next h = (.ok trouble, told f h) := by
  have hcategory := (Settings.configuration_of_load hload).1
  unfold withSettings
  rw [Act.bind_of_ok (Act.tryConfigured_of_failed hload hcategory)]
  exact refuse_apply f.message h

theorem withSettings_of_mishap {config : Option Text} {m : Mishap} (hm : ∀ f, m ≠ .failed f)
    (hload : Settings.load config h = (.error m, h)) (next : Settings → Act Nat) :
    withSettings config next h = (.error m, h) := by
  unfold withSettings
  exact Act.bind_of_error _ (Act.tryConfigured_of_mishap hload hm)

theorem configured_of_failed {act : Act ℕ} {f : Failure} (hact : act h = (.error (.failed f), h))
    (hcategory : f.category = .configuration) : configured act h = (.ok trouble, told f h) := by
  unfold configured
  rw [Act.bind_of_ok (Act.tryConfigured_of_failed hact hcategory)]
  exact refuse_apply f.message h

theorem configured_of_mishap {act : Act ℕ} {m : Mishap} (hact : act h = (.error m, h))
    (hm : ∀ f, m ≠ .failed f) : configured act h = (.error m, h) := by
  unfold configured
  exact Act.bind_of_error _ (Act.tryConfigured_of_mishap hact hm)

theorem tail_of_failed {r : TailRequest} {f : Failure}
    (hload : Settings.load i.config h = (.error (.failed f), h)) :
    tail meanwhile i r h = (.ok trouble, told f h) := by
  exact configured_of_failed (Act.bind_of_error _ hload) (Settings.configuration_of_load hload).1

theorem tail_of_mishap {r : TailRequest} {m : Mishap} (hm : ∀ f, m ≠ .failed f)
    (hload : Settings.load i.config h = (.error m, h)) : tail meanwhile i r h = (.error m, h) := by
  exact configured_of_mishap (Act.bind_of_error _ hload) hm

/-- Every command but that for suggestions ends with two when the settings fail. -/
theorem carryOut_of_failed {f : Failure} (hrequest : i.request = some request)
    (hneeds : ∀ r, request ≠ .suggest r)
    (hload : Settings.load i.config h = (.error (.failed f), h)) :
    carryOut meanwhile i h = (.ok trouble, told f h) := by
  unfold carryOut
  rw [hrequest]
  cases request with
  | compile mode r => exact withSettings_of_failed hload _
  | tail r => exact tail_of_failed hload
  | suggest r => exact absurd rfl (hneeds r)
  | shimCheck f => exact withSettings_of_failed hload _

/-- Any other mishap ends it as it is. -/
theorem carryOut_of_mishap {m : Mishap} (hrequest : i.request = some request)
    (hneeds : ∀ r, request ≠ .suggest r) (hm : ∀ f, m ≠ .failed f)
    (hload : Settings.load i.config h = (.error m, h)) :
    carryOut meanwhile i h = (.error m, h) := by
  unfold carryOut
  rw [hrequest]
  cases request with
  | compile mode r => exact withSettings_of_mishap hm hload _
  | tail r => exact tail_of_mishap hm hload
  | suggest r => exact absurd rfl (hneeds r)
  | shimCheck f => exact withSettings_of_mishap hm hload _

/-- **How loading settings ends.**  Whatever is at the path, the settings are loaded and keep to
their bounds, or the configuration fails, or the file is unread; the host is left as it is.  Every
command that needs settings tells a failure of the configuration and ends with two.  A file that is
unread ends the command as it is. -/
theorem load_ends (file : Option Text) (h : Host) :
    (∃ result, Settings.load file h = (result, h) ∧
      ((∃ s, result = .ok s ∧ s.IsValid) ∨
        (∃ f, result = .error (.failed f) ∧ f.category = .configuration) ∨
        ∃ p m, Settings.fileOf file h = some p ∧ Settings.Unread h p m ∧ result = .error m)) ∧
    (∀ p m, Settings.fileOf file h = some p → Settings.Unread h p m →
      (∀ f, m ≠ .failed f) ∧ Settings.load file h = (.error m, h)) ∧
    ∀ (meanwhile : Tail.Tailing Unit) (i : Invocation) (request : Request), i.config = file →
      i.request = some request → (∀ r, request ≠ .suggest r) →
      (∀ f, Settings.load file h = (.error (.failed f), h) → carryOut meanwhile i h =
        (.ok 2, { h with complaints := h.complaints ++ ("Error: " ++ f.message) ++ ['\n'] })) ∧
      ∀ p m, Settings.fileOf file h = some p → Settings.Unread h p m →
        carryOut meanwhile i h = (.error m, h) := by
  refine ⟨?_, ?_, ?_⟩
  · obtain ⟨result, hload, (hok | hfailed) | hunread⟩ := Settings.load_cases file h
    · exact ⟨result, hload, Or.inl hok⟩
    · exact ⟨result, hload, Or.inr (Or.inl hfailed)⟩
    · exact ⟨result, hload, Or.inr (Or.inr hunread)⟩
  · exact fun p m hfile hm => ⟨hm.ne_failed, Settings.load_of_unread hfile hm⟩
  · rintro meanwhile i request rfl hrequest hneeds
    refine ⟨fun f hload => carryOut_of_failed hrequest hneeds hload, fun p m hfile hm => ?_⟩
    exact carryOut_of_mishap hrequest hneeds hm.ne_failed (Settings.load_of_unread hfile hm)

/-- A disk with a settings file whose only byte is no text. -/
def badBytes : Host := { disk := ⟨[(["c".toList], .file [0xFF])]⟩ }

theorem unread_badBytes : Settings.Unread badBytes (.ofText "/c") .undecodable :=
  .noText (by decide) rfl rfl

/-- The look at the setup with this settings file. -/
def checkingWith (file : Text) : Invocation :=
  { config := some file, request := some (.shimCheck .mql5) }

/-- No file is told and ends with two; that file ends the command as it is. -/
theorem load_ends_of_badBytes :
    carryOut (pure ()) (checkingWith "/missing") {} =
      (.ok 2, { complaints := "Error: Settings file not found: /missing\n" }) ∧
    Settings.load (some "/c") badBytes = (.error .undecodable, badBytes) ∧
    carryOut (pure ()) (checkingWith "/c") badBytes = (.error .undecodable, badBytes) := by
  obtain ⟨-, -, hmissing⟩ := load_ends (some "/missing") {}
  obtain ⟨-, hunread, hcommands⟩ := load_ends (some "/c") badBytes
  refine ⟨?_, (hunread _ _ rfl unread_badBytes).2, ?_⟩
  · exact (hmissing (pure ()) (checkingWith "/missing") (.shimCheck .mql5) rfl rfl
      fun _ heq => nomatch heq).1 _ rfl
  · exact (hcommands (pure ()) (checkingWith "/c") (.shimCheck .mql5) rfl rfl
      fun _ heq => nomatch heq).2 _ _ rfl unread_badBytes

/-- So it is not so that settings are loaded, and valid, or else the configuration fails. -/
theorem not_settled_of_badBytes : ¬ ∀ (file : Option Text) (h : Host),
    (∃ s h', Settings.load file h = (.ok s, h') ∧ s.IsValid) ∨
      ∃ f h', Settings.load file h = (.error (.failed f), h') ∧ f.category = .configuration := by
  intro hall
  have hload : Settings.load (some "/c") badBytes = (.error .undecodable, badBytes) :=
    Settings.load_of_unread rfl unread_badBytes
  rcases hall (some "/c") badBytes with ⟨s, h', hok, -⟩ | ⟨f, h', hfailed, -⟩
  · cases hload.symm.trans hok
  · cases hload.symm.trans hfailed

end Command

end MetaDesk
