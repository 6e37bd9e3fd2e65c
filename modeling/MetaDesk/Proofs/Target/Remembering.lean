import MetaDesk.Proofs.Target.Header
import Mathlib.Data.List.DropRight

/-! # What a resolver remembers

A resolver is asked again and again, and between two calls anything may happen to the files, so each
call comes with the host that it finds (`Call`).  Saved main files are looked up anew in every call.
The include index is made by the first call that needs it, and then it stays as it was until it is
forgotten (`after_eq`); so an answer from the index is that of the files at that first call, whatever
has become of them (`resolver_remembers`).

A saved name is found by its key, which is the path of the header from the workspace but for the case
of letters and the form of separators (`savedNames_of_key`). -/

namespace MetaDesk.HeaderResolver

open Act (Asks)
open Include (IsFileAt)

variable {saved : List (Text × List Text)} {header p : Path} {r : HeaderResolver} {h : Host}
  {m : Mishap}

/-- Nothing has been asked of the resolver yet, and these main files are saved. -/
structure IsNew (saved : List (Text × List Text)) (r : HeaderResolver) : Prop where
  saved_eq : r.saved = foldKeys saved
  index_eq : r.index = none

/-! ### Keys -/

/-- A character of a key in the form of all keys. -/
def signOf (c : Char) : Text := Text.lowerChar (if c = '\\' then '/' else c)

/-- The texts are the same but for the case of letters and the form of separators.  The lower form of
a capital sigma depends on what is around it, so there is none in them. -/
structure SameSpelling (t u : Text) : Prop where
  signs : List.Forall₂ (fun c d => signOf c = signOf d) t u
  first : 'Σ' ∉ t
  second : 'Σ' ∉ u

theorem lowerAfter_of_not_mem {t : Text} (ht : 'Σ' ∉ t) (cased : Bool) :
    Text.lowerAfter cased t = t.flatMap Text.lowerChar := by
  induction t generalizing cased with
  | nil => rfl
  | cons c t ih =>
      rw [List.mem_cons, not_or] at ht
      rw [Text.lowerAfter, if_neg (Ne.symm ht.1), ih ht.2, List.flatMap_cons]

theorem foldKey_of_not_mem {t : Text} (ht : 'Σ' ∉ t) : foldKey t = t.flatMap signOf := by
  have hswapped : 'Σ' ∉ Text.swap '\\' '/' t := by
    intro hmem
    obtain ⟨c, hc, hsame⟩ := List.mem_map.mp hmem
    split at hsame
    · cases hsame
    · exact ht (hsame ▸ hc)
  unfold foldKey Text.lower
  rw [lowerAfter_of_not_mem hswapped, Text.swap, List.flatMap_map]
  rfl

theorem SameSpelling.foldKey_eq {t u : Text} (hsame : SameSpelling t u) : foldKey t = foldKey u := by
  obtain ⟨hsigns, ht, hu⟩ := hsame
  rw [foldKey_of_not_mem ht, foldKey_of_not_mem hu]
  clear ht hu
  induction hsigns with
  | nil => rfl
  | cons hsign _ ih => rw [List.flatMap_cons, List.flatMap_cons, hsign, ih]

/-- The way from the workspace to a header. -/
def wayTo (h : Host) (r : HeaderResolver) (header : Path) : Text :=
  (Path.relativeTo (Disk.pathOf h.here) r.folder header).text

theorem keyOf_eq_foldKey (hway : '\\' ∉ wayTo h r header) :
    keyOf (Disk.pathOf h.here) r.folder header = foldKey (wayTo h r header) := by
  have hplain : Text.swap '\\' '/' (wayTo h r header) = wayTo h r header := by
    refine (List.map_congr_left (g := id) fun c hc => ?_).trans (List.map_id _)
    have hother : c ≠ '\\' := by
      rintro rfl
      exact hway hc
    exact if_neg hother
  rw [foldKey, hplain]
  rfl

/-- The saved names of a header are those of the key that spells its way. -/
theorem savedNames_of_key (hnew : IsNew saved r) {key : Text} {names : List Text}
    (hkey : (key, names) ∈ saved) (hkeys : (saved.map fun e => foldKey e.1).Nodup)
    (hway : '\\' ∉ wayTo h r header) (hsame : foldKey key = foldKey (wayTo h r header)) :
    savedNames h r header = names := by
  have hget : (foldKeys saved).get? (foldKey key) = some names := by
    refine Keyed.get?_ofList_of_mem (e := (foldKey key, names)) ?_ (List.mem_map_of_mem hkey)
    rw [List.map_map]
    exact hkeys
  unfold savedNames
  rw [keyOf_eq_foldKey hway, ← hsame, hnew.saved_eq, hget]
  rfl

/-! ### Saved main files -/

/-- The file that a saved name means, if it is there. -/
def fileBy? (h : Host) (r : HeaderResolver) (name : Text) : Option Path :=
  (Act.resolve (r.savedPath name) h).1.toOption.filter fun p =>
    (Act.isFile p h).1.toOption = some true

/-- The saved main files of a header that are there, in the order of their names. -/
def savedLeft (h : Host) (r : HeaderResolver) (header : Path) : List Path :=
  (savedNames h r header).filterMap (fileBy? h r)

theorem isFile_eq_true_iff : (Act.isFile p h).1.toOption = some true ↔ IsFileAt h p := by
  constructor
  · intro hfile
    obtain ⟨h', hrun⟩ := Act.eq_ok_of_toOption hfile
    exact (Include.isFile_eq_ok hrun).2.mp rfl
  · rintro ⟨hnull, content, hlook⟩
    unfold Act.isFile
    rw [hnull, if_neg Bool.false_ne_true, Act.ask_apply hnull,
      Disk.isFile?_eq_true_iff.mpr ⟨content, hlook⟩]
    rfl

theorem mem_savedLeft : p ∈ savedLeft h r header ↔ IsSaved h r header p := by
  have hok : ∀ result : Except Mishap Path, result.toOption = some p ↔ result = .ok p := by
    rintro (m | q) <;> simp [Except.toOption]
  unfold savedLeft IsSaved fileBy?
  simp only [List.mem_filterMap, Option.filter_eq_some_iff, decide_eq_true_eq, isFile_eq_true_iff,
    hok]

theorem savedFor_of_not_bars (hbars : ∀ m, ¬ SavedBars h r header m) :
    r.savedFor header h = (.ok (savedLeft h r header), h) := by
  let place (name : Text) : Path := (Act.resolve (r.savedPath name) h).1.toOption.getD header
  let isThere (p : Path) : Bool := (Act.isFile p h).1.toOption = some true
  have hplace : ∀ name ∈ savedNames h r header,
      Act.resolve (r.savedPath name) h = (.ok (place name), h) := by
    intro name hname
    refine Prod.ext ?_ (Asks.resolve _).host
    unfold place
    cases hresolve : (Act.resolve (r.savedPath name) h).1 with
    | error m => exact absurd ⟨name, hname, Or.inl hresolve⟩ (hbars m)
    | ok p => rfl
  have hthere : ∀ p ∈ (savedNames h r header).map place,
      Act.isFile p h = (.ok (isThere p), h) := by
    intro p hp
    obtain ⟨name, hname, rfl⟩ := List.mem_map.mp hp
    have hasks := Include.isFile_asks (h := h) (place name)
    refine Prod.ext ?_ hasks.host
    unfold isThere
    cases hfile : (Act.isFile (place name) h).1 with
    | error m =>
        obtain ⟨hlong, rfl⟩ := hasks.ends m hfile
        exact absurd ⟨name, hname, Or.inr ⟨_, by rw [hplace name hname], hlong, rfl⟩⟩ (hbars _)
    | ok b => cases b <;> rfl
  have hleft : ((savedNames h r header).map place).filter isThere = savedLeft h r header := by
    unfold savedLeft
    rw [← List.filterMap_eq_filter, List.filterMap_map]
    refine List.filterMap_congr fun name hname => ?_
    unfold fileBy?
    rw [hplace name hname]
    rfl
  rw [savedFor_apply r header (SameButJournal.refl h), Act.bind_of_ok (Asks.mapM_apply hplace),
    Asks.filterM_apply hthere, hleft]

theorem savedFor_of_bars (hbars : SavedBars h r header m) :
    ∃ m, SavedBars h r header m ∧ r.savedFor header h = (.error m, h) := by
  have hasks : Asks (SavedBars h r header) h (r.savedFor header) :=
    savedFor_asks (SameButJournal.refl h)
  rcases hrun : r.savedFor header h with ⟨m' | found, h'⟩
  · cases hasks.host_of_run hrun
    exact ⟨m', hasks.ends_of_run hrun, rfl⟩
  · exfalso
    rw [savedFor_apply r header (SameButJournal.refl h)] at hrun
    obtain ⟨places, hplaces, hrest⟩ :=
      (Asks.mapM (savedPath_asks (SameButJournal.refl h))).bind_eq_ok hrun
    obtain ⟨name, hname, hresolve | ⟨p, hresolve, hlong, -⟩⟩ := hbars
    · obtain ⟨q, -, hq⟩ :=
        (Asks.mapM_eq_ok (savedPath_asks (SameButJournal.refl h)) hplaces).1 name hname
      rw [hq] at hresolve
      cases hresolve
    · have hp := (mem_places (SameButJournal.refl h) hplaces).mpr ⟨name, hname, hresolve⟩
      obtain ⟨b, hb⟩ := (Asks.filterM_eq_ok Include.isFile_asks_of_mem hrest).1 p hp
      exact (Include.isFile_eq_ok hb).1 hlong

/-! ### One call -/

/-- A saved name that is in the way ends a search before the index is thought of. -/
theorem mainsFor_of_error (hsaved : r.savedFor header h = (.error m, h)) :
    r.mainsFor header h = (.error m, h) := by
  unfold mainsFor
  exact Act.bind_of_error _ hsaved

theorem mainsFor_of_saved {found : List Path} (hsaved : r.savedFor header h = (.ok found, h))
    (hfound : found ≠ []) : r.mainsFor header h = (.ok (found, r), h) := by
  have hsome : (!found.isEmpty) = true := by simpa using hfound
  unfold mainsFor
  rw [Act.bind_of_ok hsaved, hsome]
  rfl

theorem mainsFor_of_index {index : IncludeIndex} (hsaved : r.savedFor header h = (.ok [], h))
    (hindex : r.index = some index) : r.mainsFor header h = (.ok (index.mainsOf header, r), h) := by
  unfold mainsFor needIndex
  rw [Act.bind_of_ok hsaved, hindex]
  rfl

theorem mainsFor_of_none (hsaved : r.savedFor header h = (.ok [], h)) (hnone : r.index = none) :
    r.mainsFor header h = (do
      let index ← IncludeIndex.build r.workspace
      return (index.mainsOf header, { r with index := some index })) h := by
  unfold mainsFor needIndex
  rw [Act.bind_of_ok hsaved, hnone]
  rw [if_neg (by decide), bind_assoc]
  rfl

/-! ### Many calls -/

/-- A call of a resolver. -/
inductive Call where
  /-- For the main files of a header. -/
  | mains (header : Path)
  /-- For the saved main files of a header. -/
  | saved (header : Path)
  | invalidate
deriving DecidableEq

/-- What is known after a call on a host; a search that ends with a mishap leaves it as it was. -/
def afterCall (r : HeaderResolver) (h : Host) : Call → HeaderResolver
  | .mains header => ((r.mainsFor header h).1.toOption.map (·.2)).getD r
  | .saved _ => r
  | .invalidate => r.invalidate

/-- What is known after some calls, each on the host that it found. -/
def after (r : HeaderResolver) (calls : List (Host × Call)) : HeaderResolver :=
  calls.foldl (fun r call => r.afterCall call.1 call.2) r

/-- The calls since the index was forgotten the last time. -/
def sinceForgotten (calls : List (Host × Call)) : List (Host × Call) :=
  calls.rtakeWhile fun call => call.2 ≠ .invalidate

/-- The index of the files that a call finds, if the call is for main files and no saved ones are
left. -/
def indexBy? (r : HeaderResolver) (h : Host) : Call → Option IncludeIndex
  | .mains header =>
    if (r.savedFor header h).1.toOption = some [] then (IncludeIndex.build r.workspace h).1.toOption
    else none
  | _ => none

/-- The index of the files that the first call found that needed one, since it was forgotten. -/
def keptIndex (r : HeaderResolver) (calls : List (Host × Call)) : Option IncludeIndex :=
  (sinceForgotten calls).findSome? fun call => r.indexBy? call.1 call.2

theorem keptIndex_invalidate (r : HeaderResolver) (calls : List (Host × Call)) (h : Host) :
    r.keptIndex (calls ++ [(h, .invalidate)]) = none := by
  unfold keptIndex sinceForgotten
  rw [List.rtakeWhile_concat_neg _ _ _ (by simp)]
  rfl

theorem keptIndex_concat (r : HeaderResolver) (calls : List (Host × Call)) (h : Host) {call : Call}
    (hcall : call ≠ .invalidate) :
    r.keptIndex (calls ++ [(h, call)]) = (r.keptIndex calls).or (r.indexBy? h call) := by
  unfold keptIndex sinceForgotten
  rw [List.rtakeWhile_concat_pos _ _ _ (by simpa using hcall), List.findSome?_append]
  cases hindex : r.indexBy? h call <;> simp [hindex]

/-- An index that was made stays until it is forgotten. -/
theorem keptIndex_append {index : IncludeIndex} {calls : List (Host × Call)}
    (hindex : r.keptIndex calls = some index) {later : List (Host × Call)}
    (hlater : ∀ call ∈ later, call.2 ≠ .invalidate) : r.keptIndex (calls ++ later) = some index := by
  induction later using List.reverseRecOn with
  | nil => rwa [List.append_nil]
  | append_singleton later call ih =>
      rw [← List.append_assoc, keptIndex_concat r _ _ (hlater call (by simp)),
        ih fun call hcall => hlater call (by simp [hcall])]
      rfl

theorem afterCall_mains (r : HeaderResolver) (h : Host) (header : Path) :
    r.afterCall h (.mains header) =
      { r with index := r.index.or (r.indexBy? h (.mains header)) } := by
  have hhost : (r.savedFor header h).2 = h := (savedFor_asks (SameButJournal.refl h)).host
  have hkept : ∀ found, found ≠ some [] → (r.savedFor header h).1.toOption = found →
      r.indexBy? h (.mains header) = none := by
    intro found hfound hsaved
    exact if_neg (hsaved ▸ hfound)
  rw [afterCall]
  cases hsaved : (r.savedFor header h).1 with
  | error m =>
      rw [mainsFor_of_error (Prod.ext hsaved hhost), hkept none nofun (by rw [hsaved]; rfl),
        Option.or_none]
      rfl
  | ok found =>
      have hrun : r.savedFor header h = (.ok found, h) := Prod.ext hsaved hhost
      cases found with
      | cons p found =>
          rw [mainsFor_of_saved hrun (List.cons_ne_nil p found),
            hkept (some (p :: found)) nofun (by rw [hsaved]; rfl), Option.or_none]
          rfl
      | nil =>
          cases hindex : r.index with
          | some index =>
              rw [mainsFor_of_index hrun hindex, Option.some_or, ← hindex]
              rfl
          | none =>
              have hmade : r.indexBy? h (.mains header) =
                  (IncludeIndex.build r.workspace h).1.toOption := if_pos (by rw [hsaved]; rfl)
              rw [mainsFor_of_none hrun hindex, Act.bind_apply, Option.none_or, hmade]
              rcases IncludeIndex.build r.workspace h with ⟨m | index, h'⟩
              · change r = { r with index := none }
                rw [← hindex]
              · rfl

/-- Of what is known only the index changes, and it is always the one that was made first. -/
theorem after_eq (hnone : r.index = none) (calls : List (Host × Call)) :
    r.after calls = { r with index := r.keptIndex calls } := by
  induction calls using List.reverseRecOn with
  | nil =>
      have hkept : r.keptIndex [] = r.index := hnone.symm
      rw [hkept]
      rfl
  | append_singleton calls call ih =>
      obtain ⟨h, call⟩ := call
      have hlast : r.after (calls ++ [(h, call)]) = (r.after calls).afterCall h call :=
        List.foldl_concat _ _ _ _
      rw [hlast, ih]
      cases call with
      | invalidate =>
          rw [keptIndex_invalidate]
          rfl
      | saved header =>
          rw [keptIndex_concat r calls h (by simp)]
          cases r.keptIndex calls <;> rfl
      | mains header =>
          rw [afterCall_mains, keptIndex_concat r calls h (by simp)]
          rfl

theorem not_bars_of_savedFor {found : List Path} (hrun : (r.savedFor header h).1 = .ok found)
    (m : Mishap) : ¬ SavedBars h r header m := by
  intro hbars
  obtain ⟨m', -, herror⟩ := savedFor_of_bars hbars
  rw [herror] at hrun
  cases hrun

/-- After these calls the resolver answers for a header from the files as they are if saved main files
are left, and otherwise from the index that was made first; only where none was made it makes one. -/
structure AnswersAfter (r : HeaderResolver) (calls : List (Host × Call)) (h : Host)
    (header : Path) : Prop where
  saved_eq : (r.after calls).savedFor header h = (.ok (savedLeft h r header), h)
  mains_of_saved : savedLeft h r header ≠ [] →
    (r.after calls).mainsFor header h = (.ok (savedLeft h r header, r.after calls), h)
  mains_of_kept : ∀ index, savedLeft h r header = [] → r.keptIndex calls = some index →
    (r.after calls).mainsFor header h = (.ok (index.mainsOf header, r.after calls), h)
  mains_of_made : savedLeft h r header = [] → r.keptIndex calls = none →
    (r.after calls).mainsFor header h = (do
      let index ← IncludeIndex.build r.workspace
      return (index.mainsOf header, { r with index := some index })) h ∧
    r.keptIndex (calls ++ [(h, .mains header)]) = (IncludeIndex.build r.workspace h).1.toOption

theorem answersAfter (hnone : r.index = none) (calls : List (Host × Call))
    (hbars : ∀ m, ¬ SavedBars h r header m) : AnswersAfter r calls h header := by
  have hsaved : (r.after calls).savedFor header h = (.ok (savedLeft h r header), h) := by
    rw [after_eq hnone]
    exact savedFor_of_not_bars hbars
  have hindex : (r.after calls).index = r.keptIndex calls := by rw [after_eq hnone]
  refine ⟨hsaved, mainsFor_of_saved hsaved, fun index hleft hkept => ?_, fun hleft hkept => ?_⟩
  · rw [hleft] at hsaved
    exact mainsFor_of_index hsaved (hindex.trans hkept)
  · rw [hleft] at hsaved
    constructor
    · rw [mainsFor_of_none hsaved (hindex.trans hkept), after_eq hnone]
    · rw [keptIndex_concat r calls h (by simp), hkept, Option.none_or, indexBy?, if_pos]
      rw [savedFor_of_not_bars hbars, hleft]
      rfl

/-- **What a resolver answers, whatever was asked before and whatever became of the files.**  Unless a
saved name is in the way, the answer is made of the saved main files that are there now, in their
order, and for want of them of the index of the files that the first call found that needed one since
the index was forgotten; it is made once, and not for a call that saved main files answer.  A saved name
in the way ends the call.  The saved names are found under any spelling of the way to the header. -/
theorem resolver_remembers (hnew : IsNew saved r) (calls : List (Host × Call)) (h : Host)
    (header : Path) :
    ((∀ m, ¬ SavedBars h r header m) → AnswersAfter r calls h header) ∧
    (∀ m, SavedBars h r header m → ∃ m, SavedBars h r header m ∧
      (r.after calls).savedFor header h = (.error m, h) ∧
      (r.after calls).mainsFor header h = (.error m, h)) ∧
    (∀ index later, r.keptIndex calls = some index → (∀ call ∈ later, call.2 ≠ .invalidate) →
      r.keptIndex (calls ++ later) = some index) ∧
    ∀ key names, (key, names) ∈ saved → (saved.map fun e => foldKey e.1).Nodup →
      '\\' ∉ wayTo h r header →
      SameSpelling key (wayTo h r header) ∨ foldKey key = foldKey (wayTo h r header) →
      savedNames h r header = names := by
  refine ⟨answersAfter hnew.index_eq calls, fun m hbars => ?_,
    fun index later hkept hlater => keptIndex_append hkept hlater,
    fun key names hkey hkeys hway hsame => ?_⟩
  · obtain ⟨m, hm, hsaved⟩ := savedFor_of_bars hbars
    have hnow : (r.after calls).savedFor header h = (.error m, h) := by
      rw [after_eq hnew.index_eq]
      exact hsaved
    exact ⟨m, hm, hnow, mainsFor_of_error hnow⟩
  · exact savedNames_of_key hnew hkey hkeys hway (hsame.elim SameSpelling.foldKey_eq id)

/-- A workspace with a header and these files. -/
def workspaceWith (files : List (Text × Bytes)) : Host where
  disk := ⟨(["ws"], .folder) :: (["ws", "Inc"], .folder) :: (["ws", "Inc", "Lib.mqh"], .file []) ::
    files.map fun f => (["ws".toList, f.1], .file f.2)⟩

/-- A main file that includes the header. -/
def includingBot : Text × Bytes := ("Bot.mq5", Utf8.encode "#include \"Inc/Lib.mqh\"")

/-- The header. -/
def innerHeader : Path := .ofText "/ws/Inc/Lib.mqh"

/-- It was asked for once, while that main file was there. -/
def askedOnce : List (Host × Call) := [(workspaceWith [includingBot], .mains innerHeader)]

/-- Another main file is saved for the header. -/
def savedRunner : List (Text × List Text) := [("INC\\lib.MQH", ["Runner.mq5"])]

/-- What is known about the workspace then. -/
def resolverWith (saved : List (Text × List Text)) : HeaderResolver :=
  { folder := .ofText "/ws", saved := foldKeys saved, workspace := { folder := .ofText "/ws" } }

theorem isNew_resolverWith (saved : List (Text × List Text)) : IsNew saved (resolverWith saved) :=
  ⟨rfl, rfl⟩

/-- The main file is still told when it is gone, and the saved one as soon as it is there; its key is
the way to the header in other letters. -/
theorem resolver_remembers_of_savedRunner :
    (∃ now, ((resolverWith savedRunner).after askedOnce).mainsFor innerHeader (workspaceWith []) =
      (.ok ([.ofText "/ws/Bot.mq5"], now), workspaceWith [])) ∧
    (∃ now, ((resolverWith savedRunner).after askedOnce).mainsFor innerHeader
      (workspaceWith [("Runner.mq5", [])]) =
        (.ok ([.ofText "/ws/Runner.mq5"], now), workspaceWith [("Runner.mq5", [])])) ∧
    savedNames (workspaceWith []) (resolverWith savedRunner) innerHeader = ["Runner.mq5"] := by
  have hnew := isNew_resolverWith savedRunner
  have hstale : ((resolverWith savedRunner).savedFor innerHeader (workspaceWith [])).1.toOption =
      some [] := by decide +kernel
  have hthere : ((resolverWith savedRunner).savedFor innerHeader
      (workspaceWith [("Runner.mq5", [])])).1.toOption = some [.ofText "/ws/Runner.mq5"] := by
    decide +kernel
  have hkept : ((resolverWith savedRunner).keptIndex askedOnce).map (·.mainsOf innerHeader) =
      some [.ofText "/ws/Bot.mq5"] := by decide +kernel
  refine ⟨?_, ?_, ?_⟩
  · obtain ⟨index, hindex, hmains⟩ := Option.map_eq_some_iff.mp hkept
    obtain ⟨_, hsaved⟩ := Act.eq_ok_of_toOption hstale
    have hanswers := (resolver_remembers hnew askedOnce (workspaceWith []) innerHeader).1
      (not_bars_of_savedFor (by rw [hsaved]))
    have hleft : savedLeft (workspaceWith []) (resolverWith savedRunner) innerHeader = [] := by
      decide +kernel
    exact ⟨_, (hanswers.mains_of_kept index hleft hindex).trans (by rw [hmains])⟩
  · obtain ⟨_, hsaved⟩ := Act.eq_ok_of_toOption hthere
    have hanswers := (resolver_remembers hnew askedOnce (workspaceWith [("Runner.mq5", [])])
      innerHeader).1 (not_bars_of_savedFor (by rw [hsaved]))
    have hleft : savedLeft (workspaceWith [("Runner.mq5", [])]) (resolverWith savedRunner)
        innerHeader = [.ofText "/ws/Runner.mq5"] := by decide +kernel
    have hmains := hanswers.mains_of_saved (by rw [hleft]; exact List.cons_ne_nil _ _)
    exact ⟨_, hmains.trans (by rw [hleft])⟩
  · have hspelling : SameSpelling "INC\\lib.MQH"
        (wayTo (workspaceWith []) (resolverWith savedRunner) innerHeader) := by
      have hway : wayTo (workspaceWith []) (resolverWith savedRunner) innerHeader = "Inc/Lib.mqh" := by
        decide +kernel
      rw [hway]
      exact ⟨by decide, by decide, by decide⟩
    exact (resolver_remembers hnew askedOnce (workspaceWith []) innerHeader).2.2.2 _ _
      List.mem_cons_self (List.nodup_singleton _) (by decide +kernel) (Or.inl hspelling)

/-- A name that is longer than a name may be. -/
def tooLongName : Text := List.replicate 256 'n'

/-- It is saved for the header beside a main file. -/
def besideTooLong : List (Text × List Text) := [("Inc/Lib.mqh", ["Runner.mq5", tooLongName])]

/-- Then not even the main file is found, although it is there. -/
theorem not_found_beside_tooLong :
    IsSaved (workspaceWith [("Runner.mq5", [])]) (resolverWith besideTooLong) innerHeader
      (.ofText "/ws/Runner.mq5") ∧
    ∃ m, ((resolverWith besideTooLong).mainsFor innerHeader (workspaceWith [("Runner.mq5", [])])).1 =
      .error m := by
  constructor
  · have hleft : savedLeft (workspaceWith [("Runner.mq5", [])]) (resolverWith besideTooLong)
        innerHeader = [.ofText "/ws/Runner.mq5"] := by decide +kernel
    rw [← mem_savedLeft, hleft]
    exact List.mem_singleton_self _
  · have hnone : ((resolverWith besideTooLong).mainsFor innerHeader
        (workspaceWith [("Runner.mq5", [])])).1.toOption.isNone = true := by decide +kernel
    cases hrun : ((resolverWith besideTooLong).mainsFor innerHeader
        (workspaceWith [("Runner.mq5", [])])).1 with
    | error m => exact ⟨m, rfl⟩
    | ok found =>
        rw [hrun] at hnone
        cases hnone

end MetaDesk.HeaderResolver
