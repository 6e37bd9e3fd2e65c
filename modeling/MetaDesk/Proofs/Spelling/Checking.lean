import MetaDesk.Proofs.History
import MetaDesk.Proofs.Spelling.Drawers
import MetaDesk.Spelling.Checker

/-! # What a checker remembers

A checker is asked for names and whether a text is one, while names are added to its source, and it may
be told to forget its dictionary (`Step`).  It makes the dictionary in the first step that needs one,
and then keeps it until it is told to forget it.  What it knows can be told from the steps that it has
taken (`Remembers`), and every step keeps this (`Remembers.take`).

So its answers are those of a new checker over the names as they were when the dictionary was made
(`checker_remembers`): a name that was added since is not seen until the dictionary is forgotten.  The
source is asked only when a dictionary is made, which is at most once before it is forgotten. -/

namespace MetaDesk.Spelling

namespace NameSource

variable {s : NameSource}

/-- The names do not change. -/
def isFixed : NameSource → Bool
  | .fixed _ => true
  | .changing _ _ => false

theorem names_ask (s : NameSource) : s.ask.names = s.names := by cases s <;> rfl

theorem isFixed_ask (s : NameSource) : s.ask.isFixed = s.isFixed := by cases s <;> rfl

theorem asked_ask (h : s.isFixed = false) : s.ask.asked = s.asked + 1 := by
  cases s with
  | fixed names => cases h
  | changing names asked => rfl

theorem names_add (s : NameSource) (name : Text) :
    (s.add name).names = if s.isFixed then s.names else s.names ++ [name] := by
  cases s <;> rfl

theorem isFixed_add (s : NameSource) (name : Text) : (s.add name).isFixed = s.isFixed := by
  cases s <;> rfl

theorem asked_add (s : NameSource) (name : Text) : (s.add name).asked = s.asked := by cases s <;> rfl

end NameSource

namespace Checker

/-- What a checker is asked and told. -/
inductive Step where
  | find (token : Text) (most count : ℤ)
  | contains (name : Text)
  | add (name : Text)
  | invalidate
deriving DecidableEq, Repr

namespace Step

/-- The answer needs a dictionary; that to a short token does not. -/
def needsDictionary : Step → Bool
  | .find token _ _ => Dictionary.shortest ≤ token.length
  | .contains _ => true
  | .add _ => false
  | .invalidate => false

/-- The dictionary is forgotten. -/
def forgets : Step → Bool
  | .invalidate => true
  | _ => false

/-- The name that is added. -/
def added? : Step → Option Text
  | .add name => some name
  | _ => none

theorem forgets_eq_false_iff {step : Step} : step.forgets = false ↔ step ≠ .invalidate := by
  cases step <;> simp [forgets]

end Step

/-- A checker that was not asked anything yet. -/
def fresh (source : NameSource) : Checker := { source := source }

/-- Take a step, whatever the answer is. -/
def take (c : Checker) : Step → Checker
  | .find token most count => (c.find token most count).2
  | .contains name => (c.contains name).2
  | .add name => c.add name
  | .invalidate => c.invalidate

/-- The checker after some steps. -/
def after (c : Checker) (steps : List Step) : Checker := steps.foldl take c

theorem after_concat (c : Checker) (steps : List Step) (step : Step) :
    c.after (steps ++ [step]) = (c.after steps).take step :=
  List.foldl_concat _ _ _ _

/-! ### What the steps tell -/

/-- The steps since the last one that made the checker forget. -/
def sinceForgotten (steps : List Step) : List Step := History.sinceEnd Step.forgets steps

/-- The steps since the dictionary is there, the one that made it included. -/
def sinceMade (steps : List Step) : List Step :=
  History.since Step.forgets Step.needsDictionary steps

/-- The names after some steps. -/
def namesAfter (source : NameSource) (steps : List Step) : List Text :=
  if source.isFixed then source.names else source.names ++ steps.filterMap Step.added?

/-- The names as they were when the dictionary was made, or as they are when it is not there. -/
def namesInUse (source : NameSource) (steps : List Step) : List Text :=
  namesAfter source (History.before Step.forgets Step.needsDictionary steps)

variable {source : NameSource} {steps later : List Step} {step : Step} {c : Checker}

theorem namesAfter_concat_of_none (h : step.added? = none) :
    namesAfter source (steps ++ [step]) = namesAfter source steps := by
  unfold namesAfter
  rw [List.filterMap_append, List.filterMap_cons_none h, List.filterMap_nil, List.append_nil]

theorem namesAfter_add (name : Text) : namesAfter source (steps ++ [.add name]) =
    if source.isFixed then namesAfter source steps else namesAfter source steps ++ [name] := by
  unfold namesAfter
  rw [List.filterMap_append]
  cases source.isFixed
  · exact (List.append_assoc _ _ _).symm
  · rfl

theorem namesInUse_of_not_made (h : sinceMade steps = []) :
    namesInUse source steps = namesAfter source steps := by
  rw [namesInUse, History.before_of_since_eq_nil h]

theorem namesInUse_concat (hstep : step.forgets = false) (h : sinceMade steps ≠ []) :
    namesInUse source (steps ++ [step]) = namesInUse source steps := by
  rw [namesInUse, History.before_concat hstep h, namesInUse]

theorem namesInUse_of_made_now (hstep : step.forgets = false) (hneeds : step.needsDictionary = true)
    (h : sinceMade steps = []) : namesInUse source (steps ++ [step]) = namesAfter source steps := by
  rw [namesInUse, History.before_concat_of_starts hstep hneeds h]

theorem sinceMade_ne_nil (hstep : step.forgets = false) (hneeds : step.needsDictionary = true) :
    sinceMade (steps ++ [step]) ≠ [] := by
  unfold sinceMade
  rw [History.since_concat hstep, if_neg (by simp [hneeds])]
  exact List.concat_ne_nil _ _

/-! ### One step -/

theorem index_fst (c : Checker) :
    c.index.1 = c.dictionary.getD (Dictionary.ofNames c.source.names) := by
  unfold index
  cases c.dictionary <;> rfl

theorem index_snd_of_some {d : Dictionary} (h : c.dictionary = some d) : c.index.2 = c := by
  unfold index
  rw [h]

theorem index_snd_of_none (h : c.dictionary = none) :
    c.index.2 = ⟨c.source.ask, some (Dictionary.ofNames c.source.names)⟩ := by
  unfold index
  rw [h]

/-- All that a step can do. -/
theorem take_cases (c : Checker) (step : Step) :
    (step.needsDictionary = true ∧ step.forgets = false ∧ step.added? = none ∧
        c.take step = c.index.2) ∨
      (∃ name, step = .add name ∧ c.take step = c.add name) ∨
      (step = .invalidate ∧ c.take step = c.invalidate) ∨
      step.needsDictionary = false ∧ step.forgets = false ∧ step.added? = none ∧
        c.take step = c := by
  cases step with
  | find token most count =>
      by_cases hshort : token.length < Dictionary.shortest
      · refine Or.inr (Or.inr (Or.inr ⟨decide_eq_false (not_le.mpr hshort), rfl, rfl, ?_⟩))
        rw [take, find, if_pos hshort]
      · refine Or.inl ⟨decide_eq_true (not_lt.mp hshort), rfl, rfl, ?_⟩
        rw [take, find, if_neg hshort]
  | contains name => exact Or.inl ⟨rfl, rfl, rfl, rfl⟩
  | add name => exact Or.inr (Or.inl ⟨name, rfl, rfl⟩)
  | invalidate => exact Or.inr (Or.inr (Or.inl ⟨rfl, rfl⟩))

/-- The checker knows what the steps tell. -/
structure Remembers (source : NameSource) (steps : List Step) (c : Checker) : Prop where
  isFixed_eq : c.source.isFixed = source.isFixed
  names_eq : c.source.names = namesAfter source steps
  /-- The dictionary is not there or has the names that were there when it was made. -/
  dictionary_eq : c.dictionary =
    if sinceMade steps = [] then none else some (Dictionary.ofNames (namesInUse source steps))

theorem remembers_fresh (source : NameSource) : Remembers source [] (fresh source) where
  isFixed_eq := rfl
  names_eq := by simp [namesAfter, fresh]
  dictionary_eq := rfl

/-- A step that needs the dictionary makes it unless it is there. -/
theorem Remembers.index (h : Remembers source steps c) (hstep : step.forgets = false)
    (hneeds : step.needsDictionary = true) (hadded : step.added? = none) :
    Remembers source (steps ++ [step]) c.index.2 := by
  have hnames : namesAfter source (steps ++ [step]) = namesAfter source steps :=
    namesAfter_concat_of_none hadded
  have hdictionary := h.dictionary_eq
  have hthere : sinceMade (steps ++ [step]) ≠ [] := sinceMade_ne_nil hstep hneeds
  by_cases hnone : sinceMade steps = []
  -- it is made of the names as they are now
  · rw [if_pos hnone] at hdictionary
    rw [index_snd_of_none hdictionary]
    refine ⟨(NameSource.isFixed_ask _).trans h.isFixed_eq, ?_, ?_⟩
    · rw [hnames, ← h.names_eq]
      exact NameSource.names_ask _
    · rw [if_neg hthere, namesInUse_of_made_now hstep hneeds hnone, ← h.names_eq]
  · rw [if_neg hnone] at hdictionary
    rw [index_snd_of_some hdictionary]
    refine ⟨h.isFixed_eq, h.names_eq.trans hnames.symm, ?_⟩
    rw [if_neg hthere, namesInUse_concat hstep hnone, hdictionary]

/-- A step that neither needs the dictionary nor forgets it leaves it as it is. -/
theorem Remembers.dictionary_concat (h : Remembers source steps c) (hstep : step.forgets = false)
    (hneeds : step.needsDictionary = false) : c.dictionary =
      if sinceMade (steps ++ [step]) = [] then none
      else some (Dictionary.ofNames (namesInUse source (steps ++ [step]))) := by
  rw [h.dictionary_eq]
  by_cases hnone : sinceMade steps = []
  · have hstill : sinceMade (steps ++ [step]) = [] := by
      unfold sinceMade
      rw [History.since_concat hstep, if_pos ⟨hnone, hneeds⟩]
    rw [if_pos hnone, if_pos hstill]
  · have hstill : sinceMade (steps ++ [step]) ≠ [] := History.since_concat_ne_nil hstep hnone
    rw [if_neg hnone, if_neg hstill, namesInUse_concat hstep hnone]

theorem Remembers.take (h : Remembers source steps c) (step : Step) :
    Remembers source (steps ++ [step]) (c.take step) := by
  rcases take_cases c step with ⟨hneeds, hstep, hadded, htake⟩ | ⟨name, rfl, htake⟩ |
    ⟨rfl, htake⟩ | ⟨hneeds, hstep, hadded, htake⟩
  · rw [htake]
    exact h.index hstep hneeds hadded
  · rw [htake]
    refine ⟨(NameSource.isFixed_add _ _).trans h.isFixed_eq, ?_, h.dictionary_concat rfl rfl⟩
    rw [namesAfter_add, ← h.names_eq, ← h.isFixed_eq]
    exact NameSource.names_add _ _
  · have hnone : sinceMade (steps ++ [.invalidate]) = [] := History.since_concat_of_ends rfl
    rw [htake]
    refine ⟨h.isFixed_eq, h.names_eq.trans (namesAfter_concat_of_none rfl).symm, ?_⟩
    rw [if_pos hnone]
    rfl
  · rw [htake]
    exact ⟨h.isFixed_eq, h.names_eq.trans (namesAfter_concat_of_none hadded).symm,
      h.dictionary_concat hstep hneeds⟩

theorem remembers_after (source : NameSource) (steps : List Step) :
    Remembers source steps ((fresh source).after steps) := by
  induction steps using List.reverseRecOn with
  | nil => exact remembers_fresh source
  | append_singleton steps step ih =>
      rw [after_concat]
      exact ih.take step

/-! ### Answers -/

/-- The checker answers as a new one does over these names. -/
structure AnswersOver (names : List Text) (c : Checker) : Prop where
  find_eq : ∀ token most count,
    (c.find token most count).1 = ((fresh (.fixed names)).find token most count).1
  contains_eq : ∀ name, (c.contains name).1 = ((fresh (.fixed names)).contains name).1

theorem Remembers.index_fst (h : Remembers source steps c) :
    c.index.1 = Dictionary.ofNames (namesInUse source steps) := by
  rw [Checker.index_fst, h.dictionary_eq]
  split_ifs with hnone
  · rw [Option.getD_none, h.names_eq, namesInUse_of_not_made hnone]
  · rfl

theorem Remembers.answersOver (h : Remembers source steps c) :
    AnswersOver (namesInUse source steps) c where
  find_eq token most count := by
    have hfresh : (fresh (.fixed (namesInUse source steps))).index.1 = c.index.1 := h.index_fst.symm
    unfold find
    rw [hfresh]
    split_ifs <;> rfl
  contains_eq name := congrArg (Dictionary.contains · name) h.index_fst

theorem Remembers.contains_iff (h : Remembers source steps c) (name : Text) :
    (c.contains name).1 = true ↔
      name ∈ namesInUse source steps ∧ Dictionary.shortest ≤ name.length := by
  unfold contains
  rw [h.index_fst, (Dictionary.holds_ofNames _).contains_iff]

/-! ### Asking the source -/

/-- How often the source was asked after some steps. -/
def askedAfter (source : NameSource) (steps : List Step) : ℕ :=
  ((fresh source).after steps).source.asked

/-- The source is asked in the first step that needs a dictionary since it was forgotten. -/
theorem askedAfter_concat (hsource : source.isFixed = false) (steps : List Step) (step : Step) :
    askedAfter source (steps ++ [step]) = askedAfter source steps +
      if step.needsDictionary = true ∧ sinceMade steps = [] then 1 else 0 := by
  have h := remembers_after source steps
  have hchanging := h.isFixed_eq.trans hsource
  unfold askedAfter
  rw [after_concat]
  rcases take_cases ((fresh source).after steps) step with ⟨hneeds, -, -, htake⟩ |
    ⟨name, rfl, htake⟩ | ⟨rfl, htake⟩ | ⟨hneeds, -, -, htake⟩
  · rw [htake]
    by_cases hnone : sinceMade steps = []
    · have hdictionary := h.dictionary_eq.trans (if_pos hnone)
      rw [index_snd_of_none hdictionary, if_pos ⟨hneeds, hnone⟩]
      exact NameSource.asked_ask hchanging
    · have hdictionary := h.dictionary_eq.trans (if_neg hnone)
      rw [index_snd_of_some hdictionary, if_neg fun hfirst => hnone hfirst.2, Nat.add_zero]
  · rw [htake]
    exact NameSource.asked_add _ _
  · rw [htake]
    rfl
  · rw [htake, if_neg (by simp [hneeds]), Nat.add_zero]

/-- While the dictionary is there the source is not asked. -/
theorem askedAfter_of_made (hsource : source.isFixed = false) (hmade : sinceMade steps ≠ [])
    (hlater : ∀ step ∈ later, step.forgets = false) :
    askedAfter source (steps ++ later) = askedAfter source steps := by
  induction later using List.reverseRecOn with
  | nil => rw [List.append_nil]
  | append_singleton later step ih =>
      have hrest : ∀ step ∈ later, step.forgets = false := fun step hmem =>
        hlater step (by simp [hmem])
      have hstill : sinceMade (steps ++ later) ≠ [] := History.since_append_ne_nil hrest hmade
      rw [← List.append_assoc, askedAfter_concat hsource, if_neg fun hfirst => hstill hfirst.2,
        Nat.add_zero, ih hrest]

/-- Until the dictionary is forgotten the source is asked at most once. -/
theorem askedAfter_append_le (hsource : source.isFixed = false) (steps : List Step)
    (hlater : ∀ step ∈ later, step.forgets = false) :
    askedAfter source (steps ++ later) ≤ askedAfter source steps + 1 := by
  induction later generalizing steps with
  | nil =>
      rw [List.append_nil]
      exact Nat.le_succ _
  | cons step later ih =>
      rw [List.forall_mem_cons] at hlater
      obtain ⟨hstep, hrest⟩ := hlater
      have hfirst := askedAfter_concat hsource steps step
      rw [List.append_cons]
      by_cases hmakes : step.needsDictionary = true ∧ sinceMade steps = []
      -- the step that makes the dictionary is the last one that asks
      · have hmade : sinceMade (steps ++ [step]) ≠ [] := sinceMade_ne_nil hstep hmakes.1
        rw [askedAfter_of_made hsource hmade hrest, hfirst, if_pos hmakes]
      · rw [if_neg hmakes, Nat.add_zero] at hfirst
        rw [← hfirst]
        exact ih (steps ++ [step]) hrest

/-- The source is asked by the first step that needs a dictionary since the last one was forgotten, and
so at most once before the next one is. -/
structure AsksOnce (source : NameSource) (steps : List Step) : Prop where
  first : ∀ step, askedAfter source (steps ++ [step]) = askedAfter source steps +
    if step.needsDictionary = true ∧
      ∀ earlier ∈ sinceForgotten steps, earlier.needsDictionary = false then 1 else 0
  once : ∀ later, (∀ step ∈ later, step ≠ .invalidate) →
    askedAfter source (steps ++ later) ≤ askedAfter source steps + 1

theorem asksOnce (hsource : source.isFixed = false) (steps : List Step) : AsksOnce source steps where
  first step := by
    have hnone : sinceMade steps = [] ↔
        ∀ earlier ∈ sinceForgotten steps, earlier.needsDictionary = false :=
      History.since_eq_nil_iff
    simp only [askedAfter_concat hsource, hnone]
  once later hlater := askedAfter_append_le hsource steps fun step hstep =>
    Step.forgets_eq_false_iff.mpr (hlater step hstep)

/-! ### Names that are added -/

/-- Names that are added are not seen while the dictionary is there, and are seen when it is
forgotten; fixed names are always the same. -/
structure UsesNames (source : NameSource) (steps : List Step) : Prop where
  kept : sinceMade steps ≠ [] → ∀ later, (∀ step ∈ later, step ≠ .invalidate) →
    namesInUse source (steps ++ later) = namesInUse source steps
  renewed : namesInUse source (steps ++ [.invalidate]) = namesAfter source steps
  fixed : source.isFixed = true → namesInUse source steps = source.names

theorem usesNames (source : NameSource) (steps : List Step) : UsesNames source steps where
  kept hmade later hlater := by
    have hrest : ∀ step ∈ later, step.forgets = false := fun step hstep =>
      Step.forgets_eq_false_iff.mpr (hlater step hstep)
    rw [namesInUse, History.before_append hrest hmade, namesInUse]
  renewed := by
    have hnone : sinceMade (steps ++ [.invalidate]) = [] := History.since_concat_of_ends rfl
    rw [namesInUse_of_not_made hnone, namesAfter_concat_of_none rfl]
  fixed hsource := if_pos hsource

/-- **What a checker answers after any steps.**  It answers as a new checker does over the names as they
were when the dictionary was made, or as they are if there is none; so a text is one of them just when
it is among these names and long enough.  Names that are added later are seen when the dictionary is
forgotten, and fixed names stay what they are.  Changing names are asked for by the first step that
needs a dictionary, and not again before it is forgotten. -/
theorem checker_remembers (source : NameSource) (steps : List Step) :
    AnswersOver (namesInUse source steps) ((fresh source).after steps) ∧
      (∀ name, (((fresh source).after steps).contains name).1 = true ↔
        name ∈ namesInUse source steps ∧ Dictionary.shortest ≤ name.length) ∧
      UsesNames source steps ∧ (source.isFixed = false → AsksOnce source steps) := by
  have h := remembers_after source steps
  exact ⟨h.answersOver, h.contains_iff, usesNames source steps, fun hsource => asksOnce hsource steps⟩

/-- A source of one name to which others may be added. -/
def oneName : NameSource := .changing ["OrderSend"] 0

/-- A short token is looked for, then a name, and then another name is added. -/
def lookedThenAdded : List Step := [.find "ab" 2 3, .contains "OrderSend", .add "OrderClose"]

/-- The added name is seen as soon as the dictionary is forgotten, and then the source is asked
again. -/
theorem checker_remembers_of_addedName :
    (((fresh oneName).after lookedThenAdded).contains "OrderClose").1 = false ∧
      (((fresh oneName).after (lookedThenAdded ++ [.invalidate])).contains "OrderClose").1 = true ∧
      askedAfter oneName (lookedThenAdded ++ [.contains "OrderClose"]) =
        askedAfter oneName lookedThenAdded ∧
      askedAfter oneName (lookedThenAdded ++ [.invalidate] ++ [.contains "OrderClose"]) =
        askedAfter oneName (lookedThenAdded ++ [.invalidate]) + 1 := by
  obtain ⟨-, hbefore, huses, hasks⟩ := checker_remembers oneName lookedThenAdded
  obtain ⟨-, hafter, -, hasksAgain⟩ := checker_remembers oneName (lookedThenAdded ++ [.invalidate])
  refine ⟨?_, ?_, ?_, ?_⟩
  · rw [Bool.eq_false_iff, ne_eq, hbefore]
    decide
  · rw [hafter, huses.renewed]
    decide
  · rw [(hasks rfl).first, if_neg (by decide), Nat.add_zero]
  · rw [(hasksAgain rfl).first, if_pos (by decide)]

end Checker

end MetaDesk.Spelling
