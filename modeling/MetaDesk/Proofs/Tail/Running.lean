import MetaDesk.Proofs.Tail.Stages
import MetaDesk.Proofs.Tail.Tailing

/-! # A tailer in the hands of its callers

`Runs t h ledger` says that any calls, in any order, have brought a tailer to `t` on the host `h`,
while the watch told of changes, the clock struck, and anything happened to the host.  The ledger
counts the banners and the markers that starts and stops wrote, the stops that could not tell the
end, and the strokes of the clock that ended with a mishap.

In each such state a session is open, by the ledger, exactly while the tailer is tailing; an idle
tailer does nothing when it is polled; and a watch is on the file of the session
(`runs_balance`).  A stroke of the clock that ends with a mishap is why the books may be out of
balance by the stops that were lost (`banner_without_marker_of_longLink`). -/

namespace MetaDesk.Tail

variable {t t' : Tailer} {h h' : Host}

/-! ### Calls -/

/-- A call of a tailer. -/
inductive Call where
  | start (s : Setup) (asked : Option TailMode)
  | stop
  | toggle (s : Setup)
  | poll
  | check

/-- What a call does.  A start and a toggle say whether the tailer is tailing. -/
def Call.run : Call → Tailing (Option Bool)
  | .start s asked => do return some (← Tail.start s asked)
  | .stop => do
    Tail.stop
    return none
  | .toggle s => do return some (← Tail.toggle s)
  | .poll => do
    Tail.poll
    return none
  | .check => do
    look (return)
    return none

/-- The call may start or stop the tailer. -/
def Call.isTurn : Call → Bool
  | .poll => false
  | .check => false
  | _ => true

/-- What the call works with writes no banner and no marker. -/
def Call.IsPlain : Call → Prop
  | .start s _ => s.IsPlain
  | .toggle s => s.IsPlain
  | _ => True

/-- What happens between calls. -/
inductive Move where
  | notify
  | tick
  | settle
deriving DecidableEq, Repr

/-- What a move does. -/
def Move.run : Move → Tailing Unit
  | .notify => Tail.notify
  | .tick => Tail.tick
  | .settle => Tail.settle

/-! ### The ledger -/

/-- How often starts and stops were told, and how often something went wrong. -/
structure Ledger where
  /-- Banners that were written by calls that start or stop. -/
  banners : ℕ := 0
  /-- Stop markers that were written by them. -/
  markers : ℕ := 0
  /-- Stops of a tailer that was tailing whose clock was broken. -/
  lost : ℕ := 0
  /-- Strokes of the clock that ended with a mishap. -/
  faults : ℕ := 0
deriving DecidableEq, Repr

/-- How many stops a call loses that may stop the tailer. -/
def Tailer.losses (t : Tailer) : ℕ := (t.isTailing && t.clock.isBroken).toNat

/-- The ledger after a call that found the tailer `t`. -/
def Ledger.afterCall (l : Ledger) (c : Call) (t : Tailer) (h h' : Host) : Ledger :=
  if c.isTurn then { l with
    banners := l.banners + (newPieces h h').countP isBanner
    markers := l.markers + (newPieces h h').countP isMarker
    lost := l.lost + t.losses }
  else l

/-- The ledger after a move, which may break the clock. -/
def Ledger.afterMove (l : Ledger) (t t' : Tailer) : Ledger :=
  { l with faults := l.faults + (!t.clock.isBroken && t'.clock.isBroken).toNat }

/-- The tailer `t` has been used on the host `h`, and this is the ledger. -/
inductive Runs : Tailer → Host → Ledger → Prop
  /-- A new tailer. -/
  | fresh (h : Host) : Runs {} h {}
  /-- A call, whether it returns or ends with a mishap. -/
  | call {t t' : Tailer} {h h' : Host} {l : Ledger} {r : Except Mishap (Option Bool)} (c : Call) :
      Runs t h l → c.IsPlain → c.run t h = ((r, t'), h') → Runs t' h' (l.afterCall c t h h')
  /-- The watch tells of a change, the clock strikes, or what was made and told is seen to. -/
  | move {t t' : Tailer} {h h' : Host} {l : Ledger} {r : Except Mishap Unit} (m : Move) :
      Runs t h l → m.run t h = ((r, t'), h') → Runs t' h' (l.afterMove t t')
  /-- Anything happens to the host. -/
  | world {t : Tailer} {h : Host} {l : Ledger} (h' : Host) : Runs t h l → Runs t h' l

theorem Runs.next {l : Ledger} (hrun : Runs t h l) (c : Call) (hplain : c.IsPlain) :
    Runs (c.run t h).1.2 (c.run t h).2 (l.afterCall c t h (c.run t h).2) :=
  hrun.call c hplain rfl

theorem Runs.pass {l : Ledger} (hrun : Runs t h l) (m : Move) :
    Runs (m.run t h).1.2 (m.run t h).2 (l.afterMove t (m.run t h).1.2) :=
  hrun.move m rfl

/-! ### What a call does to the tailer -/

/-- What a call comes to that found the tailer `t` on the host `h`. -/
structure Comes (c : Call) (t : Tailer) (h : Host) (r : Except Mishap (Option Bool)) (t' : Tailer)
    (h' : Host) : Prop where
  watches : t'.WatchesSession
  clock_eq : t'.clock = t.clock ∨ t'.clock.isBroken = false
  answer : ∀ b, r = .ok (some b) → b = t'.isTailing
  adds : c.isTurn = true → Adds h t'.isTailing.toNat t.endings h'
  isTailing_eq : c.isTurn = false → t'.isTailing = t.isTailing

theorem Comes.of_turn {c : Call} (hturn : c.isTurn = true) {tailing : Bool}
    {r : Except Mishap (Option Bool)} (hstage : Stage h t.clock t.endings tailing t' h')
    (hanswer : ∀ b, r = .ok (some b) → b = t'.isTailing) : Comes c t h r t' h' :=
  ⟨hstage.watches, hstage.rest.clock_eq, hanswer, fun _ => hstage.self.rest.adds,
    fun hnot => Bool.noConfusion (hturn.symm.trans hnot)⟩

theorem Comes.of_look {c : Call} (hnot : c.isTurn = false) {r : Except Mishap (Option Bool)}
    (hst : Stands t.isTailing (fun c _ => c = t.clock) t' h') (hr : ∀ b, r ≠ .ok (some b)) :
    Comes c t h r t' h' :=
  ⟨hst.watches, Or.inl hst.rest, fun b hb => (hr b hb).elim,
    fun hturn => Bool.noConfusion (hturn.symm.trans hnot), fun _ => hst.isTailing_eq⟩

theorem comes_of_saysSo {c : Call} (hturn : c.isTurn = true) {act : Tailing Bool}
    (hact : ActOn.Leads (fun t₁ h₁ => t₁ = t ∧ h₁ = h) (SaysSo h t.clock t.endings) act) :
    ActOn.Leads (fun t₁ h₁ => t₁ = t ∧ h₁ = h) (Comes c t h) (do return some (← act)) := by
  refine hact.bind (fun m t' h' hend => Comes.of_turn hturn hend.1 (by rintro b ⟨⟩)) fun b => ?_
  refine ActOn.Leads.pure fun t' h' hend => Comes.of_turn hturn hend.1 ?_
  rintro b ⟨⟩
  exact hend.2 b rfl

theorem comes_of_stands {c : Call} (hnot : c.isTurn = false) (hwatches : t.WatchesSession)
    {act : Tailing Unit} (hact : ActOn.Keeps (Stands t.isTailing fun c _ => c = t.clock) act) :
    ActOn.Leads (fun t₁ h₁ => t₁ = t ∧ h₁ = h) (Comes c t h) (do
      act
      return none) := by
  rintro t h ⟨rfl, rfl⟩
  refine ActOn.Leads.bind_keeps hact ?_ (fun _ => ?_) t h ⟨rfl, hwatches, rfl⟩
  · exact fun m t' h' hst => Comes.of_look hnot hst (by rintro b ⟨⟩)
  · exact ActOn.Leads.pure fun t' h' hst => Comes.of_look hnot hst (by rintro b ⟨⟩)

/-- All that a call can come to. -/
theorem Call.leads (c : Call) (hplain : c.IsPlain) (hwatches : t.WatchesSession) :
    ActOn.Leads (fun t₁ h₁ => t₁ = t ∧ h₁ = h) (Comes c t h) c.run := by
  cases c with
  | start s asked => exact comes_of_saysSo rfl (start_leads hplain asked hwatches)
  | toggle s => exact comes_of_saysSo rfl (toggle_leads hplain hwatches)
  | poll => exact comes_of_stands rfl hwatches poll_stands
  | check => exact comes_of_stands rfl hwatches look_stands
  | stop =>
      refine (stop_leads t h).bind (fun m t' h' hst => Comes.of_turn rfl hst (by rintro b ⟨⟩))
        fun _ => ActOn.Leads.pure fun t' h' hst => Comes.of_turn rfl hst (by rintro b ⟨⟩)

theorem Call.comes {c : Call} {r : Except Mishap (Option Bool)} (hplain : c.IsPlain)
    (hwatches : t.WatchesSession) (hrun : c.run t h = ((r, t'), h')) : Comes c t h r t' h' := by
  have hcomes := c.leads (h := h) hplain hwatches t h ⟨rfl, rfl⟩
  rw [hrun] at hcomes
  exact hcomes

/-- A move neither starts nor stops the tailer, and keeps the watch on the file of the session. -/
theorem Move.stands {m : Move} {r : Except Mishap Unit} (hwatches : t.WatchesSession)
    (hrun : m.run t h = ((r, t'), h')) : StandsAnyhow t.isTailing t' h' := by
  have hst : StandsAnyhow t.isTailing t h := ⟨rfl, hwatches, trivial⟩
  cases m with
  | notify => exact notify_stands.of_run hst hrun
  | tick => exact tick_stands.of_run hst hrun
  | settle => exact settle_stands.of_run hst hrun

/-! ### The books -/

/-- The ledger fits the tailer. -/
structure Balances (t : Tailer) (l : Ledger) : Prop where
  watches : t.WatchesSession
  banners_eq : l.banners = l.markers + l.lost + t.isTailing.toNat
  faults_of_broken : t.clock.isBroken = true → 0 < l.faults
  faults_of_lost : 0 < l.lost → 0 < l.faults

/-- Every stop of a tailer that is tailing is told or lost. -/
theorem endings_add_losses (t : Tailer) : t.endings + t.losses = t.isTailing.toNat := by
  unfold Tailer.endings Tailer.losses
  cases t.isTailing <;> cases t.clock.isBroken <;> rfl

theorem Balances.call {l : Ledger} {c : Call} {r : Except Mishap (Option Bool)}
    (hbal : Balances t l) (hcomes : Comes c t h r t' h') : Balances t' (l.afterCall c t h h') := by
  have hbroken : t'.clock.isBroken = true → 0 < l.faults := by
    intro hbroken
    rcases hcomes.clock_eq with hsame | hsound
    · exact hbal.faults_of_broken (hsame ▸ hbroken)
    · rw [hsound] at hbroken
      cases hbroken
  unfold Ledger.afterCall
  split
  · next hturn =>
      obtain ⟨hbanners, hmarkers⟩ := (hcomes.adds hturn).countP_newPieces
      have hold := hbal.banners_eq
      have hsplit := endings_add_losses t
      have hlost := hbal.faults_of_lost
      have hlosses : 0 < t.losses → 0 < l.faults := by
        intro hlosses
        refine hbal.faults_of_broken ?_
        unfold Tailer.losses at hlosses
        cases hclock : t.clock.isBroken with
        | true => rfl
        | false =>
            rw [hclock, Bool.and_false] at hlosses
            cases hlosses
      refine ⟨hcomes.watches, ?_, hbroken, ?_⟩
      · dsimp only
        omega
      · dsimp only
        omega
  · next hnot =>
      refine ⟨hcomes.watches, ?_, hbroken, hbal.faults_of_lost⟩
      rw [hcomes.isTailing_eq (eq_false_of_ne_true hnot)]
      exact hbal.banners_eq

theorem Balances.move {l : Ledger} (hbal : Balances t l) (hst : StandsAnyhow t.isTailing t' h') :
    Balances t' (l.afterMove t t') := by
  refine ⟨hst.watches, ?_, ?_, fun hlost => Nat.lt_add_right _ (hbal.faults_of_lost hlost)⟩
  · rw [hst.isTailing_eq]
    exact hbal.banners_eq
  · intro hbroken
    unfold Ledger.afterMove
    cases hbefore : t.clock.isBroken with
    | true => exact Nat.lt_add_right _ (hbal.faults_of_broken hbefore)
    | false =>
        rw [hbroken]
        exact Nat.succ_pos _

theorem Runs.balances {l : Ledger} (hrun : Runs t h l) : Balances t l := by
  induction hrun with
  | fresh h => exact ⟨by rintro _ ⟨⟩, rfl, by rintro ⟨⟩, by rintro ⟨⟩⟩
  | call c _ hplain hcall ih => exact ih.call (Call.comes hplain ih.watches hcall)
  | move m _ hmove ih => exact ih.move (Move.stands ih.watches hmove)
  | world h' _ ih => exact ih

theorem current?_of_idle (hidle : t.isTailing = false) : current? t h = ((.ok none, t), h) := by
  rw [current?_apply, hidle]
  rfl

theorem poll_of_idle (hidle : t.isTailing = false) (h : Host) : poll t h = ((.ok (), t), h) := by
  unfold poll
  rw [ActOn.bind_of_ok (current?_of_idle hidle)]
  rfl

theorem look_of_idle (hidle : t.isTailing = false) (meanwhile : Tailing Unit) (h : Host) :
    look meanwhile t h = ((.ok (), t), h) := by
  unfold look
  rw [ActOn.bind_of_ok (current?_of_idle hidle)]
  rfl

theorem makeWatch_of_watch {w : Watch} (hw : t.watch = some w) :
    makeWatch t h = ((.ok (), t), h) := by
  unfold makeWatch
  rw [ActOn.bind_of_ok (ActOn.getThe_apply t h), hw]
  rfl

theorem journalSetup_isPlain : journalSetup.IsPlain :=
  ⟨IsPlain.pure _, IsPlain.pure _, fun _ => IsPlain.pure _, fun _ => IsPlain.pure _⟩

/-- **The books of a tailer balance.**  After any calls in any order, and whatever happened between
them, there are as many banners as stop markers and lost stops together, and one more while the
tailer is tailing; a stop is lost only after a stroke of the clock has ended with a mishap.  A start
or a toggle says whether the tailer is tailing; an idle tailer does nothing when it is polled or is
to look; and a watch is on the file of the session. -/
theorem runs_balance {l : Ledger} (hrun : Runs t h l) :
    (l.banners = l.markers + l.lost + t.isTailing.toNat ∧
      (l.faults = 0 → l.banners = l.markers + t.isTailing.toNat)) ∧
    (∀ {c : Call} {b : Bool} {t' : Tailer} {h' : Host}, c.IsPlain →
      c.run t h = ((.ok (some b), t'), h') → b = t'.isTailing) ∧
    (t.isTailing = false → t.watch = none ∧ poll t h = ((.ok (), t), h) ∧
      ∀ meanwhile, look meanwhile t h = ((.ok (), t), h)) ∧
    ∀ w, t.watch = some w → t.isTailing = true ∧ (∃ s, t.session = some s ∧ w.file = s.file) ∧
      makeWatch t h = ((.ok (), t), h) := by
  have hbal := hrun.balances
  refine ⟨⟨hbal.banners_eq, fun hfaults => ?_⟩, fun hplain hcall => ?_, fun hidle => ?_,
    fun w hw => ?_⟩
  · have hold := hbal.banners_eq
    have hlost := hbal.faults_of_lost
    omega
  · exact (Call.comes hplain hbal.watches hcall).answer _ rfl
  · have hst : StandsAnyhow false t h := ⟨hidle, hbal.watches, trivial⟩
    exact ⟨hst.watch_eq_none, poll_of_idle hidle h, fun meanwhile => look_of_idle hidle meanwhile h⟩
  · obtain ⟨htailing, hfile⟩ := hbal.watches w hw
    obtain ⟨s, hs, hfile⟩ := Option.map_eq_some_iff.mp hfile
    exact ⟨htailing, ⟨s, hs, hfile.symm⟩, makeWatch_of_watch hw⟩

/-- A tailer that was started, stopped by a toggle and started again has told one start more than
stops, and watches its journal. -/
theorem runs_balance_of_restart : ∃ t h l, Runs t h l ∧ l.faults = 0 ∧ l.banners = l.markers + 1 ∧
    t.watch = some { file := journal } ∧ ∃ s, t.session = some s ∧ journal = s.file := by
  have hstart := (Runs.fresh { disk := journalDisk [] }).next
    (.start journalSetup (some .standard)) journalSetup_isPlain
  have hstop := hstart.next (.toggle journalSetup) journalSetup_isPlain
  have hagain := hstop.next (.toggle journalSetup) journalSetup_isPlain
  obtain ⟨⟨-, hbalance⟩, -, -, hwatches⟩ := runs_balance hagain
  obtain ⟨htailing, hsession, -⟩ := hwatches { file := journal } rfl
  refine ⟨_, _, _, hagain, rfl, ?_, rfl, hsession⟩
  have hbanners := hbalance rfl
  rw [htailing] at hbanners
  exact hbanners

/-- A disk where the journal of the next day is a link to a name that is too long. -/
def longLinkDisk : Disk :=
  ⟨[(["d".toList], .folder), (["d".toList, "Logs".toList], .folder),
    (["d".toList, "Logs".toList, "20240201.log".toList], .link (List.replicate 300 'n'))]⟩

/-- On the next day the clock strikes, and the journal cannot be looked up.  The stop after that
ends with the same mishap and tells no end: the tailer is idle, and there is a banner without a
marker. -/
theorem banner_without_marker_of_longLink : ∃ t h l, Runs t h l ∧ t.isTailing = false ∧
    poll t h = ((.ok (), t), h) ∧ l.banners = 1 ∧ l.markers = 0 := by
  have hstart := (Runs.fresh { disk := longLinkDisk }).next
    (.start journalSetup (some .standard)) journalSetup_isPlain
  have hday := hstart.world { disk := longLinkDisk, today := ⟨2024, 2, 1⟩ }
  have hbroken := ((hday.pass .settle).pass .tick).pass .settle
  have hstop := hbroken.next .stop trivial
  exact ⟨_, _, _, hstop, by decide +kernel, poll_of_idle (by decide +kernel) _,
    by decide +kernel, by decide +kernel⟩

end MetaDesk.Tail
