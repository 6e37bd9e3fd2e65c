import MetaDesk.Compile.Log
import MetaDesk.Proofs.Disk.Looking
import MetaDesk.Proofs.Host.Asking

/-! # How long a log is waited for

The log of a compile may come late, and then it may still grow for a while.  The looks for it tell
when it comes (`ComesAfter`): during the `n`-th wait, where `0` means that it is there already.  As
long as they find nothing the loop goes on (`waitFor_of_absent`), so it waits `min n N` times if it is
to look `N` times after the first time, and what is read is the file as it is after the last wait
(`waits_for_log`). -/

namespace MetaDesk

namespace Host

/-- The host after waits of so many seconds each. -/
def waited (h : Host) (delays : List Binary64) : Host :=
  delays.foldl (fun h seconds => (Act.sleep seconds h).2) h

theorem waited_concat (h : Host) (delays : List Binary64) (seconds : Binary64) :
    h.waited (delays ++ [seconds]) = (Act.sleep seconds (h.waited delays)).2 :=
  List.foldl_concat _ _ _ _

theorem waited_replicate_succ (h : Host) (seconds : Binary64) (n : ℕ) :
    h.waited (List.replicate (n + 1) seconds) =
      (Act.sleep seconds (h.waited (List.replicate n seconds))).2 := by
  rw [List.replicate_succ', waited_concat]

theorem sleeps_waited (h : Host) (delays : List Binary64) :
    (h.waited delays).sleeps = h.sleeps ++ delays := by
  induction delays generalizing h with
  | nil => exact (List.append_nil _).symm
  | cons seconds delays ih =>
      have hrest := ih (Act.sleep seconds h).2
      have hfirst : (Act.sleep seconds h).2.sleeps = h.sleeps ++ [seconds] := rfl
      rwa [hfirst, List.append_assoc, List.singleton_append] at hrest

end Host

theorem Act.sleep_apply (seconds : Binary64) (h : Host) :
    Act.sleep seconds h = (.ok (), (Act.sleep seconds h).2) := rfl

namespace Compile

/-- Whether the log is there after so many waits. -/
def lookAfter (log : Path) (interval : Binary64) (h : Host) (waits : ℕ) : Except Mishap Bool :=
  (Act.pathExists log (h.waited (List.replicate waits interval))).1

/-- The log is there for the first time after so many waits. -/
structure ComesAfter (log : Path) (interval : Binary64) (h : Host) (n : ℕ) : Prop where
  absent : ∀ i < n, lookAfter log interval h i = .ok false
  there : lookAfter log interval h n = .ok true

/-- How often a log is looked for after the first time. -/
def Patience.most (p : Patience) : ℕ := p.attempts.toNat

/-- The waits for a log that comes during the `n`-th of them. -/
def Patience.delays (p : Patience) (n : ℕ) : List Binary64 :=
  List.replicate (min n p.most) p.interval ++ if 1 ≤ n ∧ n ≤ p.most then [p.settle] else []

variable {p : Patience} {log : Path} {interval : Binary64} {h : Host} {n attempts : ℕ} {m : Mishap}

/-! ### The loop -/

theorem pathExists_eq_lookAfter (log : Path) (interval : Binary64) (h : Host) (k : ℕ) :
    Act.pathExists log (h.waited (List.replicate k interval)) =
      (lookAfter log interval h k, h.waited (List.replicate k interval)) :=
  Prod.ext rfl (Act.Asks.pathExists log).host

/-- Looks that find nothing only take waits. -/
theorem waitFor_of_absent (hn : n ≤ attempts)
    (habsent : ∀ i < n, lookAfter log interval h i = .ok false) (waited : ℕ) :
    waitFor log interval waited attempts h =
      waitFor log interval (waited + n) (attempts - n) (h.waited (List.replicate n interval)) := by
  induction n with
  | zero => rfl
  | succ n ih =>
      have hlook := pathExists_eq_lookAfter log interval h n
      rw [habsent n n.lt_succ_self] at hlook
      have hleft : attempts - n = attempts - (n + 1) + 1 := by omega
      rw [ih (by omega) fun i hi => habsent i (by omega), hleft, waitFor, Act.bind_of_ok hlook,
        Host.waited_replicate_succ]
      exact Act.bind_of_ok (Act.sleep_apply interval _)

/-- The first look that finds the log ends the loop. -/
theorem waitFor_of_comesAfter (hn : n ≤ attempts) (hcomes : ComesAfter log interval h n) :
    waitFor log interval 0 attempts h =
      (.ok (some n), h.waited (List.replicate n interval)) := by
  have hlook := pathExists_eq_lookAfter log interval h n
  rw [hcomes.there] at hlook
  rw [waitFor_of_absent hn hcomes.absent, Nat.zero_add]
  cases attempts - n <;> exact Act.bind_of_ok hlook

theorem waitFor_of_never (habsent : ∀ i ≤ attempts, lookAfter log interval h i = .ok false) :
    waitFor log interval 0 attempts h =
      (.ok none, h.waited (List.replicate attempts interval)) := by
  have hlook := pathExists_eq_lookAfter log interval h attempts
  rw [habsent attempts (Nat.le_refl _)] at hlook
  rw [waitFor_of_absent (Nat.le_refl _) fun i hi => habsent i (Nat.le_of_lt hi), Nat.sub_self]
  exact Act.bind_of_ok hlook

/-- A look that the system does not answer ends it too. -/
theorem waitFor_of_error (hn : n ≤ attempts)
    (habsent : ∀ i < n, lookAfter log interval h i = .ok false)
    (hlook : lookAfter log interval h n = .error m) :
    waitFor log interval 0 attempts h = (.error m, h.waited (List.replicate n interval)) := by
  have hask := pathExists_eq_lookAfter log interval h n
  rw [hlook] at hask
  rw [waitFor_of_absent hn habsent]
  cases attempts - n <;> rw [waitFor, Act.bind_apply, hask]

/-! ### The log -/

theorem awaitLog_of_comesAfter (hn : n ≤ p.most) (hcomes : ComesAfter log p.interval h n)
    {content : Bytes} (hread : (Act.bytesOf log (h.waited (p.delays n))).1 = .ok content) :
    awaitLog p log h =
      (.ok (some (Encoding.decode .utf16 content)), h.waited (p.delays n)) := by
  have hbytes : Act.bytesOf log (h.waited (p.delays n)) = (.ok content, h.waited (p.delays n)) :=
    Prod.ext hread (Act.Asks.ask log Disk.read).host
  have hfound : waitFor log p.interval 0 p.attempts.toNat h =
      (.ok (some n), h.waited (List.replicate n p.interval)) := waitFor_of_comesAfter hn hcomes
  unfold awaitLog
  rw [Act.bind_of_ok hfound]
  unfold Patience.delays at hbytes ⊢
  rw [Nat.min_eq_left hn] at hbytes ⊢
  cases n with
  | zero => exact Act.bind_of_ok hbytes
  | succ n =>
      rw [if_pos ⟨n.succ_pos, hn⟩, Host.waited_concat] at hbytes ⊢
      exact (Act.bind_of_ok (Act.sleep_apply p.settle _)).trans (Act.bind_of_ok hbytes)

theorem awaitLog_of_never (habsent : ∀ i ≤ p.most, lookAfter log p.interval h i = .ok false) :
    awaitLog p log h = (.ok none, h.waited (List.replicate p.most p.interval)) :=
  Act.bind_of_ok (waitFor_of_never habsent)

theorem awaitLog_of_error (hn : n ≤ p.most)
    (habsent : ∀ i < n, lookAfter log p.interval h i = .ok false)
    (hlook : lookAfter log p.interval h n = .error m) :
    awaitLog p log h = (.error m, h.waited (List.replicate n p.interval)) := by
  have hends : waitFor log p.interval 0 p.attempts.toNat h =
      (.error m, h.waited (List.replicate n p.interval)) := waitFor_of_error hn habsent hlook
  unfold awaitLog
  exact Act.bind_of_error _ hends

theorem delays_of_late (hlate : p.most < n) :
    p.delays n = List.replicate p.most p.interval := by
  unfold Patience.delays
  have hnever : ¬ (1 ≤ n ∧ n ≤ p.most) := fun hn => absurd hn.2 (Nat.not_le.mpr hlate)
  rw [Nat.min_eq_right (Nat.le_of_lt hlate), if_neg hnever, List.append_nil]

/-- Waiting for the log gives this result, after these waits and no others. -/
structure Awaits (p : Patience) (log : Path) (h : Host) (result : Except Mishap (Option Text))
    (delays : List Binary64) : Prop where
  run : awaitLog p log h = (result, h.waited delays)
  sleeps : (awaitLog p log h).2.sleeps = h.sleeps ++ delays

theorem Awaits.of_run {result : Except Mishap (Option Text)} {delays : List Binary64}
    (hrun : awaitLog p log h = (result, h.waited delays)) : Awaits p log h result delays :=
  ⟨hrun, by rw [hrun, Host.sleeps_waited]⟩

/-- **A log is waited for until it is there, but not longer than agreed.**  Where the looks tell that
it comes during the `n`-th wait, the waits are `min n N` intervals, and one more for the rest of a log
that came late; there is a text exactly if it came in time, and it is the text of the file after the
last wait.  For a log that never comes the waits are `N` intervals.  A look that the system does not
answer ends the waiting with its error. -/
theorem waits_for_log (p : Patience) (log : Path) (h : Host) :
    (∀ n content, ComesAfter log p.interval h n →
      (n ≤ p.most → (Act.bytesOf log (h.waited (p.delays n))).1 = .ok content) →
      Awaits p log h (.ok (if n ≤ p.most then some (Encoding.decode .utf16 content) else none))
        (p.delays n)) ∧
    ((∀ i, lookAfter log p.interval h i = .ok false) →
      Awaits p log h (.ok none) (List.replicate p.most p.interval)) ∧
    ∀ n ≤ p.most, ∀ m, (∀ i < n, lookAfter log p.interval h i = .ok false) →
      lookAfter log p.interval h n = .error m →
      Awaits p log h (.error m) (List.replicate n p.interval) := by
  refine ⟨fun n content hcomes hread => ?_,
    fun hnever => .of_run (awaitLog_of_never fun i _ => hnever i),
    fun n hn m habsent hlook => .of_run (awaitLog_of_error hn habsent hlook)⟩
  rcases Nat.lt_or_ge p.most n with hlate | hn
  · rw [if_neg (Nat.not_le.mpr hlate), delays_of_late hlate]
    exact .of_run (awaitLog_of_never fun i hi => hcomes.absent i (Nat.lt_of_le_of_lt hi hlate))
  · rw [if_pos hn]
    exact .of_run (awaitLog_of_comesAfter hn hcomes (hread hn))

/-- Where a log is waited for. -/
def lateLog : Path := .ofText "/a.log"

/-- A log that comes during the second wait and grows during the third. -/
def lateHost : Host where
  late := [(2, [(lateLog, [65, 0])]), (3, [(lateLog, [65, 0, 66, 0])])]

/-- It is read when it has grown, also where the second look after the first is the last one. -/
theorem waits_for_log_of_lateHost : Awaits { attempts := 2 } lateLog lateHost (.ok (some "AB"))
    [.ofDecimal false 1 (-1), .ofDecimal false 1 (-1), .ofDecimal false 5 (-2)] := by
  let p : Patience := { attempts := 2 }
  have hcomes : ComesAfter lateLog p.interval lateHost 2 := ⟨by decide +kernel, by decide +kernel⟩
  have hread : (Act.bytesOf lateLog (lateHost.waited (p.delays 2))).1 = .ok [65, 0, 66, 0] := by
    decide +kernel
  have hend := (waits_for_log p lateLog lateHost).1 2 _ hcomes fun _ => hread
  rwa [if_pos (by decide)] at hend

/-! ### Looks that are not answered -/

/-- A log whose name is longer than a name may be. -/
def longNamedLog : Path := ⟨.single, [List.replicate 252 'n' ++ ".log"]⟩

theorem lookAfter_longNamedLog (interval : Binary64) (h : Host) (i : ℕ) :
    lookAfter longNamedLog interval h i = .error (.system ⟨.nameTooLong, longNamedLog.text⟩) := by
  have hnull : Act.hasNull longNamedLog = false := by decide +kernel
  have hlong : Disk.maxName < (Utf8.encode (List.replicate 252 'n' ++ ".log")).length := by
    decide +kernel
  unfold lookAfter Act.pathExists
  rw [if_neg (by rw [hnull]; decide), Act.ask_apply hnull]
  unfold longNamedLog
  rw [Disk.exists?_of_longName rfl hlong]

/-- It is never there, and yet it is not waited for. -/
theorem not_awaits_longNamedLog :
    (∀ i, lookAfter longNamedLog ({} : Patience).interval {} i ≠ .ok true) ∧
      ¬ Awaits {} longNamedLog {} (.ok none)
        (List.replicate ({} : Patience).most ({} : Patience).interval) := by
  constructor
  · intro i
    rw [lookAfter_longNamedLog]
    exact nofun
  · intro hawaits
    have hends := awaitLog_of_error (Nat.zero_le _) nofun
      (lookAfter_longNamedLog ({} : Patience).interval {} 0)
    rw [hawaits.run] at hends
    cases hends

end Compile

end MetaDesk
