import AdvanceUnix.ChildOwnership
import AdvanceUnix.SharedMemory
import AdvanceUnix.DescriptorSend
import AdvanceUnix.NamedFifo
import AdvanceUnix.SysvQueue

namespace AdvanceUnix

open CallTree ChildProcess

/-!
# Signalling only an owned child

The four parents that may kill their child.  Three of them never signal a pid
that is gone: 09 does not wait before it kills, 25 and 26 remember in
`child_reaped` that a wait has ended the ownership.  08 kills after a failed
wait whatever its error was.
-/

namespace ChildProcess

/-- The monitor without excuses. -/
abbrev strict : Monitor Answer Ownership :=
  ownershipMonitor fun _ => False

variable {excused : Ownership → Prop} {ownership : Ownership}

/-- Waiting ends with the first answer other than `EINTR`. -/
theorem waitForChild_ensures
    (child : Pid) :
    (waitForChild child).Ensures (ownershipMonitor excused)
      (fun result after =>
        after = ownership.waited child result ∧ result ≠ .error .eintr)
      ownership := by
  refine retryEintr_ensures (fun current => current = ownership) ?_ rfl
  rintro current rfl
  refine .request trivial ?_
  intro answer _
  cases answer with
  | ok status => exact ⟨rfl, nofun⟩
  | error error =>
      refine ⟨fun interrupted => if_pos interrupted, fun permanent => ?_⟩
      exact ⟨if_neg permanent, fun same => permanent (Except.error.inj same)⟩

/-- A wait that failed otherwise than with `ECHILD` ends no ownership. -/
theorem gone_waited_error
    {child : Pid}
    {error : Errno}
    (notLost : error ≠ .echild) :
    (ownership.waited child (.error error)).gone = ownership.gone :=
  if_neg notLost

/-- While nothing is gone every pid may be signalled. -/
theorem kill_ensures
    {child : Pid}
    {signal : Signal}
    (nothingGone : ownership.gone = []) :
    (kill child signal).Ensures (ownershipMonitor excused)
      (fun _ after => after.gone = []) ownership := by
  refine .request ?_ fun _ _ => nothingGone
  intro member
  rw [nothingGone] at member
  cases member

/-- Waiting signals nobody. -/
theorem waitForChild_quiet
    (child : Pid) :
    (waitForChild child).Ensures (ownershipMonitor excused)
      (fun _ _ => True) ownership :=
  (waitForChild_ensures child).mono fun _ _ _ => trivial

/-- A child is ended before its pid is gone. -/
theorem endChild_ensures
    {child : Pid}
    {result : Exit}
    (nothingGone : ownership.gone = []) :
    (endChild child result).Ensures (ownershipMonitor excused)
      (fun _ _ => True) ownership := by
  refine .bind (Program.Ensures.mono
    (release_keeps (fun after => after.gone = []) (fun _ => nothingGone)
      fun _ => kill_ensures nothingGone) ?_)
  intro released after _
  refine .bind ((waitForChild_quiet child).mono ?_)
  intro answer later _
  cases answer with
  | error error => exact .pure trivial
  | ok status => exact .pure trivial

/-- The cleanup signals a child only while nothing is gone. -/
theorem cleanupChild_ensures
    {child : Option Pid}
    {childReaped : Bool}
    {result : Exit}
    (owned : childReaped = false → ownership.gone = []) :
    (cleanupChild child childReaped result).Ensures
      (ownershipMonitor excused) (fun _ _ => True) ownership := by
  cases child with
  | none => exact .pure trivial
  | some child =>
      cases childReaped with
      | true => exact .pure trivial
      | false => exact endChild_ensures (owned rfl)

/-- After a failed wait the flag says whether the pid is gone. -/
theorem owned_after_wait
    {child : Pid}
    {error : Errno}
    (nothingGone : ownership.gone = [])
    (notReaped : decide (error = .echild) = false) :
    (ownership.waited child (.error error)).gone = [] := by
  rw [gone_waited_error (of_decide_eq_false notReaped), nothingGone]

end ChildProcess

namespace Fifo

variable {ownership : Ownership}

/-- Reading signals nobody. -/
theorem readExactWithPoll_ensures
    {descriptor : Fd}
    {size : Nat} :
    (readExactWithPoll descriptor size).Ensures strict
      (fun _ _ => True) ownership := by
  refine .iterate (fun _ _ => True) ?_ trivial
  intro used current _
  split
  · refine .bind (Program.Ensures.mono (retryEintr_unchanged
      (.request trivial fun _ _ => rfl)) ?_)
    rintro polled after rfl
    rcases polled with error | timedOut | revents
    · exact .pure trivial
    · exact .pure trivial
    dsimp only
    split
    · exact .pure trivial
    split
    · exact .pure trivial
    refine .bind (Program.Ensures.mono (retryEintr_unchanged
      (.request trivial fun _ _ => rfl)) ?_)
    rintro bytes after rfl
    refine .pure ?_
    cases readAnswered used bytes with
    | again next => trivial
    | done result => trivial
  · exact .pure trivial

/-- The cleanup signals a child only while nothing is gone. -/
theorem cleanup_ensures
    {held : Held}
    {result : Exit}
    (owned : held.childReaped = false → ownership.gone = []) :
    (cleanup held result).Ensures strict (fun _ _ => True) ownership := by
  refine .bind ((cleanupChild_ensures owned).mono ?_)
  intro first after _
  refine .bind (Program.Ensures.mono
    (release_keeps (fun _ => True) (fun _ => trivial) fun _ =>
      .request trivial fun _ _ => trivial) ?_)
  intro second after _
  refine .bind (Program.Ensures.mono
    (release_keeps (fun _ => True) (fun _ => trivial) fun _ =>
      .request trivial fun _ _ => trivial) ?_)
  intro third after _
  exact release_keeps (fun _ => True) (fun _ => trivial) fun _ =>
    .request trivial fun _ _ => trivial

/-- The parent of 25 signals only a child that it owns. -/
theorem parent_ensures
    {held : Held}
    {child : Pid}
    (nothingGone : ownership.gone = []) :
    (parent held child).Ensures strict (fun _ _ => True) ownership := by
  refine .bind ((waitForChild_ensures child).mono ?_)
  rintro answer after ⟨rfl, -⟩
  cases answer with
  | error error => exact cleanup_ensures (owned_after_wait nothingGone)
  | ok status =>
  dsimp only
  split
  · refine .bind (readExactWithPoll_ensures.mono ?_)
    intro received later _
    cases received with
    | error error => exact cleanup_ensures nofun
    | ok bytes => exact cleanup_ensures nofun
  · exact cleanup_ensures nofun

/-- `main` of 25 signals only a child that it owns. -/
theorem main_ensures :
    main.Ensures strict (fun _ _ => True) .start := by
  have gaveUp :
      ∀ {held : Held},
        (cleanup held .failure).Ensures strict (fun _ _ => True) .start :=
    cleanup_ensures fun _ => rfl
  unfold main
  refine .request_bind trivial fun directory _ => ?_
  cases directory with
  | error error => exact gaveUp
  | ok directory =>
  refine .request_bind trivial fun created _ => ?_
  cases created with
  | error error => exact gaveUp
  | ok done =>
  refine .request_bind trivial fun information _ => ?_
  rcases information with error | isFifo | isFifo
  · exact gaveUp
  · exact gaveUp
  refine .request_bind trivial fun opened _ => ?_
  cases opened with
  | error error => exact gaveUp
  | ok readDescriptor =>
  refine .request_bind trivial fun forked _ => ?_
  cases forked with
  | error error => exact gaveUp
  | ok child => exact parent_ensures rfl

end Fifo

namespace SysvMessageQueue

variable {ownership : Ownership}

/-- The cleanup signals a child only while nothing is gone. -/
theorem cleanup_ensures
    {held : Held}
    {result : Exit}
    (owned : held.childReaped = false → ownership.gone = []) :
    (cleanup held result).Ensures strict
      (fun _ _ => True) ownership := by
  refine .bind (Program.Ensures.mono
    (release_keeps
      (fun after => held.childReaped = false → after.gone = [])
      (fun _ => owned) fun _ => .request trivial fun _ _ => owned) ?_)
  intro removed after stillOwned
  exact cleanupChild_ensures stillOwned

/-- Receiving comes after the child was reaped. -/
theorem receive_ensures
    {text : List UInt8}
    {held : Held}
    (reaped : held.childReaped = true) :
    (receive text held).Ensures strict
      (fun _ _ => True) ownership := by
  have finish :
      ∀ {result : Exit} {current : Ownership},
        (cleanup held result).Ensures strict
          (fun _ _ => True) current :=
    cleanup_ensures fun notReaped => by
      rw [reaped] at notReaped
      cases notReaped
  unfold receive
  refine .request_bind trivial fun queued _ => ?_
  split
  · refine .bind (Program.Ensures.mono (retryEintr_unchanged
      (.request trivial fun _ _ => rfl)) ?_)
    rintro received after rfl
    cases received with
    | error error => exact finish
    | ok bytes =>
    dsimp only
    split
    · refine .request_bind trivial fun left _ => ?_
      split
      · exact finish
      · exact finish
    · exact finish
  · exact finish

/-- The parent of 26 signals only a child that it owns. -/
theorem parent_ensures
    {held : Held}
    {child : Pid}
    (nothingGone : ownership.gone = []) :
    (parent held child).Ensures strict
      (fun _ _ => True) ownership := by
  refine .bind ((waitForChild_ensures child).mono ?_)
  rintro answer after ⟨rfl, -⟩
  cases answer with
  | error error => exact cleanup_ensures (owned_after_wait nothingGone)
  | ok status =>
  dsimp only
  split
  · exact receive_ensures rfl
  · exact cleanup_ensures nofun

/-- `main` of 26 signals only a child that it owns. -/
theorem main_ensures :
    main.Ensures strict (fun _ _ => True)
      .start := by
  unfold main
  refine .request_bind trivial fun opened _ => ?_
  cases opened with
  | error error => exact cleanup_ensures fun _ => rfl
  | ok queueId =>
  refine .request_bind trivial fun forked _ => ?_
  cases forked with
  | error error => exact cleanup_ensures fun _ => rfl
  | ok child => exact parent_ensures rfl

end SysvMessageQueue

namespace FdPassing

variable {ownership : Ownership}

/-- A failure path kills its child before it waits. -/
theorem fail_ensures
    {child : Pid}
    (nothingGone : ownership.gone = []) :
    (fail child).Ensures strict (fun _ _ => True) ownership := by
  have killed :
      (retryEintr (kill child .sigkill)).Ensures strict
        (fun _ after => after.gone = []) ownership := by
    refine retryEintr_ensures (fun after => after.gone = []) ?_ nothingGone
    intro current holds
    refine (kill_ensures holds).mono ?_
    intro answer after stillHolds
    cases answer with
    | error error => exact ⟨fun _ => stillHolds, fun _ => stillHolds⟩
    | ok done => exact stillHolds
  refine .bind (.bind (killed.mono ?_))
  intro answer after _
  refine .bind ((waitForChild_quiet child).mono ?_)
  intro waited later _
  exact .pure (.pure trivial)

/-- Sending signals nobody. -/
theorem sendDescriptor_quiet
    {socketFd descriptor : Fd} :
    (sendDescriptor socketFd descriptor).Ensures strict
      (fun _ after => after = ownership) ownership := by
  refine .bind (Program.Ensures.mono (retryEintr_unchanged
    (.request trivial fun _ _ => rfl)) ?_)
  rintro sent after rfl
  cases sent with
  | error error => exact .pure rfl
  | ok count => exact .pure rfl

/-- The parent of 09 signals only a child that it owns. -/
theorem parent_ensures
    {payload : List UInt8}
    {channels : Fd × Fd}
    {child : Pid}
    (nothingGone : ownership.gone = []) :
    (parent payload channels child).Ensures strict (fun _ _ => True)
      ownership := by
  unfold parent
  refine .request_bind trivial fun _ _ => ?_
  refine .request_bind trivial fun opened _ => ?_
  rcases opened with error | ⟨readEnd, writeEnd⟩
  · exact .request_bind trivial fun _ _ => fail_ensures nothingGone
  refine .bind ((writeLoop_unchanged
    fun _ => .request trivial fun _ _ => rfl).mono ?_)
  rintro written after rfl
  cases written with
  | error error =>
      refine .request_bind trivial fun _ _ => ?_
      refine .request_bind trivial fun _ _ => ?_
      exact .request_bind trivial fun _ _ => fail_ensures nothingGone
  | ok done =>
  refine .request_bind trivial fun _ _ => ?_
  refine .bind (sendDescriptor_quiet.mono ?_)
  rintro sent after rfl
  cases sent with
  | error error =>
      refine .request_bind trivial fun _ _ => ?_
      exact .request_bind trivial fun _ _ => fail_ensures nothingGone
  | ok done =>
  refine .request_bind trivial fun _ _ => ?_
  refine .request_bind trivial fun _ _ => ?_
  refine .bind ((waitForChild_quiet child).mono ?_)
  intro answer later _
  cases answer with
  | error error => exact .pure trivial
  | ok status => exact .pure trivial

/-- `main` of 09 signals only a child that it owns. -/
theorem main_ensures :
    main.Ensures strict (fun _ _ => True) .start := by
  unfold main
  refine .request_bind trivial fun channels _ => ?_
  cases channels with
  | error error => exact .pure trivial
  | ok channels =>
  refine .request_bind trivial fun forked _ => ?_
  cases forked with
  | error error =>
      refine .request_bind trivial fun _ _ => ?_
      exact .request_bind trivial fun _ _ => .pure trivial
  | ok child => exact parent_ensures rfl

end FdPassing

namespace SharedMemory

variable {ownership : Ownership}

/-- 08 excuses a kill after a wait that found no child. -/
abbrev lenient : Monitor Answer Ownership :=
  ownershipMonitor Ownership.WaitLost

/-- A lost wait was followed by a kill. -/
def LostThenKilled (ownership : Ownership) : Prop :=
  ownership.WaitLost → ownership.strayKill = true

/-- The release on the failure paths changes nothing. -/
theorem giveUp_ensures
    (holds : LostThenKilled ownership) :
    giveUp.Ensures lenient (fun _ => LostThenKilled) ownership := by
  refine .request_bind trivial fun _ _ => ?_
  exact .request_bind trivial fun _ _ => .pure holds

/-- The verification changes nothing. -/
theorem verify_ensures
    {status : WaitStatus}
    (holds : LostThenKilled ownership) :
    (verify status).Ensures lenient (fun _ => LostThenKilled)
      ownership := by
  refine .request_bind trivial fun output _ => ?_
  refine .request_bind trivial fun destroyed _ => ?_
  cases destroyed with
  | error error =>
      exact .request_bind trivial fun _ _ => .pure holds
  | ok done =>
  refine .request_bind trivial fun unmapped _ => ?_
  cases unmapped with
  | error error => exact .pure holds
  | ok done => exact .pure holds

/-- `terminate_and_reap` kills and then waits. -/
theorem terminateAndReap_ensures
    {child : Pid}
    (excused : child ∈ ownership.gone → ownership.WaitLost)
    (holds :
      ∀ answer,
        LostThenKilled ((ownership.killed child).waited child answer)) :
    (terminateAndReap child).Ensures lenient
      (fun _ => LostThenKilled) ownership := by
  refine .request_bind excused fun killed _ => ?_
  refine .bind ((waitForChild_ensures child).mono ?_)
  rintro answer after ⟨rfl, -⟩
  exact .pure (holds answer)

/-- A failed wait is followed by a kill whatever its error was. -/
theorem parent_ensures (child : Pid) :
    (parent child).Ensures lenient (fun _ => LostThenKilled) .start := by
  unfold parent
  refine .request_bind trivial fun posted _ => ?_
  cases posted with
  | error error =>
      refine .bind ((terminateAndReap_ensures ?_ ?_).mono ?_)
      · intro member
        cases member
      · intro answer lost
        cases lost.1
      · intro _ after holds
        exact giveUp_ensures holds
  | ok done =>
  refine .bind ((waitForChild_ensures child).mono ?_)
  rintro answer after ⟨rfl, -⟩
  cases answer with
  | ok status =>
      refine verify_ensures ?_
      intro lost
      cases lost.2
  | error error =>
      refine .bind ((terminateAndReap_ensures ?_ ?_).mono ?_)
      · intro member
        refine ⟨rfl, ?_⟩
        by_cases lost : error = .echild
        · rw [lost]
          rfl
        · rw [gone_waited_error lost] at member
          cases member
      · intro answer lost
        obtain rfl : error = .echild :=
          Except.error.inj (Option.some.inj lost.2)
        simp [Ownership.waited, Ownership.killed]
      · intro _ after holds
        exact giveUp_ensures holds

/-- `main` of 08 signals a gone pid only after a lost wait. -/
theorem main_ensures :
    main.Ensures lenient (fun _ => LostThenKilled) .start := by
  have notLost : LostThenKilled .start := fun lost => by cases lost.1
  unfold main
  refine .request_bind trivial fun process _ => ?_
  refine .request_bind trivial fun opened _ => ?_
  cases opened with
  | error error => exact .pure notLost
  | ok descriptor =>
  refine .request_bind trivial fun sized _ => ?_
  cases sized with
  | error error =>
      refine .request_bind trivial fun _ _ => ?_
      exact .request_bind trivial fun _ _ => .pure notLost
  | ok done =>
  refine .request_bind trivial fun mapped _ => ?_
  cases mapped with
  | error error =>
      refine .request_bind trivial fun _ _ => ?_
      exact .request_bind trivial fun _ _ => .pure notLost
  | ok done =>
  refine .request_bind trivial fun _ _ => ?_
  refine .request_bind trivial fun unlinked _ => ?_
  cases unlinked with
  | error error => exact .request_bind trivial fun _ _ => .pure notLost
  | ok done =>
  refine .request_bind trivial fun initialized _ => ?_
  cases initialized with
  | error error => exact .request_bind trivial fun _ _ => .pure notLost
  | ok done =>
  refine .request_bind trivial fun forked _ => ?_
  cases forked with
  | error error => exact giveUp_ensures notLost
  | ok child => exact parent_ensures child

end SharedMemory

/-- The programs whose parent may kill its child. -/
inductive Killer where
  | sharedMemory
  | fdPassing
  | fifo
  | sysvMessageQueue
  deriving DecidableEq, Repr

namespace Killer

/-- The `main` of each. -/
def main : Killer → Sys Exit
  | .sharedMemory => SharedMemory.main
  | .fdPassing => FdPassing.main
  | .fifo => Fifo.main
  | .sysvMessageQueue => SysvMessageQueue.main

/-- The answers under which a program signals an owned child only. -/
def Careful (program : Killer) (events : Events) : Prop :=
  program = .sharedMemory → ¬ WaitLost events

/-- Without excuses a run signals an owned child only. -/
theorem signalsOwnedOnly_of_strict
    {program : Sys Exit}
    (ensures : program.Ensures strict (fun _ _ => True) .start)
    {events : Events}
    {outcome : Option Exit}
    (run : program.Run events outcome) :
    SignalsOwnedOnly events :=
  .of_safe (ensures.sound run
    (Monitor.legal_of_forall _ (fun _ _ => True) (fun _ _ _ _ => trivial) _
      fun _ _ => trivial)).1

end Killer

/--
The programs signal only a child that they own, with the one exception of 08
when `sem_post` has succeeded and the first `waitpid` that was not interrupted
fails with `ECHILD`.  Every ended run of 08 with these answers breaks the
rule.
-/
theorem signals_owned_child
    {program : Killer}
    {events : Events}
    {outcome : Option Exit}
    (run : program.main.Run events outcome) :
    (program.Careful events → SignalsOwnedOnly events) ∧
      ∀ exit,
        outcome = some exit →
        (SignalsOwnedOnly events ↔ program.Careful events) := by
  cases program with
  | fdPassing =>
      have owned := Killer.signalsOwnedOnly_of_strict
        FdPassing.main_ensures run
      exact ⟨fun _ => owned, fun _ _ => iff_of_true owned nofun⟩
  | fifo =>
      have owned := Killer.signalsOwnedOnly_of_strict
        Fifo.main_ensures run
      exact ⟨fun _ => owned, fun _ _ => iff_of_true owned nofun⟩
  | sysvMessageQueue =>
      have owned := Killer.signalsOwnedOnly_of_strict
        SysvMessageQueue.main_ensures run
      exact ⟨fun _ => owned, fun _ _ => iff_of_true owned nofun⟩
  | sharedMemory =>
      have legal :
          SharedMemory.lenient.Legal .start events :=
        Monitor.legal_of_forall _ (fun _ _ => True)
          (fun _ _ _ _ => trivial) _ fun _ _ => trivial
      obtain ⟨safe, ended⟩ := SharedMemory.main_ensures.sound run legal
      have careful :
          Killer.Careful .sharedMemory events → SignalsOwnedOnly events :=
        fun notLost => .of_not_waitLost safe (notLost rfl)
      refine ⟨careful, fun exit returned => ⟨?_, careful⟩⟩
      intro owned _ lost
      have stray := ended exit returned ((waitLost_iff events).mpr lost)
      exact not_signalsOwnedOnly stray owned

/-- The process 100 and its child 101. -/
def child101 : Pid := ⟨101, Nat.succ_pos 100⟩

/-- The events of 08 up to `sem_post`. -/
def untilPost (posted : Result Unit) : Events :=
  [⟨.getpid, ⟨100, Nat.succ_pos 99⟩⟩,
    ⟨.shmOpen ("/advance_unix_shm_" ++ toString 100), .ok 3⟩,
    ⟨.ftruncate 3, .ok ()⟩, ⟨.mmap 3, .ok ()⟩, ⟨.close 3, .ok ()⟩,
    ⟨.shmUnlink ("/advance_unix_shm_" ++ toString 100), .ok ()⟩,
    ⟨.semInit, .ok ()⟩, ⟨.fork, .ok child101⟩, ⟨.semPost, posted⟩]

/-- 08 fails to post the semaphore, kills the child and reaps it. -/
def postFails : Events :=
  untilPost (.error .einval) ++
    [⟨.kill child101 .sigkill, .ok ()⟩,
      ⟨.waitpid child101, .error .eintr⟩,
      ⟨.waitpid child101, .ok (.signaled 9)⟩, ⟨.semDestroy, .ok ()⟩,
      ⟨.munmap, .ok ()⟩]

/-- The ownership theorem where the child is killed before it is reaped. -/
theorem signals_owned_child_postFails : SignalsOwnedOnly postFails :=
  (@signals_owned_child .sharedMemory postFails (some .failure)
    ⟨2, .call _ (.call _ (.call _ (.call _ (.call _ (.call _ (.call _
      (.call _ (.call _ (.call _ (.call _ (.call _ (.call _ (.call _
        (.ret _))))))))))))))⟩).1
    (fun _ lost => by simp [WaitLost, postFails, untilPost] at lost)

/-- `SIGCHLD` is ignored: the child is gone when 08 waits for it. -/
def childGone : Events :=
  untilPost (.ok ()) ++
    [⟨.waitpid child101, .error .echild⟩,
      ⟨.kill child101 .sigkill, .error .esrch⟩]

/-- Not every run of the programs signals an owned child only. -/
theorem not_signals_owned_child :
    ¬ ∀ (program : Killer) (events : Events) (outcome : Option Exit),
      program.main.Run events outcome → SignalsOwnedOnly events := by
  intro always
  have run : Killer.sharedMemory.main.Run childGone none :=
    ⟨2, .call _ (.call _ (.call _ (.call _ (.call _ (.call _ (.call _
      (.call _ (.call _ (.call _ (.call _ (.stop _)))))))))))⟩
  have owned := always .sharedMemory childGone none run
  exact owned (untilPost (.ok ()) ++ [⟨.waitpid child101, .error .echild⟩])
    child101 .sigkill (.error .esrch) [] rfl
    ⟨.waitpid child101, .error .echild⟩ (by simp) ⟨rfl, rfl⟩

end AdvanceUnix
