import AdvanceUnix.SharedProtocol
import Mathlib.Logic.Basic

namespace AdvanceUnix.SharedMemory.Handover

open CallTree ChildProcess Processes
open FdPassing.Handover (ChildLife)

/-!
# What comes out of the shared memory

The contract of the two processes, read off in every state that they reach:
no two accesses to the structure meet, the product is there when the child has
exited with 0, and the parent waits for nobody who waits for it.
-/

variable {childPid : Pid} {state : State}

/-- A call of the parent that has failed. -/
def failsIn : Event Answers → Bool
  | ⟨.inl call, answer⟩ => Fails call answer
  | ⟨.inr _, _⟩ => false

/-- A post that has succeeded. -/
def isPost : Event Answers → Bool
  | ⟨.inl .semPost, answer⟩ => (answer : Result Unit).toOption.isSome
  | _ => false

/-- A wait for the child that has failed for good. -/
def isLostWait : Event Answers → Bool
  | ⟨.inl (.waitpid child), answer⟩ => Fails (.waitpid child) answer
  | _ => false

/-- What an answered call has loaded. -/
def loadedBy : Event Answers → List Int
  | ⟨.inl .loadOutput, value⟩ => [(value : Int)]
  | _ => []

/-- An access of the child to the numbers. -/
def Accesses : Request → Prop
  | .inr .loadInput => True
  | .inr (.storeOutput _) => True
  | _ => False

/-- An interrupted call is made again. -/
def Interrupted : (request : Request) → Answers request → Prop
  | .inr .semWait, answer => (answer : Result Unit) = .error .eintr
  | _, _ => False

/-- The child can go on, or this unrolling of its program has ended. -/
def ChildProceeds (childPid : Pid) (state : State) : Prop :=
  state.rest .child = .cut ∨
    ∃ request next answer after,
      state.rest .child = .call request next ∧
        Answered childPid state.kernel .child request answer after ∧
        ¬ Interrupted request answer

/-- The hand-over in a state that was reached. -/
structure SharedHandover (childPid : Pid) (state : State) : Prop where
  handedOver :
    ∀ event ∈ state.events .child,
      Accesses event.call → Occurs isPost (state.events .parent)
  handedBack :
    ∀ next,
      state.rest .parent = .call (.inl .loadOutput) next →
      state.kernel.life ≠ .running
  kept :
    ∀ request next,
      state.rest .parent = .call (.inl request) next →
      request = .semDestroy ∨ request = .munmap →
      state.kernel.life ≠ .running ∨
        Occurs isLostWait (state.events .parent)
  product :
    state.kernel.life = .ended (.exited 0) → state.kernel.output = 42
  untouched :
    ∀ code,
      state.kernel.life = .ended (.exited code) →
      code ≠ 0 →
      state.kernel.output = 0
  loaded :
    ∀ value : Int,
      ⟨.inl .loadOutput, value⟩ ∈ state.events .parent →
      value = state.kernel.output
  waits :
    ∀ child next,
      state.rest .parent = .call (.inl (.waitpid child)) next →
      (state.kernel.life = .running → ChildProceeds childPid state) ∧
        ∀ status,
          state.kernel.life = .ended status →
          Answered childPid state.kernel .parent (.inl (.waitpid child))
            (.ok status) state.kernel
  verdict :
    ∀ result,
      state.rest .parent = .ret result →
      (result = .success ↔
        state.kernel.life = .ended (.exited 0) ∧
          ¬ Occurs failsIn (state.events .parent))
  success :
    state.rest .parent = .ret .success →
    state.kernel.output = 42 ∧ Occurs isPost (state.events .parent)

/-- Whether the parent has posted is on its record. -/
theorem posted_after (events : List (Event Answers)) :
    ((monitor childPid .parent).after {} events).posted = true ↔
      Occurs isPost events := by
  have flagged :=
    (monitor childPid .parent).flagged Posting.posted isPost
      (fun {posting request answer} => ?_) {} events
  · exact flagged.trans (or_iff_right nofun)
  · cases request with
    | inl call =>
        cases call with
        | semPost => rfl
        | _ => exact (Bool.or_false _).symm
    | inr call => exact (Bool.or_false _).symm

/-- So is whether it has lost its child. -/
theorem waitFailed_after (events : List (Event Answers)) :
    ((monitor childPid .parent).after {} events).waitFailed = true ↔
      Occurs isLostWait events := by
  have flagged :=
    (monitor childPid .parent).flagged Posting.waitFailed isLostWait
      (fun {posting request answer} => ?_) {} events
  · exact flagged.trans (or_iff_right nofun)
  · cases request with
    | inl call =>
        cases call with
        | waitpid child => rfl
        | _ => exact (Bool.or_false _).symm
    | inr call => exact (Bool.or_false _).symm

/-- And whether something has failed. -/
theorem failed_after (events : List (Event Answers)) :
    ((monitor childPid .parent).after {} events).failed = true ↔
      Occurs failsIn events := by
  have flagged :=
    (monitor childPid .parent).flagged Posting.failed failsIn
      (fun {posting request answer} => ?_) {} events
  · exact flagged.trans (or_iff_right nofun)
  · cases request with
    | inl call =>
        cases call with
        | kill child signal => exact (Bool.or_false _).symm
        | loadOutput => exact (Bool.or_false _).symm
        | _ => rfl
    | inr call => exact (Bool.or_false _).symm

/-- A child that has waited once has done so ever since. -/
theorem waited_stays
    {computing : Computing}
    {events : List (Event Answers)}
    (waited : computing.waited = true) :
    ((monitor childPid .child).after computing events).waited = true := by
  induction events generalizing computing with
  | nil => exact waited
  | cons event rest inductionHypothesis =>
      apply inductionHypothesis
      obtain ⟨request, answer⟩ := event
      cases request with
      | inl call => cases call <;> exact waited
      | inr call =>
          cases call with
          | semWait => exact Bool.or_eq_true_iff.mpr (.inl waited)
          | loadInput => exact waited
          | storeOutput value => exact waited

/-- What the parent has loaded is on its record. -/
theorem loaded_after (events : List (Event Answers)) :
    ((monitor childPid .parent).after {} events).loaded =
      events.flatMap loadedBy := by
  have collected :=
    (monitor childPid .parent).collected Posting.loaded loadedBy
      (fun {posting request answer} => ?_) {} events
  · exact collected
  · cases request with
    | inl call =>
        cases call with
        | loadOutput => rfl
        | _ => exact (List.append_nil _).symm
    | inr call => exact (List.append_nil _).symm

/-- The structure is handed over before the child uses it. -/
theorem Contract.handedOver
    (contract : Contract childPid state)
    {event : Event Answers}
    (member : event ∈ state.events .child)
    (accesses : Accesses event.call) :
    Occurs isPost (state.events .parent) := by
  have safe := contract.history .child
  obtain ⟨before, later, split⟩ := List.append_of_mem member
  rw [split] at safe
  have here := (monitor childPid .child).safe_at safe
  have waited :
      ((monitor childPid .child).after {} before).waited = true := by
    obtain ⟨request, answer⟩ := event
    cases request with
    | inl call => exact accesses.elim
    | inr call =>
        cases call with
        | semWait => exact accesses.elim
        | loadInput => exact here
        | storeOutput value => exact here.1
  have waitedStill :
      (watched (monitor childPid) watchStart state.events .child).waited =
        true := by
    rw [watched, split, Monitor.after_append]
    exact waited_stays waited
  have tokens := contract.holds.tokens
  rw [waitedStill] at tokens
  have posted :
      (watched (monitor childPid) watchStart state.events .parent).posted =
        true := by
    by_contra unposted
    rw [(Bool.not_eq_true _).mp unposted] at tokens
    exact Nat.succ_ne_zero _ tokens
  exact (posted_after _).mp posted

/-- The child runs on while the parent waits for it. -/
theorem Contract.childProceeds
    (contract : Contract childPid state)
    (running : state.kernel.life = .running)
    (posted :
      (watched (monitor childPid) watchStart state.events .parent).posted =
        true) :
    ChildProceeds childPid state := by
  cases position : state.rest .child with
  | ret value =>
      exact (contract.holds.exited (contract.returned position)
        running).elim
  | cut => exact .inl position
  | call request next =>
      refine .inr ?_
      have safe := contract.safe position
      cases request with
      | inl call =>
          cases call with
          | exit status =>
              exact ⟨_, next, _, _, position, .exit running, id⟩
          | munmap =>
              exact ⟨_, next, _, _, position,
                .childUnmaps running (.ok ()), id⟩
          | _ => exact safe.elim
      | inr call =>
          cases call with
          | semWait =>
              have tokens := contract.holds.tokens
              have unwaited :
                  (watched (monitor childPid) watchStart state.events
                      .child).waited = false := safe
              rw [posted, unwaited] at tokens
              exact ⟨_, next, _, _, position, .semWait running tokens,
                nofun⟩
          | loadInput =>
              exact ⟨_, next, _, _, position, .loadInput running, id⟩
          | storeOutput value =>
              exact ⟨_, next, _, _, position, .storeOutput running, id⟩

/--
Whatever the schedule: the semaphore and the end of the child keep the accesses
to the structure apart, neither process waits for the other for good, and the
parent succeeds exactly if the child has exited with 0 and nothing has failed.
-/
theorem shared_handover
    {fuel : Nat}
    (reaches : Reaches (rules childPid) (start childPid fuel) state) :
    SharedHandover childPid state := by
  have contract := Contract.reaches reaches
  have joint := contract.holds
  have verdict (result : Exit) (position : state.rest .parent = .ret result) :
      result = .success ↔
        state.kernel.life = .ended (.exited 0) ∧
          ¬ Occurs failsIn (state.events .parent) := by
    have returned : Returned result _ := contract.returned position
    rw [← failed_after, Bool.not_eq_true]
    constructor
    · intro success
      obtain ⟨reaped, fine⟩ := returned.verdict.mp success
      exact ⟨joint.reaped _ reaped, fine⟩
    · rintro ⟨exited, fine⟩
      obtain ⟨status, reaped⟩ :=
        Option.ne_none_iff_exists'.mp (returned.reaped fine)
      obtain rfl : status = .exited 0 :=
        ChildLife.ended.inj ((joint.reaped status reaped).symm.trans exited)
      exact returned.verdict.mpr ⟨reaped, fine⟩
  have product (exited : state.kernel.life = .ended (.exited 0)) :
      state.kernel.output = 42 :=
    joint.output.trans (if_pos ((joint.exitCode 0 exited).mp rfl))
  constructor
  case handedOver => exact fun event => contract.handedOver
  case handedBack =>
    intro next position
    obtain ⟨status, reaped⟩ :=
      Option.ne_none_iff_exists'.mp (contract.safe position)
    exact joint.reaped status reaped ▸ nofun
  case kept =>
    intro request next position release
    have settled :
        (watched (monitor childPid) watchStart state.events
          .parent).Settled := by
      rcases release with rfl | rfl
      · exact contract.safe position
      · exact contract.safe position
    rcases settled with isReaped | lost
    · obtain ⟨status, reaped⟩ := Option.ne_none_iff_exists'.mp isReaped
      exact .inl (joint.reaped status reaped ▸ nofun)
    · exact .inr ((waitFailed_after _).mp lost)
  case product => exact product
  case untouched =>
    intro code exited nonzero
    refine joint.output.trans (if_neg fun stored => nonzero ?_)
    exact (joint.exitCode code exited).mpr stored
  case loaded =>
    intro value member
    have recorded :
        (watched (monitor childPid) watchStart state.events
          .parent).loaded = (state.events .parent).flatMap loadedBy :=
      loaded_after _
    refine (joint.loaded value ?_).1
    rw [recorded]
    exact List.mem_flatMap.mpr ⟨_, member, List.mem_singleton_self _⟩
  case waits =>
    intro child next position
    obtain ⟨rfl, _, woken⟩ := contract.safe position
    refine ⟨fun running => ?_, fun status ended => .wait ended⟩
    rcases woken with posted | signalled
    · exact contract.childProceeds running posted
    · exact (joint.signalled signalled running).elim
  case verdict => exact verdict
  case success =>
    intro position
    have returned : Returned .success _ := contract.returned position
    exact ⟨product ((verdict .success position).mp rfl).1,
      (posted_after _).mp (returned.posted rfl)⟩

/-- The process 618. -/
def someChild : Pid := ⟨618, Nat.succ_pos 617⟩

/-- The child waits before the parent posts, and is interrupted once. -/
theorem shared_handover_interrupted :
    ∃ state,
      Reaches (rules someChild) (start someChild 2) state ∧
        state.rest .parent = .ret .success ∧
        SharedHandover someChild state := by
  have start :
      Reaches (rules someChild) (start someChild 2) (start someChild 2) :=
    .refl
  have interrupted :=
    start.call .child rfl (.error .eintr) (.semWaitFailed rfl .eintr)
  have posted := interrupted.call .parent rfl (.ok ()) .post
  have woken := posted.call .child rfl (.ok ()) (.semWait rfl rfl)
  have read := woken.call .child rfl (21 : Int) (.loadInput rfl)
  have stored := read.call .child rfl () (.storeOutput rfl)
  have unmapped := stored.call .child rfl (.ok ()) (.childUnmaps rfl (.ok ()))
  have exited := unmapped.call .child rfl () (.exit rfl)
  have reaped := exited.call .parent rfl (.ok (.exited 0)) (.wait rfl)
  have loaded := reaped.call .parent rfl (42 : Int) .loadOutput
  have destroyed :=
    loaded.call .parent rfl (.ok ()) (.semDestroy (.ok ()))
  have released :=
    destroyed.call .parent rfl (.ok ()) (.parentUnmaps (.ok ()))
  exact ⟨_, released, rfl, shared_handover released⟩

end AdvanceUnix.SharedMemory.Handover
