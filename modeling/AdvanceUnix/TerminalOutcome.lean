import AdvanceUnix.TerminalDiscipline
import AdvanceUnix.TransferRules
import Mathlib.Logic.Basic

namespace AdvanceUnix.Terminal

open CallTree PositionedIo

/-!
# Raw mode is transparent

Whatever attributes a terminal has, those that `make_raw` computes pass every
byte on as it is and echo nothing.  So what is sent through the terminal
arrives, and the program succeeds exactly if nothing fails.
-/

variable {world : World} {watched : Watched} {kernel : Kernel} {fd : Fd}

section Raw

/-- A flag that is cleared is not set. -/
theorem not_has_cleared
    {flags cleared flag : BitVec 32}
    (covered : ~~~cleared &&& flag = 0) :
    ¬ Has (flags &&& ~~~cleared) flag := by
  intro has
  apply has
  rw [BitVec.and_assoc, covered]
  exact BitVec.and_zero

/-- Raw mode does not edit lines. -/
theorem raw_noncanonical (attributes : Termios) :
    ¬ Has (makeRaw attributes).lflag icanon :=
  not_has_cleared rfl

/-- Nothing that is written is taken away. -/
theorem raw_consumes (attributes : Termios) (byte : UInt8) :
    ¬ Consumes (makeRaw attributes) byte := by
  rintro (⟨flow, _⟩ | ⟨signals, _⟩)
  · exact not_has_cleared rfl flow
  · exact not_has_cleared rfl signals

/-- And no byte becomes another one. -/
theorem raw_mapInput (attributes : Termios) (byte : UInt8) :
    mapInput (makeRaw attributes) byte = [byte] := by
  have ignoring : ¬ Has (makeRaw attributes).iflag igncr :=
    not_has_cleared rfl
  have toNewline : ¬ Has (makeRaw attributes).iflag icrnl :=
    not_has_cleared rfl
  have toReturn : ¬ Has (makeRaw attributes).iflag inlcr :=
    not_has_cleared rfl
  have marking : ¬ Has (makeRaw attributes).iflag parmrk :=
    not_has_cleared rfl
  simp only [mapInput, ignoring, toNewline, toReturn, marking, false_and,
    and_false, ↓reduceIte, ite_self]

/-- What the master writes the slave can read. -/
theorem raw_input (attributes : Termios) (bytes : List UInt8) :
    world.input (makeRaw attributes) bytes = bytes := by
  have extended : ¬ Has (makeRaw attributes).lflag iexten :=
    not_has_cleared rfl
  have stripping : ¬ Has (makeRaw attributes).iflag istrip :=
    not_has_cleared rfl
  simp only [World.input, raw_noncanonical, extended, stripping,
    raw_consumes, raw_mapInput, or_self, ↓reduceIte]
  exact List.flatMap_singleton' bytes

/-- What the slave writes the master can read. -/
theorem raw_output (attributes : Termios) (bytes : List UInt8) :
    world.output (makeRaw attributes) bytes = bytes :=
  if_neg (not_has_cleared rfl)

/-- The master reads nothing that it has written itself. -/
theorem raw_echoed (attributes : Termios) (bytes : List UInt8) :
    world.echoed (makeRaw attributes) bytes = [] := by
  refine if_neg ?_
  rintro (echoes | newlines)
  · exact not_has_cleared rfl echoes
  · exact not_has_cleared rfl newlines

/-- A read from the slave returns as soon as there is one byte. -/
theorem raw_atOnce : Kernel.AtOnce (makeRaw world.initial) := by
  have controls := world.controls
  refine ⟨raw_noncanonical _, ?_, ?_⟩
  · have inside : vmin < world.initial.cc.length := by
      rw [controls]
      decide
    simp only [makeRaw]
    rw [List.getElem?_set_ne (by decide), List.getElem?_set_self inside]
  · have inside : vtime < (world.initial.cc.set vmin 1).length := by
      rw [List.length_set, controls]
      decide
    exact List.getElem?_set_self inside

end Raw

section Cleanup

/-- The program remembers what it holds. -/
structure Owns (world : World) (held : Held) (kernel : Kernel) : Prop where
  master : 0 ≤ held.masterFd → kernel.master = some held.masterFd
  noMaster : ¬ 0 ≤ held.masterFd → kernel.master = none
  slave : 0 ≤ held.slaveFd → kernel.slave = some held.slaveFd
  noSlave : ¬ 0 ≤ held.slaveFd → kernel.slave = none
  distinct : ∀ fd, kernel.master = some fd → kernel.slave ≠ some fd
  saved :
    ∀ attributes,
      held.saved = some attributes →
      attributes = world.initial ∧ kernel.slave = some held.slaveFd
  unsaved : held.saved = none → kernel.attributes = world.initial

/-- Nothing is held any more. -/
structure Released
    (world : World)
    (result final : Exit)
    (before after : Watched) : Prop where
  master : after.kernel.master = none
  slave : after.kernel.slave = none
  attributes :
    after.kernel.attributes = world.initial ∨
      after.kernel.settingFailed = true
  contents :
    after.kernel.toSlave = before.kernel.toSlave ∧
      after.kernel.toMaster = before.kernel.toMaster
  spoils : Spoils .failure result final before.failed after.failed

/-- The attributes are restored, or that has failed. -/
theorem restoreTermios_ensures
    {held : Held}
    {result : Exit}
    (owns : Owns world held watched.kernel) :
    (restoreTermios held result).Ensures (monitor world)
      (fun final after =>
        ∃ attributes settingFailed,
          after.kernel =
              { watched.kernel with
                attributes := attributes
                settingFailed := settingFailed } ∧
            (attributes = world.initial ∨ settingFailed = true) ∧
            Spoils .failure result final watched.failed after.failed)
      watched := by
  cases saved : held.saved with
  | none =>
      simp only [restoreTermios, saved]
      exact .pure ⟨_, _, rfl, .inl (owns.unsaved saved), .inl ⟨rfl, rfl⟩⟩
  | some attributes =>
      obtain ⟨rfl, isOpen⟩ := owns.saved attributes saved
      simp only [restoreTermios, saved]
      refine release_answers nofun fun _ => .request ⟨isOpen, .inr rfl⟩ ?_
      intro answer _
      cases answer with
      | error error =>
          exact ⟨_, _, rfl, .inr rfl, .inr ⟨rfl, Bool.or_true _⟩⟩
      | ok done =>
          exact ⟨_, _, rfl, .inl rfl, .inl ⟨rfl, Bool.or_false _⟩⟩

/-- Closing one of the two ends. -/
theorem close_ensures
    {held : Bool}
    {result : Exit}
    {closed : Kernel}
    (isOpen :
      held = true →
      kernel.master = some fd ∨ kernel.slave = some fd)
    (closes :
      held = true →
      (if kernel.master = some fd then
        { kernel with master := none }
      else
        { kernel with slave := none }) = closed)
    (skips : held = false → kernel = closed)
    (failed : Bool) :
    (release held (close fd) none result).Ensures (monitor world)
      (fun final after =>
        after.kernel = closed ∧
          Spoils .failure result final failed after.failed)
      { kernel := kernel, failed := failed } := by
  refine release_answers ?_ fun isHeld => .request (isOpen isHeld) ?_
  · intro notHeld
    exact ⟨skips notHeld, .inl ⟨rfl, rfl⟩⟩
  · intro answer _
    cases answer with
    | error error =>
        exact ⟨closes isHeld, .inr ⟨rfl, Bool.or_true _⟩⟩
    | ok done => exact ⟨closes isHeld, .inl ⟨rfl, Bool.or_false _⟩⟩

/-- The cleanup section restores the attributes and closes both ends. -/
theorem cleanup_ensures
    {held : Held}
    {result : Exit}
    (owns : Owns world held watched.kernel) :
    (cleanup held result).Ensures (monitor world)
      (fun final after => Released world result final watched after)
      watched := by
  refine .bind ((restoreTermios_ensures owns).mono ?_)
  rintro restored ⟨middle, failed⟩
    ⟨attributes, settingFailed, rfl, initially, spoils⟩
  have slaveClosed :
      decide (held.slaveFd ≥ 0) = true →
      watched.kernel.slave = some held.slaveFd ∧
        watched.kernel.master ≠ some held.slaveFd := by
    intro isHeld
    have isSlave := owns.slave (of_decide_eq_true isHeld)
    exact ⟨isSlave, fun isMaster =>
      owns.distinct held.slaveFd isMaster isSlave⟩
  have closingSlave :=
    @close_ensures world
      { watched.kernel with
        attributes := attributes
        settingFailed := settingFailed }
      held.slaveFd (held.slaveFd ≥ 0) restored
      { watched.kernel with
        attributes := attributes
        settingFailed := settingFailed
        slave := none }
      (fun isHeld => .inr (slaveClosed isHeld).1)
      (fun isHeld => if_neg (slaveClosed isHeld).2)
      (fun notHeld => by
        rw [← owns.noSlave (of_decide_eq_false notHeld)])
      failed
  refine .bind (closingSlave.mono ?_)
  rintro closed ⟨_, closeFailed⟩ ⟨rfl, spoilsSlave⟩
  have closingMaster :=
    @close_ensures world
      { watched.kernel with
        attributes := attributes
        settingFailed := settingFailed
        slave := none }
      held.masterFd (held.masterFd ≥ 0) closed
      { watched.kernel with
        attributes := attributes
        settingFailed := settingFailed
        slave := none
        master := none }
      (fun isHeld => .inl (owns.master (of_decide_eq_true isHeld)))
      (fun isHeld => if_pos (owns.master (of_decide_eq_true isHeld)))
      (fun notHeld => by
        rw [← owns.noMaster (of_decide_eq_false notHeld)])
      closeFailed
  refine closingMaster.mono ?_
  rintro final ⟨_, lastFailed⟩ ⟨rfl, spoilsMaster⟩
  exact ⟨rfl, rfl, initially, ⟨rfl, rfl⟩,
    (spoils.trans spoilsSlave).trans spoilsMaster⟩

/-- What the program has established when it returns. -/
structure Returned
    (world : World)
    (result : Exit)
    (after : Watched) : Prop where
  closed : after.kernel.master = none ∧ after.kernel.slave = none
  attributes :
    after.kernel.attributes = world.initial ∨
      after.kernel.settingFailed = true
  verdict : result = .success ↔ after.failed = false
  delivered :
    result = .success →
    after.kernel.toSlave = [] ∧ after.kernel.toMaster = []

/-- Giving up after a failure. -/
theorem giveUp_ensures
    {held : Held}
    (owns : Owns world held watched.kernel)
    (failing : watched.failed = true) :
    (cleanup held .failure).Ensures (monitor world)
      (fun result after => Returned world result after) watched := by
  refine (cleanup_ensures owns).mono ?_
  intro final after released
  have stays : final = .failure ∧ after.failed = true := by
    rcases released.spoils with ⟨same, kept⟩ | spoiled
    · exact ⟨same, kept.trans failing⟩
    · exact spoiled
  obtain ⟨rfl, isFailed⟩ := stays
  refine ⟨⟨released.master, released.slave⟩, released.attributes,
    iff_of_false nofun ?_, nofun⟩
  exact fun unfailed => Bool.noConfusion (isFailed.symm.trans unfailed)

end Cleanup

section Transfers

variable {master slave : Fd} {name : String}

/-- The terminal in raw mode, with something on its way. -/
def rawKernel
    (world : World)
    (master slave : Fd)
    (name : String)
    (toSlave toMaster : List UInt8) : Kernel where
  master := some master
  unlocked := true
  name := some name
  slave := some slave
  attributes := makeRaw world.initial
  toSlave := toSlave
  toMaster := toMaster

/-- What the program holds of it. -/
def rawHeld (world : World) (master slave : Fd) : Held where
  masterFd := master
  slaveFd := slave
  saved := some world.initial

/-- It holds all of that. -/
theorem owns_raw
    {toSlave toMaster : List UInt8}
    (validMaster : 0 ≤ master)
    (validSlave : 0 ≤ slave)
    (distinct : master ≠ slave) :
    Owns world (rawHeld world master slave)
      (rawKernel world master slave name toSlave toMaster) where
  master := fun _ => rfl
  noMaster := fun invalid => (invalid validMaster).elim
  slave := fun _ => rfl
  noSlave := fun invalid => (invalid validSlave).elim
  distinct := fun _ isMaster isSlave =>
    distinct ((Option.some.inj isMaster).trans
      (Option.some.inj isSlave).symm)
  saved := by
    rintro _ ⟨⟩
    exact ⟨rfl, rfl⟩
  unsaved := nofun

/-- The state with something in a stream. -/
def flowing (fill : List UInt8 → Kernel) (content : List UInt8) : Watched where
  kernel := fill content

/-- A call has failed, with something in the stream. -/
def Lost (fill : List UInt8 → Kernel) (after : Watched) : Prop :=
  ∃ content, after = { kernel := fill content, failed := true }

/-- Writing to an end that fills a stream. -/
theorem transferOut_ensures
    {fill : List UInt8 → Kernel}
    {bytes : List UInt8}
    (safe :
      ∀ content rest,
        content.length + rest.length ≤ world.capacity →
        (fill content).Safe world (.write fd rest))
    (moves :
      ∀ content rest count,
        (fill content).next world (.write fd rest) (.ok count) =
          fill (content ++ rest.take count))
    (fits : bytes.length ≤ world.capacity) :
    (transferOut fd bytes).Ensures (monitor world)
      (WriteOutcome bytes.length
        (fun written after => after = flowing fill (bytes.take written))
        (fun _ => Lost fill))
      (flowing fill []) := by
  refine writeLoop_fills (flowing fill) (Lost fill)
    fun content rest whole => .request (safe content rest ?_) ?_
  · rw [← List.length_append, whole]
    exact fits
  intro answer allowed
  cases answer with
  | error error =>
      refine ⟨?_, ?_⟩
      · rintro rfl
        rfl
      · intro permanent
        exact ⟨_, congrArg (Audited.mk _) (decide_eq_true permanent)⟩
  | ok count =>
      have next := moves content rest count
      cases count with
      | zero => exact ⟨_, congrArg (Audited.mk · true) next⟩
      | succ count => exact ⟨allowed, congrArg (Audited.mk · false) next⟩

/-- Reading from an end that drains it. -/
theorem transferIn_ensures
    {fill : List UInt8 → Kernel}
    {bytes : List UInt8}
    (safe :
      ∀ content size,
        content ≠ [] → (fill content).Safe world (.read fd size))
    (arrives : ∀ content, (fill content).arriving fd = content)
    (moves :
      ∀ content size answer,
        (fill content).next world (.read fd size) (.ok answer) =
          fill (content.drop answer.length)) :
    (transferIn fd bytes.length).Ensures (monitor world)
      (fun result after =>
        result.1.Meets (fun _ => Lost fill after)
          (fun _ => result.2 = bytes ∧ after = flowing fill []))
      (flowing fill bytes) := by
  refine readLoop_drains (flowing fill) (Lost fill)
    fun received unfinished => ?_
  have remaining : bytes.drop received ≠ [] :=
    fun nothing =>
      Nat.not_le_of_lt unfinished (List.drop_eq_nil_iff.mp nothing)
  refine .request (safe _ (bytes.length - received) remaining) ?_
  intro answer allowed
  cases answer with
  | error error =>
      refine ⟨?_, ?_⟩
      · rintro rfl
        rfl
      · intro permanent
        exact ⟨_, congrArg (Audited.mk _) (decide_eq_true permanent)⟩
  | ok taken =>
      refine ⟨?_, ?_⟩
      · rw [← arrives (bytes.drop received)]
        exact allowed
      · exact congrArg (Audited.mk · false)
          (moves _ (bytes.length - received) taken)

/-- What the master writes is on its way to the slave. -/
theorem master_writes
    (content rest : List UInt8)
    (count : Nat) :
    (rawKernel world master slave name content []).next world
        (.write master rest) (.ok count) =
      rawKernel world master slave name (content ++ rest.take count) [] := by
  simp only [Kernel.next, rawKernel, ↓reduceIte, raw_input, raw_echoed,
    List.append_nil]

/-- What the slave writes is on its way to the master. -/
theorem slave_writes
    (distinct : master ≠ slave)
    (content rest : List UInt8)
    (count : Nat) :
    (rawKernel world master slave name [] content).next world
        (.write slave rest) (.ok count) =
      rawKernel world master slave name [] (content ++ rest.take count) := by
  simp only [Kernel.next, rawKernel, Option.some_inj, distinct, ↓reduceIte,
    raw_output]

/-- `main` once the slave is in raw mode. -/
theorem transferring_ensures
    {toSlave toMaster : List UInt8}
    (validMaster : 0 ≤ master)
    (validSlave : 0 ≤ slave)
    (distinct : master ≠ slave)
    (slaveFits : toSlave.length ≤ world.capacity)
    (masterFits : toMaster.length ≤ world.capacity) :
    (transferring toSlave toMaster
      (rawHeld world master slave)).Ensures (monitor world)
      (fun result after => Returned world result after)
      { kernel := rawKernel world master slave name [] [] } := by
  have owns (first second : List UInt8) :
      Owns world (rawHeld world master slave)
        (rawKernel world master slave name first second) :=
    owns_raw validMaster validSlave distinct
  have noMaster : ¬ some master = some slave :=
    fun same => distinct (Option.some.inj same)
  have writing :=
    @transferOut_ensures world master
      (rawKernel world master slave name · []) toSlave
      (fun _ _ fits => .inl ⟨rfl, fits⟩) master_writes slaveFits
  refine .bind (writing.mono ?_)
  rintro (error | ⟨⟩) after outcome
  · obtain ⟨content, rfl⟩ := outcome
    exact giveUp_ensures (owns _ _) rfl
  obtain rfl := outcome
  rw [List.take_length]
  have reading :=
    @transferIn_ensures world slave
      (rawKernel world master slave name · []) toSlave
      (fun _ _ nonempty => .inr ⟨rfl, raw_atOnce, nonempty⟩)
      (fun _ => if_neg noMaster) (fun _ _ _ => if_neg noMaster)
  refine .bind (reading.mono ?_)
  rintro ⟨(error | ⟨⟩), slaveBuffer⟩ after met
  · obtain ⟨content, rfl⟩ := met
    exact giveUp_ensures (owns _ _) rfl
  obtain ⟨same, rfl⟩ := met
  obtain rfl : slaveBuffer = toSlave := same
  have answering :=
    @transferOut_ensures world slave
      (rawKernel world master slave name []) toMaster
      (fun _ _ fits => .inr ⟨rfl, fits⟩) (slave_writes distinct) masterFits
  refine .bind (answering.mono ?_)
  rintro (error | ⟨⟩) after outcome
  · obtain ⟨content, rfl⟩ := outcome
    exact giveUp_ensures (owns _ _) rfl
  obtain rfl := outcome
  rw [List.take_length]
  have finishing :=
    @transferIn_ensures world master
      (rawKernel world master slave name []) toMaster
      (fun _ _ nonempty => .inl ⟨rfl, nonempty⟩)
      (fun _ => if_pos rfl) (fun _ _ _ => if_pos rfl)
  refine .bind (finishing.mono ?_)
  rintro ⟨(error | ⟨⟩), masterBuffer⟩ after met
  · obtain ⟨content, rfl⟩ := met
    exact giveUp_ensures (owns _ _) rfl
  obtain ⟨same, rfl⟩ := met
  obtain rfl : masterBuffer = toMaster := same
  simp only [ne_eq, not_true_eq_false, decide_false, Bool.or_self,
    Bool.false_eq_true, ↓reduceIte]
  refine (cleanup_ensures (owns [] [])).mono ?_
  intro final after released
  refine ⟨⟨released.master, released.slave⟩, released.attributes, ?_,
    fun _ => released.contents⟩
  rcases released.spoils with ⟨rfl, same⟩ | ⟨rfl, isFailed⟩
  · exact iff_of_true rfl same
  · exact iff_of_false nofun fun unfailed =>
      Bool.noConfusion (isFailed.symm.trans unfailed)

end Transfers

section Verdict

variable {master slave : Fd} {toSlave toMaster : List UInt8}

/-- A variable that is still -1 is no descriptor. -/
theorem unset : ¬ (0 : Fd) ≤ -1 := by decide

/-- The program holds the master only. -/
theorem owns_master
    (valid : 0 ≤ master)
    (isMaster : kernel.master = some master)
    (noSlave : kernel.slave = none)
    (untouched : kernel.attributes = world.initial) :
    Owns world { masterFd := master } kernel where
  master := fun _ => isMaster
  noMaster := fun invalid => (invalid valid).elim
  slave := fun held => (unset held).elim
  noSlave := fun _ => noSlave
  distinct := by
    intro _ _
    rw [noSlave]
    exact nofun
  saved := nofun
  unsaved := fun _ => untouched

/-- It holds both ends, and the attributes are as they were. -/
theorem owns_both
    (validMaster : 0 ≤ master)
    (validSlave : 0 ≤ slave)
    (distinct : master ≠ slave)
    (isMaster : kernel.master = some master)
    (isSlave : kernel.slave = some slave)
    (untouched : kernel.attributes = world.initial) :
    Owns world { masterFd := master, slaveFd := slave } kernel where
  master := fun _ => isMaster
  noMaster := fun invalid => (invalid validMaster).elim
  slave := fun _ => isSlave
  noSlave := fun invalid => (invalid validSlave).elim
  distinct := by
    intro fd same
    rw [isSlave]
    exact fun other => distinct (Option.some.inj
      (isMaster.symm.trans (same.trans other.symm)))
  saved := nofun
  unsaved := fun _ => untouched

/-- The terminal has its attributes, and nobody has opened it. -/
def World.fresh (world : World) : Kernel where
  attributes := world.initial

/-- What `main` establishes. -/
theorem main_ensures
    (slaveFits : toSlave.length ≤ world.capacity)
    (masterFits : toMaster.length ≤ world.capacity) :
    (mainTransferring toSlave toMaster).Ensures (monitor world)
      (fun result after => Returned world result after)
      { kernel := world.fresh } := by
  refine .request_bind rfl ?_
  rintro (error | master) opened
  · exact giveUp_ensures ⟨fun held => (unset held).elim, fun _ => rfl,
      fun held => (unset held).elim, fun _ => rfl, fun _ => nofun, nofun,
      fun _ => rfl⟩ rfl
  have validMaster : 0 ≤ master := opened
  refine .request_bind rfl ?_
  rintro (error | ⟨⟩) _
  · exact giveUp_ensures (owns_master validMaster rfl rfl rfl) rfl
  refine .request_bind rfl ?_
  rintro (error | ⟨⟩) _
  · exact giveUp_ensures (owns_master validMaster rfl rfl rfl) rfl
  refine .request_bind rfl ?_
  rintro (error | name) _
  · exact giveUp_ensures (owns_master validMaster rfl rfl rfl) rfl
  refine .request_bind ⟨rfl, rfl⟩ ?_
  rintro (error | slave) created
  · exact giveUp_ensures (owns_master validMaster rfl rfl rfl) rfl
  obtain ⟨validSlave, fresh⟩ := created
  have distinct : master ≠ slave := fun same => fresh (congrArg some same)
  refine .request_bind rfl ?_
  rintro (error | saved) reported
  · exact giveUp_ensures
      (owns_both validMaster validSlave distinct rfl rfl rfl) rfl
  obtain rfl : saved = world.initial := reported
  refine .request_bind ⟨rfl, .inl rfl⟩ ?_
  rintro (error | ⟨⟩) _
  · exact giveUp_ensures
      (owns_both validMaster validSlave distinct rfl rfl rfl) rfl
  exact transferring_ensures validMaster validSlave distinct slaveFits
    masterFits

end Verdict

section Runs

variable {events : Events} {outcome : Option Exit}
  {first second : List UInt8}

/-- What a run of the program shows. -/
structure TerminalVerdict
    (world : World)
    (events : Events)
    (outcome : Option Exit) : Prop where
  owned :
    ∀ before event later,
      events = before ++ event :: later →
      ((audit world).kernelAfter world.fresh before).Safe world event.call
  closed :
    outcome ≠ none →
    ((audit world).kernelAfter world.fresh events).master = none ∧
      ((audit world).kernelAfter world.fresh events).slave = none
  restored :
    outcome ≠ none →
    ((audit world).kernelAfter world.fresh events).attributes =
        world.initial ∨
      ((audit world).kernelAfter world.fresh events).settingFailed = true
  verdict :
    outcome ≠ none →
    (outcome = some .success ↔ (audit world).failed events = false)
  delivered :
    outcome = some .success →
    ((audit world).kernelAfter world.fresh events).toSlave = [] ∧
      ((audit world).kernelAfter world.fresh events).toMaster = []

/--
Whatever attributes the terminal has at first and however the texts are cut up:
no call has to wait, what is sent arrives as it was, and the program succeeds
exactly if nothing fails.
-/
theorem terminal_verdict
    {world : World}
    (firstFits : first.length ≤ world.capacity)
    (secondFits : second.length ≤ world.capacity)
    (run : (mainTransferring first second).Run events outcome)
    (legal : (audit world).Legal world.fresh events) :
    TerminalVerdict world events outcome := by
  obtain ⟨dutiful, ended⟩ :=
    Audit.sound (main_ensures firstFits secondFits) run legal
  constructor
  case owned => exact dutiful
  case closed =>
    intro some
    obtain ⟨result, rfl⟩ := Option.ne_none_iff_exists'.mp some
    exact (ended result rfl).closed
  case restored =>
    intro some
    obtain ⟨result, rfl⟩ := Option.ne_none_iff_exists'.mp some
    exact (ended result rfl).attributes
  case verdict =>
    intro some
    obtain ⟨result, rfl⟩ := Option.ne_none_iff_exists'.mp some
    rw [Option.some_inj]
    exact (ended result rfl).verdict
  case delivered =>
    rintro rfl
    exact (ended .success rfl).delivered rfl

/-- A terminal that edits and echoes lines and adds carriage returns. -/
def cooked : World where
  initial := ⟨0x500, 0x5, 0xbf, 0x8a3b, List.replicate 32 0⟩
  capacity := 4095
  edits := fun _ bytes => bytes
  processes := fun _ byte => if byte = nl then [cr, nl] else [byte]
  echoes := fun _ byte => [byte]
  controls := rfl

/-- The newline of the slave would arrive as two bytes. -/
example : cooked.output cooked.initial [104, 105, 10] = [104, 105, 13, 10] := by
  decide

/-- The first write is short, and the first read is interrupted. -/
def bothWays : Events :=
  [⟨.posixOpenpt, .ok 3⟩, ⟨.grantpt 3, .ok ()⟩, ⟨.unlockpt 3, .ok ()⟩,
    ⟨.ptsname 3, .ok "/dev/pts/7"⟩, ⟨.openSlave "/dev/pts/7", .ok 4⟩,
    ⟨.tcgetattr 4, .ok cooked.initial⟩,
    ⟨.tcsetattr 4 (makeRaw cooked.initial), .ok ()⟩,
    ⟨.write 3 toSlave, .ok 15⟩, ⟨.write 3 [10], .ok 1⟩,
    ⟨.read 4 16, .error .eintr⟩, ⟨.read 4 16, .ok toSlave⟩,
    ⟨.write 4 toMaster, .ok 16⟩, ⟨.read 3 16, .ok toMaster⟩,
    ⟨.tcsetattr 4 cooked.initial, .ok ()⟩, ⟨.close 4, .ok ()⟩,
    ⟨.close 3, .ok ()⟩]

/-- It is a run of `main`. -/
theorem bothWays_run : main.Run bothWays (some .success) :=
  ⟨4, .call _ (.call _ (.call _ (.call _ (.call _ (.call _ (.call _ (.call _
    (.call _ (.call _ (.call _ (.call _ (.call _ (.call _ (.call _ (.call _
      (.ret _))))))))))))))))⟩

/-- The kernel may answer so. -/
theorem bothWays_legal :
    (audit cooked).Legal cooked.fresh bothWays := by
  have whole (bytes : List UInt8) : Reads bytes bytes.length bytes :=
    ⟨List.prefix_refl _, Nat.le_refl _, fun nothing => .inr nothing⟩
  have fresh : some (3 : Fd) ≠ some 4 := by decide
  exact ⟨(by decide : (0 : Fd) ≤ 3), trivial, trivial, trivial,
    ⟨(by decide : (0 : Fd) ≤ 4), fresh⟩, rfl, trivial,
    (by decide : 15 ≤ 16), (by decide : 1 ≤ 1), trivial, whole toSlave,
    Nat.le_refl 16, whole toMaster, trivial, trivial, trivial, trivial⟩

/-- Both texts arrive through a terminal that was in cooked mode. -/
theorem terminal_verdict_bothWays :
    TerminalVerdict cooked bothWays (some .success) := by
  have firstFits : toSlave.length ≤ cooked.capacity := by decide
  have secondFits : toMaster.length ≤ cooked.capacity := by decide
  exact terminal_verdict firstFits secondFits bothWays_run bothWays_legal

end Runs

end AdvanceUnix.Terminal
