import Chip8.Proofs.Console.Record

/-!
# When a console halts

The last thing that a console had its machine do says whether it is halted: it is after a cycle that
ends the program and after a restart that could not load it, and it is not after anything else.
While it is halted it has its machine do nothing more until it is started over.
-/
namespace Chip8

/-- Displays that show the same at the same scale have the same real pixels. -/
theorem Display.buffer_congr {a b : Display} (shown : a.shown = b.shown)
    (scale : a.scale = b.scale) : a.buffer = b.buffer := by
  cases a
  cases b
  cases shown
  cases scale
  rfl

/-- What stops a console: a cycle that faults or reads the halt marker, and a load that fails. -/
theorem Deed.halts_iff {deed : Deed} : deed.halts = true ↔
    (∃ fault, deed = .cycled (.error fault)) ∨ deed = .cycled (.ok (.decodeFault 0x0EFD)) ∨
      ∃ fault, deed = .loaded (.error fault) := by
  cases deed with
  | polled _ | reset => simp [halts]
  | loaded result => cases result <;> simp [halts]
  | cycled result =>
    cases result with
    | error fault => simp [halts, Cycle.ends]
    | ok cycle => cases cycle <;> simp [halts, Cycle.ends]

namespace Console

/-! ## Cycles and restarts -/

/-- A cycle halts a console if it ends the program, and it does not make it run again. -/
theorem runCycle_halted (console : Console) :
    console.runCycle.1.halted = (console.halted || Cycle.ends console.machine.step.result) := by
  unfold runCycle
  dsimp only
  split
  case h_1 word ended =>
    rw [ended]
    split
    case isTrue marker => simp [Cycle.ends, marker, Memory.haltWord]
    case isFalse other =>
      have unmarked : word ≠ 0x0EFD := other
      simp [Cycle.ends, absorb, unmarked]
  case h_2 done | h_3 done => simp [done, Cycle.ends, absorb]
  case h_4 failed => simp [failed, Cycle.ends]

/-- A restart leaves a console halted exactly if the program cannot be loaded. -/
theorem restart_halted (console : Console) (now : Nat) :
    (console.restart now).1.halted = Deed.halts (.loaded console.cleared.loadRom.2.1) := by
  rw [restart_eq]
  split
  case h_1 loaded => simp [loaded, Deed.halts]
  case h_2 refused => simp [refused, Deed.halts]

theorem Aside.trans {a b c : Console} (first : a.Aside b) (second : b.Aside c) : a.Aside c :=
  ⟨second.machine.trans first.machine, second.shown.trans first.shown,
    second.scale.trans first.scale, second.stepThrough.trans first.stepThrough,
    second.halted.trans first.halted⟩

theorem handles_iff {console : Console} {callback : Callback} :
    console.handles callback = true ↔
      callback.isSpace = true ∧ console.stepThrough = true ∧ console.halted = false := by
  simp [handles, and_assoc]

end Console

namespace Recorder

variable {recorder after : Recorder} {patience : Nat} {turn : Turn}

/-! ## What the record says -/

/-- Whether a console is halted after these deeds, if it was before them. -/
def halted (before : Bool) (deeds : List Deed) : Bool :=
  deeds.getLast?.elim before Deed.halts

theorem halted_append (before : Bool) (deeds : List Deed) (deed : Deed) :
    halted before (deeds ++ [deed]) = deed.halts := by
  simp [halted]

theorem halted_iff {before : Bool} {deeds : List Deed} : halted before deeds = true ↔
    deeds = [] ∧ before = true ∨ ∃ earlier deed, deeds = earlier ++ [deed] ∧ deed.halts = true := by
  rcases List.eq_nil_or_concat' deeds with rfl | ⟨earlier, deed, rfl⟩
  · simp [halted]
  · rw [halted_append]
    simp

/-- The last deed halts the console, or it does not. -/
theorem TurnCase.halted {before : Bool} (way : TurnCase recorder turn after)
    (told : recorder.console.halted = halted before recorder.deeds) :
    after.console.halted = Recorder.halted before after.deeds := by
  cases way with
  | rests _ _ => exact told
  | aside _ _ _ same _ => exact same.halted.trans told
  | byHand handled =>
    obtain ⟨_, _, running⟩ := Console.handles_iff.mp handled
    have polled : recorder.console.poll.1.halted = false := running
    rw [runCycle_console, runCycle_deeds, halted_append, poll_console, Console.runCycle_halted,
      polled, Bool.false_or, Deed.halts]
  | startsOver _ =>
    rw [restart_console, restart_deeds, List.append_cons, halted_append, Console.restart_halted]
  | runs n _ _ running _ _ _ =>
    -- giving the keys does not halt, and from then on the latest cycle decides
    let polled := recorder.deeds ++ [.polled recorder.console.keyboard.keypad]
    rw [caughtUp_console, caughtUp_deeds, Console.atTime_halted, List.append_cons]
    refine Console.stretch_induction (P := fun console results =>
      console.halted = Recorder.halted before (polled ++ results.map .cycled)) ?_ ?_ n
    · intro console results running _
      rw [List.map_append, List.map_singleton, ← List.append_assoc, halted_append,
        Console.runCycle_halted, running, Bool.false_or, Deed.halts]
    · rw [List.map_nil, List.append_nil, halted_append]
      exact running

theorem attend_halted {before : Bool} {turns : List Turn}
    (told : recorder.console.halted = halted before recorder.deeds)
    (attended : recorder.attend patience turns = some after) :
    after.console.halted = halted before after.deeds :=
  attend_induction (P := fun recorder => recorder.console.halted = halted before recorder.deeds)
    (fun _ _ _ _ way told => way.halted told) told attended

/-! ## The last cycle -/

/-- As far as these results of its cycles go, a console is halted exactly if it was at first or a
cycle has ended its program; and no cycle came after one that did. -/
structure EndsLast (before : Bool) (console : Console) (results : List (Except Fault Cycle)) :
    Prop where
  last : results.Pairwise fun earlier _ => Cycle.ends earlier = false
  halted_iff : console.halted = true ↔
    before = true ∨ ∃ result ∈ results, Cycle.ends result = true

/-- A cycle is run only where none has ended the program. -/
theorem EndsLast.runCycle {before : Bool} {console : Console}
    {results : List (Except Fault Cycle)} (ends : EndsLast before console results)
    (running : console.halted = false) :
    EndsLast before console.runCycle.1 (results ++ [console.machine.step.result]) := by
  have none : ¬ (before = true ∨ ∃ result ∈ results, Cycle.ends result = true) := by
    rw [← ends.halted_iff, running]
    exact Bool.false_ne_true
  rw [not_or] at none
  constructor
  case last =>
    refine List.pairwise_append.mpr ⟨ends.last, List.pairwise_singleton _ _, ?_⟩
    intro earlier member _ _
    exact Bool.eq_false_iff.mpr fun ended => none.2 ⟨earlier, member, ended⟩
  case halted_iff =>
    rw [Console.runCycle_halted, running, Bool.false_or]
    simp only [List.mem_append, List.mem_singleton, or_and_right, exists_or, exists_eq_left]
    rw [or_iff_right none.1, or_iff_right none.2]

theorem EndsLast.poll {before : Bool} {console : Console} {results : List (Except Fault Cycle)}
    (ends : EndsLast before console results) : EndsLast before console.poll.1 results :=
  ⟨ends.last, ends.halted_iff⟩

theorem EndsLast.atTime {before : Bool} {console : Console} {results : List (Except Fault Cycle)}
    (ends : EndsLast before console results) (time : Nat) :
    EndsLast before (console.atTime time) results :=
  ⟨ends.last, ends.halted_iff⟩

theorem EndsLast.after_turn {before : Bool} (way : TurnCase recorder turn after)
    (kept : turn.callback.isRestart = false)
    (ends : EndsLast before recorder.console recorder.results) :
    EndsLast before after.console after.results := by
  cases way with
  | rests _ _ => exact ends
  | aside _ _ _ same _ => exact ⟨ends.last, same.halted ▸ ends.halted_iff⟩
  | byHand handled =>
    obtain ⟨_, _, running⟩ := Console.handles_iff.mp handled
    rw [results_runCycle, results_poll]
    exact ends.poll.runCycle running
  | startsOver pressed =>
    rw [kept] at pressed
    cases pressed
  | runs n _ _ _ _ _ _ =>
    rw [caughtUp_console, results_caughtUp]
    have ran : EndsLast before (recorder.console.poll.1.stretch n).console
        (recorder.results ++ (recorder.console.poll.1.stretch n).results) := by
      refine Console.stretch_induction (P := fun console results =>
        EndsLast before console (recorder.results ++ results)) ?_ ?_ n
      · intro console results running ends
        rw [← List.append_assoc]
        exact ends.runCycle running
      · rw [List.append_nil]
        exact ends.poll
    exact ran.atTime _

theorem attend_endsLast {before : Bool} {turns : List Turn}
    (kept : ∀ turn ∈ turns, turn.callback.isRestart = false)
    (ends : EndsLast before recorder.console recorder.results)
    (attended : recorder.attend patience turns = some after) :
    EndsLast before after.console after.results :=
  attend_induction (P := fun recorder => EndsLast before recorder.console recorder.results)
    (fun turn member _ _ way ends => .after_turn way (kept turn member) ends) ends attended

/-! ## Standing still -/

theorem take_of_resting (now : Nat)
    (resting : recorder.console.stepThrough = true ∨ recorder.console.halted = true) :
    recorder.take patience ⟨now, .aboutToWait⟩ = some recorder := by
  rcases resting with rest | rest <;> simp [take, aboutToWait, rest]

/-- A console that is halted and not started over does nothing with its machine. -/
theorem TurnCase.of_halted (way : TurnCase recorder turn after)
    (halted : recorder.console.halted = true) (kept : turn.callback.isRestart = false) :
    after.deeds = recorder.deeds ∧ recorder.console.Aside after.console := by
  cases way with
  | rests _ _ => exact ⟨rfl, .refl _⟩
  | aside _ _ _ same _ => exact ⟨rfl, same⟩
  | byHand handled =>
    obtain ⟨_, _, running⟩ := Console.handles_iff.mp handled
    rw [halted] at running
    cases running
  | startsOver pressed =>
    rw [kept] at pressed
    cases pressed
  | runs _ _ _ running _ _ _ =>
    rw [halted] at running
    cases running

theorem take_of_halted (patience : Nat) (halted : recorder.console.halted = true)
    (kept : turn.callback.isRestart = false) :
    ∃ after, recorder.take patience turn = some after ∧ after.deeds = recorder.deeds ∧
      recorder.console.Aside after.console := by
  have answers : ∃ after, recorder.take patience turn = some after := by
    obtain ⟨now, callback⟩ := turn
    cases callback with
    | resumed _ | window _ _ => exact ⟨_, rfl⟩
    | aboutToWait => exact ⟨recorder, take_of_resting now (.inr halted)⟩
  obtain ⟨after, taken⟩ := answers
  exact ⟨after, taken, (take_cases taken).of_halted halted kept⟩

theorem attend_of_halted {turns : List Turn} (patience : Nat)
    (halted : recorder.console.halted = true)
    (kept : ∀ turn ∈ turns, turn.callback.isRestart = false) :
    ∃ after, recorder.attend patience turns = some after ∧ after.deeds = recorder.deeds ∧
      recorder.console.Aside after.console := by
  refine attend_answers (P := fun after =>
    after.deeds = recorder.deeds ∧ recorder.console.Aside after.console) ?_ ⟨rfl, .refl _⟩
  intro turn member before ⟨deeds, same⟩
  obtain ⟨after, taken, still, later⟩ :=
    take_of_halted patience (same.halted.trans halted) (kept turn member)
  exact ⟨after, taken, still.trans deeds, same.trans later⟩

/-- A press of the space bar that is handled applies the keyboard and then runs one cycle. -/
theorem take_of_handled (handled : recorder.console.handles turn.callback = true) :
    recorder.take patience turn = some recorder.poll.runCycle := by
  obtain ⟨space, byHand, running⟩ := Console.handles_iff.mp handled
  obtain ⟨now, callback⟩ := turn
  cases callback with
  | resumed _ | aboutToWait => cases space
  | window desktop event =>
    cases event with
    | closeRequested | redrawRequested | ignored => cases space
    | keyInput input =>
      have key : input = ⟨.named .space, true, false⟩ := by simpa [Callback.isSpace] using space
      subst key
      simp [take, windowEvent, keyAction, byHand, running]

theorem attend_single (recorder : Recorder) (patience : Nat) (turn : Turn) :
    recorder.attend patience [turn] = recorder.take patience turn :=
  Option.bind_fun_some _

end Recorder

/-! ## Halted consoles -/

namespace Console

/-- Whatever a console is called for, it is halted in the end exactly if it was and had its machine
do nothing, or if the last thing that it had its machine do was a cycle that faulted or ran into the
halt marker, or a load that failed. While it is halted and not started over it answers every call
and has its machine do nothing. By hand it runs no cycle by itself, and one for each press of the
space bar, after it has applied the keyboard. -/
theorem halted_frozen (console : Console) (patience : Nat) (turns : List Turn) :
    ((Recorder.start console).attend patience turns).map Recorder.console =
        console.attend patience turns ∧
      (∀ after, (Recorder.start console).attend patience turns = some after →
        (after.console.halted = true ↔
          after.deeds = [] ∧ console.halted = true ∨
          ∃ earlier deed, after.deeds = earlier ++ [deed] ∧
            ((∃ fault, deed = .cycled (.error fault)) ∨
              deed = .cycled (.ok (.decodeFault 0x0EFD)) ∨
              ∃ fault, deed = .loaded (.error fault)))) ∧
      (console.halted = true → (∀ turn ∈ turns, turn.callback.isRestart = false) →
        ∃ after, (Recorder.start console).attend patience turns = some ⟨after, []⟩ ∧
          after.machine = console.machine ∧ after.display.buffer = console.display.buffer ∧
          after.halted = true) ∧
      (console.stepThrough = true →
        (∀ now, (Recorder.start console).attend patience [⟨now, .aboutToWait⟩] =
          some (Recorder.start console)) ∧
        (console.halted = false → ∀ press : Turn, press.callback.isSpace = true →
          (Recorder.start console).attend patience [press] = some ⟨console.stepByHand.1,
            [.polled console.keyboard.keypad, .cycled console.poll.1.machine.step.result]⟩)) := by
  refine ⟨Recorder.attend_console _ _ _, ?causes, ?frozen, fun byHand => ⟨?waits, ?steps⟩⟩
  case causes =>
    intro after attended
    have told : after.console.halted = Recorder.halted console.halted after.deeds :=
      Recorder.attend_halted rfl attended
    simp only [told, Recorder.halted_iff, Deed.halts_iff]
  case frozen =>
    intro halted kept
    have frozen : (Recorder.start console).console.halted = true := halted
    obtain ⟨after, attended, deeds, same⟩ := Recorder.attend_of_halted patience frozen kept
    refine ⟨after.console, ?_, same.machine, Display.buffer_congr same.shown same.scale,
      same.halted.trans halted⟩
    rw [attended, ← show after.deeds = [] from deeds]
  case waits =>
    intro now
    rw [Recorder.attend_single]
    exact Recorder.take_of_resting now (.inl byHand)
  case steps =>
    intro running press space
    rw [Recorder.attend_single]
    exact Recorder.take_of_handled (handles_iff.mpr ⟨space, byHand, running⟩)

/-- A console that is driven by hand, or not, with a program that ends after its first cycle. -/
def oneInstruction (byHand : Bool) : Console :=
  Settings.boot ⟨500, 1, [0x60, 0x05], byHand⟩ (.constant 0)

def ended : Console := (oneInstruction false).runCycle.1.runCycle.1

def spaceDown : Turn :=
  ⟨7000000, .window ⟨1, true, true, true⟩ (.keyInput ⟨.named .space, true, false⟩)⟩

theorem ended_frozen :
    (∃ after, (Recorder.start (oneInstruction false)).attend 2 [⟨4000000, .aboutToWait⟩] =
        some after ∧
      ∃ earlier deed, after.deeds = earlier ++ [deed] ∧
        ((∃ fault, deed = .cycled (.error fault)) ∨ deed = .cycled (.ok (.decodeFault 0x0EFD)) ∨
          ∃ fault, deed = .loaded (.error fault))) ∧
      ended.halted = true ∧
      (∃ after, (Recorder.start ended).attend 0 [⟨5000000, .aboutToWait⟩, spaceDown] =
          some ⟨after, []⟩ ∧ after.machine = ended.machine ∧ after.halted = true) ∧
      (oneInstruction true).stepThrough = true ∧ (oneInstruction true).halted = false ∧
      (Recorder.start (oneInstruction true)).attend 0 [⟨5000000, .aboutToWait⟩] =
        some (Recorder.start (oneInstruction true)) ∧
      ∃ after result, (Recorder.start (oneInstruction true)).attend 0 [spaceDown] =
        some ⟨after, [.polled .empty, .cycled result]⟩ := by
  have starts : (oneInstruction false).halted = false := by decide +kernel
  have halts : ((oneInstruction false).attend 2 [⟨4000000, .aboutToWait⟩]).map Console.halted =
      some true := by decide +kernel
  have halted : ended.halted = true := by decide +kernel
  have byHand : (oneInstruction true).stepThrough = true := by decide +kernel
  have running : (oneInstruction true).halted = false := by decide +kernel
  obtain ⟨erased, causes, _, _⟩ := halted_frozen (oneInstruction false) 2 [⟨4000000, .aboutToWait⟩]
  rw [← erased, Option.map_map, Option.map_eq_some_iff] at halts
  obtain ⟨stopped, attended, halts⟩ := halts
  obtain ⟨_, _, frozen, _⟩ := halted_frozen ended 0 [⟨5000000, .aboutToWait⟩, spaceDown]
  obtain ⟨after, still, machine, _, keeps⟩ := frozen halted (by decide)
  obtain ⟨_, _, _, handed⟩ := halted_frozen (oneInstruction true) 0 []
  obtain ⟨waits, steps⟩ := handed byHand
  refine ⟨⟨stopped, attended, ?_⟩, halted, ⟨after, still, machine, keeps⟩, byHand, running,
    waits 5000000, _, _, steps running spaceDown rfl⟩
  refine ((causes stopped attended).mp halts).resolve_left ?_
  rw [starts]
  exact fun none => nomatch none.2

end Console
end Chip8
