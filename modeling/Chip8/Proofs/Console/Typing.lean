import Chip8.Proofs.Bare.Basic
import Chip8.Proofs.Console.Modes
import Mathlib.Data.List.DropRight

/-!
# From the keyboard to the keypad

A console remembers of what was typed only which keys are held. That is the last stroke of each key
since the console was last started over, because each turn strikes at most one key, forgets all of
them, or leaves the keyboard alone. Whenever the keyboard is applied to the machine the keypad says
the same, bit by bit, and goes on saying it through the cycles that follow.
-/
namespace Chip8

/-- The keypad key that a callback presses or releases, with whether it presses it. A key that
repeats is neither pressed nor released. -/
def Callback.stroke? : Callback → Option (Nat × Bool)
  | .window _ (.keyInput ⟨.character text, pressed, false⟩) =>
    (Keyboard.keyOf? text).map fun key => (key, pressed)
  | _ => none

namespace Turn

/-- The presses and releases of keypad keys since the last restart, the earliest first. -/
def strokes (turns : List Turn) : List (Nat × Bool) :=
  (turns.rtakeWhile fun turn => !turn.callback.isRestart).filterMap fun turn =>
    turn.callback.stroke?

/-- A key was pressed or released since the last restart, and the last time it was pressed. -/
def Held (turns : List Turn) (key : Nat) : Prop :=
  ((strokes turns).filter fun stroke => stroke.1 == key).getLast? = some (key, true)

instance (turns : List Turn) (key : Nat) : Decidable (Held turns key) :=
  inferInstanceAs (Decidable (_ = _))

variable {turns : List Turn} {turn : Turn} {key : Nat}

/-! ## One turn more -/

theorem strokes_concat_of_restart (restart : turn.callback.isRestart = true) :
    strokes (turns ++ [turn]) = [] := by
  rw [strokes, List.rtakeWhile_concat_neg _ _ _ (by simp [restart]), List.filterMap_nil]

theorem strokes_concat (kept : turn.callback.isRestart = false) :
    strokes (turns ++ [turn]) = strokes turns ++ turn.callback.stroke?.toList := by
  rw [strokes, List.rtakeWhile_concat_pos _ _ _ (by simp [kept]), List.filterMap_append]
  rfl

/-- After a restart no key is held. -/
theorem not_held_of_restart (restart : turn.callback.isRestart = true) :
    ¬ Held (turns ++ [turn]) key := by
  simp [Held, strokes_concat_of_restart restart]

theorem held_of_unstruck (kept : turn.callback.isRestart = false)
    (unstruck : turn.callback.stroke? = none) : Held (turns ++ [turn]) key ↔ Held turns key := by
  simp [Held, strokes_concat kept, unstruck]

/-- A stroke decides on its own key and on no other. -/
theorem held_of_struck {stroke : Nat × Bool} (kept : turn.callback.isRestart = false)
    (struck : turn.callback.stroke? = some stroke) :
    Held (turns ++ [turn]) key ↔ if stroke.1 = key then stroke.2 = true else Held turns key := by
  obtain ⟨other, pressed⟩ := stroke
  rw [Held, strokes_concat kept, struck, Option.toList_some, List.filter_append]
  by_cases same : other = key
  · simp [same]
  · simp [same, Held]

end Turn

/-! ## The keyboard -/

namespace Keyboard

def strike (keyboard : Keyboard) (stroke : Nat × Bool) : Keyboard :=
  (if stroke.2 then keyboard.press stroke.1 else keyboard.release stroke.1).1

/-- A stroke past `F` changes nothing. -/
theorem strike_of_outside (keyboard : Keyboard) {key : Nat} (outside : 16 ≤ key) (pressed : Bool) :
    keyboard.strike (key, pressed) = keyboard := by
  have none : ¬ key < 16 := Nat.not_lt.mpr outside
  cases pressed <;> simp [strike, press, release, none]

/-- A stroke changes the key that it strikes. -/
theorem held_strike (keyboard : Keyboard) (stroke : Nat × Bool) {key : Nat} (inside : key < 16) :
    (keyboard.strike stroke).held[key] = if stroke.1 = key then stroke.2
      else keyboard.held[key] := by
  obtain ⟨other, pressed⟩ := stroke
  by_cases small : other < 16
  · cases pressed <;> simp [strike, press, release, small, Vector.getElem_set]
  · have apart : other ≠ key := by omega
    rw [strike_of_outside keyboard (Nat.le_of_not_lt small), if_neg apart]

/-- The keyboard after a callback: a restart releases all keys, and a stroke strikes one. -/
def after (keyboard : Keyboard) (callback : Callback) : Keyboard :=
  if callback.isRestart then .empty else callback.stroke?.elim keyboard keyboard.strike

/-- A keyboard holds the keys that these turns have left held. -/
def Follows (keyboard : Keyboard) (turns : List Turn) : Prop :=
  ∀ key (inside : key < 16), keyboard.held[key] = true ↔ Turn.Held turns key

theorem empty_follows : empty.Follows [] := by
  intro key inside
  simp [empty, Turn.Held, Turn.strokes]

theorem Follows.after {keyboard : Keyboard} {turns : List Turn} (follows : keyboard.Follows turns)
    (turn : Turn) : (keyboard.after turn.callback).Follows (turns ++ [turn]) := by
  intro key inside
  cases restart : turn.callback.isRestart with
  | true =>
    have released : ¬ Turn.Held (turns ++ [turn]) key := Turn.not_held_of_restart restart
    simp [Keyboard.after, restart, released, empty]
  | false =>
    cases struck : turn.callback.stroke? with
    | none =>
      rw [Turn.held_of_unstruck restart struck, ← follows key inside]
      simp [Keyboard.after, restart, struck]
    | some stroke =>
      rw [Turn.held_of_struck restart struck, ← follows key inside]
      simp only [Keyboard.after, restart, struck, Bool.false_eq_true, if_false, Option.elim_some,
        held_strike keyboard stroke inside]
      split <;> exact Iff.rfl

/-- The keypad of a keyboard has the bits of the keys that are held. -/
theorem Follows.testBit_keypad {keyboard : Keyboard} {turns : List Turn}
    (follows : keyboard.Follows turns) {key : Nat} (inside : key < 16) :
    keyboard.keypad.bits.toNat.testBit key = true ↔ Turn.Held turns key := by
  rw [keypad, Keypad.testBit_ofStates, ← follows key inside]
  exact exists_prop_of_true inside

/-- Text stands for no key past `F`. -/
theorem keyOf?_lt {text : String} {key : Nat} (found : keyOf? text = some key) : key < 16 := by
  unfold keyOf? at found
  split at found <;> cases found <;> decide

end Keyboard

/-- Presses or releases a key in place, where a place outside of the keys has no answer. -/
def Bare.strike? (held : Vector Bool 16) (key : Nat) (pressed : Bool) : Option (Vector Bool 16) :=
  if 16 ≤ key then some held else replace? held key pressed

/-- A stroke in place always has an answer. -/
theorem Bare.strike?_eq (keyboard : Keyboard) (key : Nat) (pressed : Bool) :
    strike? keyboard.held key pressed = some (keyboard.strike (key, pressed)).held := by
  by_cases outside : 16 ≤ key
  · rw [strike?, if_pos outside, Keyboard.strike_of_outside keyboard outside]
  · have inside : key < 16 := Nat.lt_of_not_le outside
    cases pressed <;>
      simp [strike?, replace?, outside, inside, Keyboard.strike, Keyboard.press, Keyboard.release]

/-! ## The keyboard of a console -/

namespace Console

variable {console : Console} {patience : Nat} {turn : Turn} {reaction : Reaction}

theorem runCycle_keyboard (console : Console) :
    console.runCycle.1.keyboard = console.keyboard := by
  obtain ⟨_, ran⟩ := runCycle_eq console
  rw [ran]
  rfl

theorem stretch_keyboard (console : Console) (n : Nat) :
    (console.stretch n).console.keyboard = console.keyboard := by
  refine stretch_induction (P := fun after _ => after.keyboard = console.keyboard) ?_ rfl n
  intro after _ _ same
  rw [runCycle_keyboard, same]

theorem frame_keyboard (console : Console) (cycles : Nat) :
    (console.frame cycles).reaction.console.keyboard = console.keyboard := by
  rcases resting_or_running console with resting | ⟨free, running⟩
  · rw [frame_of_resting resting]
    rfl
  · rw [frame_of_running free running]
    exact stretch_keyboard console.poll.1 cycles

/-- A restart releases all keys, whether or not the program can be loaded again. -/
theorem restart_keyboard (console : Console) (now : Nat) :
    (console.restart now).1.keyboard = .empty := by
  rw [restart_eq]
  split <;> rfl

theorem typed_keyboard (console : Console) (text : String) (pressed : Bool) :
    (console.typed text pressed).1.keyboard =
      ((Keyboard.keyOf? text).map fun key => (key, pressed)).elim console.keyboard
        console.keyboard.strike := by
  unfold typed
  cases Keyboard.keyOf? text with
  | none => rfl
  | some key => rfl

theorem keyAction_keyboard (console : Console) (desktop : Desktop) (now : Nat) (key : Window.Key)
    (pressed : Bool) :
    (console.keyAction now key pressed).1.keyboard =
      console.keyboard.after (.window desktop (.keyInput ⟨key, pressed, false⟩)) := by
  cases key with
  | character text => exact typed_keyboard console text pressed
  | dead mark => rfl
  | named key =>
    cases key with
    | backspace =>
      cases pressed with
      | true => exact restart_keyboard console now
      | false => rfl
    | f1 => cases pressed <;> rfl
    | space =>
      have same : (console.keyAction now (.named .space) pressed).1.keyboard =
          console.keyboard := by
        simp only [keyAction]
        split
        · exact runCycle_keyboard console.poll.1
        · rfl
      rw [same]
      cases pressed <;> rfl
    | _ => rfl

theorem windowEvent_keyboard (console : Console) (desktop : Desktop) (now : Nat)
    (event : WindowEvent) :
    (console.windowEvent desktop now event).console.keyboard =
      console.keyboard.after (.window desktop event) := by
  cases event with
  | closeRequested | ignored => rfl
  | redrawRequested =>
    obtain ⟨_, _, drawn⟩ := redraw_console console desktop
    show (console.redraw desktop).console.keyboard = console.keyboard
    rw [drawn]
  | keyInput input =>
    obtain ⟨key, pressed, repeated⟩ := input
    cases repeated with
    | true =>
      have unstruck :
          (Callback.window desktop (.keyInput ⟨key, pressed, true⟩)).stroke? = none := by
        cases key <;> rfl
      simp [windowEvent, keyInput, ignore, react, Keyboard.after, Callback.isRestart, unstruck]
    | false =>
      rw [← keyAction_keyboard console desktop now key pressed]
      simp only [windowEvent, keyInput, Bool.false_eq_true, if_false]
      split
      case isTrue escape =>
        rw [escape]
        rfl
      case isFalse other => rfl

/-- A turn does to the keyboard what its callback says, and no more. -/
theorem take_keyboard (taken : console.take patience turn = some reaction) :
    reaction.console.keyboard = console.keyboard.after turn.callback := by
  obtain ⟨now, callback⟩ := turn
  cases callback with
  | resumed desktop =>
    cases taken
    obtain ⟨_, _, opened⟩ := resumed_placed console desktop now
    rw [opened]
    rfl
  | window desktop event =>
    cases taken
    exact windowEvent_keyboard console desktop now event
  | aboutToWait =>
    obtain ⟨cycles, _, framed⟩ := aboutToWait_frame taken
    rw [framed]
    exact frame_keyboard console cycles

/-! ## Keys given to the machine -/

/-- A console gives the keys to its machine: it runs by itself and may run, or it is driven by hand
and runs a cycle. -/
def polls (console : Console) (callback : Callback) : Bool :=
  console.handles callback ||
    (callback == .aboutToWait && !console.stepThrough && !console.halted)

/-- The keys that were given to the machine stay for the cycles that follow. -/
theorem stretch_keys (console : Console) (n : Nat) :
    (console.poll.1.stretch n).console.machine.keys = console.keyboard.keypad := by
  refine stretch_induction (P := fun after _ => after.machine.keys = console.keyboard.keypad)
    ?cycle ?given n
  case cycle =>
    intro after _ _ same
    obtain ⟨_, ran⟩ := runCycle_eq after
    rw [ran]
    exact (Machine.step_keys after.machine).trans same
  case given =>
    obtain ⟨_, _, _, pressed⟩ := Machine.applyKeys_eq console.machine console.keyboard.keypad
    exact congrArg Machine.keys pressed

/-- Each result of cycles one after another is that of a step from where the ones before it led. -/
theorem stretch_result (console : Console) {n i : Nat}
    (inside : i < (console.stretch n).results.length) :
    (console.stretch n).results[i] = (console.stretch i).console.machine.step.result := by
  induction n generalizing console i with
  | zero => exact absurd inside (Nat.not_lt_zero i)
  | succ n ih =>
    cases running : console.halted with
    | true => simp [stretch_of_halted running] at inside
    | false =>
      simp only [stretch_succ running, List.length_cons] at inside ⊢
      cases i with
      | zero => rfl
      | succ i =>
        have later := ih console.runCycle.1 (Nat.lt_of_succ_lt_succ inside)
        simp only [stretch_succ running, List.getElem_cons_succ, later]

end Console

namespace Recorder

variable {recorder after : Recorder} {turn : Turn} {turns : List Turn} {patience : Nat}

/-- A turn that gives the keys to the machine gives them once, before the cycles that it runs. -/
theorem TurnCase.deeds_of_polls (way : TurnCase recorder turn after)
    (polls : recorder.console.polls turn.callback = true) :
    ∃ n, after.deeds = recorder.deeds ++ .polled recorder.console.keyboard.keypad ::
      (recorder.console.poll.1.stretch n).results.map .cycled := by
  cases way with
  | rests waits resting =>
    rcases resting with rest | rest <;>
      simp [Console.polls, Console.handles, Callback.isSpace, waits, rest] at polls
  | aside other unhandled _ _ _ => simp [Console.polls, unhandled, other] at polls
  | byHand handled =>
    obtain ⟨_, _, running⟩ := Console.handles_iff.mp handled
    have polled : recorder.console.poll.1.halted = false := running
    refine ⟨1, ?_⟩
    rw [runCycle_deeds, poll_deeds, Console.stretch_succ polled, List.append_assoc]
    rfl
  | startsOver pressed =>
    have other : turn.callback ≠ .aboutToWait := by
      rintro waits
      rw [waits] at pressed
      cases pressed
    simp [Console.polls, Console.handles, Callback.isSpace_of_isRestart pressed, other] at polls
  | runs n _ _ _ _ _ _ => exact ⟨n, caughtUp_deeds recorder n⟩

/-- Any other turn gives no keys and runs no cycle. -/
theorem TurnCase.deeds_of_no_poll (way : TurnCase recorder turn after)
    (rests : recorder.console.polls turn.callback = false) :
    ∃ deeds, after.deeds = recorder.deeds ++ deeds ∧
      ∀ deed ∈ deeds, deed = .reset ∨ ∃ result, deed = .loaded result := by
  cases way with
  | rests _ _ | aside _ _ _ _ _ => exact ⟨[], (List.append_nil _).symm, nofun⟩
  | byHand handled => simp [Console.polls, handled] at rests
  | startsOver _ =>
    refine ⟨_, restart_deeds recorder turn.now, fun deed member => ?_⟩
    rcases List.mem_pair.mp member with rfl | rfl
    · exact .inl rfl
    · exact .inr ⟨_, rfl⟩
  | runs _ waits free running _ _ _ => simp [Console.polls, waits, free, running] at rests

/-- The keyboard follows the turns that a console has attended to since it held no key. -/
theorem attend_follows (released : recorder.console.keyboard = .empty)
    (attended : recorder.attend patience turns = some after) :
    after.console.keyboard.Follows turns := by
  -- the last turn decides on the keys that it strikes, so the turns are taken from the end
  induction turns using List.reverseRecOn generalizing after with
  | nil =>
    cases attended
    rw [released]
    exact Keyboard.empty_follows
  | append_singleton turns turn ih =>
    rw [attend_append] at attended
    obtain ⟨before, led, attended⟩ := Option.bind_eq_some_iff.mp attended
    rw [attend_single] at attended
    have erased := take_console before patience turn
    rw [attended, Option.map_some] at erased
    obtain ⟨reaction, answered, same⟩ := Option.map_eq_some_iff.mp erased.symm
    rw [← same, Console.take_keyboard answered]
    exact (ih led).after turn

end Recorder

/-! ## What the machine sees -/

theorem Turn.Held.lt {turns : List Turn} {key : Nat} (held : Held turns key) : key < 16 := by
  have member := List.mem_of_getLast? held
  obtain ⟨turn, _, struck⟩ := List.mem_filterMap.mp (List.mem_filter.mp member).1
  unfold Callback.stroke? at struck
  split at struck
  · obtain ⟨_, found, same⟩ := Option.map_eq_some_iff.mp struck
    cases same
    exact Keyboard.keyOf?_lt found
  · cases struck

namespace Machine

variable {machine : Machine}

/-- Where a cycle leads whose instruction skips on a condition. -/
theorem step_counter_of_skip {instruction : Instruction} {condition : Bool}
    (skips : machine.execute instruction = .ok (go machine (.skipIf condition)))
    (executed : machine.step.result = .ok (.executed instruction)) :
    machine.step.machine.counter = machine.counter + if condition then 4 else 2 := by
  have way := step_cases machine
  generalize machine.step = outcome at way executed ⊢
  cases way with
  | waits _ | unreadable _ _ | skips _ _ _ | faults _ _ _ _ => cases executed
  | executes _ _ _ done =>
    cases executed
    cases done.symm.trans skips
    rw [counted, countCycle_counter]
    cases condition <;> rfl

/-- A machine whose keypad has the keys down that these turns have left held, and no others, and
which skips accordingly: a register names a key that is down if it holds the number of one. -/
structure Sees (machine : Machine) (turns : List Turn) : Prop where
  keys : ∀ key, machine.keys.bits.toNat.testBit key = true ↔ Turn.Held turns key
  pressed : ∀ x, machine.step.result = .ok (.executed (.skipIfKeyPressed x)) →
    machine.step.machine.counter = machine.counter +
      if (machine.reg x).toNat < 16 ∧ Turn.Held turns (machine.reg x).toNat then 4 else 2
  released : ∀ x, machine.step.result = .ok (.executed (.skipIfKeyNotPressed x)) →
    machine.step.machine.counter = machine.counter +
      if (machine.reg x).toNat < 16 ∧ Turn.Held turns (machine.reg x).toNat then 2 else 4

/-- A machine that was given the keys of a keyboard sees what the keyboard holds. -/
theorem sees_of_keys {keyboard : Keyboard} {turns : List Turn}
    (given : machine.keys = keyboard.keypad) (follows : keyboard.Follows turns) :
    machine.Sees turns := by
  have bits : ∀ key, machine.keys.bits.toNat.testBit key = true ↔ Turn.Held turns key := by
    intro key
    rw [given]
    by_cases inside : key < 16
    · exact follows.testBit_keypad inside
    · rw [Keyboard.keypad, Keypad.testBit_ofStates]
      exact iff_of_false (fun ⟨small, _⟩ => inside small) fun held => inside held.lt
  have down : ∀ key : UInt8, machine.keys.isDown key = true ↔
      key.toNat < 16 ∧ Turn.Held turns key.toNat := by
    intro key
    rw [Keypad.isDown, Bool.and_eq_true, decide_eq_true_iff, bits]
  refine ⟨bits, fun x executed => ?_, fun x executed => ?_⟩
  · simp only [step_counter_of_skip rfl executed, down]
  · rw [step_counter_of_skip rfl executed]
    by_cases pressed : machine.keys.isDown (machine.reg x) = true
    · rw [if_pos ((down _).mp pressed), pressed]
      rfl
    · rw [if_neg (mt (down _).mpr pressed), Bool.eq_false_iff.mpr pressed]
      rfl

end Machine

/-! ## From the keyboard to the keypad -/

/-- After any turns of a console, whatever keys were typed in them and however often it was started
over: when the console now gives the keys to its machine, then from there on and through any number
of cycles the machine sees exactly the keys whose last stroke since the last restart was a press. A
turn in which it gives the keys gives them once, and before the cycles that it runs; in any other
turn the machine is given no keys and runs no cycle. The keyboard discards strokes past the last
key, also where it is changed in place, and a stroke of one key leaves the other keys as they
are. -/
theorem Settings.keypad_follows_strokes (settings : Settings) (random : RandomSource)
    {patience : Nat} {turns : List Turn} {before : Recorder}
    (attended : (Recorder.start (settings.boot random)).attend patience turns = some before) :
    (settings.boot random).attend patience turns = some before.console ∧
      (∀ i, (before.console.poll.1.stretch i).console.machine.Sees turns) ∧
      (∀ turn after, before.take patience turn = some after →
        (before.console.polls turn.callback = true →
          ∃ results : List (Except Fault Cycle), after.deeds = before.deeds ++
            .polled before.console.keyboard.keypad :: results.map .cycled ∧
          ∀ (i : Nat) (_ : i < results.length),
            results[i] = (before.console.poll.1.stretch i).console.machine.step.result) ∧
        (before.console.polls turn.callback = false → ∃ deeds,
          after.deeds = before.deeds ++ deeds ∧
          ∀ deed ∈ deeds, deed = .reset ∨ ∃ result, deed = .loaded result)) ∧
      ∀ (keyboard : Keyboard) (key : Nat),
        (16 ≤ key → (keyboard.press key).1 = keyboard ∧ (keyboard.release key).1 = keyboard) ∧
        (∀ (other : Nat) (_ : other < 16), other ≠ key →
          (keyboard.press key).1.held[other] = keyboard.held[other] ∧
          (keyboard.release key).1.held[other] = keyboard.held[other]) ∧
        Bare.strike? keyboard.held key true = some (keyboard.press key).1.held ∧
        Bare.strike? keyboard.held key false = some (keyboard.release key).1.held := by
  have erased := Recorder.attend_console (.start (settings.boot random)) patience turns
  rw [attended, Option.map_some] at erased
  have follows : before.console.keyboard.Follows turns := Recorder.attend_follows rfl attended
  refine ⟨erased.symm, fun i => ?sees, fun turn after taken => ⟨fun polls => ?given, ?quiet⟩,
    fun keyboard key => ⟨fun outside => ?discards, fun other inside apart => ?apart,
      Bare.strike?_eq keyboard key true, Bare.strike?_eq keyboard key false⟩⟩
  case sees => exact Machine.sees_of_keys (Console.stretch_keys before.console i) follows
  case given =>
    obtain ⟨n, deeds⟩ := (Recorder.take_cases taken).deeds_of_polls polls
    exact ⟨_, deeds, fun _ => Console.stretch_result _⟩
  case quiet => exact (Recorder.take_cases taken).deeds_of_no_poll
  case discards =>
    exact ⟨keyboard.strike_of_outside outside true, keyboard.strike_of_outside outside false⟩
  case apart =>
    have pressed := keyboard.held_strike (key, true) inside
    have released := keyboard.held_strike (key, false) inside
    rw [if_neg apart.symm] at pressed released
    exact ⟨pressed, released⟩

namespace Settings

/-- A console that is driven by hand, with a program that skips while key `5` is down. -/
def skipOnFive : Console :=
  boot ⟨500, 1, [0x60, 0x05, 0xE0, 0x9E], true⟩ (.constant 0)

def typing (key : Window.Key) (pressed : Bool) : Turn :=
  ⟨0, .window ⟨1, true, true, true⟩ (.keyInput ⟨key, pressed, false⟩)⟩

/-- Key `4` is pressed before a restart, and after it key `5`, and key `6` for a while. -/
def typedKeys : List Turn :=
  [typing (.character "q") true, typing (.named .backspace) true, typing (.character "w") true,
    typing (.character "e") true, typing (.character "e") false, Console.spaceDown]

theorem skipOnFive_skips :
    ∃ before machine, (Recorder.start skipOnFive).attend 0 typedKeys = some before ∧
      before.console.polls Console.spaceDown.callback = true ∧
      machine = (before.console.poll.1.stretch 0).console.machine ∧
      machine.keys.bits.toNat.testBit 4 = false ∧ machine.keys.bits.toNat.testBit 5 = true ∧
      machine.keys.bits.toNat.testBit 6 = false ∧
      machine.step.machine.counter = machine.counter + 4 := by
  have led : ((Recorder.start skipOnFive).attend 0 typedKeys).map (fun before =>
      (before.console.polls Console.spaceDown.callback,
        before.console.poll.1.machine.step.result.toOption,
        before.console.poll.1.machine.reg 0)) =
      some (true, some (.executed (.skipIfKeyPressed 0)), 5) := by
    decide +kernel
  obtain ⟨before, attended, told⟩ := Option.map_eq_some_iff.mp led
  simp only [Prod.mk.injEq] at told
  obtain ⟨polls, executed, five⟩ := told
  have released : ¬ Turn.Held typedKeys 4 := by decide +kernel
  have held : Turn.Held typedKeys 5 := by decide +kernel
  have lifted : ¬ Turn.Held typedKeys 6 := by decide +kernel
  obtain ⟨_, sees, _⟩ := keypad_follows_strokes _ _ attended
  obtain ⟨keys, pressed, _⟩ := sees 0
  refine ⟨before, _, attended, polls, rfl, ?_, (keys 5).mpr held, ?_, ?_⟩
  · exact Bool.eq_false_iff.mpr (mt (keys 4).mp released)
  · exact Bool.eq_false_iff.mpr (mt (keys 6).mp lifted)
  · have named : before.console.poll.1.machine.reg 0 = 5 := five
    have skipped := pressed 0 (Machine.ok_of_toOption executed)
    rw [skipped]
    refine congrArg _ (if_pos ?_)
    show (before.console.poll.1.machine.reg 0).toNat < 16 ∧
      Turn.Held typedKeys (before.console.poll.1.machine.reg 0).toNat
    rw [named]
    exact ⟨by decide, held⟩

end Settings
end Chip8
