import Chip8.Proofs.Console.Twins
import Chip8.Proofs.Mirror

/-!
# A restart is a boot

Making a console and starting it over are written down apart from each other. Whatever happened to a
console, a restart leaves it as if it had just been made and had loaded its program, with the random
source as far drawn as it was. So from then on it lives as a new console does whose random source
has the same bytes to come.
-/
namespace Chip8

/-- What a console is made of, beside its random source. -/
structure Settings where
  rate : UInt32
  scale : Nat
  rom : List UInt8
  stepThrough : Bool

namespace Settings

variable {settings : Settings} {console : Console}

/-- A new console, whose machine is at power-on. -/
def build (settings : Settings) (random : RandomSource) : Console :=
  (Console.build settings.rate settings.scale random settings.rom settings.stepThrough).1

/-- A new console that has loaded its program. -/
def boot (settings : Settings) (random : RandomSource) : Console :=
  (settings.build random).loadRom.1

/-- A new console to which nothing has happened but that its window may have been opened. -/
inductive Fresh (settings : Settings) (random : RandomSource) : Console → Prop where
  | booted : Fresh settings random (settings.boot random)
  | opened {console : Console} (desktop : Desktop) (now : Nat) :
    Fresh settings random console → Fresh settings random (console.resumed desktop now).console

/-- The consoles that events, cycles and the passing of time lead to. -/
inductive Reached (settings : Settings) : Console → Prop where
  | booted (random : RandomSource) : Reached settings (settings.boot random)
  | resumed {console : Console} (desktop : Desktop) (now : Nat) :
    Reached settings console → Reached settings (console.resumed desktop now).console
  | window {console : Console} (desktop : Desktop) (now : Nat) (event : WindowEvent) :
    Reached settings console → Reached settings (console.windowEvent desktop now event).console
  | waited {console : Console} {reaction : Reaction} (patience now : Nat)
    (answer : console.aboutToWait patience now = some reaction) :
    Reached settings console → Reached settings reaction.console
  | polled {console : Console} : Reached settings console → Reached settings console.poll.1
  | cycled {console : Console} : Reached settings console → Reached settings console.runCycle.1

end Settings

/-! ## What a console keeps -/

/-- What nothing but the opening of its window ever changes of a console. -/
structure Console.Keeps (before after : Console) : Prop where
  rate : after.machine.rate = before.machine.rate
  scale : after.display.scale = before.display.scale
  rom : after.rom = before.rom
  stepThrough : after.stepThrough = before.stepThrough
  surface : after.surface.map Array.size = before.surface.map Array.size

namespace Console

variable {a b c : Console}

theorem Keeps.refl (console : Console) : console.Keeps console :=
  ⟨rfl, rfl, rfl, rfl, rfl⟩

theorem Keeps.trans (first : a.Keeps b) (second : b.Keeps c) : a.Keeps c :=
  ⟨second.rate.trans first.rate, second.scale.trans first.scale, second.rom.trans first.rom,
    second.stepThrough.trans first.stepThrough, second.surface.trans first.surface⟩

theorem Keeps.switched (keeps : a.Keeps b) (halted : Bool) (time : Nat) :
    a.Keeps { b with halted := halted, lastCycle := time } :=
  { keeps with }

theorem Keeps.atTime (keeps : a.Keeps b) (time : Nat) : a.Keeps (b.atTime time) :=
  { keeps with }

theorem absorb_keeps (console : Console) {machine : Machine} (events : List Event)
    (rate : machine.rate = console.machine.rate) :
    console.Keeps (console.absorb machine events) :=
  ⟨rate, Display.follow_scale _ _, rfl, rfl, rfl⟩

theorem poll_keeps (console : Console) : console.Keeps console.poll.1 :=
  absorb_keeps console _ (Machine.apply_rate console.machine (.input console.keyboard.keypad))

theorem runCycle_keeps (console : Console) : console.Keeps console.runCycle.1 := by
  have kept := absorb_keeps console console.machine.step.events
    (Machine.apply_rate console.machine .step)
  obtain ⟨halted, after⟩ := runCycle_eq console
  rw [after]
  exact { kept with }

theorem loadRom_keeps (console : Console) : console.Keeps console.loadRom.1 :=
  absorb_keeps console _ (Machine.apply_rate console.machine (.load console.rom))

theorem stretch_keeps (console : Console) (n : Nat) :
    console.Keeps (console.stretch n).console := by
  induction n generalizing console with
  | zero => exact .refl console
  | succ n ih =>
    cases running : console.halted with
    | true =>
      rw [stretch_of_halted running]
      exact .refl console
    | false =>
      rw [stretch_succ running]
      exact (runCycle_keeps console).trans (ih console.runCycle.1)

theorem frame_keeps (console : Console) (cycles : Nat) :
    console.Keeps (console.frame cycles).reaction.console := by
  rcases resting_or_running console with resting | ⟨free, running⟩
  · rw [frame_of_resting resting]
    exact .refl console
  · rw [frame_of_running free running]
    exact (poll_keeps console).trans (stretch_keeps _ cycles)

theorem cleared_keeps (console : Console) : console.Keeps console.cleared := by
  unfold cleared
  exact ⟨Machine.powerOn_rate _ _, rfl, rfl, rfl, rfl⟩

theorem restart_keeps (console : Console) (now : Nat) :
    console.Keeps (console.restart now).1 := by
  have loaded := (cleared_keeps console).trans (loadRom_keeps console.cleared)
  rw [restart_eq]
  split
  · exact loaded.switched false now
  · exact loaded.switched true _

theorem redraw_keeps (console : Console) (desktop : Desktop) :
    console.Keeps (console.redraw desktop).console := by
  rcases Option.eq_none_or_eq_some console.surface with closed | ⟨frame, shown⟩
  · rw [redraw_of_none closed]
    exact .refl console
  · rw [redraw_of_some shown, apply_ite Reaction.console, ite_self, rendered,
      Display.render_display]
    refine ⟨rfl, rfl, rfl, rfl, ?_⟩
    rw [shown, Option.map_some, Option.map_some, Display.size_render]

theorem keyAction_keeps (console : Console) (now : Nat) (key : Window.Key) (pressed : Bool) :
    console.Keeps (console.keyAction now key pressed).1 := by
  unfold keyAction
  split
  · split
    · exact restart_keeps console now
    · exact .refl console
  · split
    · exact .refl console
    · exact .refl console
  · split
    · exact (poll_keeps console).trans (runCycle_keeps _)
    · exact .refl console
  · unfold typed
    split
    · exact .refl console
    · exact { Keeps.refl console with }
  · exact .refl console

theorem windowEvent_keeps (console : Console) (desktop : Desktop) (now : Nat)
    (event : WindowEvent) : console.Keeps (console.windowEvent desktop now event).console := by
  cases event with
  | closeRequested => exact .refl console
  | redrawRequested => exact redraw_keeps console desktop
  | ignored => exact .refl console
  | keyInput input =>
    show console.Keeps (console.keyInput now input).console
    unfold keyInput
    split
    · exact .refl console
    · dsimp only
      split
      · exact .refl console
      · exact keyAction_keeps console now input.key input.pressed

theorem aboutToWait_keeps {console : Console} {patience now : Nat} {reaction : Reaction}
    (answer : console.aboutToWait patience now = some reaction) :
    console.Keeps reaction.console := by
  obtain ⟨cycles, time, framed⟩ := aboutToWait_frame answer
  rw [framed]
  exact { frame_keeps console cycles with }

end Console

/-! ## What was settled when a console was made -/

namespace Settings

variable {settings : Settings} {console : Console}

def surfaceSize (settings : Settings) : Nat :=
  let scale := max 1 settings.scale
  Console.windowSize (Screen.width * scale) * Console.windowSize (Screen.height * scale) * 4

/-- A console that is as it was made in all that does not change. -/
structure Kept (settings : Settings) (console : Console) : Prop where
  rate : console.machine.rate = settings.rate
  scale : console.display.scale = max 1 settings.scale
  rom : console.rom = settings.rom
  stepThrough : console.stepThrough = settings.stepThrough
  surface : console.surface.map Array.size = none ∨
    console.surface.map Array.size = some settings.surfaceSize

theorem Kept.of_keeps {after : Console} (kept : settings.Kept console)
    (keeps : console.Keeps after) : settings.Kept after :=
  ⟨keeps.rate.trans kept.rate, keeps.scale.trans kept.scale, keeps.rom.trans kept.rom,
    keeps.stepThrough.trans kept.stepThrough, keeps.surface ▸ kept.surface⟩

theorem build_kept (settings : Settings) (random : RandomSource) :
    settings.Kept (settings.build random) :=
  ⟨Machine.powerOn_rate _ _, rfl, rfl, rfl, .inl rfl⟩

theorem boot_kept (settings : Settings) (random : RandomSource) :
    settings.Kept (settings.boot random) :=
  (build_kept settings random).of_keeps (Console.loadRom_keeps _)

theorem Kept.resumed (kept : settings.Kept console) (desktop : Desktop) (now : Nat) :
    settings.Kept (console.resumed desktop now).console := by
  unfold Console.resumed
  dsimp only
  split
  · exact kept
  · split
    · exact kept
    · refine { kept with surface := .inr ?_ }
      simp [surfaceSize, Display.width, Display.height, kept.scale]

theorem Reached.kept (reached : settings.Reached console) : settings.Kept console := by
  induction reached with
  | booted random => exact boot_kept settings random
  | resumed desktop now _ ih => exact ih.resumed desktop now
  | window desktop now event _ ih => exact ih.of_keeps (Console.windowEvent_keeps _ _ _ _)
  | waited patience now answer _ ih => exact ih.of_keeps (Console.aboutToWait_keeps answer)
  | polled _ ih => exact ih.of_keeps (Console.poll_keeps _)
  | cycled _ ih => exact ih.of_keeps (Console.runCycle_keeps _)

end Settings

/-! ## Starting over -/

namespace Console

def withRandom (console : Console) (random : RandomSource) : Console :=
  { console with machine := { console.machine with random := random } }

/-- The same console, halted or not, at some time, and with some surface. -/
def placed (console : Console) (halted : Bool) (time : Nat) (surface : Option (Array UInt8)) :
    Console :=
  { console with halted := halted, lastCycle := time, surface := surface }

theorem placed_placed {console other : Console} {halted : Bool} {time : Nat}
    {surface : Option (Array UInt8)} (same : console = other.placed halted time surface)
    (later : Nat) (opened : Option (Array UInt8)) :
    console.placed console.halted later opened = other.placed halted later opened := by
  subst same
  rfl

/-- Opening the window changes the surface and the time alone. -/
theorem resumed_placed (console : Console) (desktop : Desktop) (now : Nat) :
    ∃ time surface, (console.resumed desktop now).console =
      console.placed console.halted time surface := by
  unfold resumed
  dsimp only
  split
  · exact ⟨console.lastCycle, console.surface, rfl⟩
  · split
    · exact ⟨console.lastCycle, console.surface, rfl⟩
    · exact ⟨_, _, rfl⟩

/-- A console is the twin of itself with another source of the same bytes. -/
theorem twins_withRandom {windows : Prop} (console : Console) {random : RandomSource}
    (bytes : console.machine.random.SameBytes random) (halted : Bool) (first second : Nat)
    {one other : Option (Array UInt8)}
    (sizes : windows → one.map Array.size = other.map Array.size) :
    (console.placed halted first one).Twins windows
      ((console.withRandom random).placed halted second other) where
  machine := .intro random bytes
  display := .refl windows console.display
  rom := rfl
  keyboard := rfl
  stepThrough := rfl
  halted := rfl
  surface := sizes

/-- Loading the program does not draw from the random source. -/
theorem loadRom_withRandom (console : Console) (random : RandomSource) :
    (console.withRandom random).loadRom =
      (console.loadRom.1.withRandom random, console.loadRom.2) := by
  unfold loadRom withRandom Machine.load
  dsimp only
  split
  · rfl
  · rfl

theorem loadRom_placed (console : Console) (halted : Bool) (time : Nat)
    (surface : Option (Array UInt8)) :
    (console.placed halted time surface).loadRom =
      (console.loadRom.1.placed halted time surface, console.loadRom.2) := rfl

/-- A program that leaves room for the halt marker is loaded. -/
theorem loadRom_of_fits {console : Console} (fits : console.rom.length ≤ Memory.maxProgram) :
    console.loadRom.2.1 = .ok () := by
  simp [loadRom, Machine.load, Memory.load, fits]

/-- A larger program is refused, and nothing is changed. -/
theorem loadRom_of_large (console : Console) (large : Memory.maxProgram < console.rom.length) :
    console.loadRom =
      (console, .error (.programTooLarge console.rom.length Memory.maxProgram), []) := by
  have refused : ¬ console.rom.length ≤ Memory.maxProgram := Nat.not_le.mpr large
  simp [loadRom, Machine.load, Memory.load, refused, absorb, Display.follow, notices]

end Console

namespace Settings

variable {settings : Settings} {console : Console}

theorem build_withRandom (settings : Settings) (random other : RandomSource) :
    (settings.build random).withRandom other = settings.build other := rfl

/-- Consoles that were made alike differ in their random sources only. -/
theorem boot_withRandom (settings : Settings) (random other : RandomSource) :
    (settings.boot random).withRandom other = settings.boot other := by
  have loaded := Console.loadRom_withRandom (settings.build random) other
  rw [build_withRandom] at loaded
  exact (congrArg Prod.fst loaded).symm

/-- A console that was cleared is one that was just made, but for what clearing leaves alone. -/
theorem Kept.cleared (kept : settings.Kept console) :
    console.cleared = (settings.build console.machine.random).placed
      console.halted console.lastCycle console.surface := by
  have display : console.display.clear =
      (Display.ofScale settings.scale).follow Machine.resetEvents := by
    show _ = (Display.ofScale settings.scale).clear
    simp only [Display.clear, Display.ofScale, kept.scale]
  unfold Console.cleared build Console.build Console.placed
  rw [display, kept.rate, kept.rom, kept.stepThrough]

theorem Kept.restart_of_fits (kept : settings.Kept console)
    (fits : settings.rom.length ≤ Memory.maxProgram) (now : Nat) :
    (console.restart now).1 =
      (settings.boot console.machine.random).placed false now console.surface := by
  have loaded : (settings.build console.machine.random).loadRom.2.1 = .ok () :=
    Console.loadRom_of_fits fits
  rw [Console.restart_eq, kept.cleared, Console.loadRom_placed]
  dsimp only
  rw [loaded]
  rfl

theorem Kept.restart_of_large (kept : settings.Kept console)
    (large : Memory.maxProgram < settings.rom.length) (now : Nat) :
    (console.restart now).1 = (settings.build console.machine.random).placed
      true console.lastCycle console.surface := by
  have refused := Console.loadRom_of_large (settings.build console.machine.random) large
  rw [Console.restart_eq, kept.cleared, Console.loadRom_placed, refused]
  rfl

/-! ## A new console -/

theorem boot_random (settings : Settings) (random : RandomSource) :
    (settings.boot random).machine.random = random := by
  -- the source of a console that was given this source is this source
  rw [← boot_withRandom settings random random]
  rfl

theorem Fresh.placed {random : RandomSource} (fresh : settings.Fresh random console) :
    ∃ time surface, console = (settings.boot random).placed false time surface := by
  induction fresh with
  | booted => exact ⟨0, none, rfl⟩
  | opened desktop now _ ih =>
    obtain ⟨_, _, same⟩ := ih
    obtain ⟨time, surface, opened⟩ := Console.resumed_placed _ desktop now
    exact ⟨time, surface, opened.trans (Console.placed_placed same time surface)⟩

theorem Fresh.kept {random : RandomSource} (fresh : settings.Fresh random console) :
    settings.Kept console := by
  induction fresh with
  | booted => exact boot_kept settings random
  | opened desktop now _ ih => exact ih.resumed desktop now

/-- The surfaces of two windows are equally large when the consoles were made alike. -/
theorem Kept.surface_size {other : Console} (kept : settings.Kept console)
    (same : settings.Kept other) (windows : console.surface.isSome = other.surface.isSome) :
    console.surface.map Array.size = other.surface.map Array.size := by
  have sizes : (console.surface.map Array.size).isSome =
      (other.surface.map Array.size).isSome := by
    simpa only [Option.isSome_map] using windows
  rcases kept.surface with one | one <;> rcases same.surface with two | two <;>
    rw [one, two] at sizes ⊢ <;> cases sizes

/-- Whatever happened to a console, a restart leaves it as a new one that has loaded its program, but
that its random source is not wound back and its window stays open; and from then on it does the
same, whatever happens, as a new one whose random source has the same bytes to come. A program that
is too large is not loaded, and the console halts. -/
theorem restart_boots (reached : settings.Reached console) (now : Nat) :
    (settings.rom.length ≤ 3582 →
      (∀ random, (console.restart now).1 =
        ((settings.boot random).withRandom console.machine.random).placed
          false now console.surface) ∧
      (console.restart now).1.keyboard = .empty ∧ (console.restart now).1.halted = false ∧
      ∀ random fresh, console.machine.random.SameBytes random → settings.Fresh random fresh →
        ∀ first second : List Console.Moment,
          first.map Console.Moment.happening = second.map Console.Moment.happening →
          List.Forall₂
            (Console.Happened.Alike (console.surface.isSome = fresh.surface.isSome))
            ((console.restart now).1.live first) (fresh.live second)) ∧
    (3582 < settings.rom.length → ∀ random, (console.restart now).1 =
      ((settings.build random).withRandom console.machine.random).placed
        true console.lastCycle console.surface) := by
  have kept := reached.kept
  constructor
  case left =>
    intro fits
    have restarted := kept.restart_of_fits fits now
    refine ⟨fun random => ?same, ?released, ?runs, ?lives⟩
    case same => rw [boot_withRandom, restarted]
    case released =>
      rw [restarted]
      rfl
    case runs =>
      rw [restarted]
      rfl
    case lives =>
      intro random fresh bytes new first second happenings
      apply Console.live_alike _ happenings
      have sizes := kept.surface_size new.kept
      obtain ⟨time, surface, made⟩ := new.placed
      have source : (settings.boot console.machine.random).machine.random.SameBytes random := by
        rw [boot_random]
        exact bytes
      -- now both are the same new console, with two sources, at two times and with two surfaces
      rw [made, ← boot_withRandom settings console.machine.random random] at sizes ⊢
      rw [restarted]
      exact Console.twins_withRandom _ source false now time sizes
  case right =>
    intro large random
    rw [build_withRandom]
    exact kept.restart_of_large large now

/-- A console with a program that draws a random byte and asks for a key. -/
def asking : Settings := ⟨500, 1, [0xC3, 0xFF, 0xF5, 0x0A], false⟩

def asked : Console := (asking.boot (.cyclic [7, 9])).runCycle.1.runCycle.1

/-- A console whose program is one byte too large. -/
def crammed : Settings := ⟨500, 1, List.replicate 3583 0, false⟩

theorem asked_boots :
    asking.Reached asked ∧ asked.machine.keyWait = some 5 ∧ asked.machine.reg 3 = 7 ∧
      (asked.restart 5).1 =
        ((asking.boot (.constant 0)).withRandom asked.machine.random).placed false 5 asked.surface ∧
      List.Forall₂ (Console.Happened.Alike
          (asked.surface.isSome = (asking.boot asked.machine.random).surface.isSome))
        ((asked.restart 5).1.live [⟨6, .frame 3⟩])
        ((asking.boot asked.machine.random).live [⟨0, .frame 3⟩]) ∧
      (((crammed.boot (.constant 0)).restart 5).1).halted = true := by
  have reached : asking.Reached asked := .cycled (.cycled (.booted (.cyclic [7, 9])))
  have waits : asked.machine.keyWait = some 5 := by decide +kernel
  have drawn : asked.machine.reg 3 = 7 := by decide +kernel
  obtain ⟨same, _, _, lives⟩ := (restart_boots reached 5).1 (by decide)
  have large : 3582 < crammed.rom.length := by
    simp only [crammed, List.length_replicate]
    decide
  have stopped := (restart_boots (.booted (.constant 0)) 5).2 large (.constant 0)
  refine ⟨reached, waits, drawn, same (.constant 0), ?_, ?_⟩
  · exact lives asked.machine.random _ (.refl _) .booted [⟨6, .frame 3⟩] [⟨0, .frame 3⟩] rfl
  · rw [stopped]
    rfl

end Settings
end Chip8
