import Chip8.Text.Number
import Chip8.Timing

/-!
# Command line

The arguments of the program: the path of a program to run, and options. A value stands behind its
option as the next argument or after an equals sign. A value in an argument of its own, and the
path, are not looked at before the next option or path or the end, so that what comes later can be
the first mistake to be noticed. Behind two dashes every argument is a path.
-/
namespace Chip8

structure Options where
  input : String
  rate : UInt32
  scale : UInt64
  seed : Option UInt64
  stepThrough : Bool
  deriving DecidableEq, Repr

inductive UsageError where
  /-- Help was asked for. -/
  | helpRequested
  /-- There is no such option, or one path too many. -/
  | unknownArgument
  /-- An option has no value. -/
  | missingValue
  /-- A value is no number or does not fit its range. -/
  | badValue
  /-- An option was given twice. -/
  | repeatedOption
  /-- An option that takes no value was given one. -/
  | surplusValue
  /-- There is no path. -/
  | missingPath
  deriving DecidableEq, Repr

def UsageError.exitCode : UsageError → UInt32
  | .helpRequested => 0
  | _ => 2

namespace CommandLine

def defaultScale : UInt64 := 20

inductive Setting where
  | rate | scale | seed
  deriving DecidableEq, Repr

def Setting.ofName? : String → Option Setting
  | "rate" => some .rate
  | "scale" => some .scale
  | "seed" => some .seed
  | _ => none

inductive Form where
  /-- Two dashes alone. -/
  | divider
  /-- A name behind two dashes, and what stands after an equals sign. -/
  | named (name : String) (value : Option String)
  /-- A letter behind one dash. -/
  | letter (letter : Char)
  /-- Anything else. -/
  | plain (text : String)
  deriving DecidableEq, Repr

/-- A name behind two dashes, cut at the first equals sign. -/
def Form.ofName (body : List Char) : Form :=
  let name := String.ofList (body.takeWhile (· ≠ '='))
  match body.dropWhile (· ≠ '=') with
  | [] => .named name none
  | _ :: value => .named name (some (String.ofList value))

/-- The form of an argument. A dash alone is plain. -/
def Form.ofArgument (argument : String) : Form :=
  match argument.toList with
  | ['-', '-'] => .divider
  | '-' :: '-' :: body => .ofName body
  | '-' :: first :: _ => .letter first
  | _ => .plain argument

/-- What was read but not looked at yet. -/
inductive Pending where
  | nothing
  | path (text : String)
  | setting (setting : Setting) (value : Option String)
  deriving DecidableEq, Repr

/-- What the arguments so far ask for. -/
structure Draft where
  input : Option String
  rate : Option UInt32
  scale : Option UInt64
  seed : Option UInt64
  stepThrough : Bool
  pending : Pending
  deriving DecidableEq, Repr

namespace Draft

def empty : Draft := ⟨none, none, none, none, false, .nothing⟩

def isSet (draft : Draft) : Setting → Bool
  | .rate => draft.rate.isSome
  | .scale => draft.scale.isSome
  | .seed => draft.seed.isSome

def hasPath (draft : Draft) : Bool :=
  draft.input.isSome || match draft.pending with
    | .path _ => true
    | _ => false

def assign (draft : Draft) (setting : Setting) (text : String) : Except UsageError Draft :=
  if draft.isSet setting then .error .repeatedOption
  else match setting with
    | .rate => match Text.Number.word32? text with
      | some rate => .ok { draft with rate := some rate }
      | none => .error .badValue
    | .scale => match Text.Number.word64? text with
      | some scale => .ok { draft with scale := some scale }
      | none => .error .badValue
    | .seed => match Text.Number.word64? text with
      | some seed => .ok { draft with seed := some seed }
      | none => .error .badValue

/-- Looks at what is pending. -/
def settle (draft : Draft) : Except UsageError Draft :=
  let settled := { draft with pending := .nothing }
  match draft.pending with
  | .nothing => .ok draft
  | .path text => .ok { settled with input := some text }
  | .setting _ none => .error .missingValue
  | .setting setting (some text) => settled.assign setting text

def takePath (draft : Draft) (text : String) : Except UsageError Draft := do
  if draft.hasPath then throw .unknownArgument
  let settled ← draft.settle
  return { settled with pending := .path text }

def takeHelp (draft : Draft) : Except UsageError Draft := do
  let _ ← draft.settle
  throw .helpRequested

def takeStep (draft : Draft) : Except UsageError Draft := do
  let settled ← draft.settle
  if settled.stepThrough then throw .repeatedOption
  return { settled with stepThrough := true }

def takeSetting (draft : Draft) (setting : Setting) (value : Option String) :
    Except UsageError Draft := do
  let settled ← draft.settle
  match value with
  | some text => settled.assign setting text
  | none => return { settled with pending := .setting setting none }

/-- Reads a name behind two dashes. -/
def takeNamed (draft : Draft) (name : String) (value : Option String) : Except UsageError Draft :=
  if name = "help" then if value.isSome then .error .surplusValue else draft.takeHelp
  else if name = "step" then if value.isSome then .error .surplusValue else draft.takeStep
  else match Setting.ofName? name with
    | some setting => draft.takeSetting setting value
    | none => .error .unknownArgument

/-- Reads an argument that is no option: the value that an option waits for, or a path. -/
def takePlain (draft : Draft) (text : String) : Except UsageError Draft :=
  match draft.pending with
  | .setting setting none => .ok { draft with pending := .setting setting (some text) }
  | _ => draft.takePath text

/-- What the draft amounts to at the end. -/
def finish (draft : Draft) : Except UsageError Options := do
  let settled ← draft.settle
  match settled.input with
  | none => throw .missingPath
  | some input => return {
      input := input
      rate := settled.rate.getD Timing.defaultRate
      scale := settled.scale.getD defaultScale
      seed := settled.seed
      stepThrough := settled.stepThrough }

end Draft

/-- Reads the arguments behind two dashes. -/
def readPaths (draft : Draft) (arguments : List String) : Except UsageError Draft :=
  arguments.foldlM Draft.takePath draft

def read (draft : Draft) : List String → Except UsageError Draft
  | [] => .ok draft
  | argument :: rest =>
    match Form.ofArgument argument with
    | .divider => readPaths draft rest
    | .named name value => do read (← draft.takeNamed name value) rest
    | .letter letter =>
      if letter = 'h' then do read (← draft.takeHelp) rest else .error .unknownArgument
    | .plain text => do read (← draft.takePlain text) rest

/-- What the arguments ask for, or why there is nothing to run. -/
def parse (arguments : List String) : Except UsageError Options := do
  let draft ← read .empty arguments
  draft.finish

end CommandLine
end Chip8
