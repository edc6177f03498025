import Chip8.Proofs.Bare.Answers
import Chip8.Proofs.CallStack

/-!
# The call stack under requests

A call stack beside a list of at most sixteen values, under any pushes and pops one after another.
They answer alike and show the same after each request, so what popped slots still hold is never
seen. A request that fails leaves the stack as it was, popped slots included, also where its changes
are made in place.
-/
namespace Chip8

namespace CallStack

inductive Request where
  | push (value caller : UInt16)
  | pop (caller : UInt16)
  deriving DecidableEq, Repr

/-- What a request answers: nothing, the value that was taken off, or a fault. -/
abbrev Reply := Except Fault (Option UInt16)

/-- A request to the stack; what fails leaves it as it was. -/
def serve (stack : CallStack) : Request → Reply × CallStack
  | .push value caller =>
    match stack.push value caller with
    | .ok after => (.ok none, after)
    | .error fault => (.error fault, stack)
  | .pop caller =>
    match stack.pop caller with
    | .ok (value, after) => (.ok (some value), after)
    | .error fault => (.error fault, stack)

/-- A request to a list of at most sixteen values, the latest at its end. -/
def serveList (pending : List UInt16) : Request → Reply × List UInt16
  | .push value caller =>
    if pending.length < 16 then (.ok none, pending ++ [value])
    else (.error (.stackOverflow caller), pending)
  | .pop caller =>
    match pending.getLast? with
    | some value => (.ok (some value), pending.dropLast)
    | none => (.error (.stackUnderflow caller), pending)

/-- The replies to requests one after another, each with what it leaves behind. -/
def replies {α : Type} (serve : α → Request → Reply × α) (state : α) :
    List Request → List (Reply × α)
  | [] => []
  | request :: rest =>
    let served := serve state request
    served :: replies serve served.2 rest

/-- What can be seen of a stack: its entries and their number. -/
def view (stack : CallStack) : List UInt16 × Nat :=
  (stack.entries, stack.depth)

def viewList (pending : List UInt16) : List UInt16 × Nat :=
  (pending, pending.length)

theorem serve_entries (stack : CallStack) (request : Request) :
    (stack.serve request).1 = (serveList stack.entries request).1 ∧
      (stack.serve request).2.entries = (serveList stack.entries request).2 := by
  have length := stack.length_entries
  cases request with
  | push value caller =>
    cases pushed : stack.push value caller with
    | ok after =>
      obtain ⟨room, _⟩ := push_slots pushed
      have fits : stack.entries.length < 16 := length ▸ room
      simp [serve, serveList, pushed, fits, entries_push pushed]
    | error fault =>
      obtain ⟨full, rfl⟩ := push_error_iff.mp pushed
      have none : ¬ stack.entries.length < 16 := by omega
      simp [serve, serveList, pushed, none]
  | pop caller =>
    cases popped : stack.pop caller with
    | ok top =>
      obtain ⟨value, after⟩ := top
      simp [serve, serveList, popped, entries_pop popped]
    | error fault =>
      obtain ⟨empty, rfl⟩ := pop_error_iff.mp popped
      have nothing : stack.entries = [] := List.eq_nil_of_length_eq_zero (length.trans empty)
      simp [serve, serveList, popped, nothing]

/-- The stack keeps step with the list of its entries. -/
theorem replies_entries (stack : CallStack) (requests : List Request) :
    (replies serve stack requests).map (Prod.map id view) =
      (replies serveList stack.entries requests).map (Prod.map id viewList) := by
  induction requests generalizing stack with
  | nil => rfl
  | cons request rest ih =>
    obtain ⟨reply, entries⟩ := stack.serve_entries request
    have seen : view (stack.serve request).2 = viewList (serveList stack.entries request).2 := by
      rw [view, viewList, ← length_entries, entries]
    simp only [replies, List.map_cons, Prod.map, id, reply, seen, ih, entries]

theorem serve_error {stack : CallStack} {request : Request} {fault : Fault}
    (failed : (stack.serve request).1 = .error fault) : (stack.serve request).2 = stack := by
  cases request with
  | push value caller =>
    cases pushed : stack.push value caller with
    | ok after => simp [serve, pushed] at failed
    | error _ => simp [serve, pushed]
  | pop caller =>
    cases popped : stack.pop caller with
    | ok top => simp [serve, popped] at failed
    | error _ => simp [serve, popped]

/-- Two stacks with the same entries cannot be told apart, whatever their popped slots hold. -/
theorem replies_congr {stack other : CallStack} (same : stack.entries = other.entries)
    (requests : List Request) :
    (replies serve stack requests).map (Prod.map id view) =
      (replies serve other requests).map (Prod.map id view) := by
  rw [replies_entries, replies_entries, same]

end CallStack

/-! ## In place -/

namespace Bare

def serveStack : CallStack.Request → Work (Option UInt16)
  | .push value caller => do
    push value caller
    return none
  | .pop caller => do
    return some (← pop caller)

/-- The replies to requests one after another, each with the machine that it leaves behind, unless
one of them has no answer. -/
def stackReplies (bare : Bare) (events : List Event) (requests : List CallStack.Request) :
    Option (List (CallStack.Reply × Bare)) :=
  answers serveStack bare events requests

variable (machine : Machine) (events : List Event)

theorem answer_serveStack (request : CallStack.Request) :
    answer (serveStack request) (ofMachine machine) events =
      some ((machine.stack.serve request).1,
        ofMachine { machine with stack := (machine.stack.serve request).2 }, events) := by
  cases request with
  | push value caller =>
    cases pushed : machine.stack.push value caller with
    | ok after => simp [serveStack, answer_push, pushed, CallStack.serve]
    | error fault => simp [serveStack, answer_push, pushed, CallStack.serve]
  | pop caller =>
    cases popped : machine.stack.pop caller with
    | ok top => simp [serveStack, answer_pop, popped, CallStack.serve]
    | error fault => simp [serveStack, answer_pop, popped, CallStack.serve]

/-- The changes made in place come to those of the stack, request by request. -/
theorem stackReplies_ofMachine (requests : List CallStack.Request) :
    stackReplies (ofMachine machine) events requests =
      some ((CallStack.replies CallStack.serve machine.stack requests).map
        (Prod.map id fun stack => ofMachine { machine with stack := stack })) := by
  induction requests generalizing machine with
  | nil => rfl
  | cons request rest ih =>
    have later := ih { machine with stack := (machine.stack.serve request).2 }
    rw [stackReplies] at later
    simp only [stackReplies, answers, answer_serveStack, Option.bind_eq_bind, Option.bind_some, later,
      Option.pure_def, CallStack.replies, List.map_cons, Prod.map, id]

/-- A request to the stack that fails has changed nothing. -/
theorem serveStack_error {request : CallStack.Request} {fault : Fault} {after : Bare}
    {told : List Event}
    (failed : answer (serveStack request) (ofMachine machine) events =
      some (.error fault, after, told)) :
    after = ofMachine machine ∧ told = events := by
  rw [answer_serveStack] at failed
  obtain ⟨reply, rest⟩ := Prod.mk.inj (Option.some.inj failed)
  obtain ⟨rfl, rfl⟩ := Prod.mk.inj rest
  rw [CallStack.serve_error reply]
  exact ⟨rfl, rfl⟩

end Bare

namespace CallStack

/-- A new stack and an empty list, under any requests one after another: the replies are the same,
and after each of them the entries are the list and the depth is its length. The changes that are
made in place come to the stack's, and a request that fails leaves everything in place, popped
slots included. What these hold is never seen: stacks with the same entries reply alike and show
the same from then on. -/
theorem refines_list (requests : List Request) :
    (replies serve empty requests).map (Prod.map id view) =
      (replies serveList [] requests).map (Prod.map id viewList) ∧
    (∀ (machine : Machine) events,
      Bare.stackReplies (Bare.ofMachine { machine with stack := empty }) events requests =
        some ((replies serve empty requests).map
          (Prod.map id fun stack => Bare.ofMachine { machine with stack := stack }))) ∧
    (∀ machine events request fault after told,
      Bare.answer (Bare.serveStack request) (Bare.ofMachine machine) events =
        some (.error fault, after, told) → after = Bare.ofMachine machine ∧ told = events) ∧
    ∀ stack other : CallStack, stack.entries = other.entries →
      (replies serve stack requests).map (Prod.map id view) =
        (replies serve other requests).map (Prod.map id view) :=
  ⟨replies_entries empty requests,
    fun machine events => Bare.stackReplies_ofMachine { machine with stack := empty } events requests,
    fun machine events _ _ _ _ failed => Bare.serveStack_error machine events failed,
    fun _ _ same => replies_congr same requests⟩

/-- The stack after one call has been pushed and popped. -/
def usedOnce : CallStack :=
  ((empty.serve (.push 0x2A4 0x2A4)).2.serve (.pop 0x300)).2

def returnedOnce : Machine :=
  { Machine.powerOn 500 (.constant 0) with stack := usedOnce }

/-- A stack that was used and a new one differ in a popped slot and in nothing that can be seen of
them, and popping once more fails and leaves the slot as it is. -/
theorem usedOnce_unseen :
    usedOnce.slots ≠ empty.slots ∧ usedOnce.entries = empty.entries ∧
      (replies serve usedOnce [.pop 0x302, .push 0x200 0x200]).map (Prod.map id view) =
        (replies serve empty [.pop 0x302, .push 0x200 0x200]).map (Prod.map id view) ∧
      ∃ after told, Bare.answer (Bare.serveStack (.pop 0x302)) (Bare.ofMachine returnedOnce) [] =
          some (.error (.stackUnderflow 0x302), after, told) ∧
        after = Bare.ofMachine returnedOnce ∧ told = [] := by
  have same : usedOnce.entries = empty.entries := rfl
  have failed := Bare.answer_serveStack returnedOnce [] (.pop 0x302)
  obtain ⟨_, _, keeps, alike⟩ := refines_list [.pop 0x302, .push 0x200 0x200]
  exact ⟨by decide, same, alike usedOnce empty same, _, _, failed, keeps _ _ _ _ _ _ failed⟩

end CallStack
end Chip8
