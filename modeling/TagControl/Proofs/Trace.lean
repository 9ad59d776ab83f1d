import TagControl.Tag
/-!
What a trace says: the calls made, and the events handled with the memory that each of them found
and the outcome of its handling. Lines are not read.
-/

set_option autoImplicit false

namespace TagControl

/-- The handling of one event: the memory it found, the event and its outcome. -/
structure Handling where
  memory : Memory
  event : Event
  outcome : Except HandlingError Unit

def Entry.handling? : Entry → Option Handling
  | handled memory event outcome => some ⟨memory, event, outcome⟩
  | _ => none

namespace Trace

def calls (trace : List Entry) : List Call :=
  trace.filterMap Entry.call?

def handlings (trace : List Entry) : List Handling :=
  trace.filterMap Entry.handling?

@[simp] theorem calls_nil : calls [] = [] := rfl

@[simp] theorem calls_append (first second : List Entry) :
    calls (first ++ second) = calls first ++ calls second :=
  List.filterMap_append

@[simp] theorem calls_lines (lines : List Line) : calls (lines.map .logged) = [] := by
  simp [calls, Entry.call?]

@[simp] theorem calls_line (line : Line) : calls [.logged line] = [] := rfl

@[simp] theorem calls_called (memory : Memory) (call : Call) :
    calls [.called memory call] = [call] := rfl

@[simp] theorem calls_handled (memory : Memory) (event : Event)
    (outcome : Except HandlingError Unit) : calls [.handled memory event outcome] = [] := rfl

@[simp] theorem handlings_nil : handlings [] = [] := rfl

@[simp] theorem handlings_append (first second : List Entry) :
    handlings (first ++ second) = handlings first ++ handlings second :=
  List.filterMap_append

@[simp] theorem handlings_lines (lines : List Line) : handlings (lines.map .logged) = [] := by
  simp [handlings, Entry.handling?]

@[simp] theorem handlings_line (line : Line) : handlings [.logged line] = [] := rfl

@[simp] theorem handlings_called (memory : Memory) (call : Call) :
    handlings [.called memory call] = [] := rfl

@[simp] theorem handlings_handled (memory : Memory) (event : Event)
    (outcome : Except HandlingError Unit) :
    handlings [.handled memory event outcome] = [⟨memory, event, outcome⟩] := rfl

end Trace

end TagControl
