import TagControl.Controller
import TagControl.Peripherals
/-!
Passes of a controller over its own peripherals. The read windows are moved to the present before
the pass, so a window that closes is reported in the pass that finds it closed.
-/

set_option autoImplicit false

namespace TagControl.Controller

/-- Moves the read windows to the present; windows that close report to the queue. -/
def advanceWindows (now : Instant) : Pass Peripherals Unit := do
  let controller ← get
  let parts := controller.tag.device
  let out := (ReadWindows.advance now).run (parts.windows, controller.queue)
  let (windows, queue) := out.value.2
  Act.tell (out.trace.map .logged)
  set { controller with queue, tag := { controller.tag with device := { parts with windows } } }

/-- A pass with its read windows moved to the present first. -/
def pass (now : Instant) (woken : Option Event) : Pass Peripherals (Option Instant) := do
  advanceWindows now
  run now woken

end TagControl.Controller
