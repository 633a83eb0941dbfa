/-!
# Events

What changes on one voice at one call.  A field without a value means that nothing is reported of
it.
-/

namespace SidScore

/-- A change of a gate. -/
inductive Gate where
  /-- The gate closes. -/
  | off
  /-- The gate opens. -/
  | on
  deriving Repr, DecidableEq, Inhabited

/-- The name of a change. -/
def Gate.name : Gate → String
  | off => "off"
  | on => "on"

/-- The changes on one voice at one call. -/
structure VoiceEvent where
  /-- The note that starts. -/
  note : Option UInt8
  /-- The change of the gate. -/
  gate : Option Gate
  /-- The frequency register. -/
  frequency : Option UInt16
  /-- The place of the instrument, when a note starts with another one. -/
  instrument : Option Nat
  deriving Repr, DecidableEq, Inhabited

namespace VoiceEvent

/-- No change. -/
def unchanged : VoiceEvent :=
  ⟨none, none, none, none⟩

/-- Nothing changes. -/
def isEmpty (event : VoiceEvent) : Bool :=
  event.note.isNone && event.gate.isNone && event.frequency.isNone && event.instrument.isNone

end VoiceEvent

end SidScore
