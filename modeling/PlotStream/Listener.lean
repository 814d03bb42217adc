import PlotStream.Fault
import PlotStream.Notice

/-!
Who hears what a parse has to tell, and may refuse to go on. A listener keeps quiet unless it
has an alarm, which counts the commands it watches and refuses one of them, or objects to
diagnostics altogether.
-/

namespace PlotStream

/-- A refusal due at a certain command. -/
structure Alarm where
  /-- The commands that count. -/
  watches : Command → Bool
  /-- The refused command is the one that brings this down from one to zero. -/
  countdown : Nat
  message : String

/-- The alarm after one more of its commands. -/
def Alarm.tick (alarm : Alarm) : Alarm :=
  { alarm with countdown := alarm.countdown - 1 }

structure Listener where
  alarm : Option Alarm := none
  /-- Whether diagnostics are refused. -/
  objects : Bool := false

/-- Tell the listener something. It may be changed by what it hears, and may refuse. -/
def Listener.hear (listener : Listener) : Notice → Listener × Option Fault
  | .command c _ =>
    match listener.alarm with
    | some alarm =>
      if alarm.watches c then
        ({ listener with alarm := some alarm.tick },
          if alarm.countdown = 1 then some (.refused alarm.message) else none)
      else (listener, none)
    | none => (listener, none)
  | .diagnostic d place =>
    (listener, if listener.objects then some (.refused (place.annotate d.text)) else none)
  | _ => (listener, none)

end PlotStream
