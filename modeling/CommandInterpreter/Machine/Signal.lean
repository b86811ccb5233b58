import CommandInterpreter.Machine.ByteString
set_option autoImplicit false

/-!
Signals: their numbers, names and descriptions, and what they do to a process that makes no
arrangements for them.
-/

namespace CommandInterpreter.Machine

abbrev Signal := Nat

inductive Disposition where
  | standard
  | ignored
  | caught
deriving DecidableEq, Repr

namespace Signal

@[match_pattern] def interrupt : Signal := 2

@[match_pattern] def quit : Signal := 3

@[match_pattern] def kill : Signal := 9

@[match_pattern] def brokenPipe : Signal := 13

@[match_pattern] def terminate : Signal := 15

@[match_pattern] def child : Signal := 17

@[match_pattern] def continues : Signal := 18

@[match_pattern] def stop : Signal := 19

def names : List ByteString :=
  ["HUP", "INT", "QUIT", "ILL", "TRAP", "ABRT", "BUS", "FPE", "KILL", "USR1", "SEGV", "USR2",
    "PIPE", "ALRM", "TERM", "STKFLT", "CHLD", "CONT", "STOP", "TSTP", "TTIN", "TTOU", "URG",
    "XCPU", "XFSZ", "VTALRM", "PROF", "WINCH", "IO", "PWR", "SYS"]

def descriptions : List ByteString :=
  ["Hangup", "Interrupt", "Quit", "Illegal instruction", "Trace/breakpoint trap", "Aborted",
    "Bus error", "Floating point exception", "Killed", "User defined signal 1",
    "Segmentation fault", "User defined signal 2", "Broken pipe", "Alarm clock", "Terminated",
    "Stack fault", "Child exited", "Continued", "Stopped (signal)", "Stopped",
    "Stopped (tty input)", "Stopped (tty output)", "Urgent I/O condition",
    "CPU time limit exceeded", "File size limit exceeded", "Virtual timer expired",
    "Profiling timer expired", "Window changed", "I/O possible", "Power failure",
    "Bad system call"]

/-- One more than the greatest signal number. -/
def limit : Nat := 65

def realTimeStart : Nat := 34

def realTimeEnd : Nat := 64

/-- The name of a signal, without the letters that may stand before it. -/
def name? (signal : Signal) : Option ByteString :=
  if signal = 0 then none
  else
    match names[signal - 1]? with
    | some name => some name
    | none =>
        if signal = realTimeStart then some "RTMIN"
        else if signal = realTimeEnd then some "RTMAX"
        else if realTimeStart < signal && signal ≤ realTimeStart + 15 then
          some ("RTMIN+" ++ toString (signal - realTimeStart))
        else if realTimeStart < signal && signal < realTimeEnd then
          some ("RTMAX-" ++ toString (realTimeEnd - signal))
        else none

def description (signal : Signal) : ByteString :=
  if signal = 0 then "Unknown signal 0"
  else
    match descriptions[signal - 1]? with
    | some text => text
    | none =>
        if realTimeStart ≤ signal && signal ≤ realTimeEnd then
          "Real-time signal " ++ toString (signal - realTimeStart)
        else "Unknown signal " ++ toString signal

inductive Effect where
  | ends
  | stops
  | nothing
deriving DecidableEq, Repr

def effect (signal : Signal) : Effect :=
  if [17, 18, 23, 28].contains signal then .nothing
  else if [19, 20, 21, 22].contains signal then .stops
  else .ends

/-- Whether no process can arrange for a signal. -/
def isFixed (signal : Signal) : Bool := signal == kill || signal == stop

end Signal

end CommandInterpreter.Machine
