/-!
# Signals

A signal is a number.  What it does to a process that neither catches nor ignores it depends on the
number alone.
-/

namespace Progeny.Host.Signal

/-- The names of the signals from the first on. -/
def names : List String :=
  ["HUP", "INT", "QUIT", "ILL", "TRAP", "ABRT", "BUS", "FPE", "KILL", "USR1", "SEGV", "USR2", "PIPE",
   "ALRM", "TERM", "16", "CHLD", "CONT", "STOP", "TSTP", "TTIN", "TTOU", "URG", "XCPU", "XFSZ",
   "VTALRM", "PROF", "WINCH", "IO", "PWR", "SYS", "32", "33", "RTMIN"] ++
  (List.range 15).map (fun n => "RTMIN+" ++ (n + 1).repr) ++
  (List.range 14).map (fun n => "RTMAX-" ++ (14 - n).repr) ++ ["RTMAX"]

/-- The name of a signal. -/
def name? (signal : Nat) : Option String :=
  if signal = 0 then some "EXIT" else names[signal - 1]?

/-- The signal of a name. -/
def ofName? (name : String) : Option Nat := (names.findIdx? (· == name)).map (· + 1)

/-- The number of signals. -/
def count : Nat := names.length + 1

def interrupt : Nat := 2
def quit : Nat := 3
def kill : Nat := 9
def brokenPipe : Nat := 13
def terminate : Nat := 15
def resume : Nat := 18

/-- The signal that a process has ended which was begun by the one that gets it. -/
def child : Nat := 17
def stop : Nat := 19

/-- What a signal does. -/
inductive Effect where
  | ends
  | stops
  | nothing

/-- What a signal does to a process that does not care for it. -/
def effect (signal : Nat) : Effect :=
  if [17, 18, 23, 28].contains signal then .nothing
  else if [19, 20, 21, 22].contains signal then .stops
  else .ends

/-- How the end of a process by a signal is told. -/
def description (signal : Nat) : String :=
  match [(1, "Hangup"), (2, "Interrupt"), (3, "Quit"), (4, "Illegal instruction"),
      (5, "Trace/breakpoint trap"), (6, "Aborted"), (7, "Bus error"), (8, "Floating point exception"),
      (9, "Killed"), (10, "User defined signal 1"), (11, "Segmentation fault"),
      (12, "User defined signal 2"), (13, "Broken pipe"), (14, "Alarm clock"), (15, "Terminated"),
      (16, "Stack fault"), (24, "CPU time limit exceeded"), (25, "File size limit exceeded"),
      (26, "Virtual timer expired"), (27, "Profiling timer expired"), (29, "I/O possible"),
      (30, "Power failure"), (31, "Bad system call")].lookup signal with
  | some text => text
  | none =>
    if 34 ≤ signal then "Real-time signal " ++ (signal - 34).repr
    else "Unknown signal " ++ signal.repr

end Progeny.Host.Signal
