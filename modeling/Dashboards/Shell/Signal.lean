import Dashboards.Shell.Octets

/-!
# Signals

The signals by name and number, what they do to a process that has set no trap for them, and what is
written about a program that was ended by one.
-/

namespace Dashboards
namespace Shell

def signals : List (String × Nat) := [
  ("HUP", 1), ("INT", 2), ("QUIT", 3), ("ILL", 4), ("TRAP", 5), ("ABRT", 6), ("BUS", 7), ("FPE", 8),
  ("KILL", 9), ("USR1", 10), ("SEGV", 11), ("USR2", 12), ("PIPE", 13), ("ALRM", 14), ("TERM", 15),
  ("CHLD", 17), ("CONT", 18), ("STOP", 19), ("TSTP", 20), ("TTIN", 21), ("TTOU", 22), ("URG", 23),
  ("XCPU", 24), ("XFSZ", 25), ("VTALRM", 26), ("PROF", 27), ("WINCH", 28), ("POLL", 29),
  ("PWR", 30), ("SYS", 31)]

/-- Signals that a process does not notice. -/
def isHarmless (n : Nat) : Bool := n = 0 || n = 17 || n = 18 || n = 23 || n = 28

/-- Signals that make a process wait. -/
def isHalting (n : Nat) : Bool := n = 19 || n = 20 || n = 21 || n = 22

/-- What the shell writes when a program was ended by a signal. -/
def signalText (n : Nat) : Octets :=
  match n with
  | 1 => "Hangup"
  | 3 => "Quit"
  | 4 => "Illegal instruction"
  | 5 => "Trace/breakpoint trap"
  | 6 => "Aborted"
  | 7 => "Bus error"
  | 8 => "Floating point exception"
  | 9 => "Killed"
  | 10 => "User defined signal 1"
  | 11 => "Segmentation fault"
  | 12 => "User defined signal 2"
  | 14 => "Alarm clock"
  | 15 => "Terminated"
  | _ => "Signal " ++ toString n

def signalNumber? (s : Octets) : Option Nat :=
  match Octets.number? s with
  | some n => some n
  | none =>
    let s := if s.startsWith "SIG" then (s.drop 3).toString else s
    if s = "EXIT" then some 0 else signals.lookup s

end Shell
end Dashboards
