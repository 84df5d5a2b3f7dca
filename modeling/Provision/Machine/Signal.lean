/-!
# Signals

* `Signal.name?`: the name of the signal with a number.
* `Signal.shown?`: a signal as messages show it.
-/

namespace Provision.Signal

/-- The names of the signals from number one on. -/
def names : List String := [
  "SIGHUP", "SIGINT", "SIGQUIT", "SIGILL", "SIGTRAP", "SIGABRT", "SIGBUS", "SIGFPE", "SIGKILL",
  "SIGUSR1", "SIGSEGV", "SIGUSR2", "SIGPIPE", "SIGALRM", "SIGTERM", "SIGSTKFLT", "SIGCHLD",
  "SIGCONT", "SIGSTOP", "SIGTSTP", "SIGTTIN", "SIGTTOU", "SIGURG", "SIGXCPU", "SIGXFSZ",
  "SIGVTALRM", "SIGPROF", "SIGWINCH", "SIGIO", "SIGPWR", "SIGSYS"]

/-- The name of the signal with a number; of the signals for programs' own use only the first and
the last have one. -/
def name? (number : Nat) : Option String :=
  match number with
  | 0 => none
  | 34 => some "SIGRTMIN"
  | 64 => some "SIGRTMAX"
  | n + 1 => names[n]?

/-- A signal as messages show it. -/
def shown? (number : Nat) : Option String :=
  (name? number).map fun name => "<Signals." ++ name ++ ": " ++ toString number ++ ">"

end Provision.Signal
