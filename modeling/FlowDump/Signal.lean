/-!
# Signals

* `Signal` — a signal of the system, by its number, and `Signal.name?`, its name.
* `Signal.stopping` — the signals that ask a program to stop.
-/

namespace FlowDump

/-- A signal of the system by its number. -/
structure Signal where
  number : Nat
  deriving DecidableEq, Repr, Inhabited

namespace Signal

/-- The names of the signals, by number. -/
def names : List (Nat × String) :=
  [ (1, "HUP"), (2, "INT"), (3, "QUIT"), (4, "ILL"), (5, "TRAP"), (6, "ABRT"), (7, "BUS"),
    (8, "FPE"), (9, "KILL"), (10, "USR1"), (11, "SEGV"), (12, "USR2"), (13, "PIPE"), (14, "ALRM"),
    (15, "TERM"), (16, "STKFLT"), (17, "CHLD"), (18, "CONT"), (19, "STOP"), (20, "TSTP"),
    (21, "TTIN"), (22, "TTOU"), (23, "URG"), (24, "XCPU"), (25, "XFSZ"), (26, "VTALRM"),
    (27, "PROF"), (28, "WINCH"), (29, "IO"), (30, "PWR"), (31, "SYS") ]

/-- The name of a signal, if it has one in `Signal.names`. -/
def name? (s : Signal) : Option String :=
  (names.find? fun n => n.1 = s.number).map (·.2)

/-- The request to stop that a terminal sends. -/
def interrupt : Signal := ⟨2⟩

/-- The request to end. -/
def terminate : Signal := ⟨15⟩

/-- The signals that ask a program to stop. -/
def stopping : List Signal := [interrupt, terminate]

/-- Whether a program goes on as if nothing had happened when it gets a signal it does not expect:
    the end of a child, urgent data, another size of the window, or the order to continue. -/
def isHarmless (s : Signal) : Bool :=
  s.number ∈ [17, 18, 23, 28]

end Signal

end FlowDump
