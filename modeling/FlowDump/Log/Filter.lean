import FlowDump.Log.Directive

/-!
# Log filters

A filter is a list of directives with commas between them.  Of the directives that are about an
event, the narrowest one decides.

* `Log.Filter` — lists of directives.
* `Log.Filter.parse` — the filter that a text describes.
* `Log.Filter.allows` — whether an event is written.
* `Log.Profile` — the filters for the three kinds of output.
-/

namespace FlowDump.Log

/-- Which events are written. -/
abbrev Filter := List Directive

namespace Filter

/-- The filter that a text describes, by `Directive.parse` of its words; without any directive it
    lets nothing through. -/
def parse (text : String) : Except Directive.Fault Filter :=
  ((Text.split ',' text.toList).filter (· ≠ [])).mapM Directive.parse

/-- The directives that are about an event, by `Directive.concerns`. -/
def applicable (f : Filter) (e : Event) : List Directive :=
  f.filter (·.concerns e)

/-- The directive that decides about an event: the narrowest one by `Directive.isNarrower`, and the
    last one of those. -/
def deciding? (f : Filter) (e : Event) : Option Directive :=
  (f.applicable e).foldl
    (fun best d => if best.any (·.isNarrower d) then best else some d)
    none

/-- Whether an event is written, as its `deciding?` directive says. -/
def allows (f : Filter) (e : Event) : Bool :=
  (f.deciding? e).any fun d => e.level.verbosity ≤ d.verbosity

end Filter

/-! ### Kinds of output -/

/-- The kinds of output: warnings for people, everything up to debug for people, and structured
    lines. -/
inductive Profile where
  | quiet
  | verbose
  | structured
  deriving DecidableEq, Repr, Inhabited

namespace Profile

/-- The filter of a profile. -/
def default : Profile → Filter
  | quiet => [{ verbosity := Level.warn.verbosity }]
  | verbose => [{ target := "flowdump", verbosity := Level.debug.verbosity }]
  | structured => [{ verbosity := Level.info.verbosity }]

/-- The filter to use: the one that is asked for if it is well-formed, or that of the profile.
    There is none if a word of the text that asks for it cannot even be taken out. -/
def filter? (p : Profile) (asked? : Option String) : Option Filter :=
  match asked?.map Filter.parse with
  | none => some p.default
  | some (.ok f) => some f
  | some (.error .malformed) => some p.default
  | some (.error .withinCharacter) => none

end Profile

end FlowDump.Log
