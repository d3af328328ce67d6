import BuildInjection.Log.Directive
import BuildInjection.Log.Event

/-!
# Log filters

A filter is a list of directives separated by commas.  How much of the log is shown of a report is
said by the closest directive that concerns it; a report that none concerns is not shown.
-/

namespace BuildInjection.Log

/-- The directives of a filter. -/
abbrev Filter := List Directive

/-- The filter that a text spells, if each of its pieces is a directive. -/
def Filter.ofText? (s : String) : Option Filter :=
  ((cut (· = ',') s.toList).filter (!·.isEmpty)).mapM Directive.ofChars?

/-- The filter that shows everything up to a threshold. -/
def Filter.upTo (t : Threshold) : Filter := [⟨[], .anything, t⟩]

/-- The fields of a report: there is one, with its wording. -/
def reportFields : List (List Char) := ["message".toList]

/-- Whether a report meets a condition.  Reports are not made within spans. -/
def Condition.holds : Condition → Bool
  | .anything => true
  | .hasField name => reportFields.contains name
  | .withinSpan => false

/-- Whether a directive concerns a report. -/
def Directive.concerns (d : Directive) (e : Event) : Bool :=
  d.part.isPrefixOf e.part.toList && d.condition.holds

/-- How close a directive is: first by the length of its part, then by its condition. -/
def Directive.closeness (d : Directive) : Nat :=
  2 * d.part.length + if d.condition = .anything then 0 else 1

/-- Of two directives, the closer one; of equally close ones, the later. -/
def Directive.closer (d e : Directive) : Directive :=
  -- the other one stands further to the right
  if e.closeness < d.closeness then d else e

/-- Whether a filter shows a report. -/
def Filter.shows (f : Filter) (e : Event) : Bool :=
  match f.filter (·.concerns e) with
  | [] => false
  | d :: ds => e.level.rank ≤ (ds.foldl Directive.closer d).threshold

/-- The filter for a run of the program.  A text that spells a filter decides; without it the
    detailed reports are shown on demand, though not as JSON. -/
def Filter.forRun (text : Option String) (options : CommandLine.Options) : Filter :=
  (text.bind Filter.ofText?).getD
    (.upTo (if options.verbose && !options.logJson then Level.debug.rank else Level.info.rank))

end BuildInjection.Log
