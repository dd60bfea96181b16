import FolderGrants.Log.Directive

/-!
# Log filters

A filter is a list of directives with commas between them.  A directive sets
the level up to which entries are let through: all of them, those of a target
and of the targets it begins, or those within a span.  Of the directives that
apply to an entry the most specific one counts: the one with the longest
target.  `info,kube=warn` lets through what is at least informative, but of
`kube` only warnings and errors; an empty filter lets nothing through.
-/

namespace FolderGrants.Log

/-- Directives, the earlier ones first. -/
structure Filter where
  directives : List Directive
  deriving DecidableEq, Repr

/-- Whether a limit lets a level through. -/
def lets (limit : Option Level) (l : Level) : Bool := limit.any fun m => l.rank ≤ m.rank

namespace Filter

/-- The filter that counts if none is set or the one that is set is none. -/
def standardText : String := "info,folders=debug,kube=info,tower=warn,hyper=warn"

/-- The filter that a text is. -/
def ofText? (s : String) : Option Filter :=
  (((s.splitOn ",").filter (· ≠ "")).mapM Directive.ofText?).map Filter.mk

/-- The filter that counts by default. -/
def standard : Filter := (ofText? standardText).getD ⟨[]⟩

/-- The filter that a setting gives. -/
def ofSetting (s : Option String) : Filter := (s.bind ofText?).getD standard

/-- The most specific of the directives that satisfy `p`, the last of several. -/
def best? (f : Filter) (p : Directive → Bool) : Option Directive :=
  (f.directives.filter p).foldl (fun b d =>
    match b with
    | none => some d
    | some e => if e.yields d then some d else some e) none

/-- Whether any directive lets the level through somewhere. -/
def mayLet (f : Filter) (l : Level) : Bool :=
  f.directives.any fun d => d.hasValue || lets d.level l

/-- Whether an entry is let through wherever it stands. -/
def letsEntry (f : Filter) (e : Entry) : Bool :=
  let applies (d : Directive) : Bool :=
    d.isStatic && d.coversTarget e.target && d.field.all fun g => e.fieldNames.contains g.name
  (f.best? applies).any fun d => lets d.level e.level

/-- Whether a span is let through wherever it stands. -/
def letsSpan (f : Filter) (s : Span) : Bool :=
  let applies (d : Directive) : Bool := d.isStatic && d.coversTarget s.target
  (f.best? applies).any fun d => lets d.level s.level

/-- Those directives that no later one of the same scope replaces. -/
def standing : List Directive → List Directive
  | [] => []
  | d :: rest => if rest.any d.sameScope then standing rest else d :: standing rest

/-- Whether a directive singles out the span. -/
def singlesOut (f : Filter) (s : Span) : Bool := f.directives.any (·.singlesOut s)

/-- Whether a level is let through within a span because the span is singled
out. -/
def letsWithin (f : Filter) (s : Span) (l : Level) : Bool :=
  (standing f.directives).any fun d => d.singlesOut s && d.holdsIn s && lets d.level l

/-- Those of nested spans that are let through, the outermost first; `around`
are let through and stand around them. -/
def spans (f : Filter) (around : List Span) : List Span → List Span
  | [] => around
  | s :: rest =>
    let shown := f.mayLet s.level &&
      (f.singlesOut s || around.any (f.letsWithin · s.level) || f.letsSpan s)
    spans f (if shown then around ++ [s] else around) rest

/-- The entry as it is logged, if it is. -/
def log (f : Filter) (e : Entry) : Option Entry :=
  let around := f.spans [] e.spans
  if f.mayLet e.level && (around.any (f.letsWithin · e.level) || f.letsEntry e) then
    some { e with spans := around }
  else none

end Filter

end FolderGrants.Log
