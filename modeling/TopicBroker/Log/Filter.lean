import TopicBroker.Log.Directive

/-!
# Log filters

A log filter is a set of directives.  It is written as a list of parts with commas
between them, each of which is a directive; empty parts are skipped, and of several
directives for the same target and scope the last one counts.

Directives that can be applied without looking at spans are kept apart from those with a
scope, and shown before them.  A directive that asks for a field and not for its value
is of both kinds, so that it is kept, and shown, twice.
-/

namespace TopicBroker

/-- The directives of a filter in the order in which they are shown, at most one of each kind for
the same target and scope. -/
structure LogFilter where
  /-- The directives that can be applied without looking at spans. -/
  plain : List Directive
  /-- The directives that are limited to a scope. -/
  spanwise : List Directive

namespace LogFilter

/-- Put a directive into its place, instead of the one for the same target and scope if there is
one.  Those that ask for more come first. -/
def insertInto (directive : Directive) : List Directive → List Directive
  | [] => [directive]
  | head :: rest =>
    match directive.order head with
    | .eq => directive :: rest
    | .gt => directive :: head :: rest
    | .lt => head :: insertInto directive rest

/-- Add a directive to all directives of its kinds. -/
def insert (filter : LogFilter) (directive : Directive) : LogFilter where
  plain := if directive.isPlain then insertInto directive filter.plain else filter.plain
  spanwise := if directive.isScoped then insertInto directive filter.spanwise else filter.spanwise

/-- The non-empty parts of a written filter. -/
def parts (text : List Char) : List (List Char) :=
  (text.splitOn ',').filter fun part => !part.isEmpty

/-- The filter that a text stands for, unless one of its parts is no directive. -/
def parse? (text : List Char) : Option LogFilter := do
  let directives ← (parts text).mapM Directive.parse?
  return directives.foldl insert ⟨[], []⟩

def render (filter : LogFilter) : String :=
  ",".intercalate ((filter.plain ++ filter.spanwise).map Directive.render)

/-- The text of the filter that a level and further directives ask for: the level comes first, so
that the further directives are laid over it. -/
def layeredText (level : String) (further : Option String) : String :=
  match further with
  | none => (LogLevel.parse level).name
  | some directives =>
    if directives = "" then (LogLevel.parse level).name
    else (LogLevel.parse level).name ++ "," ++ directives

/-- The filter that a level and further directives ask for. -/
def layered? (level : String) (further : Option String) : Option LogFilter :=
  parse? (layeredText level further).toList

end LogFilter

end TopicBroker
