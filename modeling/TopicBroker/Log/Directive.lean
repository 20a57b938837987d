import TopicBroker.Log.Pattern.WellFormed
import TopicBroker.Log.Verbosity
import TopicBroker.Text.Shortest

/-!
# Directives of log filters

A directive sets how much is reported for one target, or for all targets that have no
directive of their own.  It may be limited to a scope: to the spans of some name, to the spans with
some field, or to those where the field has some value.

A directive is written as a level, as a target, or as a target, a scope in brackets, and
a level behind an equals sign, all of which but one may be left out; without a level everything is
reported.  In the brackets stands the name of the span, and then the field in braces.  A
directive must begin with a bracket, a letter, a number, or one of `-`, `:` and `_`.

Blanks around a directive are passed over to find its pieces, but positions are
counted from the first character that is no blank and then taken in the text as it is
written.  So blanks in front shift all pieces, and those behind are left to the level.
-/

namespace TopicBroker

/-- The value that a field has to have, or the pattern that its text has to match. -/
inductive FieldValue where
  | truth (value : Bool)
  | float (value : Float)
  | notANumber
  | unsigned (value : Nat)
  | signed (value : Int)
  | pattern (text : String)

namespace FieldValue

/-- The value that a text stands for: as a number in the first of the kinds that can hold it, and
otherwise as a pattern, which must be well-formed. -/
def parse? (text : List Char) : Option FieldValue :=
  if text = "true".toList then some (truth true)
  else if text = "false".toList then some (truth false)
  else
    match (Text.unsigned? text).filter (· ≤ Text.maxUInt64) with
    | some number => some (unsigned number)
    | none =>
      match (Text.signed? text).bind Text.inInt64? with
      | some number => some (signed number)
      | none =>
        match Text.float? text with
        | some number => some (if number.isNaN then notANumber else float number)
        | none => if Pattern.isWellFormed text then some (pattern (String.ofList text)) else none

/-- The position of the kind of a value in the order of kinds. -/
def kind : FieldValue → Nat
  | truth _ => 0
  | float _ => 1
  | notANumber => 2
  | unsigned _ => 3
  | signed _ => 4
  | pattern _ => 5

/-- Values are ordered by their kinds, and within a kind as usual. -/
def order (first second : FieldValue) : Ordering :=
  match first, second with
  | truth first, truth second => compare first second
  | float first, float second => if first < second then .lt else if second < first then .gt else .eq
  | unsigned first, unsigned second => compare first second
  | signed first, signed second => compare first second
  | pattern first, pattern second => compare first second
  | first, second => compare first.kind second.kind

def render : FieldValue → String
  | truth value => toString value
  | float value => Text.ofFloat value
  | notANumber => "NaN"
  | unsigned value => toString value
  | signed value => toString value
  | pattern text => text

end FieldValue

/-- A field that a span has to have, possibly with a value. -/
structure FieldCondition where
  name : String
  value : Option FieldValue

namespace FieldCondition

/-- The condition that a text stands for: a name, possibly with a value behind an equals sign.  What
follows a second equals sign is ignored. -/
def parse? (text : List Char) : Option FieldCondition :=
  match text.splitOn '=' with
  | [] => none
  | [name] => some ⟨String.ofList name, none⟩
  | name :: value :: _ =>
    (FieldValue.parse? value).map fun value => ⟨String.ofList name, some value⟩

/-- A condition on the value comes after one without; otherwise names decide, and then values. -/
def order (first second : FieldCondition) : Ordering :=
  ((compare first.value.isSome second.value.isSome).then (compare first.name second.name)).then
    (match first.value, second.value with
      | some first, some second => first.order second
      | _, _ => .eq)

def render (condition : FieldCondition) : String :=
  match condition.value with
  | none => condition.name
  | some value => condition.name ++ "=" ++ value.render

end FieldCondition

/-- How much is reported for a target, a span and a field; what is not given is not asked for. -/
structure Directive where
  target : Option String
  span : Option String
  field : Option FieldCondition
  verbosity : Verbosity

namespace Directive

/-- Whether a directive may begin with a character. -/
def startsDirective (character : Char) : Bool :=
  character = '[' || character = '-' || character = ':' || character = '_' ||
    Text.isAlphanumeric character

/-- The size of a text in bytes. -/
def byteSize (text : List Char) : Nat := (String.ofList text).utf8ByteSize

/-- The text before and after a position in bytes, unless that is inside a character or behind the
end. -/
def cutAt? (position : Nat) (text : List Char) : Option (List Char × List Char) :=
  match position, text with
  | 0, text => some ([], text)
  | _ + 1, [] => none
  | position + 1, first :: rest =>
    if first.utf8Size ≤ position + 1 then
      (cutAt? (position + 1 - first.utf8Size) rest).map fun (before, after) =>
        (first :: before, after)
    else none

/-- The piece of a text that starts at a position and has a size, both in bytes. -/
def piece? (position size : Nat) (text : List Char) : Option String := do
  let (_, rest) ← cutAt? position text
  let (piece, _) ← cutAt? size rest
  some (String.ofList piece)

/-- The text without the blanks around it. -/
def trimmed (text : List Char) : List Char :=
  ((text.dropWhile Text.isBlank).reverse.dropWhile Text.isBlank).reverse

/-- A directive that is a level, or a target for which everything is reported. -/
def bare (text : List Char) : Directive :=
  match Verbosity.parse? text with
  | some verbosity => ⟨none, none, none, verbosity⟩
  | none => ⟨some (String.ofList text), none, none, .full⟩

/-- The verbosity that is written from a position on; nothing there stands for everything. -/
def verbosityFrom? (position : Nat) (part : List Char) : Option Verbosity := do
  let (_, level) ← cutAt? position part
  if level.isEmpty then some .full else Verbosity.parse? level

/-- The verbosity behind the closing bracket of a scope, given the position and what is found
there. -/
def verbosityAfterScope? (position : Nat) (part found : List Char) : Option Verbosity :=
  match found with
  | [] => some .full
  | '=' :: _ => verbosityFrom? (position + 1) part
  | _ => none

/-- The directive with a scope, given its target, the position behind the opening bracket and what
is found there. -/
def scoped? (target : Option String) (position : Nat) (part found : List Char) :
    Option Directive := do
  let endsName (character : Char) : Bool := character = ']' || character = '\x7b'
  let nameSize := byteSize (found.takeWhile (!endsName ·))
  let name ← piece? position nameSize part
  let nameEnd := position + nameSize
  match found.dropWhile (!endsName ·) with
  | [] => none
  | ']' :: rest =>
    let verbosity ← verbosityAfterScope? (nameEnd + 1) part rest
    some ⟨target, some name, none, verbosity⟩
  | _ :: rest =>
    let fieldSize := byteSize (rest.takeWhile (· ≠ '\x7d'))
    if fieldSize = 0 then none
    let field ← FieldCondition.parse? (← piece? (nameEnd + 1) fieldSize part).toList
    match rest.dropWhile (· ≠ '\x7d') with
    | '\x7d' :: ']' :: rest =>
      let verbosity ← verbosityAfterScope? (nameEnd + fieldSize + 3) part rest
      some ⟨target, if name = "" then none else some name, some field, verbosity⟩
    | _ => none

/-- The directive that a part of a filter stands for. -/
def parse? (part : List Char) : Option Directive := do
  let found := trimmed part
  if !(← found.head?.map startsDirective) then none
  let endsTarget (character : Char) : Bool := character = '=' || character = '['
  let size := byteSize (found.takeWhile (!endsTarget ·))
  match found.dropWhile (!endsTarget ·) with
  | [] => some (bare part)
  | '=' :: _ =>
    let target ← piece? 0 size part
    let verbosity ← verbosityFrom? (size + 1) part
    some ⟨some target, none, none, verbosity⟩
  | _ :: rest =>
    let target ← piece? 0 size part
    scoped? (if target = "" then none else some target) (size + 1) part rest

/-- Whether a directive is limited to a scope. -/
def isScoped (directive : Directive) : Bool := directive.span.isSome || directive.field.isSome

/-- Whether a directive can be applied without looking at the spans that are entered: it asks for no
name of a span and for no value. -/
def isPlain (directive : Directive) : Bool :=
  directive.span.isNone && !directive.field.any fun field => field.value.isSome

/-- Directives are ordered by how much they ask for: first by the size of the target, then by
whether a span and a field are given.  Between directives that are alike in this, what they ask for
decides, so that only directives for the same target and scope are equal. -/
def order (first second : Directive) : Ordering :=
  let size (directive : Directive) : Option Nat := directive.target.map (·.utf8ByteSize)
  (((compare (size first) (size second)).then
    (compare first.span.isSome second.span.isSome)).then
    (compare first.field.isSome second.field.isSome)).then
    (((compare first.target second.target).then (compare first.span second.span)).then
      (match first.field, second.field with
        | some first, some second => first.order second
        | _, _ => .eq))

/-- The text of a scope, in brackets. -/
def renderScope (directive : Directive) : String :=
  if directive.isScoped then
    let field := match directive.field with
      | none => ""
      | some field => "\x7b" ++ field.render ++ "\x7d"
    "[" ++ directive.span.getD "" ++ field ++ "]"
  else ""

def render (directive : Directive) : String :=
  let written := directive.target.isSome || directive.isScoped
  directive.target.getD "" ++ directive.renderScope ++ (if written then "=" else "") ++
    directive.verbosity.name

end Directive

end TopicBroker
