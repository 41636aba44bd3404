/-!
# Which log events are written

A log event has a level and a target, the path of the module that logged it, such as
`tayf_core::i18n`, and one field, its message. A filter is written as directives
separated by commas, as the `RUST_LOG` variable is:

* a level alone (`info` in any case, or a digit from `0` for nothing to `5` for
  everything) sets the level for every target;
* `target=level` sets it for the targets that start with `target`, and `target=` or a
  target alone lets every level through; a target that reads as a level, such as
  `info` in `info=` or `00`, stands for every target;
* a part in brackets after or before the target names a span, `[name]`, and fields,
  `[name{field=value}]` or `[{field}]`; a directive that names a span or a field's
  value applies only inside spans, and no event here is logged inside one, while a
  field named without a value asks that the event have that field.

An event is written when the most specific directive that applies to it lets its level
through: the one with the longest target, then the one with the most fields. When no
directive applies the event is not written. Of two directives for the same target and
fields the later one counts.

A filter read strictly refuses a text with a malformed directive. Read leniently, it
drops such a directive and says so in a line that starts with `ignoring`.
-/

namespace SpaceTeamSite.Log

/-- How much an event matters, from the most urgent. -/
inductive Level where
  | error
  | warn
  | info
  | debug
  | trace
  deriving DecidableEq, Repr

/-- The rank of a level: 1 for errors up to 5 for traces. -/
def Level.rank : Level → Nat
  | .error => 1
  | .warn => 2
  | .info => 3
  | .debug => 4
  | .trace => 5

/-- The name a level is written with. -/
def Level.name : Level → String
  | .error => "ERROR"
  | .warn => "WARN"
  | .info => "INFO"
  | .debug => "DEBUG"
  | .trace => "TRACE"

/-- A directive: the targets it applies to (all of them when none), the highest rank
it lets through (0 lets nothing through), the fields an event must have, and whether
it applies only inside spans. -/
structure Directive where
  target : Option String
  highest : Nat
  fields : List String := []
  inSpans : Bool := false
  deriving DecidableEq, Repr

/-- The highest rank a level word lets through: a level name in any case, or a digit
from 0 to 5. -/
def readHighest? (word : String) : Option Nat :=
  match word.toLower with
  | "off" | "0" => some 0
  | "error" | "1" => some 1
  | "warn" | "2" => some 2
  | "info" | "3" => some 3
  | "debug" | "4" => some 4
  | "trace" | "5" => some 5
  | _ => none

/-- Characters of a target: letters, digits, `_`, `:` and `-`; characters beyond ASCII
count as letters. -/
def targetChar (c : Char) : Bool :=
  c.isAlphanum || c == '_' || c == ':' || c == '-' || 0x80 ≤ c.toNat

/-- Whether a name reads as a level: a level word in any case, or digits for a rank up to
5. -/
def namesLevel (name : String) : Bool :=
  (readHighest? name).isSome ||
    (name.all Char.isDigit && (name.toNat?.map fun n => decide (n ≤ 5)).getD false)

/-- Characters a field of a span part is written with: ASCII letters, digits and
punctuation other than the comma. -/
def fieldChar (c : Char) : Bool :=
  c.toNat < 0x80 && (c.isAlphanum || (c.toNat > 0x20 && c.toNat < 0x7f && c != ','))

/-- A field a span part asks for: its name, and whether it names a value. -/
structure FieldMatch where
  name : String
  hasValue : Bool

/-- The field a span part's field text asks for: the longest run of field characters
that ends the text, when there is one, up to its first `=`. -/
def readField (text : List Char) : Option FieldMatch :=
  let run := (text.reverse.takeWhile fieldChar).reverse
  if run.isEmpty then none
  else some ⟨String.ofList (run.takeWhile (· != '=')), run.contains '='⟩

/-- What a span part in brackets says: a span name before an optional `{fields}`. -/
structure SpanPart where
  name : Option String
  field : Option FieldMatch

/-- Reads what stands between a span part's brackets, brackets at its ends dropped. -/
def readSpanPart (inner : List Char) : SpanPart :=
  let inner := ((inner.dropWhile (· == '[')).reverse.dropWhile (· == '[')).reverse
  let name := inner.takeWhile (· != '{')
  let field :=
    match inner.drop name.length with
    | '{' :: rest =>
      let text := rest.takeWhile (· != '}')
      if (rest.drop text.length).isEmpty then none else readField text
    | _ => none
  ⟨if name.isEmpty then none else some (String.ofList name), field⟩

/-- A piece of a directive's name: a target, or a span part in brackets. -/
inductive Piece where
  | target (name : String)
  | span (part : SpanPart)

/-- Reads one piece from the start of the characters. -/
def readPiece : List Char → Option (Piece × List Char)
  | '[' :: rest =>
    let inner := rest.takeWhile (· != ']')
    match rest.drop inner.length with
    | ']' :: more => some (.span (readSpanPart inner), more)
    | _ => none
  | cs =>
    let name := cs.takeWhile targetChar
    if name.isEmpty then none else some (.target (String.ofList name), cs.drop name.length)

/-- Reads the level part after a name: nothing, or `=` and an optional level word. -/
def readLevelPart : List Char → Option Nat
  | [] => some 5
  | '=' :: [] => some 5
  | '=' :: word => readHighest? (String.ofList word)
  | _ => none

/-- A directive with a name of one or two pieces; of two pieces of a kind the second
counts. -/
def readNamed (cs : List Char) : Option Directive := do
  let (first, rest) ← readPiece cs
  let (pieces, rest) :=
    match readPiece rest with
    | some (second, more) => ([second, first], more)
    | none => ([first], rest)
  let highest ← readLevelPart rest
  let target := (pieces.findSome? fun
    | .target name => some name
    | .span _ => none).filter (!namesLevel ·)
  let span := pieces.findSome? fun
    | .span part => some part
    | .target _ => none
  let field := span.bind (·.field)
  let named := match span with
    | some part => part.name.isSome
    | none => false
  pure {
    target, highest
    fields := (field.map (·.name)).toList
    inSpans := named || (field.map (·.hasValue)).getD false }

/-- Reads one directive. -/
def Directive.parse? (text : String) : Option Directive :=
  match readHighest? text with
  | some highest => some { target := none, highest }
  | none => readNamed text.toList

/-- How specific a directive is: the length of its target, none ranking below all,
then the number of its fields. -/
def Directive.specificity (d : Directive) : Nat × Nat :=
  (match d.target with
    | some t => t.length + 1
    | none => 0, d.fields.length)

/-- Whether a directive is less specific than another. -/
def Directive.lessSpecific (d e : Directive) : Bool :=
  d.specificity.1 < e.specificity.1 ||
    (d.specificity.1 == e.specificity.1 && d.specificity.2 < e.specificity.2)

/-- The one field of an event. -/
def messageField : String := "message"

/-- Whether a directive applies to an event of a target logged outside any span. -/
def Directive.applies (d : Directive) (target : String) : Bool :=
  !d.inSpans && d.fields.all (· == messageField) && match d.target with
    | some t => target.startsWith t
    | none => true

/-- A filter: its directives, in the order written. -/
abbrev Filter := List Directive

/-- The non-empty pieces of a filter's text. -/
def directiveTexts (text : String) : List String :=
  (text.splitOn ",").filter (· != "")

/-- A filter read strictly: none when a directive is malformed. -/
def Filter.parse? (text : String) : Option Filter :=
  (directiveTexts text).mapM Directive.parse?

/-- A filter read leniently: the directives that read, and the line written for each
that does not. -/
def Filter.parseLenient (text : String) : Filter × List String :=
  let texts := directiveTexts text
  (texts.filterMap Directive.parse?,
    (texts.filter fun t => (Directive.parse? t).isNone).map fun t =>
      "ignoring `" ++ t ++ "`: invalid filter directive")

/-- The directive that decides for a target: the most specific that applies, the later
of two equally specific. -/
def Filter.decider? (f : Filter) (target : String) : Option Directive :=
  f.foldl (fun best d =>
    if !d.applies target then best
    else match best with
      | some b => if d.lessSpecific b then some b else some d
      | none => some d) none

/-- Whether an event of a level and target is written. -/
def Filter.enables (f : Filter) (target : String) (level : Level) : Bool :=
  match f.decider? target with
  | some d => level.rank ≤ d.highest
  | none => false

/-- A log event. -/
structure Event where
  level : Level
  target : String
  message : String
  deriving DecidableEq, Repr

/-- The text an event is written as, the time stamp it starts with left out: the level
right-aligned in five columns, the target, and the message. -/
def Event.text (e : Event) : String :=
  String.ofList (List.replicate (5 - e.level.name.length) ' ') ++ e.level.name ++ " " ++
    e.target ++ ": " ++ e.message

/-- The events a filter lets through, in order. -/
def Filter.pass (f : Filter) (events : List Event) : List Event :=
  events.filter fun e => f.enables e.target e.level

theorem enables_empty (target : String) (level : Level) :
    Filter.enables [] target level = false := by
  simp [Filter.enables, Filter.decider?]

end SpaceTeamSite.Log
