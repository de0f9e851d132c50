import WrapperSynthesis.Decimal.Nearest
import WrapperSynthesis.Log.Event
import WrapperSynthesis.Log.Pattern
import WrapperSynthesis.Text.Alphanumeric
import WrapperSynthesis.Text.Blank
import WrapperSynthesis.Text.Bytes
import WrapperSynthesis.Text.Pieces

/-! Directives of a log filter. In full a directive reads `target[span{field=value}]=level`, and
most of its parts may be left out. A directive with a span, or with the value of a field, looks at
the spans that an event stands in; the others look at the event itself. -/

namespace WrapperSynthesis

/-- The least important level that passes, or nothing passes. -/
abbrev Threshold := Option Level

namespace Threshold

def rank : Threshold → Nat
  | some level => level.rank
  | none => 0

def text : Threshold → String
  | some .error => "error"
  | some .warn => "warn"
  | some .info => "info"
  | some .debug => "debug"
  | some .trace => "trace"
  | none => "off"

def all : List Threshold := [none, some .error, some .warn, some .info, some .debug, some .trace]

/-- A row of decimal digits as a number. A plus sign may stand before it. -/
def number? (text : List Char) : Option Nat :=
  Text.natural? 10 (if text.head? = some '+' then text.drop 1 else text)

/-- Reads a threshold: its name in any case, or its rank. -/
def ofText? (text : List Char) : Option Threshold :=
  match (number? text).bind fun n => all[n]? with
  | some threshold => some threshold
  | none => all.find? fun threshold => threshold.text.toList = text.map Char.toLower

end Threshold

/-- A value that a field may be required to have. -/
inductive FieldValue where
  | bool (b : Bool)
  | real (bits : UInt64)
  | notANumber
  /-- An integer of 64 bits without a sign. -/
  | natural (n : Nat)
  /-- An integer of 64 bits that is written with a minus sign. -/
  | negative (i : Int)
  /-- A regular expression for the text of the value. -/
  | pattern (p : String)
deriving DecidableEq, Repr

namespace FieldValue

/-- Doubles are written without an exponent part, and whole ones without a point. -/
def layout : Decimal.Layout := ⟨-400, 400, 1, false⟩

def text : FieldValue → String
  | bool b => toString b
  | real bits =>
    let x := Float.ofBits bits
    if x.isInf then (if x < 0 then "-inf" else "inf") else layout.floatText x
  | notANumber => "NaN"
  | natural n => toString n
  | negative i => toString i
  | pattern p => p

/-- Reads a value as the first kind of value that it spells. -/
def ofText? (text : List Char) : Option FieldValue :=
  let word := String.ofList text
  if word = "true" then some (.bool true)
  else if word = "false" then some (.bool false)
  else
    match Text.integer? text with
    | some i =>
      if text.head? ≠ some '-' && i < 0x10000000000000000 then some (.natural i.toNat)
      else if text.head? = some '-' && -0x8000000000000000 ≤ i then some (.negative i)
      else (Decimal.floatOfText? text).map fun x => .real x.toBits
    | none =>
      match Decimal.floatOfText? text with
      | some x => some (if x.isNaN then .notANumber else .real x.toBits)
      | none => if Pattern.isValid text then some (.pattern word) else none

def rank : FieldValue → Nat
  | bool _ => 0
  | real _ => 1
  | notANumber => 2
  | natural _ => 3
  | negative _ => 4
  | pattern _ => 5

/-- Values are ordered by kind, and values of one kind by size or by their characters. -/
def compare : FieldValue → FieldValue → Ordering
  | bool a, bool b => Ord.compare a b
  | real a, real b =>
    if Float.ofBits a < Float.ofBits b then .lt
    else if Float.ofBits b < Float.ofBits a then .gt
    else .eq
  | natural a, natural b => Ord.compare a b
  | negative a, negative b => Ord.compare a b
  | pattern a, pattern b => Ord.compare a b
  | a, b => Ord.compare a.rank b.rank

end FieldValue

/-- A field that has to be there, and the value that it has to have if one is given. -/
structure FieldTest where
  name : String
  value : Option FieldValue
deriving DecidableEq, Repr

namespace FieldTest

def text (t : FieldTest) : String :=
  t.name ++ (t.value.map fun v => "=" ++ v.text).getD ""

/-- Reads a field. A second equals sign ends the value, and what follows it means nothing. -/
def ofText? (text : List Char) : Option FieldTest :=
  match Text.pieces (· = '=') text with
  | [] | [[]] => none
  | [name] => some ⟨String.ofList name, none⟩
  | name :: value :: _ =>
    (FieldValue.ofText? value).map fun value => ⟨String.ofList name, some value⟩

/-- Tests of values come after tests without, and then names decide before values. -/
def compare (a b : FieldTest) : Ordering :=
  (Ord.compare a.value.isSome b.value.isSome).then <|
    (Ord.compare a.name b.name).then <|
      match a.value, b.value with
      | some v, some w => v.compare w
      | _, _ => .eq

end FieldTest

structure Directive where
  /-- The start of the targets that the rule is for; without one it is for all. -/
  target : Option String := none
  /-- The name of a span that the event has to stand in. -/
  span : Option String := none
  field : Option FieldTest := none
  threshold : Threshold := some .trace
deriving DecidableEq, Repr

namespace Directive

def text (d : Directive) : String :=
  let field := (d.field.map fun field => "\x7b" ++ field.text ++ "\x7d").getD ""
  let brackets :=
    if d.span.isNone && d.field.isNone then "" else "[" ++ d.span.getD "" ++ field ++ "]"
  if d.target.isNone && d.span.isNone && d.field.isNone then d.threshold.text
  else d.target.getD "" ++ brackets ++ "=" ++ d.threshold.text

/-! ### Reading -/

inductive Fault where
  /-- It has not the form of a directive, or a part of it means nothing. -/
  | unreadable
  /-- One of its parts would begin or end within a character. -/
  | split (directive : String)
deriving DecidableEq, Repr

/-- What an optional value is, if the text is unreadable without it. -/
def orUnreadable {α : Type} : Option α → Except Fault α
  | some a => .ok a
  | none => .error .unreadable

/-- Whether a directive may start with the character. -/
def startsWith (c : Char) : Bool := c = '-' || c = ':' || c = '_' || Text.isAlphanumeric c

/-! The parts of a directive are looked for without the blanks around it, and their places are
counted there, in bytes. Its text is cut at these places with the blanks, so blanks in front of it
move the cuts. -/

/-- What has been cut out of the text, if no cut lies within a character. -/
def orSplit (text : List Char) : Option (List Char) → Except Fault (List Char)
  | some cut => .ok cut
  | none => .error (.split (String.ofList text))

def cut (text : List Char) (start stop : Nat) : Except Fault (List Char) :=
  orSplit text ((Text.dropBytes? start text).bind (Text.takeBytes? (stop - start)))

/-- The threshold that reaches from a place to the end. An empty one lets everything pass. -/
def cutThreshold (text : List Char) (start : Nat) : Except Fault Threshold := do
  match ← orSplit text (Text.dropBytes? start text) with
  | [] => return some .trace
  | level => orUnreadable (Threshold.ofText? level)

/-- Goes on after the brackets of a directive, with what lies at `place`. -/
def afterBrackets (text : List Char) (d : Directive) (place : Nat) :
    List Char → Except Fault Directive
  | [] => .ok d
  | '=' :: _ => return { d with threshold := ← cutThreshold text (place + 1) }
  | _ => .error .unreadable

/-- Goes on after the opening bracket of a directive. A field stands in braces, and a span without a
name is one only where there is no field. -/
def inBrackets (text : List Char) (d : Directive) (place : Nat) (rest : List Char) :
    Except Fault Directive := do
  let isEnd (c : Char) : Bool := c = ']' || c = '{'
  let stop := place + Text.byteSize (rest.takeWhile (!isEnd ·))
  match rest.dropWhile (!isEnd ·) with
  | ']' :: rest =>
    let span ← cut text place stop
    afterBrackets text { d with span := String.ofList span } (stop + 1) rest
  | '{' :: rest =>
    let span ← cut text place stop
    let fieldStop := stop + 1 + Text.byteSize (rest.takeWhile (· ≠ '}'))
    match rest.dropWhile (· ≠ '}') with
    | '}' :: rest =>
      let field ← orUnreadable (FieldTest.ofText? (← cut text (stop + 1) fieldStop))
      match rest with
      | ']' :: rest =>
        let span := if span = [] then none else some (String.ofList span)
        afterBrackets text { d with span, field } (fieldStop + 2) rest
      | _ => .error .unreadable
    | _ => .error .unreadable
  | _ => .error .unreadable

/-- Reads a directive. A single word is a level or else a target, blanks included. A directive
without a level lets everything pass. -/
def ofText (text : List Char) : Except Fault Directive := do
  let isEnd (c : Char) : Bool := c = '=' || c = '['
  match Text.trim text with
  | [] => .error .unreadable
  | '[' :: rest => inBrackets text {} 1 rest
  | c :: rest =>
    if !startsWith c then .error .unreadable
    else
      let size := Text.byteSize ((c :: rest).takeWhile (!isEnd ·))
      match (c :: rest).dropWhile (!isEnd ·) with
      | [] =>
        match Threshold.ofText? text with
        | some threshold => return { threshold }
        | none => return { target := String.ofList text }
      | sign :: rest =>
        let target := String.ofList (← cut text 0 size)
        if sign = '[' then inBrackets text { target } (size + 1) rest
        else return { target, threshold := ← cutThreshold text (size + 1) }

/-! ### Order -/

/-- How special a directive is: directives with longer targets are more so, then those with spans
and those with fields. Between equals their texts decide. -/
def compare (a b : Directive) : Ordering :=
  (Ord.compare (a.target.map String.utf8ByteSize) (b.target.map String.utf8ByteSize)).then <|
    (Ord.compare a.span.isSome b.span.isSome).then <|
      (Ord.compare a.field.isSome b.field.isSome).then <|
        (Ord.compare a.target b.target).then <|
          (Ord.compare a.span b.span).then <|
            match a.field, b.field with
            | some s, some t => s.compare t
            | _, _ => .eq

/-- Adds a directive in its place among others, the most special of which comes first. It replaces
the one that is for the same events. -/
def insert (d : Directive) : List Directive → List Directive
  | [] => [d]
  | e :: rest =>
    match d.compare e with
    | .eq => d :: rest
    | .gt => d :: e :: rest
    | .lt => e :: insert d rest

/-! ### Events -/

/-- Whether a directive looks at the spans that an event stands in. -/
def looksAtSpans (d : Directive) : Bool := d.span.isSome || d.field.isSome

/-- Whether a directive looks at the event itself. One with a field but no value does both. -/
def looksAtEvents (d : Directive) : Bool :=
  d.span.isNone && (d.field.bind FieldTest.value).isNone

def isFor (d : Directive) (e : Event) : Bool :=
  (d.target.getD "").toList.isPrefixOf e.target.toList &&
    d.field.all fun field => e.fieldNames.contains field.name

end Directive

end WrapperSynthesis
