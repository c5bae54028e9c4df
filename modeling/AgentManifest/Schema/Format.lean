import AgentManifest.Host.MailAddress
import AgentManifest.Pattern.Plain
import AgentManifest.Schema.Draft
import AgentManifest.Uri.Reference

/-!
# Formats

The named formats of strings. Only the drafts up to draft 7 check them, and each draft knows the
formats of its time; a name that a draft does not know admits every string.
-/

namespace AgentManifest.Text

/-! ## Dates and times

Dates as year, month and day; times with seconds, fractions of them and the distance to universal
time. A sixty-first second exists in the last minute of a day in universal time alone.
-/

/-- The value of a character as a digit: its distance from zero, for the sixteen characters from
zero on. The six behind nine overflow into the place before. -/
def digitValue? (c : Char) : Option Nat :=
  if '0' ≤ c ∧ c ≤ '?' then some (c.toNat - '0'.toNat) else none

/-- The number that some digits spell. -/
def numeral? (s : List Char) : Option Nat :=
  s.foldlM (fun n c => (digitValue? c).map (10 * n + ·)) 0

/-- Whether a year has a day more. -/
def isLeapYear (year : Nat) : Bool := year % 4 == 0 && (year % 100 != 0 || year % 400 == 0)

/-- The number of days of a month. -/
def daysOf (year month : Nat) : Nat :=
  if month = 2 then (if isLeapYear year then 29 else 28)
  else if [4, 6, 9, 11].contains month then 30
  else 31

/-- Whether a text is a date. -/
def isDate (s : List Char) : Bool :=
  match s with
  | [y₁, y₂, y₃, y₄, '-', m₁, m₂, '-', d₁, d₂] =>
    match numeral? [y₁, y₂, y₃, y₄], numeral? [m₁, m₂], numeral? [d₁, d₂] with
    | some y, some m, some d =>
      decide (1 ≤ m) && decide (m ≤ 12) && decide (1 ≤ d) && decide (d ≤ daysOf y m)
    | _, _, _ => false
  | _ => false

/-- The minutes of a day that an hour and a minute make up. -/
def minuteOfDay? (hour minute : List Char) : Option Nat :=
  match numeral? hour, numeral? minute with
  | some h, some m => if h ≤ 23 ∧ m ≤ 59 then some (60 * h + m) else none
  | _, _ => none

/-- The distance to universal time, in minutes. -/
def offset? (s : List Char) : Option Int :=
  match s with
  | ['Z'] => some 0
  | ['z'] => some 0
  | [sign, a, b, ':', c, d] =>
    match minuteOfDay? [a, b] [c, d] with
    | some n => if sign = '+' then some n else if sign = '-' then some (-(n : Int)) else none
    | none => none
  | _ => none

/-- The text behind a fraction of a second; `none` if a point has no digits. -/
def withoutFraction (s : List Char) : Option (List Char) :=
  match s with
  | '.' :: rest =>
    let digits := rest.takeWhile Char.isDigit
    if digits.isEmpty then none else some (rest.drop digits.length)
  | s => some s

/-- Whether a text is a time of day. -/
def isTime (s : List Char) : Bool :=
  match s with
  | a :: b :: ':' :: c :: d :: ':' :: e :: f :: rest =>
    match minuteOfDay? [a, b] [c, d], numeral? [e, f], (withoutFraction rest).bind offset? with
    | some minute, some second, some offset =>
      decide (second < 60) ||
        (second == 60 && ((minute : Int) - offset) % 1440 == 1439)
    | _, _, _ => false
  | _ => false

/-- Whether a text is a date and a time with a letter T between them. -/
def isDateTime (s : List Char) : Bool :=
  let date := s.takeWhile fun c => !(c == 'T' || c == 't')
  match s.drop date.length with
  | _ :: time => isDate date && isTime time
  | [] => false

end AgentManifest.Text

namespace AgentManifest.Schema

/-! ## Named formats -/

/-- A format of strings. -/
inductive Format where
  | date
  | dateTime
  | email
  | hostname
  | idnEmail
  | idnHostname
  | ipv4
  | ipv6
  | iri
  | iriReference
  | jsonPointer
  | regex
  | relativeJsonPointer
  | time
  | uri
  | uriReference
  | uriTemplate
  deriving DecidableEq, Repr, Inhabited

namespace Format

/-- The formats by name, with the first draft that knows them. -/
def known : List (String × Draft × Format) :=
  [("date", .draft4, date), ("date-time", .draft4, dateTime), ("email", .draft4, email),
    ("hostname", .draft4, hostname), ("idn-email", .draft4, idnEmail),
    ("idn-hostname", .draft7, idnHostname), ("ipv4", .draft4, ipv4), ("ipv6", .draft4, ipv6),
    ("iri", .draft7, iri), ("iri-reference", .draft7, iriReference),
    ("json-pointer", .draft6, jsonPointer), ("regex", .draft4, regex),
    ("relative-json-pointer", .draft7, relativeJsonPointer), ("time", .draft4, time),
    ("uri", .draft4, uri), ("uri-reference", .draft6, uriReference),
    ("uri-template", .draft6, uriTemplate)]

/-- The format that a draft checks under a name. -/
def of? (d : Draft) (name : String) : Option Format :=
  if d.since .draft2019 then none
  else
    match known.lookup name with
    | some (first, f) => if d.since first then some f else none
    | none => none

/-- The name of a format. -/
def name (f : Format) : String :=
  ((known.find? fun k => k.2.2 == f).map Prod.fst).getD ""

/-! ## Pointers -/

/-- Whether every tilde is followed by a zero or a one. -/
def escapesAreSound : List Char → Bool
  | '~' :: c :: rest => (c == '0' || c == '1') && escapesAreSound rest
  | '~' :: [] => false
  | _ :: rest => escapesAreSound rest
  | [] => true

/-- Whether a text is a pointer. -/
def isPointer (s : List Char) : Bool :=
  s.isEmpty || (s.head? == some '/' && escapesAreSound s)

/-- Whether a text is a pointer relative to a place: how far up, and then down or to the name. -/
def isRelativePointer (s : List Char) : Bool :=
  let up := s.takeWhile Char.isDigit
  let rest := s.drop up.length
  !up.isEmpty && (up.length == 1 || up.head? != some '0') && (rest == ['#'] || isPointer rest)

/-! ## Templates -/

/-- Whether a character may stand in a template as it is. -/
def isTemplateLiteral (c : Char) : Bool :=
  decide (0x20 < c.toNat) && !"\"'<>%\\^\x60\x7b|\x7d".toList.contains c

/-- Whether a character is a hexadecimal digit in lower case. -/
def isSmallHex (c : Char) : Bool := c.isDigit || ('a' ≤ c && c ≤ 'f')

/-- The text behind a name of a template, and whether the name has a character. -/
def skipTemplateName (any : Bool) : List Char → Bool × List Char
  | '%' :: a :: b :: rest =>
    if isSmallHex a && isSmallHex b then skipTemplateName true rest
    else (any, '%' :: a :: b :: rest)
  | c :: rest =>
    if ('a' ≤ c ∧ c ≤ 'z') ∨ c.isDigit ∨ c = '_' then skipTemplateName true rest
    else (any, c :: rest)
  | [] => (any, [])

/-- The text behind what may follow a name: a length or an asterisk. -/
def skipTemplateModifier : List Char → List Char
  | '*' :: rest => rest
  | ':' :: rest =>
    let digits := (rest.takeWhile Char.isDigit).take 4
    if digits.isEmpty || digits.head? == some '0' then ':' :: rest else rest.drop digits.length
  | cs => cs

/-- Whether a text is a template with names between braces. -/
def isTemplate (s : List Char) : Bool :=
  literal s.length s
where
  literal : Nat → List Char → Bool
    | _, [] => true
    | 0, _ => false
    | fuel + 1, '%' :: a :: b :: rest => isSmallHex a && isSmallHex b && literal fuel rest
    | fuel + 1, '{' :: rest =>
      let rest :=
        match rest with
        | c :: behind => if "+#./;?&=,!@|".toList.contains c then behind else rest
        | [] => rest
      names fuel rest
    | fuel + 1, c :: rest => isTemplateLiteral c && literal fuel rest
  names : Nat → List Char → Bool
    | 0, _ => false
    | fuel + 1, cs =>
      let (any, rest) := skipTemplateName false cs
      any && match skipTemplateModifier rest with
        | ',' :: rest => names fuel rest
        | '}' :: rest => literal fuel rest
        | _ => false

/-- Whether a text has a format. -/
def admits (f : Format) (s : String) : Bool :=
  let cs := s.toList
  match f with
  | date => Text.isDate cs
  | dateTime => Text.isDateTime cs
  | email => Host.isMailAddress Host.isName cs
  | hostname => Host.isName cs
  | idnEmail => Host.isMailAddress Host.isWideName cs
  | idnHostname => Host.isWideName cs
  | ipv4 => Uri.isIpv4 cs
  | ipv6 => Uri.isIpv6 cs
  | iri => Uri.isIdentifier true s
  | iriReference => Uri.isReference true s
  | jsonPointer => isPointer cs
  | regex => Pattern.isPattern s
  | relativeJsonPointer => isRelativePointer cs
  | time => Text.isTime cs
  | uri => Uri.isIdentifier false s
  | uriReference => Uri.isReference false s
  | uriTemplate => isTemplate cs

end Format

end AgentManifest.Schema
