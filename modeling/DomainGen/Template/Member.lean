import DomainGen.Template.Value
import DomainGen.Text.Lines

/-!
# Looking into values

The members and the items of a value in a template.

* `Value.member` : what stands after a dot. **A member of the value's kind comes before an entry of
  the same name**;
* `Value.item`, `Value.slice` : what stands in brackets;
* `Value.call` : calling a method.

What is not there is an undefined value; only asking an undefined value for more is a fault.
-/

namespace DomainGen.Template

open Text

/-! ## 1. The members of kinds -/

/-- The words of some lines. -/
def words (lines : List String) : List String :=
  lines.flatMap fun l => (splitAt ' ' l.toList).map String.ofList

/-- The members of all values. -/
def commonMembers : List String := words [
  "__class__ __delattr__ __dir__ __doc__ __eq__ __format__ __ge__ __getattribute__",
  "__getstate__ __gt__ __hash__ __init__ __init_subclass__ __le__ __lt__ __ne__ __new__",
  "__reduce__ __reduce_ex__ __repr__ __setattr__ __sizeof__ __str__ __subclasshook__"]

/-- The members of whole numbers and truth values besides those of all values. -/
def numberMembers : List String := words [
  "__abs__ __add__ __and__ __bool__ __ceil__ __divmod__ __float__ __floor__ __floordiv__",
  "__getnewargs__ __index__ __int__ __invert__ __lshift__ __mod__ __mul__ __neg__ __or__",
  "__pos__ __pow__ __radd__ __rand__ __rdivmod__ __rfloordiv__ __rlshift__ __rmod__",
  "__rmul__ __ror__ __round__ __rpow__ __rrshift__ __rshift__ __rsub__ __rtruediv__",
  "__rxor__ __sub__ __truediv__ __trunc__ __xor__ as_integer_ratio bit_count bit_length",
  "conjugate denominator from_bytes imag numerator real to_bytes"]

/-- The members of decimals besides those of all values. -/
def decimalMembers : List String := words [
  "__abs__ __add__ __bool__ __ceil__ __divmod__ __float__ __floor__ __floordiv__",
  "__getformat__ __getnewargs__ __int__ __mod__ __mul__ __neg__ __pos__ __pow__ __radd__",
  "__rdivmod__ __rfloordiv__ __rmod__ __rmul__ __round__ __rpow__ __rsub__ __rtruediv__",
  "__sub__ __truediv__ __trunc__ as_integer_ratio conjugate fromhex hex imag is_integer",
  "real"]

/-- The members of texts besides those of all values. -/
def textMembers : List String := words [
  "__add__ __contains__ __getitem__ __getnewargs__ __iter__ __len__ __mod__ __mul__",
  "__rmod__ __rmul__ capitalize casefold center count encode endswith expandtabs find",
  "format format_map index isalnum isalpha isascii isdecimal isdigit isidentifier islower",
  "isnumeric isprintable isspace istitle isupper join ljust lower lstrip maketrans",
  "partition removeprefix removesuffix replace rfind rindex rjust rpartition rsplit rstrip",
  "split splitlines startswith strip swapcase title translate upper zfill"]

/-- The members of bytes besides those of all values. -/
def bytesMembers : List String := words [
  "__add__ __bytes__ __contains__ __getitem__ __getnewargs__ __iter__ __len__ __mod__",
  "__mul__ __rmod__ __rmul__ capitalize center count decode endswith expandtabs find",
  "fromhex hex index isalnum isalpha isascii isdigit islower isspace istitle isupper join",
  "ljust lower lstrip maketrans partition removeprefix removesuffix replace rfind rindex",
  "rjust rpartition rsplit rstrip split splitlines startswith strip swapcase title",
  "translate upper zfill"]

/-- The members of days besides those of all values. -/
def dateMembers : List String := words [
  "__add__ __radd__ __rsub__ __sub__ ctime day fromisocalendar fromisoformat fromordinal",
  "fromtimestamp isocalendar isoformat isoweekday max min month replace resolution strftime",
  "timetuple today toordinal weekday year"]

/-- The members of moments besides those of all values. -/
def momentMembers : List String := words [
  "__add__ __radd__ __rsub__ __sub__ astimezone combine ctime date day dst fold",
  "fromisocalendar fromisoformat fromordinal fromtimestamp hour isocalendar isoformat",
  "isoweekday max microsecond min minute month now replace resolution second strftime",
  "strptime time timestamp timetuple timetz today toordinal tzinfo tzname utcfromtimestamp",
  "utcnow utcoffset utctimetuple weekday year"]

/-- The members of lists besides those of all values. -/
def listMembers : List String := words [
  "__add__ __class_getitem__ __contains__ __delitem__ __getitem__ __iadd__ __imul__",
  "__iter__ __len__ __mul__ __reversed__ __rmul__ __setitem__ append clear copy count",
  "extend index insert pop remove reverse sort"]

/-- The members of tuples besides those of all values. -/
def tupleMembers : List String := words [
  "__add__ __class_getitem__ __contains__ __getitem__ __getnewargs__ __iter__ __len__",
  "__mul__ __rmul__ count index"]

/-- The members of sets besides those of all values. -/
def setMembers : List String := words [
  "__and__ __class_getitem__ __contains__ __iand__ __ior__ __isub__ __iter__ __ixor__",
  "__len__ __or__ __rand__ __ror__ __rsub__ __rxor__ __sub__ __xor__ add clear copy",
  "difference difference_update discard intersection intersection_update isdisjoint",
  "issubset issuperset pop remove symmetric_difference symmetric_difference_update union",
  "update"]

/-- The members of mappings besides those of all values. -/
def mappingMembers : List String := words [
  "__class_getitem__ __contains__ __delitem__ __getitem__ __ior__ __iter__ __len__ __or__",
  "__reversed__ __ror__ __setitem__ clear copy fromkeys get items keys pop popitem",
  "setdefault update values"]

/-- The members of views of keys and of entries besides those of all values. -/
def keyViewMembers : List String := words [
  "__and__ __contains__ __iter__ __len__ __or__ __rand__ __reversed__ __ror__ __rsub__",
  "__rxor__ __sub__ __xor__ isdisjoint mapping"]

/-- The members of views of values besides those of all values. -/
def valueViewMembers : List String := words [
  "__iter__ __len__ __reversed__ mapping"]

/-- The members of time zones besides those of all values. -/
def zoneMembers : List String := words [
  "__getinitargs__ dst fromutc max min tzname utc utcoffset"]

/-- The members of spans of time besides those of all values. -/
def spanMembers : List String := words [
  "__abs__ __add__ __bool__ __divmod__ __floordiv__ __mod__ __mul__ __neg__ __pos__",
  "__radd__ __rdivmod__ __rfloordiv__ __rmod__ __rmul__ __rsub__ __rtruediv__ __sub__",
  "__truediv__ days max microseconds min resolution seconds total_seconds"]

/-- The members of methods besides those of all values. -/
def methodMembers : List String := words [
  "__call__ __module__ __name__ __qualname__ __self__ __text_signature__"]

/-- The members of markup besides those of texts. -/
def markupMembers : List String := words [
  "__html__ __html_format__ __module__ __radd__ __slots__ escape striptags unescape"]

/-- The members of undefined values besides those of all values. -/
def undefinedMembers : List String := words [
  "__add__ __aiter__ __bool__ __call__ __complex__ __div__ __float__ __floordiv__ __getattr__",
  "__getitem__ __int__ __iter__ __len__ __mod__ __module__ __mul__ __neg__ __pos__ __pow__",
  "__radd__ __rdiv__ __rfloordiv__ __rmod__ __rmul__ __rpow__ __rsub__ __rtruediv__ __slots__",
  "__sub__ __truediv__"]

/-- The members of loops that are methods, besides those of all values. -/
def loopMembers : List String := words [
  "__call__ __dict__ __iter__ __len__ __module__ __next__ __weakref__ changed cycle"]

/-- The members of a value besides those of all values. -/
def membersOf : Value → List String
  | .plain .null => ["__bool__"]
  | .plain (.bool _) => numberMembers
  | .plain (.int _) => numberMembers
  | .plain (.float _) => decimalMembers
  | .plain (.text _) => textMembers
  | .plain (.bytes _) => bytesMembers
  | .plain (.date _) => dateMembers
  | .plain (.moment _) => momentMembers
  | .markup _ => textMembers ++ markupMembers
  | .undefined _ => undefinedMembers
  | .zone _ => zoneMembers
  | .span _ => spanMembers
  | .list _ => listMembers
  | .tuple _ => tupleMembers
  | .set _ => setMembers
  | .mapping _ => mappingMembers
  | .view .values _ => valueViewMembers
  | .view _ _ => keyViewMembers
  | .loop .. => loopMembers
  | .method .. => methodMembers
  | _ => []

/-! ## 2. Members with a value of their own -/

namespace Value

/-- The members of a number. -/
def numberMember? (d : Data) (name : String) : Option Value :=
  match d, name with
  | .float x, "real" => some (.plain (.float x))
  | .float _, "imag" => some (.plain (.float (.zero false)))
  | d, name => match d.integer?, name with
    | some i, "real" => some (ofInt i)
    | some i, "numerator" => some (ofInt i)
    | some _, "imag" => some (ofInt 0)
    | some _, "denominator" => some (ofInt 1)
    | _, _ => none

/-- The members of a day. -/
def dateMember? (d : Date) (name : String) : Option Value :=
  match name with
  | "year" => some (ofInt d.year)
  | "month" => some (ofInt d.month)
  | "day" => some (ofInt d.day)
  | "min" => some (.plain (.date ⟨1, 1, 1⟩))
  | "max" => some (.plain (.date ⟨9999, 12, 31⟩))
  | "resolution" => some (.span ⟨Span.perDay⟩)
  | _ => none

/-- The members of a moment. -/
def momentMember? (m : Moment) (name : String) : Option Value :=
  match name with
  | "hour" => some (ofInt m.hour)
  | "minute" => some (ofInt m.minute)
  | "second" => some (ofInt m.second)
  | "microsecond" => some (ofInt m.micro)
  | "fold" => some (ofInt 0)
  | "tzinfo" => some (match m.offset with
    | some o => .zone o
    | none => null)
  | "min" => some (.plain (.moment ⟨⟨1, 1, 1⟩, 0, 0, 0, 0, none⟩))
  | "max" => some (.plain (.moment ⟨⟨9999, 12, 31⟩, 23, 59, 59, 999999, none⟩))
  | "resolution" => some (.span ⟨1⟩)
  | name => dateMember? m.date name

/-- The members of a time zone. -/
def zoneMember? (name : String) : Option Value :=
  match name with
  | "utc" => some (.zone 0)
  | "min" => some (.zone (-1439))
  | "max" => some (.zone 1439)
  | _ => none

/-- The members of a span. -/
def spanMember? (s : Span) (name : String) : Option Value :=
  match name with
  | "days" => some (ofInt s.days)
  | "seconds" => some (ofInt s.seconds)
  | "microseconds" => some (ofInt s.microseconds)
  | "min" => some (.span ⟨-999999999 * Span.perDay⟩)
  | "max" => some (.span ⟨1000000000 * Span.perDay - 1⟩)
  | "resolution" => some (.span ⟨1⟩)
  | _ => none

/-- The item of a loop a number of places on, and what is said if there is none. -/
def neighbour (items : List Value) (i : Option Nat) (absence : String) : Value :=
  (i.bind fun i => items[i]?).getD (.undefined (.undefinedValue absence))

/-- The members of a loop. -/
def loopMember? (items : List Value) (i : Nat) (name : String) : Option Value :=
  match name with
  | "index" => some (ofInt (i + 1))
  | "index0" => some (ofInt i)
  | "revindex" => some (ofInt (items.length - i))
  | "revindex0" => some (ofInt (items.length - i - 1))
  | "first" => some (ofBool (i == 0))
  | "last" => some (ofBool (i + 1 == items.length))
  | "length" => some (ofInt items.length)
  | "depth" => some (ofInt 1)
  | "depth0" => some (ofInt 0)
  | "previtem" =>
    some (neighbour items (if i = 0 then none else some (i - 1)) "there is no previous item")
  | "nextitem" => some (neighbour items (some (i + 1)) "there is no next item")
  | _ => none

/-- The fault of asking a loop for a member that looks past the last item known. -/
def pastFault? (v : Value) (name : String) : Option RenderFault :=
  match v with
  | .loop items i (some f) =>
    if ["length", "revindex", "revindex0"].contains name
        || (i + 1 == items.length && ["last", "nextitem"].contains name) then some f
    else none
  | _ => none

/-- The last part of a name with points. -/
def lastPart (name : String) : String :=
  ((splitAt '.' name.toList).getLast?.map String.ofList).getD ""

/-- A name with points without its last part. -/
def firstParts (name : String) : String :=
  ".".intercalate ((splitAt '.' name.toList).dropLast.map String.ofList)

/-- The members of a kind. -/
def kindMember? (name member : String) : Option Value :=
  match member with
  | "__name__" => some (ofText (lastPart name))
  | "__qualname__" => some (ofText (lastPart name))
  | "__module__" =>
    some (ofText (if firstParts name == "" then "builtins" else firstParts name))
  | _ => none

/-- The members of a method. -/
def methodMember? (holder : Value) (name member : String) : Option Value :=
  match member with
  | "__name__" => some (ofText name)
  | "__qualname__" => some (ofText (lastPart holder.kindName ++ "." ++ name))
  | "__self__" => some holder
  | "__module__" => some null
  | _ => none

/-- A member of a value that is not a method. -/
def property? (v : Value) (name : String) : Option Value :=
  match name with
  | "__class__" => some (.kind v.kindName)
  | "__hash__" => if v.hashable then none else some null
  | name => match v with
    | .plain (.date d) => dateMember? d name
    | .plain (.moment m) => momentMember? m name
    | .plain d => numberMember? d name
    | .zone _ => zoneMember? name
    | .span s => spanMember? s name
    | .loop items i _ => loopMember? items i name
    | .kind k => kindMember? k name
    | .method h m => methodMember? h m name
    | _ => none

/-- A member of the value's kind, or nothing. -/
def ownMember? (v : Value) (name : String) : Option Value :=
  match v.property? name with
  | some x => some x
  | none =>
    if (membersOf v).contains name || commonMembers.contains name then some (.method v name)
    else none

/-- A member of a value: one of its kind, else an entry. -/
def member (v : Value) (name : String) : Except RenderFault Value :=
  match v.pastFault? name, v.ownMember? name with
  | some f, _ => .error f
  | none, some x => .ok x
  | none, none => match v with
    | .undefined f => .error f
    | .mapping es => match lookup? es (ofText name) with
      | some x => .ok x
      | none => .ok (.undefined (.undefinedMember v.holderName (quoted name)))
    | v => .ok (.undefined (.undefinedMember v.holderName (quoted name)))

/-! ## 3. Items -/

/-- The item at a place of a sequence; places before the first one count from the end. -/
def itemAt? (xs : List Value) (i : Int) : Option Value :=
  let n : Int := xs.length
  let j := if i < 0 then i + n else i
  if j < 0 then none else xs[j.toNat]?

/-- The item of a value that a key finds. -/
def keyed? (v key : Value) : Option Value :=
  match v with
  | .mapping es => if key.hashable then lookup? es key else none
  | .markup s => do
    let i ← key.integer?
    match ← itemAt? (s.toList.map fun c => .markup (String.singleton c)) i with
    | x => some x
  | .list xs => do itemAt? xs (← key.integer?)
  | .tuple xs => do itemAt? xs (← key.integer?)
  | .plain (.text s) => do
    itemAt? (s.toList.map fun c => ofText (String.singleton c)) (← key.integer?)
  | .plain (.bytes bs) => do itemAt? (bs.map fun b => ofInt b.toNat) (← key.integer?)
  | _ => none

/-- An item of a value. A key that is a text also finds members. -/
def item (v key : Value) : Except RenderFault Value :=
  match v with
  | .undefined f => .error f
  | v => match v.keyed? key with
    | some x => .ok x
    | none => match key.text? with
      | some name => match v.pastFault? name, v.ownMember? name with
        | some f, _ => .error f
        | none, some x => .ok x
        | none, none => .ok (.undefined (.undefinedMember v.holderName key.inner))
      | none =>
        .ok (.undefined (if key.hasText then .undefinedItem v.holderName key.inner
          else .unsupported))

/-- A bound of a slice: an integer, or none. -/
def bound? (v : Option Value) : Except RenderFault (Option Int) :=
  match v with
  | none => .ok none
  | some (.plain .null) => .ok none
  | some v => match v.integer? with
    | some i => .ok (some i)
    | none => .error .unsupported

/-- A bound of a slice as a place between `low` and `high`. -/
def place (length low high : Int) (i : Int) : Int :=
  max low (min high (if i < 0 then i + length else i))

/-- The places of a slice, from one on. -/
def placesFrom (stop step : Int) : (count : Nat) → (at_ : Int) → List Nat
  | 0, _ => []
  | count + 1, i =>
    if (0 < step && i < stop) || (step < 0 && stop < i) then
      i.toNat :: placesFrom stop step count (i + step)
    else []

/-- The items of a slice. -/
def sliceItems {α : Type} (xs : List α) (start stop step : Option Int) :
    Except RenderFault (List α) :=
  let n : Int := xs.length
  let by_ := step.getD 1
  if by_ = 0 then .error .unsupported
  else
    let (low, high) : Int × Int := if by_ < 0 then (-1, n - 1) else (0, n)
    let first := (start.map (place n low high)).getD (if by_ < 0 then high else low)
    let last := (stop.map (place n low high)).getD (if by_ < 0 then low else high)
    .ok ((placesFrom last by_ (xs.length + 1) first).filterMap fun i => xs[i]?)

/-- A slice of a value. -/
def slice (v : Value) (start stop step : Option Value) : Except RenderFault Value := do
  if let .undefined f := v then throw f
  let a ← bound? start
  let b ← bound? stop
  let c ← bound? step
  match v with
  | .list xs => return .list (← sliceItems xs a b c)
  | .tuple xs => return .tuple (← sliceItems xs a b c)
  | .markup s => return .markup (String.ofList (← sliceItems s.toList a b c))
  | .plain (.text s) => return ofText (String.ofList (← sliceItems s.toList a b c))
  | .plain (.bytes bs) => return .plain (.bytes (← sliceItems bs a b c))
  | _ => throw .unsupported

/-! ## 4. Calls -/

/-- The integers from one on, up to another one, in steps. -/
def integersFrom (stop step : Int) : (count : Nat) → (first : Int) → List Value
  | 0, _ => []
  | count + 1, i =>
    if (0 < step && i < stop) || (step < 0 && stop < i) then
      ofInt i :: integersFrom stop step count (i + step)
    else []

/-- A range of integers. -/
def range (start stop step : Int) : Except RenderFault Value :=
  if step = 0 then .error .unsupported
  else .ok (.list (integersFrom stop step ((stop - start).natAbs + 1) start))

/-- The value that a kind makes of some arguments: a mapping of named ones, a range of integers. -/
def make (kind : String) (args : List Value) (named : List (String × Value)) :
    Except RenderFault Value :=
  match kind, args.mapM integer?, named with
  | "dict", some [], named => .ok (.mapping (ofPairs (named.map fun e => (ofText e.1, e.2))))
  | "range", some [stop], [] => range 0 stop 1
  | "range", some [start, stop], [] => range start stop 1
  | "range", some [start, stop, step], [] => range start stop step
  | _, _, _ => .error .unsupported

/-- Calling a value: the views of a mapping, looking up a key in it, the values a loop alternates
    between, and what kinds make. -/
def call (v : Value) (args : List Value) (named : List (String × Value)) :
    Except RenderFault Value :=
  match v, args, named with
  | .undefined f, _, _ => .error f
  | .method (.mapping es) "items", [], [] => .ok (.view .items es)
  | .method (.mapping es) "keys", [], [] => .ok (.view .keys es)
  | .method (.mapping es) "values", [], [] => .ok (.view .values es)
  | .method (.mapping es) "get", [key], [] =>
    if key.hashable then .ok ((lookup? es key).getD null) else .error .unsupported
  | .method (.mapping es) "get", [key, default], [] =>
    if key.hashable then .ok ((lookup? es key).getD default) else .error .unsupported
  | .method (.loop _ i _) "cycle", args, [] =>
    match args[i % args.length]? with
    | some x => .ok x
    | none => .error .unsupported
  | .kind k, args, named => make k args named
  | _, _, _ => .error .unsupported

end Value

end DomainGen.Template
