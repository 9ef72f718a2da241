import PoissonFactor.Value.Number

/-!
# Values as keys

A key is compared by what it stands for: `1`, `1.0` and a true flag are one key, a
text is never a number. Only immutable values can be keys. Two keys have an order
when both are numbers, both are texts or both are runs of bytes; two tuples have the
order of their first members that differ.
-/

namespace PoissonFactor.Value

/-- The two parts of a number or complex number. -/
def parts? : Value → Option (Number × Number)
  | .complex re im => some (.float re, .float im)
  | v => v.number?.map fun n => (n, .int 0)

mutual

/-- Do two values stand for the same key? -/
def same : Value → Value → Bool
  | .null, .null => true
  | .ellipsis, .ellipsis => true
  | .str a, .str b => a == b
  | .illformed a, .illformed b => a == b
  | .bytes a, .bytes b => a == b
  | .tuple as, .tuple bs => sameItems as bs
  | a, b =>
    match a.parts?, b.parts? with
    | some (x, y), some (x', y') => x.eq x' && y.eq y'
    | _, _ => false

/-- Do two runs of values stand for the same keys, one by one? -/
def sameItems : List Value → List Value → Bool
  | [], [] => true
  | a :: as, b :: bs => same a b && sameItems as bs
  | _, _ => false

end

mutual

/-- The kind of the mutable value that keeps a value from being a key. -/
def mutablePart? : Value → Option String
  | .list _ => some "list"
  | .set _ => some "set"
  | .dict _ => some "dict"
  | .tuple items => mutableItem? items
  | _ => none

/-- The first mutable part among the members of a value. -/
def mutableItem? : List Value → Option String
  | [] => none
  | v :: rest =>
    match mutablePart? v with
    | some kind => some kind
    | none => mutableItem? rest

end

/-- Refuses a value that cannot be a key. -/
def asKey (v : Value) : Except Failure Value :=
  match v.mutablePart? with
  | some kind => .error (.unhashable kind)
  | none => .ok v

/-- Is the value a text? -/
def isText (v : Value) : Bool :=
  v.points?.isSome

/-- Is the value a number or a flag? -/
def isNumber (v : Value) : Bool :=
  v.number?.isSome

mutual

/-- Does `a` come strictly before `b`? Numbers are ordered by value and texts by code point, runs
of bytes by their first bytes that differ and tuples by their first members that do. -/
def before : Value → Value → Bool
  | .bytes a, .bytes b => decide (a < b)
  | .tuple as, .tuple bs => beforeItems as bs
  | a, b =>
    match a.points?, b.points? with
    | some s, some t => decide (s < t)
    | _, _ =>
      match a.number?, b.number? with
      | some m, some n => m.lt n
      | _, _ => false

/-- Does a run of values come before another? A run comes before every longer one it begins. -/
def beforeItems : List Value → List Value → Bool
  | _, [] => false
  | [], _ :: _ => true
  | a :: as, b :: bs => if same a b then beforeItems as bs else before a b

end

mutual

/-- Have two values an order? -/
def ordered : Value → Value → Bool
  | .bytes _, .bytes _ => true
  | .tuple as, .tuple bs => orderedItems as bs
  | a, b => a.isText && b.isText || a.isNumber && b.isNumber

/-- Have two runs of values an order? Their first members that differ decide. -/
def orderedItems : List Value → List Value → Bool
  | a :: as, b :: bs => if same a b then orderedItems as bs else ordered a b
  | _, _ => true

end

/-- Does `a` come before `b` or stand level with it? -/
def notAfter (a b : Value) : Bool :=
  !before b a

/-- Drops every value that is the same key as the value just before it. -/
def dropRepeats : List Value → List Value
  | [] => []
  | v :: rest =>
    match dropRepeats rest with
    | [] => [v]
    | w :: ws => if same v w then v :: ws else v :: w :: ws

/-- Has every key of a list an order with the one behind it? -/
def neighboursOrdered : List Value → Bool
  | a :: b :: rest => ordered a b && neighboursOrdered (b :: rest)
  | _ => true

/-- The distinct keys of a list in ascending order; of equal keys the first stays. Keys that
have no common order are refused. -/
def sortedKeys (vs : List Value) : Except Failure (List Value) := do
  let vs ← vs.mapM asKey
  let keys := dropRepeats (vs.mergeSort notAfter)
  if neighboursOrdered keys then return keys else .error .incomparable

/-- Puts a key with its value into a mapping: a key that is there keeps its place and its own
spelling and takes the new value. -/
def insertEntry (k v : Value) : List (Value × Value) → List (Value × Value)
  | [] => [(k, v)]
  | (k', v') :: rest => if same k' k then (k', v) :: rest else (k', v') :: insertEntry k v rest

/-- Puts a member into a set; a member that is there stays. -/
def insertMember (v : Value) : List Value → List Value
  | [] => [v]
  | w :: rest => if same w v then w :: rest else w :: insertMember v rest

/-- The value of a text key in a mapping. -/
def lookup? (name : String) : List (Value × Value) → Option Value
  | [] => none
  | (k, v) :: rest => if same k (.str name) then some v else lookup? name rest

end PoissonFactor.Value
