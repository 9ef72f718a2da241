import PoissonFactor.Value.Numeral

/-!
# Options of the command line

An option is spelled with two dashes and may be cut short as long as only one option
begins that way. Its argument follows as the next word or behind an equals sign; of an
option given twice the last argument counts. A word that looks like an option is never
an argument, except a negative number or a word with a space. Every fault ends the
program with code 2, a call for help with code 0; what comes first counts, but a word
that could be several options is a fault wherever it stands.
-/

namespace PoissonFactor.CommandLine

/-- The options. -/
inductive OptionName where
  | help
  | dataPath
  | config
  | k
  | maxIterations
  | threshold
  | backend
  | preferGpu
  | countLikelihood
  | limit
  | out
deriving DecidableEq, Repr

/-- What an option takes. -/
inductive Takes where
  | nothing
  | integer
  | decimal
  | text
  /-- One of some texts. -/
  | oneOf (texts : List String)
deriving DecidableEq, Repr

namespace OptionName

/-- All options in the order of the help text. -/
def all : List OptionName :=
  [.help, .dataPath, .config, .k, .maxIterations, .threshold, .backend, .preferGpu,
    .countLikelihood, .limit, .out]

/-- The spelling of an option. -/
def spelling : OptionName → String
  | .help => "--help"
  | .dataPath => "--data_path"
  | .config => "--config"
  | .k => "--k"
  | .maxIterations => "--max_iterations"
  | .threshold => "--threshold"
  | .backend => "--backend"
  | .preferGpu => "--prefer_gpu"
  | .countLikelihood => "--count_likelihood"
  | .limit => "--limit"
  | .out => "--out"

/-- What an option takes. -/
def takes : OptionName → Takes
  | .help | .preferGpu | .countLikelihood => .nothing
  | .k | .maxIterations | .limit => .integer
  | .threshold => .decimal
  | .dataPath | .config | .out => .text
  | .backend => .oneOf ["numpy", "torch"]

/-- The options whose spelling begins with some characters. -/
def beginning (cs : List Char) : List OptionName :=
  all.filter fun o => cs.isPrefixOf o.spelling.toList

/-- The option with a spelling. -/
def spelled? (cs : List Char) : Option OptionName :=
  all.find? fun o => o.spelling.toList == cs

end OptionName

/-- The end of the program on a fault. -/
def fault : Failure := .exit 2

/-- The end of the program after a call for help. -/
def helped : Failure := .exit 0

/-- What a word of the command line is. -/
inductive Word where
  /-- No option. -/
  | plain
  /-- An option, with the argument behind the equals sign. -/
  | option (name : OptionName) (attached : Option (List Char))
  /-- A letter for help, with letters behind it. -/
  | letters (attached : List Char)
  /-- The mark behind which there are no options. -/
  | separator
  | unknown
  | ambiguous
deriving DecidableEq, Repr

/-- Is the character a decimal digit of some script? -/
def isDigit (c : Char) : Bool :=
  (Text.decimalValue? c).isSome

/-- Is what follows a dash an unsigned number without an exponent? -/
def isNumber (cs : List Char) : Bool :=
  let cs := match cs.reverse with
    | '\n' :: rest => rest.reverse
    | _ => cs
  match cs.dropWhile isDigit with
  | [] => !cs.isEmpty
  | '.' :: fraction => !fraction.isEmpty && fraction.all isDigit
  | _ => false

/-- What a word is that looks like an option and is none. -/
def unmatched (cs : List Char) : Word :=
  if isNumber (cs.drop 1) || cs.contains ' ' then .plain else .unknown

/-- The argument behind the equals sign of a word. -/
def attachment (cs : List Char) : Option (List Char) :=
  match cs.dropWhile (· ≠ '=') with
  | [] => none
  | _ :: rest => some rest

/-- What a word with two dashes is. -/
def longWord (cs : List Char) : Word :=
  let front := cs.takeWhile (· ≠ '=')
  match OptionName.spelled? front with
  | some o => .option o (attachment cs)
  | none =>
    match OptionName.beginning front with
    | [] => unmatched cs
    | [o] => .option o (attachment cs)
    | _ => .ambiguous

/-- What a word is. -/
def Word.ofChars (cs : List Char) : Word :=
  match cs with
  | ['-'] => .plain
  | ['-', '-'] => .separator
  | '-' :: '-' :: _ => longWord cs
  | ['-', 'h'] => .option .help none
  | '-' :: 'h' :: '=' :: rest | '-' :: 'h' :: rest => .letters rest
  | '-' :: _ => unmatched cs
  | _ => .plain

/-- A value that was read; any failure to read one is a fault. -/
def orFault (r : Except Failure Value) : Except Failure Value :=
  match r with
  | .ok v => .ok v
  | .error _ => .error fault

/-- The value of an argument. The mark alone, behind an equals sign, counts as an empty list. -/
def Takes.read (t : Takes) (cs : List Char) : Except Failure Value :=
  let s := String.ofList cs
  let empty := cs = ['-', '-']
  match t with
  | .nothing => .error fault
  | .integer => if empty then .ok (.list []) else orFault (do return .int (← Numeral.integer s cs))
  | .decimal => if empty then .ok (.list []) else orFault (do return .float (← Numeral.double s cs))
  | .text => .ok (if empty then .list [] else .str s)
  | .oneOf texts =>
    if empty then .ok (.list []) else if texts.contains s then .ok (.str s) else .error fault

/-- The options that were given, the last one first. -/
structure Options where
  given : List (OptionName × Value)

/-- The value of an option. -/
def Options.value? (o : Options) (name : OptionName) : Option Value :=
  o.given.lookup name

/-- Was an option given? -/
def Options.has (o : Options) (name : OptionName) : Bool :=
  (o.value? name).isSome

/-- Reads the words of a command line one by one. `clean` tells that there was no word too many
so far, `pending` is the option whose argument comes next. -/
def readWords (given : List (OptionName × Value)) (clean : Bool) (pending : Option OptionName) :
    List (List Char) → Except Failure Options
  | [] =>
    if clean && pending.isNone && given.any (fun g => g.1 = .dataPath) then .ok { given }
    else .error fault
  | cs :: rest =>
    match pending, Word.ofChars cs with
    | some name, .plain => do
      readWords ((name, ← name.takes.read cs) :: given) clean none rest
    | none, .plain | none, .unknown => readWords given false none rest
    | none, .letters attached =>
      .error (if !attached.isEmpty && attached.all (· = 'h') then helped else fault)
    | none, .option name (some argument) => do
      readWords ((name, ← name.takes.read argument) :: given) clean none rest
    | none, .option name none =>
      if name = .help then .error helped
      else if name.takes = .nothing then readWords ((name, .bool true) :: given) clean none rest
      else readWords given clean (some name) rest
    | _, _ => .error fault

/-- The options of a command line. -/
def Options.ofWords (words : List String) : Except Failure Options :=
  let words := words.map String.toList
  if (words.takeWhile (· ≠ ['-', '-'])).any fun cs => Word.ofChars cs = .ambiguous then
    .error fault
  else readWords [] true none words

end PoissonFactor.CommandLine
