import PoissonFactor.Text.Quoted
import PoissonFactor.Text.Utf8

/-!
# What can go wrong

Every way an operation of the library can fail is a cause with the facts that its
message reports. `message` is the wording, `family` the coarse kind a caller may
want to tell apart: bad numbers from bad settings, bad settings from a missing
file.
-/

namespace PoissonFactor

/-- The eight arrays whose entries must stay positive, in the order they are checked. -/
inductive Parameter where
  | gammaRate
  | kappaRate
  | lambdaRate
  | tauRate
  | gammaShape
  | kappaShape
  | lambdaShape
  | tauShape
deriving DecidableEq, Repr

/-- The name of an array in messages. -/
def Parameter.name : Parameter → String
  | .gammaRate => "gamma_rte"
  | .kappaRate => "kappa_rte"
  | .lambdaRate => "lambda_rte"
  | .tauRate => "tau_rte"
  | .gammaShape => "gamma_shp"
  | .kappaShape => "kappa_shp"
  | .lambdaShape => "lambda_shp"
  | .tauShape => "tau_shp"

/-- The two lists of a rating split. -/
inductive Part where
  | train
  | validation
deriving DecidableEq, Repr

/-- The name of a part in messages. -/
def Part.name : Part → String
  | .train => "train"
  | .validation => "validation"

/-- The two sides of a rating. -/
inductive Side where
  | user
  | item
deriving DecidableEq, Repr

/-- The name of a side in messages. -/
def Side.name : Side → String
  | .user => "user"
  | .item => "item"

/-- A cause of failure. Values and texts it reports are held as they are shown. -/
inductive Failure where
  -- numbers
  | notAnInteger (shown : String)
  | notADecimal (shown : String)
  | tooManyDigits (count : Nat)
  | integerOfInfinity
  | integerOfNaN
  | integerTooLarge
  | noInteger (kind : String)
  | noDecimal (kind : String)
  | noMagnitude (kind : String)
  | notACount (kind : String)
  -- values
  | incomparable
  | unhashable (kind : String)
  | ragged
  | notIterable (kind : String)
  | tooFewParts (expected found : Nat)
  | tooManyParts (expected : Nat)
  | unexpectedSetting (group name : String)
  | notSerializable (kind : String)
  | badMappingKey (kind : String)
  | noLowerCase (kind : String)
  | notAPath (kind : String)
  -- identifiers
  | duplicateKeys
  | unknownKey (shown : String)
  | positionOutOfRange
  | positionTooLarge
  | badPosition (kind : String)
  -- settings
  | priorNotPositive (name shown : String)
  | featureCountNotInteger
  | featureCountTooSmall (count : Int)
  | frequencyInvalid
  | seedNotInteger (shown : String)
  | offsetsNegative
  | entryOutOfRange (part : Part) (side : Side) (shown : String)
  | emptyTrain
  | emptyValidation
  | unknownBackend (name : String)
  -- splitting
  | fractionOutOfRange
  | noRatings
  | seedKind (kind : String)
  -- stopping
  | negativeIterations
  | negativeThreshold
  | negativeMinimum
  | maximumBelowMinimum
  | notCallable
  | noStoppingRule
  -- training
  | leftPositive (parameter : Parameter) (phase : String)
  | likelihoodNotFinite (iteration : String)
  | unfinished
  -- arrays
  | negativeDimension
  | axisOutOfBounds (index axis size : Int)
  | dimensionOutOfBounds (index dimension size : Nat)
  | tooManyIndices (dimensions : Nat)
  | noState (name : String)
  -- ratings
  | missingColumns (names : List String)
  | missingField (name : String)
  | ratingNotANumber (row : Nat) (shown : String)
  | ratingIsNaN (row : Nat)
  | missingRatings
  | unsupportedExtension (extension : String)
  | limitNotPositive
  | fieldTooLarge (limit : Nat)
  | unequalColumns
  -- files
  | fileMissing (shown : String)
  | fileIsDirectory (shown : String)
  | parentIsFile (shown : String)
  | fileExists (shown : String)
  | nameTooLong (shown : String)
  | nulInPath
  | undecodable (error : Text.Utf8Error)
  | unencodable (surrogates : Text.SurrogateRun)
  -- downloads
  | unknownDataset
  | httpStatus (status : Int) (reason url : String)
  | notAnArchive
  | missingMember (name : String)
  | badRowCount
  | emptyTable
  | tableSyntax (detail : String)
  -- the command line
  | exit (code : Nat)
deriving DecidableEq, Repr

/-- The coarse kind of a cause. -/
inductive Failure.Family where
  | value
  | type
  | overflow
  | key
  | index
  | lookup
  | unsupported
  | configuration
  | instability
  | dataFormat
  | recordSyntax
  | missingFile
  | directory
  | notDirectory
  | existingFile
  | system
  | encoding
  | surrogates
  | http
  | archive
  | emptyTable
  | tableSyntax
  | exit
  | resources
deriving DecidableEq, Repr

namespace Failure

/-- Where bytes stopped being text. -/
def undecodableText (e : Text.Utf8Error) : String :=
  if e.length = 1 then
    "'utf-8' codec can't decode byte 0x" ++ String.ofList (hexByte e.byte) ++ " in position "
      ++ toString e.start ++ ": " ++ e.fault.text
  else
    "'utf-8' codec can't decode bytes in position " ++ toString e.start ++ "-"
      ++ toString (e.start + e.length - 1) ++ ": " ++ e.fault.text
where
  /-- Two hexadecimal digits. -/
  hexByte (b : Nat) : List Char := (Nat.toDigits 16 (0x100 + b)).drop 1

/-- Where a text could not be made bytes. -/
def unencodableText (s : Text.SurrogateRun) : String :=
  if s.length = 1 then
    "'utf-8' codec can't encode character '\\u" ++ String.ofList (Text.hex 4 s.first)
      ++ "' in position " ++ toString s.start ++ ": surrogates not allowed"
  else
    "'utf-8' codec can't encode characters in position " ++ toString s.start ++ "-"
      ++ toString (s.start + s.length - 1) ++ ": surrogates not allowed"

/-- A list of names, each between single quotes. -/
def nameList (names : List String) : String :=
  "[" ++ String.intercalate ", " (names.map fun n => "'" ++ n ++ "'") ++ "]"

/-- The wording of a cause. -/
def message : Failure → String
  | .notAnInteger shown => "invalid literal for int() with base 10: " ++ shown
  | .notADecimal shown => "could not convert string to float: " ++ shown
  | .tooManyDigits count =>
    "Exceeds the limit (4300 digits) for integer string conversion: value has " ++ toString count
      ++ " digits; use sys.set_int_max_str_digits() to increase the limit"
  | .integerOfInfinity => "cannot convert float infinity to integer"
  | .integerOfNaN => "cannot convert float NaN to integer"
  | .integerTooLarge => "int too large to convert to float"
  | .noInteger kind =>
    "int() argument must be a string, a bytes-like object or a real number, not '" ++ kind ++ "'"
  | .noDecimal kind => "float() argument must be a string or a real number, not '" ++ kind ++ "'"
  | .noMagnitude kind => "bad operand type for abs(): '" ++ kind ++ "'"
  | .notACount kind => "'" ++ kind ++ "' object cannot be interpreted as an integer"
  | .incomparable => "the values have no order"
  | .unhashable kind => "a value of type '" ++ kind ++ "' cannot be a key"
  | .ragged => "the rows differ in shape"
  | .notIterable kind => "cannot unpack non-iterable " ++ kind ++ " object"
  | .tooFewParts expected found =>
    "not enough values to unpack (expected " ++ toString expected ++ ", got " ++ toString found ++ ")"
  | .tooManyParts expected => "too many values to unpack (expected " ++ toString expected ++ ")"
  | .unexpectedSetting group name =>
    group ++ ".__init__() got an unexpected keyword argument '" ++ name ++ "'"
  | .notSerializable kind => "Object of type " ++ kind ++ " is not JSON serializable"
  | .badMappingKey kind => "keys must be str, int, float, bool or None, not " ++ kind
  | .noLowerCase kind => "'" ++ kind ++ "' object has no attribute 'lower'"
  | .notAPath kind => "expected str, bytes or os.PathLike object, not " ++ kind
  | .duplicateKeys => "KeyIndex keys must be unique."
  | .unknownKey shown => "Unknown key " ++ shown
  | .positionOutOfRange => "tuple index out of range"
  | .positionTooLarge => "cannot fit 'int' into an index-sized integer"
  | .badPosition kind => "tuple indices must be integers or slices, not " ++ kind
  | .priorNotPositive name shown => name ++ " must be positive, got " ++ shown
  | .featureCountNotInteger => "feature_count must be an integer."
  | .featureCountTooSmall count => "feature_count must be >= 1, got " ++ toString count
  | .frequencyInvalid => "iteration_frequency must be a positive integer."
  | .seedNotInteger shown => "seed must be an integer, got " ++ shown
  | .offsetsNegative => "Random offsets must be non-negative."
  | .entryOutOfRange part side shown =>
    part.name ++ " entry " ++ shown ++ " has an out-of-range " ++ side.name ++ " index."
  | .emptyTrain => "The training split is empty."
  | .emptyValidation =>
    "The validation split is empty; the average predictive log-likelihood is undefined."
  | .unknownBackend name => "Unknown backend '" ++ name ++ "'; expected 'numpy' or 'torch'."
  | .fractionOutOfRange => "validation_frac must be in (0, 1)"
  | .noRatings => "Cannot split an empty rating set."
  | .seedKind _ =>
    "The only supported seed types are: None,\nint, float, str, bytes, and bytearray."
  | .negativeIterations => "iterations must be non-negative"
  | .negativeThreshold => "threshold must be non-negative"
  | .negativeMinimum => "min_iterations must be non-negative"
  | .maximumBelowMinimum => "max_iterations must be >= min_iterations"
  | .notCallable => "fn must be callable"
  | .noStoppingRule => ""
  | .leftPositive parameter phase =>
    parameter.name ++ " left the positive reals after " ++ phase ++ "."
  | .likelihoodNotFinite iteration =>
    "Average predictive log-likelihood is not finite at iteration " ++ iteration ++ "."
  | .unfinished => "The stopping condition never holds."
  | .negativeDimension => "negative dimensions are not allowed"
  | .axisOutOfBounds index axis size =>
    "index " ++ toString index ++ " is out of bounds for axis " ++ toString axis ++ " with size "
      ++ toString size
  | .dimensionOutOfBounds index dimension size =>
    "index " ++ toString index ++ " is out of bounds for dimension " ++ toString dimension
      ++ " with size " ++ toString size
  | .tooManyIndices dimensions =>
    "too many indices for tensor of dimension " ++ toString dimensions
  | .noState name => "'NoneType' object has no attribute '" ++ name ++ "'"
  | .missingColumns names => "Missing required columns: " ++ nameList names
  | .missingField name => name
  | .ratingNotANumber row shown =>
    "Row " ++ toString row ++ ": rating " ++ shown ++ " is not a number."
  | .ratingIsNaN row => "Row " ++ toString row ++ ": rating is NaN."
  | .missingRatings => "Frame contains missing ratings."
  | .unsupportedExtension extension =>
    "Unsupported extension '" ++ extension ++ "'. Only CSV is supported."
  | .limitNotPositive => "limit must be positive when provided."
  | .fieldTooLarge limit => "field larger than field limit (" ++ toString limit ++ ")"
  | .unequalColumns => "All arrays must be of the same length"
  | .fileMissing shown => "[Errno 2] No such file or directory: " ++ shown
  | .fileIsDirectory shown => "[Errno 21] Is a directory: " ++ shown
  | .parentIsFile shown => "[Errno 20] Not a directory: " ++ shown
  | .fileExists shown => "[Errno 17] File exists: " ++ shown
  | .nameTooLong shown => "[Errno 36] File name too long: " ++ shown
  | .nulInPath => "embedded null byte"
  | .undecodable error => undecodableText error
  | .unencodable surrogates => unencodableText surrogates
  | .unknownDataset => "dataset must be either 'small' or 'medium'"
  | .httpStatus status reason url =>
    toString status ++ (if status < 500 then " Client" else " Server") ++ " Error: " ++ reason
      ++ " for url: " ++ url
  | .notAnArchive => "File is not a zip file"
  | .missingMember name => "There is no item named '" ++ name ++ "' in the archive"
  | .badRowCount => "'nrows' must be an integer >=0"
  | .emptyTable => "No columns to parse from file"
  | .tableSyntax detail => detail
  | .exit code => toString code

/-- The coarse kind of a cause. -/
def family : Failure → Family
  | .notAnInteger _ | .notADecimal _ | .tooManyDigits _ | .integerOfNaN | .ragged
  | .tooFewParts .. | .tooManyParts _ | .duplicateKeys | .fractionOutOfRange | .noRatings
  | .negativeIterations | .negativeThreshold | .negativeMinimum | .maximumBelowMinimum
  | .notCallable | .negativeDimension | .limitNotPositive | .unequalColumns | .nulInPath
  | .unknownDataset | .badRowCount => .value
  | .noInteger _ | .noDecimal _ | .noMagnitude _ | .notACount _ | .incomparable | .unhashable _
  | .notIterable _ | .unexpectedSetting .. | .notSerializable _ | .badMappingKey _
  | .seedKind _ | .notAPath _ | .badPosition _ => .type
  | .integerOfInfinity | .integerTooLarge => .overflow
  | .unknownKey _ | .missingField _ | .missingMember _ => .key
  | .positionOutOfRange | .positionTooLarge | .axisOutOfBounds .. | .dimensionOutOfBounds ..
  | .tooManyIndices _ => .index
  | .noLowerCase _ | .noState _ => .lookup
  | .noStoppingRule | .unsupportedExtension _ => .unsupported
  | .priorNotPositive .. | .featureCountNotInteger | .featureCountTooSmall _ | .frequencyInvalid
  | .seedNotInteger _ | .offsetsNegative | .entryOutOfRange .. | .emptyTrain | .emptyValidation
  | .unknownBackend _ => .configuration
  | .leftPositive .. | .likelihoodNotFinite _ => .instability
  | .unfinished => .resources
  | .missingColumns _ | .ratingNotANumber .. | .ratingIsNaN _ | .missingRatings => .dataFormat
  | .fieldTooLarge _ => .recordSyntax
  | .fileMissing _ => .missingFile
  | .fileIsDirectory _ => .directory
  | .parentIsFile _ => .notDirectory
  | .fileExists _ => .existingFile
  | .nameTooLong _ => .system
  | .undecodable _ => .encoding
  | .unencodable _ => .surrogates
  | .httpStatus .. => .http
  | .notAnArchive => .archive
  | .emptyTable => .emptyTable
  | .tableSyntax _ => .tableSyntax
  | .exit _ => .exit

end Failure

end PoissonFactor
