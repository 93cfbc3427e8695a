import ProfilePolicy.Value

/-!
# Mishaps

Failures caused by data of the wrong type or by code outside the library. They are not part of the
policy: a caller who submits texts meets none of them. Each has a type name, which error reports
carry, and a message.
-/

namespace ProfilePolicy

/-- A failure outside the policy, by its cause. -/
inductive Mishap
  /-- A list was needed. -/
  | notIterable (type : String)
  /-- Something that has a length was needed. -/
  | noLength (type : String)
  /-- Something with a first element was needed. -/
  | notIndexable (type : String)
  /-- A record has no element at a position. -/
  | noElement (position : Nat)
  /-- A text was needed for the blank check. -/
  | notText (type : String)
  /-- A value that cannot be counted. -/
  | notCountable (type : String)
  /-- Something that can be doubled was needed. -/
  | notNumeric (type : String)
  /-- A read-only rule without a pattern. -/
  | patternUnset
  /-- A read-only rule whose pattern list is empty. -/
  | patternEmpty
  /-- An attribute rule that was run without an attribute. -/
  | attributeContextExpected
  /-- Two rules of one registry under one id. -/
  | duplicateValidator (id : String)
  /-- A key that names nothing. -/
  | unknownKey (key : Value)
  /-- A value that is no member of an enumeration. -/
  | notMember (value : Value) (enumeration : String)
  /-- An identifier without thirty-two digits. -/
  | malformedIdentifier
  /-- Digits that are no numeral to a base. -/
  | notNumeral (base : Nat) (digits : String)
  /-- A text that denotes no real number. -/
  | notReal (text : String)
  /-- The first character of an empty text was needed. -/
  | noCharacter
  /-- A text that tells no moment. -/
  | notMoment (text : String)
  /-- A moment was to be read from something other than a text. -/
  | momentNotText
  /-- Numbers that are no date or no time of day. -/
  | outOfCalendar (reason : String)
  /-- A configuration file that is a directory. -/
  | directoryNotFile (path : String)
  /-- A path that is longer than a path can be, or a name in it. -/
  | nameTooLong (path : String)
  /-- A value was asked of a failed result. -/
  | unwrapFailed (shown : String)
  /-- An operation that a type does not have. -/
  | noOperation (type operation : String)
  /-- Something with named parts was needed. -/
  | notMapping (type : String)
  /-- A text was needed for matching. -/
  | notMatchable (type : String)
  /-- A number was needed for a comparison. -/
  | notComparable (type : String)
  /-- A number of times was needed. -/
  | notCount (type : String)
  /-- Operands without which an operation cannot be called. -/
  | missingOperands (operation : String) (names : List String)
  /-- More operands than an operation has. -/
  | surplusOperands (operation : String) (most given : Nat)
  /-- An operand that an operation does not have. -/
  | unexpectedOperand (operation name : String)
  /-- An operand that an operation is given twice. -/
  | repeatedOperand (operation kind name : String)
  /-- An element of a list of names with values has a wrong number of items. -/
  | notPair (position length : Nat)
  /-- An element of a list of names with values has no items. -/
  | notPairLike (position : Nat)
  /-- A number that is no character. -/
  | noCharacterAt (number : Nat)
  /-- A whole number with more digits than are read. -/
  | tooManyDigits (count : Nat)
  /-- A whole number that no real one is near to. -/
  | tooLarge
  /-- Something that goes on without an end. -/
  | endless
  /-- A text that cannot leave as bytes, because half of a pair stands alone in it. -/
  | halfCharacter
  /-- A text that must be ASCII has other characters; the code points of the first are told. -/
  | notAscii (found : List Nat) (position : Nat)
  /-- The database refused a change that breaks one of its constraints. It has words of its own for
  this, and shows them together with what it was asked to do. -/
  | integrity (message shown : String)
  /-- The database could not be operated. -/
  | operational (message shown : String)
  /-- Any other failure of the database. -/
  | database (message : String)
  /-- A failure of outside code, with the name of its type. -/
  | outside (type message : String)
  deriving Repr, Inhabited

namespace Mishap

def typeName : Mishap → String
  | notIterable _ | noLength _ | notIndexable _ | notCountable _ | notNumeric _
  | attributeContextExpected | notMapping _ | notMatchable _ | notComparable _ | notCount _
  | missingOperands _ _ | surplusOperands _ _ _ | unexpectedOperand _ _ | repeatedOperand _ _ _
  | notPairLike _ | momentNotText => "TypeError"
  | notText _ | patternEmpty | noOperation _ _ => "AttributeError"
  | noElement _ | patternUnset | unknownKey _ => "KeyError"
  | duplicateValidator _ | notMember _ _ | malformedIdentifier | notNumeral _ _ | notReal _
  | notMoment _ | outOfCalendar _ | unwrapFailed _ | notPair _ _ | tooManyDigits _ => "ValueError"
  | noCharacterAt number => if number < Nat.pow 2 31 then "ValueError" else "OverflowError"
  | tooLarge => "OverflowError"
  | endless => "RecursionError"
  | halfCharacter | notAscii _ _ => "UnicodeEncodeError"
  | noCharacter => "IndexError"
  | directoryNotFile _ => "IsADirectoryError"
  | nameTooLong _ => "OSError"
  | integrity _ _ => "IntegrityError"
  | operational _ _ => "OperationalError"
  | database _ => "SQLAlchemyError"
  | outside type _ => type

def listed : List String → String
  | [] => ""
  | [name] => "'" ++ name ++ "'"
  | [first, second] => "'" ++ first ++ "' and '" ++ second ++ "'"
  | names =>
    Value.joined ", " (names.dropLast.map fun name => "'" ++ name ++ "'") ++ ", and '" ++
      names.getLastD "" ++ "'"

def operandCount (count : Nat) : String :=
  toString count ++ (if count == 1 then " required positional argument: "
    else " required positional arguments: ")

/-- The failure of a text that must be ASCII, if it is not. -/
def ofForeign? (text : String) : Option Mishap :=
  let isAscii (code : Nat) : Bool := decide (code < 128)
  let codes := Text.codes text.toList
  match codes.dropWhile isAscii with
  | [] => none
  | rest => some (.notAscii (rest.takeWhile (!isAscii ·)) (codes.takeWhile isAscii).length)

def message : Mishap → String
  | notIterable type => "'" ++ type ++ "' object is not iterable"
  | noLength type => "object of type '" ++ type ++ "' has no len()"
  | notIndexable type => "'" ++ type ++ "' object is not subscriptable"
  | noElement position => toString position
  | notText type => "'" ++ type ++ "' object has no attribute 'strip'"
  | notCountable type => "unhashable type: '" ++ type ++ "'"
  | notNumeric type => "unsupported operand type(s) for *: '" ++ type ++ "' and 'int'"
  | patternUnset => "'pattern'"
  | patternEmpty => "'NoneType' object has no attribute 'fullmatch'"
  | attributeContextExpected =>
    "Expected AttributeValidationContext, got ValidationContext; " ++
      "attribute validators only run through attribute metadata"
  | duplicateValidator id => "Validator '" ++ id ++ "' already registered"
  | unknownKey key => key.quoted
  | notMember value enumeration => value.quoted ++ " is not a valid " ++ enumeration
  | malformedIdentifier => "badly formed hexadecimal UUID string"
  | notNumeral base digits =>
    "invalid literal for int() with base " ++ toString base ++ ": " ++
      String.ofList ((Text.quoted digits).toList.take 200)
  | notReal text => "could not convert string to float: " ++ Text.quoted text
  | noCharacter => "string index out of range"
  | notMoment text => "Invalid isoformat string: " ++ Text.quoted text
  | momentNotText => "fromisoformat: argument must be str"
  | outOfCalendar reason => reason
  | directoryNotFile path => "[Errno 21] Is a directory: " ++ Text.quoted path
  | nameTooLong path => "[Errno 36] File name too long: " ++ Text.quoted path
  | unwrapFailed shown => "Called unwrap on Err: " ++ shown
  | noOperation type operation =>
    "'" ++ type ++ "' object has no attribute '" ++ operation ++ "'"
  | notMapping type => "'" ++ type ++ "' object is not a mapping"
  | notMatchable type => "expected string or bytes-like object, got '" ++ type ++ "'"
  | notComparable type => "'>=' not supported between instances of '" ++ type ++ "' and 'int'"
  | notCount type => "'" ++ type ++ "' object cannot be interpreted as an integer"
  | missingOperands operation names =>
    operation ++ "() missing " ++ operandCount names.length ++ listed names
  | surplusOperands operation most given =>
    operation ++ "() takes " ++ toString most ++ " positional argument" ++
      (if most == 1 then "" else "s") ++ " but " ++ toString given ++
      (if given == 1 then " was given" else " were given")
  | unexpectedOperand operation name =>
    operation ++ "() got an unexpected keyword argument '" ++ name ++ "'"
  | repeatedOperand operation kind name =>
    operation ++ "() got multiple values for " ++ kind ++ " '" ++ name ++ "'"
  | notPair position length =>
    "dictionary update sequence element #" ++ toString position ++ " has length " ++
      toString length ++ "; 2 is required"
  | notPairLike position =>
    "cannot convert dictionary update sequence element #" ++ toString position ++ " to a sequence"
  | noCharacterAt number =>
    if number < Nat.pow 2 31 then "chr() arg not in range(0x110000)"
    else "Python int too large to convert to C int"
  | tooManyDigits count =>
    "Exceeds the limit (4300 digits) for integer string conversion: value has " ++
      toString count ++ " digits; use sys.set_int_max_str_digits() to increase the limit"
  | tooLarge => "int too large to convert to float"
  | endless => "maximum recursion depth exceeded"
  | halfCharacter => "surrogates not allowed"
  | notAscii found position =>
    "'ascii' codec can't encode character" ++
      (match found with
        | [code] =>
          " '" ++ String.ofList (Text.codeEscape code) ++ "' in position " ++ toString position
        | found =>
          "s in position " ++ toString position ++ "-" ++ toString (position + found.length - 1)) ++
      ": ordinal not in range(128)"
  | integrity _ shown | operational _ shown => shown
  | database message | outside _ message => message

end Mishap

end ProfilePolicy
