import Conform.Calendar
import Conform.Node
import Conform.Number.Reading
import Conform.Pattern.Error
/-!
# Faults

Faults are the ways in which an operation has no answer, because an option, a predicate, a reference
or a document cannot be used.  A rejected instance is no fault for a trace, whose answer it is; only
a caller that asks for acceptance gets it as one.  Each fault has a kind, which reports show before
the message.
-/
namespace Conform

/-- Why an operation has no answer. -/
inductive Fault where
  | refusedPattern (source : String) (problem : Pattern.Problem) (position : Option Nat)
  | repetitionTooLarge
  | twoAlphabets
  | lookbehindTooWide
  | reversedGroup
  | notIterable (typeName : String)
  | remainderOf (left right : String)
  | unordered (operator left right : String)
  | integerRemainderByZero
  | floatRemainderByZero
  | integerTooLarge
  | raised (kind message : String)
  | badInteger (base : Nat) (text : String)
  | integerTooLong (digits : Nat)
  | integerUnwritable
  | endlessComparison
  | badFloat (text : String)
  | badBoolean (text : String)
  | badCharacter
  | characterTooLarge
  | emptyNumber
  | notATime
  | notText (typeName : String)
  | calendar (e : CalendarError)
  | loading (message : String)
  | reference (message : String)
  | relativeReference (name : String)
  | noReference
  | rejected (node : Node)
deriving DecidableEq, Repr, Inhabited

namespace Fault

def kind : Fault → String
  | refusedPattern .. => "SchemaDefinitionError"
  | repetitionTooLarge => "OverflowError"
  | twoAlphabets => "ValueError"
  | lookbehindTooWide => "RuntimeError"
  | reversedGroup => "SystemError"
  | notIterable _ => "TypeError"
  | remainderOf .. => "TypeError"
  | unordered .. => "TypeError"
  | integerRemainderByZero => "ZeroDivisionError"
  | floatRemainderByZero => "ZeroDivisionError"
  | integerTooLarge => "OverflowError"
  | raised kind _ => kind
  | badInteger .. => "ValueError"
  | integerTooLong _ => "ValueError"
  | integerUnwritable => "ValueError"
  | endlessComparison => "RecursionError"
  | badFloat _ => "ValueError"
  | badBoolean _ => "KeyError"
  | badCharacter => "ValueError"
  | characterTooLarge => "OverflowError"
  | emptyNumber => "IndexError"
  | notATime => "AttributeError"
  | notText _ => "TypeError"
  | calendar _ => "ValueError"
  | loading _ => "InstanceLoadError"
  | reference _ => "SchemaReferenceError"
  | relativeReference _ => "TypeError"
  | noReference => "AttributeError"
  | rejected _ => "ValidationError"

def message : Fault → String
  | refusedPattern source problem position =>
    s!"Invalid string pattern '{source}': {Pattern.placedMessage source.toList problem position}"
  | repetitionTooLarge => "the repetition number is too large"
  | twoAlphabets => "ASCII and UNICODE flags are incompatible"
  | lookbehindTooWide => "invalid SRE code"
  | reversedGroup =>
    "The span of capturing group is wrong, please report a bug for the re module."
  | notIterable t => s!"'{t}' object is not iterable"
  | remainderOf l r => s!"unsupported operand type(s) for %: '{l}' and '{r}'"
  | unordered op l r => s!"'{op}' not supported between instances of '{l}' and '{r}'"
  | integerRemainderByZero => "integer modulo by zero"
  | floatRemainderByZero => "float modulo"
  | integerTooLarge => "int too large to convert to float"
  | raised _ message => message
  | badInteger base text =>
    let shown := String.ofList ((Text.quoted text).toList.take 200)
    s!"invalid literal for int() with base {base}: {shown}"
  | integerTooLong digits =>
    s!"Exceeds the limit ({NumberText.digitLimit} digits) for integer string conversion: "
      ++ s!"value has {digits} digits; use sys.set_int_max_str_digits() to increase the limit"
  | integerUnwritable =>
    s!"Exceeds the limit ({NumberText.digitLimit} digits) for integer string conversion; "
      ++ "use sys.set_int_max_str_digits() to increase the limit"
  | endlessComparison => "maximum recursion depth exceeded"
  | badFloat text => s!"could not convert string to float: {Text.quoted text}"
  | badBoolean text => Text.quoted text
  | badCharacter => "chr() arg not in range(0x110000)"
  | characterTooLarge => "Python int too large to convert to C int"
  | emptyNumber => "string index out of range"
  | notATime => "'NoneType' object has no attribute 'groupdict'"
  | notText t => s!"expected string or bytes-like object, got '{t}'"
  | calendar e => e.message
  | loading m => m
  | reference m => m
  | relativeReference name =>
    s!"the 'package' argument is required to perform a relative import for {Text.quoted name}"
  | noReference => "'list' object has no attribute 'partition'"
  | rejected n => n.text

end Fault

end Conform
