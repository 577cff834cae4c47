/-!
# Attributes of kinds

Besides what it was given, every member of a module has the attributes of its kind.  A table lists, for a
kind, the kinds of its attributes with their names; what all kinds have in common stands apart.

Only the kind of such an attribute matters, but for methods and the like: they are bound to what they are
attributes of, which may be a schema, or else to its class, and have an attribute that leads back to it.
-/
namespace Conform.Attribute

abbrev Names := List (String × List String)

/-- The attributes that every kind has unless it has its own of that name. -/
def common : Names :=
  [("builtin_function_or_method",
      ["__dir__", "__format__", "__getstate__", "__init_subclass__", "__new__", "__reduce__",
       "__reduce_ex__", "__sizeof__", "__subclasshook__"]),
    ("method-wrapper",
      ["__delattr__", "__eq__", "__ge__", "__getattribute__", "__gt__", "__hash__", "__init__",
       "__le__", "__lt__", "__ne__", "__repr__", "__setattr__", "__str__"]),
    ("str", ["__doc__"]),
    ("type", ["__class__"])]

def ofKinds : List (String × Names) :=
  [("module", [
      ("dict", ["__annotations__", "__dict__"]),
      ("NoneType", ["__doc__", "__loader__", "__package__", "__spec__"]),
      ("str", ["__name__"])]),
    ("type", [
      ("dict", ["__annotations__"]),
      ("type", ["__base__"]),
      ("tuple", ["__bases__", "__mro__"]),
      ("int",
        ["__basicsize__", "__dictoffset__", "__flags__", "__itemsize__", "__weakrefoffset__"]),
      ("method-wrapper", ["__call__", "__or__", "__ror__"]),
      ("wrapper_descriptor",
        ["__delattr__", "__eq__", "__ge__", "__getattribute__", "__gt__", "__hash__", "__init__",
         "__le__", "__lt__", "__ne__", "__repr__", "__setattr__", "__str__"]),
      ("mappingproxy", ["__dict__"]),
      ("method_descriptor",
        ["__dir__", "__format__", "__getstate__", "__reduce__", "__reduce_ex__", "__sizeof__"]),
      ("NoneType", ["__doc__", "__text_signature__"]),
      ("builtin_function_or_method",
        ["__instancecheck__", "__prepare__", "__subclasscheck__", "__subclasses__", "mro"]),
      ("str", ["__module__", "__name__", "__qualname__"]),
      ("getset_descriptor", ["__weakref__"])]),
    ("str", [
      ("method-wrapper",
        ["__add__", "__contains__", "__getitem__", "__iter__", "__len__", "__mod__", "__mul__",
         "__rmod__", "__rmul__"]),
      ("builtin_function_or_method",
        ["__getnewargs__", "capitalize", "casefold", "center", "count", "encode", "endswith",
         "expandtabs", "find", "format", "format_map", "index", "isalnum", "isalpha", "isascii",
         "isdecimal", "isdigit", "isidentifier", "islower", "isnumeric", "isprintable", "isspace",
         "istitle", "isupper", "join", "ljust", "lower", "lstrip", "maketrans", "partition",
         "removeprefix", "removesuffix", "replace", "rfind", "rindex", "rjust", "rpartition",
         "rsplit", "rstrip", "split", "splitlines", "startswith", "strip", "swapcase", "title",
         "translate", "upper", "zfill"])]),
    ("int", [
      ("method-wrapper",
        ["__abs__", "__add__", "__and__", "__bool__", "__divmod__", "__float__", "__floordiv__",
         "__index__", "__int__", "__invert__", "__lshift__", "__mod__", "__mul__", "__neg__",
         "__or__", "__pos__", "__pow__", "__radd__", "__rand__", "__rdivmod__", "__rfloordiv__",
         "__rlshift__", "__rmod__", "__rmul__", "__ror__", "__rpow__", "__rrshift__",
         "__rshift__", "__rsub__", "__rtruediv__", "__rxor__", "__sub__", "__truediv__",
         "__xor__"]),
      ("builtin_function_or_method",
        ["__ceil__", "__floor__", "__getnewargs__", "__round__", "__trunc__", "as_integer_ratio",
         "bit_count", "bit_length", "conjugate", "from_bytes", "to_bytes"]),
      ("int", ["denominator", "imag", "numerator", "real"])]),
    ("float", [
      ("method-wrapper",
        ["__abs__", "__add__", "__bool__", "__divmod__", "__float__", "__floordiv__", "__int__",
         "__mod__", "__mul__", "__neg__", "__pos__", "__pow__", "__radd__", "__rdivmod__",
         "__rfloordiv__", "__rmod__", "__rmul__", "__rpow__", "__rsub__", "__rtruediv__",
         "__sub__", "__truediv__"]),
      ("builtin_function_or_method",
        ["__ceil__", "__floor__", "__getformat__", "__getnewargs__", "__round__", "__trunc__",
         "as_integer_ratio", "conjugate", "fromhex", "hex", "is_integer"]),
      ("float", ["imag", "real"])]),
    ("NoneType", [
      ("method-wrapper", ["__bool__"]),
      ("NoneType", ["__doc__"])]),
    ("list", [
      ("method-wrapper",
        ["__add__", "__contains__", "__delitem__", "__iadd__", "__imul__", "__iter__", "__len__",
         "__mul__", "__rmul__", "__setitem__"]),
      ("builtin_function_or_method",
        ["__class_getitem__", "__getitem__", "__reversed__", "append", "clear", "copy", "count",
         "extend", "index", "insert", "pop", "remove", "reverse", "sort"]),
      ("NoneType", ["__hash__"])]),
    ("tuple", [
      ("method-wrapper",
        ["__add__", "__contains__", "__getitem__", "__iter__", "__len__", "__mul__", "__rmul__"]),
      ("builtin_function_or_method", ["__class_getitem__", "__getnewargs__", "count", "index"])]),
    ("dict", [
      ("builtin_function_or_method",
        ["__class_getitem__", "__contains__", "__getitem__", "__reversed__", "clear", "copy",
         "fromkeys", "get", "items", "keys", "pop", "popitem", "setdefault", "update", "values"]),
      ("method-wrapper",
        ["__delitem__", "__ior__", "__iter__", "__len__", "__or__", "__ror__", "__setitem__"]),
      ("NoneType", ["__hash__"])]),
    ("mappingproxy", [
      ("builtin_function_or_method",
        ["__class_getitem__", "__reversed__", "copy", "get", "items", "keys", "values"]),
      ("method-wrapper",
        ["__contains__", "__getitem__", "__ior__", "__iter__", "__len__", "__or__", "__ror__"]),
      ("NoneType", ["__doc__", "__hash__"])]),
    ("bytes", [
      ("method-wrapper",
        ["__add__", "__contains__", "__getitem__", "__iter__", "__len__", "__mod__", "__mul__",
         "__rmod__", "__rmul__"]),
      ("builtin_function_or_method",
        ["__bytes__", "__getnewargs__", "capitalize", "center", "count", "decode", "endswith",
         "expandtabs", "find", "fromhex", "hex", "index", "isalnum", "isalpha", "isascii", "isdigit",
         "islower", "isspace", "istitle", "isupper", "join", "ljust", "lower", "lstrip", "maketrans",
         "partition", "removeprefix", "removesuffix", "replace", "rfind", "rindex", "rjust",
         "rpartition", "rsplit", "rstrip", "split", "splitlines", "startswith", "strip", "swapcase",
         "title", "translate", "upper", "zfill"])]),
    ("set", [
      ("method-wrapper",
        ["__and__", "__iand__", "__ior__", "__isub__", "__iter__", "__ixor__", "__len__", "__or__",
         "__rand__", "__ror__", "__rsub__", "__rxor__", "__sub__", "__xor__"]),
      ("builtin_function_or_method",
        ["__class_getitem__", "__contains__", "add", "clear", "copy", "difference",
         "difference_update", "discard", "intersection", "intersection_update", "isdisjoint",
         "issubset", "issuperset", "pop", "remove", "symmetric_difference",
         "symmetric_difference_update", "union", "update"]),
      ("NoneType", ["__hash__"])]),
    ("frozenset", [
      ("method-wrapper",
        ["__and__", "__iter__", "__len__", "__or__", "__rand__", "__ror__", "__rsub__", "__rxor__",
         "__sub__", "__xor__"]),
      ("builtin_function_or_method",
        ["__class_getitem__", "__contains__", "copy", "difference", "intersection", "isdisjoint",
         "issubset", "issuperset", "symmetric_difference", "union"])]),
    ("date", [
      ("method-wrapper", ["__add__", "__radd__", "__rsub__", "__sub__"]),
      ("builtin_function_or_method",
        ["ctime", "fromisocalendar", "fromisoformat", "fromordinal", "fromtimestamp", "isocalendar",
         "isoformat", "isoweekday", "replace", "strftime", "timetuple", "today", "toordinal",
         "weekday"]),
      ("int", ["day", "month", "year"]),
      ("date", ["max", "min"]),
      ("timedelta", ["resolution"])]),
    ("datetime", [
      ("method-wrapper", ["__add__", "__radd__", "__rsub__", "__sub__"]),
      ("builtin_function_or_method",
        ["astimezone", "combine", "ctime", "date", "dst", "fromisocalendar", "fromisoformat",
         "fromordinal", "fromtimestamp", "isocalendar", "isoformat", "isoweekday", "now", "replace",
         "strftime", "strptime", "time", "timestamp", "timetuple", "timetz", "today", "toordinal",
         "tzname", "utcfromtimestamp", "utcnow", "utcoffset", "utctimetuple", "weekday"]),
      ("int", ["day", "fold", "hour", "microsecond", "minute", "month", "second", "year"]),
      ("datetime", ["max", "min"]),
      ("timedelta", ["resolution"]),
      ("NoneType", ["tzinfo"])]),
    ("method", [
      ("dict", ["__annotations__", "__builtins__", "__dict__", "__globals__"]),
      ("method-wrapper", ["__call__", "__get__"]),
      ("NoneType", ["__closure__", "__defaults__", "__doc__", "__kwdefaults__"]),
      ("code", ["__code__"]),
      ("function", ["__func__"]),
      ("str", ["__module__", "__name__", "__qualname__"])]),
    ("code", [
      ("bytes",
        ["_co_code_adaptive", "co_code", "co_exceptiontable", "co_linetable", "co_lnotab"]),
      ("builtin_function_or_method",
        ["_varname_from_oparg", "co_lines", "co_positions", "replace"]),
      ("int",
        ["co_argcount", "co_firstlineno", "co_flags", "co_kwonlyargcount", "co_nlocals",
         "co_posonlyargcount", "co_stacksize"]),
      ("tuple", ["co_cellvars", "co_consts", "co_freevars", "co_names", "co_varnames"]),
      ("str", ["co_filename", "co_name", "co_qualname"])]),
    ("Pattern", [
      ("builtin_function_or_method",
        ["__class_getitem__", "__copy__", "__deepcopy__", "findall", "split"]),
      ("builtin_method", ["finditer", "fullmatch", "match", "scanner", "search", "sub", "subn"]),
      ("int", ["flags", "groups"]),
      ("dict", ["groupindex"]),
      ("str", ["__module__", "pattern"])]),
    ("wrapper_descriptor", [
      ("method-wrapper", ["__call__", "__get__"]),
      ("str", ["__name__", "__qualname__", "__text_signature__"]),
      ("type", ["__objclass__"])]),
    ("method_descriptor", [
      ("method-wrapper", ["__call__", "__get__"]),
      ("str", ["__name__", "__qualname__", "__text_signature__"]),
      ("type", ["__objclass__"])]),
    ("getset_descriptor", [
      ("method-wrapper", ["__delete__", "__get__", "__set__"]),
      ("str", ["__name__", "__qualname__"])]),
    ("function", [
      ("dict", ["__annotations__", "__builtins__", "__dict__", "__globals__"]),
      ("method-wrapper", ["__call__", "__get__"]),
      ("NoneType", ["__closure__", "__defaults__", "__doc__", "__kwdefaults__"]),
      ("code", ["__code__"]),
      ("str", ["__module__", "__name__", "__qualname__"])]),
    ("builtin_function_or_method", [
      ("method-wrapper", ["__call__"]),
      ("NoneType", ["__module__"]),
      ("str", ["__name__", "__qualname__", "__text_signature__"])]),
    ("method-wrapper", [
      ("method-wrapper", ["__call__"]),
      ("str", ["__name__", "__qualname__", "__text_signature__"]),
      ("type", ["__objclass__"])]),
    ("ABCMeta", [
      ("frozenset", ["__abstractmethods__"]),
      ("dict", ["__annotations__", "__dataclass_fields__"]),
      ("ABCMeta", ["__base__"]),
      ("tuple", ["__bases__", "__match_args__", "__mro__", "__slots__"]),
      ("int",
        ["__basicsize__", "__dictoffset__", "__flags__", "__itemsize__", "__weakrefoffset__"]),
      ("method-wrapper", ["__call__", "__or__", "__ror__"]),
      ("_DataclassParams", ["__dataclass_params__"]),
      ("function",
        ["__delattr__", "__eq__", "__hash__", "__init__", "__repr__", "__setattr__", "__str__",
         "check", "trace", "validate"]),
      ("mappingproxy", ["__dict__"]),
      ("method_descriptor",
        ["__dir__", "__format__", "__getstate__", "__reduce__", "__reduce_ex__", "__sizeof__"]),
      ("wrapper_descriptor",
        ["__ge__", "__getattribute__", "__gt__", "__le__", "__lt__", "__ne__"]),
      ("method",
        ["__instancecheck__", "__subclasscheck__", "_abc_caches_clear", "_abc_registry_clear",
         "_dump_registry", "register"]),
      ("str", ["__module__", "__name__", "__qualname__"]),
      ("builtin_function_or_method", ["__prepare__", "__subclasses__", "mro"]),
      ("NoneType", ["__text_signature__"]),
      ("getset_descriptor", ["__weakref__"]),
      ("_abc_data", ["_abc_impl"])])]

/-- The name of the attribute that leads from an attribute of some kind to what it is bound to. -/
def owner? (kind : String) : Option String :=
  if kind ∈ ["method", "builtin_function_or_method", "builtin_method", "method-wrapper"] then
    some "__self__"
  else if kind = "getset_descriptor" then some "__objclass__"
  else none

/-- Attributes that are bound to the class of what they are attributes of. -/
def ofClass : List String :=
  ["__class_getitem__", "__getformat__", "combine", "from_bytes", "fromhex", "fromisocalendar",
   "fromisoformat", "fromkeys", "fromordinal", "fromtimestamp", "now", "strptime", "today",
   "utcfromtimestamp", "utcnow"]

/-- The attributes that every schema has beside its options. -/
def ofSchemas : Names :=
  [("method", ["trace", "validate", "check", "__delattr__", "__eq__", "__hash__", "__init__",
      "__repr__", "__setattr__", "__str__"]),
    ("ABCMeta", ["__class__"]),
    ("str", ["__doc__", "__module__"]),
    ("dict", ["__annotations__", "__dataclass_fields__", "__dict__"]),
    ("tuple", ["__match_args__", "__slots__"]),
    ("frozenset", ["__abstractmethods__"]),
    ("NoneType", ["__weakref__"]),
    ("_DataclassParams", ["__dataclass_params__"]),
    ("_abc_data", ["_abc_impl"])]

/-- The kind of an attribute among names. -/
def find? (name : String) (names : Names) : Option String :=
  (names.find? fun n => n.2.contains name).map (·.1)

/-- The kind of an attribute that a kind has; truth values have those of integers. -/
def kind? (kind name : String) : Option String :=
  let table := if kind = "bool" then "int" else kind
  let own := ((ofKinds.find? (·.1 == table)).map (·.2)).getD []
  (find? name own).or (find? name common)

/-- The kind of an attribute that every schema has. -/
def ofSchema? (name : String) : Option String := (find? name ofSchemas).or (find? name common)

end Conform.Attribute
