/-!
The names that Python programs may use without defining them: built-in functions, types and
exceptions, keywords, and the methods of the basic containers and of text.
-/

namespace CodeLint.Lint

def builtInNames : List String :=
  ["ArithmeticError", "AssertionError", "AttributeError", "BaseException", "BaseExceptionGroup",
   "BlockingIOError", "BrokenPipeError", "BufferError", "BytesWarning", "ChildProcessError",
   "ConnectionAbortedError", "ConnectionError", "ConnectionRefusedError", "ConnectionResetError",
   "DeprecationWarning", "EOFError", "Ellipsis", "EncodingWarning", "EnvironmentError",
   "Exception", "ExceptionGroup", "False", "FileExistsError", "FileNotFoundError",
   "FloatingPointError", "FutureWarning", "GeneratorExit", "IOError", "ImportError",
   "ImportWarning", "IndentationError", "IndexError", "InterruptedError", "IsADirectoryError",
   "KeyError", "KeyboardInterrupt", "LookupError", "MemoryError", "ModuleNotFoundError",
   "NameError", "None", "NotADirectoryError", "NotImplemented", "NotImplementedError", "OSError",
   "OverflowError", "PendingDeprecationWarning", "PermissionError", "ProcessLookupError",
   "RecursionError", "ReferenceError", "ResourceWarning", "RuntimeError", "RuntimeWarning",
   "StopAsyncIteration", "StopIteration", "SyntaxError", "SyntaxWarning", "SystemError",
   "SystemExit", "TabError", "TimeoutError", "True", "TypeError", "UnboundLocalError",
   "UnicodeDecodeError", "UnicodeEncodeError", "UnicodeError", "UnicodeTranslateError",
   "UnicodeWarning", "UserWarning", "ValueError", "Warning", "ZeroDivisionError",
   "__build_class__", "__debug__", "__doc__", "__import__", "__loader__", "__name__",
   "__package__", "__spec__", "abs", "add", "aiter", "all", "and", "anext", "any", "append", "as",
   "ascii", "assert", "async", "await", "bin", "bool", "break", "breakpoint", "bytearray",
   "bytes", "callable", "capitalize", "casefold", "center", "chr", "class", "classmethod",
   "clear", "compile", "complex", "continue", "copy", "copyright", "count", "credits", "def",
   "del", "delattr", "dict", "difference", "difference_update", "dir", "discard", "divmod",
   "elif", "else", "encode", "endswith", "enumerate", "eval", "except", "exec", "exit",
   "expandtabs", "extend", "filter", "finally", "find", "float", "for", "format", "format_map",
   "from", "fromkeys", "frozenset", "get", "getattr", "global", "globals", "hasattr", "hash",
   "help", "hex", "id", "if", "import", "in", "index", "input", "insert", "int", "intersection",
   "intersection_update", "is", "isalnum", "isalpha", "isascii", "isdecimal", "isdigit",
   "isdisjoint", "isidentifier", "isinstance", "islower", "isnumeric", "isprintable", "isspace",
   "issubclass", "issubset", "issuperset", "istitle", "isupper", "items", "iter", "join", "keys",
   "lambda", "len", "license", "list", "ljust", "locals", "lower", "lstrip", "maketrans", "map",
   "max", "memoryview", "min", "next", "nonlocal", "not", "object", "oct", "open", "or", "ord",
   "partition", "pass", "pop", "popitem", "pow", "print", "property", "quit", "raise", "range",
   "remove", "removeprefix", "removesuffix", "replace", "repr", "return", "reverse", "reversed",
   "rfind", "rindex", "rjust", "round", "rpartition", "rsplit", "rstrip", "set", "setattr",
   "setdefault", "slice", "sort", "sorted", "split", "splitlines", "startswith", "staticmethod",
   "str", "strip", "sum", "super", "swapcase", "symmetric_difference",
   "symmetric_difference_update", "title", "translate", "try", "tuple", "type", "union", "update",
   "upper", "values", "vars", "while", "with", "yield", "zfill", "zip"]

def isBuiltIn (name : String) : Bool := builtInNames.contains name

end CodeLint.Lint
