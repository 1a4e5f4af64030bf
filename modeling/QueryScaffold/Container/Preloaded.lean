import QueryScaffold.Text.Basic

/-!
# Modules that are there at the start

The program and what it is built on consist of modules too. Their names are taken before any
container module is loaded.

* `preloadedNames`: the names;
* `importableRoots`: the names of modules that code can have loaded besides.
-/

namespace QueryScaffold

/-- The words of lines, which have one blank between neighbours. -/
def wordsOf (lines : List String) : List Text :=
  lines.flatMap fun line => (Text.ofString line).split (CodePoint.ofChar ' ')

/-- The names below a name, written behind it with a dot between. -/
def namesBelow (parent : String) (lines : List String) : List Text :=
  (wordsOf lines).map fun name => Text.ofString parent ++ ("." : Text) ++ name

/-- The names of modules that are below no other one. -/
def preloadedRoots : List Text :=
  wordsOf [
    "__future__ __main__ _abc _ast _asyncio _bisect _blake2 _bz2 _codecs _collections",
    "_collections_abc _compat_pickle _compression _contextvars _csv _datetime _decimal",
    "_frozen_importlib _frozen_importlib_external _functools _hashlib _heapq _imp _io _json",
    "_locale _lzma _opcode _operator _pickle _posixsubprocess _random _sha512 _signal",
    "_sitebuiltins _socket _sre _ssl _stat _string _struct _thread _typing _uuid _warnings",
    "_weakref _weakrefset _zoneinfo abc argparse array ast asyncio atexit base64 binascii",
    "bisect builtins bz2 calendar codecs collections concurrent contextlib contextvars copy",
    "copyreg csv dataclasses datetime decimal dis email encodings enum errno fcntl fnmatch",
    "fractions functools genericpath gettext hashlib heapq importlib inspect io ipaddress",
    "itertools json keyword linecache locale logging lzma marshal math ntpath numbers opcode",
    "operator os pathlib pickle platform posix posixpath quopri random re reprlib select",
    "selectors shutil signal site socket ssl stat string struct subprocess sys sysconfig",
    "tempfile textwrap threading time token tokenize traceback types typing unicodedata",
    "urllib uuid warnings weakref zipfile zipimport zlib zoneinfo annotated_types jinja2",
    "markupsafe pydantic pydantic_core typing_extensions typing_inspection querygen"]

/-- The names of modules that are below other ones. -/
def preloadedParts : List Text :=
  List.flatten [
    namesBelow "asyncio" [
      "base_events base_futures base_subprocess base_tasks constants coroutines events",
      "exceptions format_helpers futures locks log mixins protocols queues runners",
      "selector_events sslproto staggered streams subprocess taskgroups tasks threads timeouts",
      "transports trsock unix_events"],
    namesBelow "collections" ["abc"],
    namesBelow "concurrent" ["futures futures._base"],
    namesBelow "email" [
      "_encoded_words _parseaddr _policybase base64mime charset encoders errors header",
      "iterators message quoprimime utils"],
    namesBelow "encodings" ["aliases utf_8"],
    namesBelow "importlib" [
      "_abc _bootstrap _bootstrap_external abc machinery metadata metadata._adapters",
      "metadata._collections metadata._functools metadata._itertools metadata._meta",
      "metadata._text resources resources._adapters resources._common resources._legacy",
      "resources.abc util"],
    namesBelow "json" ["decoder encoder scanner"],
    namesBelow "os" ["path"],
    namesBelow "re" ["_casefix _compiler _constants _parser"],
    namesBelow "typing" ["io re"],
    namesBelow "urllib" ["parse"],
    namesBelow "zoneinfo" ["_common _tzpath"],
    namesBelow "jinja2" [
      "_identifier async_utils bccache compiler defaults environment exceptions filters",
      "idtracking lexer loaders nodes optimizer parser runtime tests utils visitor"],
    namesBelow "markupsafe" ["_speedups"],
    namesBelow "pydantic" [
      "_internal _internal._config _internal._core_metadata _internal._core_utils",
      "_internal._decorators _internal._discriminated_union _internal._docs_extraction",
      "_internal._fields _internal._forward_ref _internal._generate_schema _internal._generics",
      "_internal._import_utils _internal._internal_dataclass",
      "_internal._known_annotated_metadata _internal._mock_val_ser",
      "_internal._model_construction _internal._namespace_utils _internal._repr",
      "_internal._schema_gather _internal._schema_generation_shared _internal._signature",
      "_internal._typing_extra _internal._utils _internal._validators _migration",
      "alias_generators aliases annotated_handlers config errors fields functional_validators",
      "json_schema main plugin plugin._loader plugin._schema_validator types version warnings"],
    namesBelow "pydantic_core" ["_pydantic_core core_schema"],
    namesBelow "typing_inspection" ["introspection typing_objects"],
    namesBelow "querygen" [
      "__main__ assembler codegen config errors loader logging model naming pipeline resolver",
      "schema_parser synthesizer"]]

/-- The names of modules that are loaded as soon as code asks for them. -/
def importableRoots : List Text :=
  wordsOf [
    "aifc antigravity asynchat asyncore audioop bdb cProfile cgi cgitb chunk cmath cmd code",
    "codeop colorsys compileall configparser crypt ctypes curses dbm difflib distutils doctest",
    "ensurepip faulthandler filecmp fileinput ftplib gc getopt getpass glob graphlib grp gzip",
    "hmac html http idlelib imaplib imghdr imp lib2to3 mailbox mailcap mimetypes mmap",
    "modulefinder multiprocessing netrc nis nntplib nturl2path optparse ossaudiodev pdb",
    "pickletools pipes pkgutil plistlib poplib pprint profile pstats pty pwd py_compile pyclbr",
    "pydoc pydoc_data pyexpat queue readline resource rlcompleter runpy sched secrets shelve",
    "shlex smtpd smtplib sndhdr socketserver spwd sqlite3 sre_compile sre_constants sre_parse",
    "statistics stringprep sunau symtable syslog tabnanny tarfile telnetlib termios this timeit",
    "tkinter tomllib trace tracemalloc tty turtle turtledemo unittest uu venv wave webbrowser",
    "wsgiref xdrlib xml xmlrpc zipapp"]

/-- The names of the modules that are there at the start. -/
def preloadedNames : List Text := preloadedRoots ++ preloadedParts

end QueryScaffold
