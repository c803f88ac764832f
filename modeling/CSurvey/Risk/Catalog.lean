import CSurvey.Risk.Rule

/-!
# The catalog of risk rules

The rules in the order in which their findings are reported.
-/

namespace CSurvey

namespace RiskCatalog

/-- The functions that print by a format. -/
def formatFunctions : List FormatPlace :=
  [("printf", 0), ("vprintf", 0), ("wprintf", 0), ("fprintf", 1), ("vfprintf", 1),
   ("dprintf", 1), ("sprintf", 1), ("vsprintf", 1), ("syslog", 1), ("snprintf", 2),
   ("vsnprintf", 2), ("swprintf", 2)]

/-- The functions that read by a format. -/
def scanfFunctions : List FormatPlace :=
  [("scanf", 0), ("vscanf", 0), ("fscanf", 1), ("sscanf", 1), ("vfscanf", 1), ("vsscanf", 1)]

/-- The functions that allocate. -/
def allocators : List String :=
  ["malloc", "calloc", "realloc", "strdup", "strndup"]

def rules : List RiskRule :=
  [{ id := "unbounded-copy"
     category := "buffer overflow"
     severity := .high
     pattern := .call ["strcpy", "strcat", "wcscpy", "wcscat", "stpcpy"]
     rationale := "copies until the source terminator with no bound on the destination"
     remedy := "use a length-bounded copy (strlcpy/strncpy with explicit termination) " ++
       "and check sizes" },
   { id := "unbounded-format"
     category := "buffer overflow"
     severity := .high
     pattern := .call ["sprintf", "vsprintf"]
     rationale := "formatted output length is not bounded by the destination size"
     remedy := "use snprintf/vsnprintf with the destination size and check the return value" },
   { id := "unbounded-read"
     category := "buffer overflow"
     severity := .critical
     pattern := .call ["gets"]
     rationale := "reads an unbounded line into a fixed buffer"
     remedy := "replace with fgets and an explicit buffer size" },
   { id := "unbounded-scanf"
     category := "buffer overflow"
     severity := .high
     pattern := .unboundedScanf scanfFunctions
     rationale := "string conversion without a field width can overrun the target buffer"
     remedy := "give every %s / %[ conversion a maximum field width" },
   { id := "format-string"
     category := "format string"
     severity := .high
     pattern := .formatArgument formatFunctions
     rationale := "format argument is not a literal and may be attacker controlled"
     remedy := "pass a constant format such as \"%s\" and the data as an argument" },
   { id := "command-injection"
     category := "command injection"
     severity := .critical
     pattern := .call ["system", "popen", "execl", "execlp", "execle", "execv", "execvp", "execve",
       "WinExec", "ShellExecuteA", "ShellExecuteW"]
     rationale := "runs an external command; any tainted argument becomes code execution"
     remedy := "avoid the shell, use a fixed argv with validated arguments" },
   { id := "unchecked-allocation"
     category := "memory management"
     severity := .medium
     pattern := .uncheckedAllocation allocators
     rationale := "allocation result is used without a NULL check"
     remedy := "check the returned pointer before use" },
   { id := "allocation-without-free"
     category := "memory leak"
     severity := .medium
     pattern := .allocationWithoutRelease allocators ["free", "realloc"]
     rationale := "memory is allocated but never released in this scope"
     remedy := "release the allocation on every path or document the ownership transfer" },
   { id := "pointer-arithmetic"
     category := "memory safety"
     severity := .low
     pattern := .pointerArithmetic
     rationale := "dereference of a computed address; offsets are not bounds checked"
     remedy := "replace raw offsets with typed struct fields or checked indexing" },
   { id := "indexed-write"
     category := "buffer overflow"
     severity := .medium
     pattern := .indexedWrite
     rationale := "write through a variable index with no visible bounds check"
     remedy := "validate the index against the buffer length before writing" },
   { id := "hardcoded-credential"
     category := "sensitive data"
     severity := .medium
     pattern := .sensitiveName ["password", "passwd", "pwd", "secret", "apikey", "api_key"]
     rationale := "credential-like name or literal; secrets may be embedded in the binary"
     remedy := "load credentials from protected storage at runtime" },
   { id := "insecure-temp-file"
     category := "race condition"
     severity := .medium
     pattern := .call ["tmpnam", "tempnam", "mktemp"]
     rationale := "predictable temporary file name allows a symlink race"
     remedy := "use mkstemp and operate on the returned descriptor" },
   { id := "stack-allocation"
     category := "stack exhaustion"
     severity := .medium
     pattern := .call ["alloca", "_alloca"]
     rationale := "variable-size stack allocation can exhaust or jump the stack guard"
     remedy := "use a bounded heap allocation" },
   { id := "weak-random"
     category := "weak randomness"
     severity := .low
     pattern := .call ["rand", "srand", "random"]
     rationale := "predictable generator, unsuitable for keys, nonces or tokens"
     remedy := "use the platform CSPRNG (getrandom, /dev/urandom, BCryptGenRandom)" },
   { id := "inline-assembly"
     category := "unanalyzable code"
     severity := .low
     pattern := .keyword ["asm", "__asm", "__asm__"]
     rationale := "inline assembly hides behavior from source-level review"
     remedy := "review the assembly by hand or lift it into C" }]

end RiskCatalog

end CSurvey
