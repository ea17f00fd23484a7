import EventLineage.Failure.Store

/-! # Errors of the operating system

An error is told by its number, or by its kind alone, or it carries a text or another error. All of
them are known by one name. -/
namespace EventLineage.SystemError

/-- The texts of the error numbers, from 0 on. -/
def numbered : Array String :=
  #["Success", "Operation not permitted", "No such file or directory", "No such process",
    "Interrupted system call", "Input/output error", "No such device or address",
    "Argument list too long", "Exec format error", "Bad file descriptor", "No child processes",
    "Resource temporarily unavailable", "Cannot allocate memory", "Permission denied",
    "Bad address", "Block device required", "Device or resource busy", "File exists",
    "Invalid cross-device link", "No such device", "Not a directory", "Is a directory",
    "Invalid argument", "Too many open files in system", "Too many open files",
    "Inappropriate ioctl for device", "Text file busy", "File too large",
    "No space left on device", "Illegal seek", "Read-only file system", "Too many links",
    "Broken pipe", "Numerical argument out of domain", "Numerical result out of range",
    "Resource deadlock avoided", "File name too long", "No locks available",
    "Function not implemented", "Directory not empty", "Too many levels of symbolic links",
    "Unknown error 41", "No message of desired type", "Identifier removed",
    "Channel number out of range", "Level 2 not synchronized", "Level 3 halted", "Level 3 reset",
    "Link number out of range", "Protocol driver not attached", "No CSI structure available",
    "Level 2 halted", "Invalid exchange", "Invalid request descriptor", "Exchange full",
    "No anode", "Invalid request code", "Invalid slot", "Unknown error 58",
    "Bad font file format", "Device not a stream", "No data available", "Timer expired",
    "Out of streams resources", "Machine is not on the network", "Package not installed",
    "Object is remote", "Link has been severed", "Advertise error", "Srmount error",
    "Communication error on send", "Protocol error", "Multihop attempted", "RFS specific error",
    "Bad message", "Value too large for defined data type", "Name not unique on network",
    "File descriptor in bad state", "Remote address changed",
    "Can not access a needed shared library", "Accessing a corrupted shared library",
    ".lib section in a.out corrupted", "Attempting to link in too many shared libraries",
    "Cannot exec a shared library directly", "Invalid or incomplete multibyte or wide character",
    "Interrupted system call should be restarted", "Streams pipe error", "Too many users",
    "Socket operation on non-socket", "Destination address required", "Message too long",
    "Protocol wrong type for socket", "Protocol not available", "Protocol not supported",
    "Socket type not supported", "Operation not supported", "Protocol family not supported",
    "Address family not supported by protocol", "Address already in use",
    "Cannot assign requested address", "Network is down", "Network is unreachable",
    "Network dropped connection on reset", "Software caused connection abort",
    "Connection reset by peer", "No buffer space available",
    "Transport endpoint is already connected", "Transport endpoint is not connected",
    "Cannot send after transport endpoint shutdown", "Too many references: cannot splice",
    "Connection timed out", "Connection refused", "Host is down", "No route to host",
    "Operation already in progress", "Operation now in progress", "Stale file handle",
    "Structure needs cleaning", "Not a XENIX named type file", "No XENIX semaphores available",
    "Is a named type file", "Remote I/O error", "Disk quota exceeded", "No medium found",
    "Wrong medium type", "Operation canceled", "Required key not available", "Key has expired",
    "Key has been revoked", "Key was rejected by service", "Owner died", "State not recoverable",
    "Operation not possible due to RF-kill", "Memory page has hardware error"]

/-- The text of an error number. -/
def textOf (number : Int32) : String :=
  if number < 0 then s!"Unknown error {number}"
  else (numbered[number.toNatClampNeg]?).getD s!"Unknown error {number}"

/-- The kinds of errors with their texts. -/
def kinds : List (String × String) :=
  [("NotFound", "entity not found"),
   ("PermissionDenied", "permission denied"),
   ("ConnectionRefused", "connection refused"),
   ("ConnectionReset", "connection reset"),
   ("HostUnreachable", "host unreachable"),
   ("NetworkUnreachable", "network unreachable"),
   ("ConnectionAborted", "connection aborted"),
   ("NotConnected", "not connected"),
   ("AddrInUse", "address in use"),
   ("AddrNotAvailable", "address not available"),
   ("NetworkDown", "network down"),
   ("BrokenPipe", "broken pipe"),
   ("AlreadyExists", "entity already exists"),
   ("WouldBlock", "operation would block"),
   ("NotADirectory", "not a directory"),
   ("IsADirectory", "is a directory"),
   ("DirectoryNotEmpty", "directory not empty"),
   ("ReadOnlyFilesystem", "read-only filesystem or storage medium"),
   ("StaleNetworkFileHandle", "stale network file handle"),
   ("InvalidInput", "invalid input parameter"),
   ("InvalidData", "invalid data"),
   ("TimedOut", "timed out"),
   ("WriteZero", "write zero"),
   ("StorageFull", "no storage space"),
   ("NotSeekable", "seek on unseekable file"),
   ("QuotaExceeded", "quota exceeded"),
   ("FileTooLarge", "file too large"),
   ("ResourceBusy", "resource busy"),
   ("ExecutableFileBusy", "executable file busy"),
   ("Deadlock", "deadlock"),
   ("CrossesDevices", "cross-device link or rename"),
   ("TooManyLinks", "too many links"),
   ("InvalidFilename", "invalid filename"),
   ("ArgumentListTooLong", "argument list too long"),
   ("Interrupted", "operation interrupted"),
   ("Unsupported", "unsupported"),
   ("UnexpectedEof", "unexpected end of file"),
   ("OutOfMemory", "out of memory"),
   ("Other", "other error")]

/-- The text of a kind; a kind that has no name here is another error. -/
def kindText (kind : String) : String :=
  match kinds.find? fun p => p.1 == kind with
  | some p => p.2
  | none => "other error"

def ofNumber (number : Int32) : ErrorNode where
  display := s!"{textOf number} (os error {number})"
  debug := "Os \x7b"
  familiar := Familiar.system

def ofKind (kind : String) : ErrorNode where
  display := kindText kind
  debug := "Kind("
  familiar := Familiar.system

def ofText (text : String) : ErrorNode where
  display := text
  debug := "Custom \x7b"
  familiar := Familiar.system

/-- An error that hides another one. -/
def ofError (n : ErrorNode) : ErrorNode where
  display := n.display
  debug := "Custom \x7b"
  familiar := Familiar.system
  cause := n.cause

end EventLineage.SystemError
