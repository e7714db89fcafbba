/-!
# Errors of the operating system

The system reports an error by its number, and each number has a wording. A text with the
character that ends texts of the system is refused before the system is asked.
-/

namespace GatewayProbe

/-- An error of the system. -/
inductive SystemError where
  /-- An error by its number. -/
  | numbered (code : Nat)
  /-- A path is no text of the system. -/
  | brokenPath
  /-- A command or an argument is no text of the system. -/
  | brokenCommand
  deriving DecidableEq, Repr, Inhabited

namespace SystemError

/-- There is nothing under a name. -/
def notFound : SystemError := .numbered 2

/-- A file may not be used in this way. -/
def denied : SystemError := .numbered 13

/-- There is something under a name already. -/
def alreadyThere : SystemError := .numbered 17

/-- A part of a path is a file. -/
def notDirectory : SystemError := .numbered 20

/-- A path names a directory. -/
def isDirectory : SystemError := .numbered 21

/-- A name is too long. -/
def nameTooLong : SystemError := .numbered 36

/-- The system cannot do what it is asked for. -/
def notSupported : SystemError := .numbered 38

/-- The wordings by number, beginning with one. -/
def wordings : List String :=
  ["Operation not permitted", "No such file or directory", "No such process",
   "Interrupted system call", "Input/output error", "No such device or address",
   "Argument list too long", "Exec format error", "Bad file descriptor", "No child processes",
   "Resource temporarily unavailable", "Cannot allocate memory", "Permission denied",
   "Bad address", "Block device required", "Device or resource busy", "File exists",
   "Invalid cross-device link", "No such device", "Not a directory", "Is a directory",
   "Invalid argument", "Too many open files in system", "Too many open files",
   "Inappropriate ioctl for device", "Text file busy", "File too large",
   "No space left on device", "Illegal seek", "Read-only file system", "Too many links",
   "Broken pipe", "Numerical argument out of domain", "Numerical result out of range",
   "Resource deadlock avoided", "File name too long", "No locks available",
   "Function not implemented", "Directory not empty", "Too many levels of symbolic links",
   "Unknown error 41", "No message of desired type", "Identifier removed",
   "Channel number out of range", "Level 2 not synchronized", "Level 3 halted", "Level 3 reset",
   "Link number out of range", "Protocol driver not attached", "No CSI structure available",
   "Level 2 halted", "Invalid exchange", "Invalid request descriptor", "Exchange full",
   "No anode", "Invalid request code", "Invalid slot", "Unknown error 58", "Bad font file format",
   "Device not a stream", "No data available", "Timer expired", "Out of streams resources",
   "Machine is not on the network", "Package not installed", "Object is remote",
   "Link has been severed", "Advertise error", "Srmount error", "Communication error on send",
   "Protocol error", "Multihop attempted", "RFS specific error", "Bad message",
   "Value too large for defined data type", "Name not unique on network",
   "File descriptor in bad state", "Remote address changed",
   "Can not access a needed shared library", "Accessing a corrupted shared library",
   ".lib section in a.out corrupted", "Attempting to link in too many shared libraries",
   "Cannot exec a shared library directly", "Invalid or incomplete multibyte or wide character",
   "Interrupted system call should be restarted", "Streams pipe error", "Too many users",
   "Socket operation on non-socket", "Destination address required", "Message too long",
   "Protocol wrong type for socket", "Protocol not available", "Protocol not supported",
   "Socket type not supported", "Operation not supported", "Protocol family not supported",
   "Address family not supported by protocol", "Address already in use",
   "Cannot assign requested address", "Network is down", "Network is unreachable",
   "Network dropped connection on reset", "Software caused connection abort",
   "Connection reset by peer", "No buffer space available",
   "Transport endpoint is already connected", "Transport endpoint is not connected",
   "Cannot send after transport endpoint shutdown", "Too many references: cannot splice",
   "Connection timed out", "Connection refused", "Host is down", "No route to host",
   "Operation already in progress", "Operation now in progress", "Stale file handle",
   "Structure needs cleaning", "Not a XENIX named type file", "No XENIX semaphores available",
   "Is a named type file", "Remote I/O error", "Disk quota exceeded", "No medium found",
   "Wrong medium type", "Operation canceled", "Required key not available", "Key has expired",
   "Key has been revoked", "Key was rejected by service", "Owner died", "State not recoverable",
   "Operation not possible due to RF-kill", "Memory page has hardware error"]

/-- The wording of a number. -/
def wording : Nat → String
  | 0 => "Success"
  | n + 1 => (wordings[n]?).getD ("Unknown error " ++ toString (n + 1))

/-- The wording of an error, with its number if it has one. -/
def message : SystemError → String
  | .numbered code => wording code ++ " (os error " ++ toString code ++ ")"
  | .brokenPath => "file name contained an unexpected NUL byte"
  | .brokenCommand => "nul byte found in provided data"

/-- Whether a text can be handed to the system. -/
def isPlain (s : String) : Bool := s.toList.all (· ≠ '\x00')

end SystemError

end GatewayProbe
