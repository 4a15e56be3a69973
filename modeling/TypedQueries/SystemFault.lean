import TypedQueries.Path
import TypedQueries.Text.Quoted

/-! # Faults of the system

What the operating system answers when a file cannot be used, and its wording.
-/

namespace TypedQueries

/-- Faults without a number. -/
inductive FaultKind where
  | notFound | permissionDenied | alreadyExists | invalidData | unexpectedEnd
deriving DecidableEq, Repr

/-- A fault: by its number, by its number with the path it concerns, by its kind, or in
words. -/
inductive SystemFault where
  | numbered (number : Nat)
  | numberedAt (number : Nat) (path : Path)
  | kind (kind : FaultKind)
  | worded (text : String)
deriving DecidableEq, Repr

namespace SystemFault

/-- The wordings of the numbered faults, by number from zero. -/
def wordings : List String :=
  ["Success", "Operation not permitted", "No such file or directory", "No such process",
   "Interrupted system call", "Input/output error", "No such device or address",
   "Argument list too long", "Exec format error", "Bad file descriptor", "No child processes",
   "Resource temporarily unavailable", "Cannot allocate memory", "Permission denied",
   "Bad address", "Block device required", "Device or resource busy", "File exists",
   "Invalid cross-device link", "No such device", "Not a directory", "Is a directory",
   "Invalid argument", "Too many open files in system", "Too many open files",
   "Inappropriate ioctl for device", "Text file busy", "File too large",
   "No space left on device", "Illegal seek", "Read-only file system", "Too many links",
   "Broken pipe", "Numerical argument out of domain", "Numerical result out of range",
   "Resource deadlock avoided", "File name too long", "No locks available",
   "Function not implemented", "Directory not empty", "Too many levels of symbolic links",
   "Unknown error 41", "No message of desired type", "Identifier removed",
   "Channel number out of range", "Level 2 not synchronized", "Level 3 halted", "Level 3 reset",
   "Link number out of range", "Protocol driver not attached", "No CSI structure available",
   "Level 2 halted", "Invalid exchange", "Invalid request descriptor", "Exchange full",
   "No anode", "Invalid request code", "Invalid slot", "Unknown error 58",
   "Bad font file format", "Device not a stream", "No data available", "Timer expired",
   "Out of streams resources", "Machine is not on the network", "Package not installed",
   "Object is remote", "Link has been severed", "Advertise error", "Srmount error",
   "Communication error on send", "Protocol error", "Multihop attempted", "RFS specific error",
   "Bad message", "Value too large for defined data type", "Name not unique on network",
   "File descriptor in bad state", "Remote address changed",
   "Can not access a needed shared library", "Accessing a corrupted shared library",
   ".lib section in a.out corrupted", "Attempting to link in too many shared libraries",
   "Cannot exec a shared library directly", "Invalid or incomplete multibyte or wide character",
   "Interrupted system call should be restarted", "Streams pipe error", "Too many users",
   "Socket operation on non-socket", "Destination address required", "Message too long",
   "Protocol wrong type for socket", "Protocol not available", "Protocol not supported",
   "Socket type not supported", "Operation not supported", "Protocol family not supported",
   "Address family not supported by protocol", "Address already in use",
   "Cannot assign requested address", "Network is down", "Network is unreachable",
   "Network dropped connection on reset", "Software caused connection abort",
   "Connection reset by peer", "No buffer space available",
   "Transport endpoint is already connected", "Transport endpoint is not connected",
   "Cannot send after transport endpoint shutdown", "Too many references: cannot splice",
   "Connection timed out", "Connection refused", "Host is down", "No route to host",
   "Operation already in progress", "Operation now in progress", "Stale file handle",
   "Structure needs cleaning", "Not a XENIX named type file", "No XENIX semaphores available",
   "Is a named type file", "Remote I/O error", "Disk quota exceeded", "No medium found",
   "Wrong medium type", "Operation canceled", "Required key not available", "Key has expired",
   "Key has been revoked", "Key was rejected by service", "Owner died", "State not recoverable",
   "Operation not possible due to RF-kill", "Memory page has hardware error"]

def wording (number : Nat) : String :=
  wordings[number]?.getD ("Unknown error " ++ toString number) ++ " (os error " ++ toString number
    ++ ")"

def message : SystemFault → String
  | numbered n => wording n
  | numberedAt n path => wording n ++ " at path " ++ Quoted.quote path.display
  | kind .notFound => "entity not found"
  | kind .permissionDenied => "permission denied"
  | kind .alreadyExists => "entity already exists"
  | kind .invalidData => "invalid data"
  | kind .unexpectedEnd => "unexpected end of file"
  | worded s => s

/-- A fault by its number, with the path that it concerns. -/
def concerning (path : Path) : SystemFault → SystemFault
  | numbered number => numberedAt number path
  | fault => fault

def missing : SystemFault := numbered 2

def busy : SystemFault := numbered 16

/-- A file of that name is there already. -/
def occupied : SystemFault := numbered 17

def notDirectory : SystemFault := numbered 20

/-- A directory was met where a file was needed. -/
def isDirectory : SystemFault := numbered 21

def nameTooLong : SystemFault := numbered 36

def tooManyLinks : SystemFault := numbered 40

/-- A text file holds bytes that are no text. -/
def notText : SystemFault := worded "stream did not contain valid UTF-8"

end SystemFault

end TypedQueries
