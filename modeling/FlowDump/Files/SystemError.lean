import FlowDump.Decimal.Signed

/-!
# Errors of the operating system

* `SystemError` — the number of an error, with names for those that files and programs give.
* `SystemError.message` — its text, number included.
* `SystemError.className` — the name of the class it belongs to.
* `IoFailure` — why a file or a program could not be used: an error of the system, or a text that
  cannot be handed to it.
-/

namespace FlowDump

/-- An error of the operating system by its number. -/
structure SystemError where
  number : Int
  deriving DecidableEq, Repr, Inhabited

namespace SystemError

/-! ### The errors that files and programs give -/

/-- There is no such entry. -/
def notFound : SystemError := ⟨2⟩

/-- The arguments of a program take too much room. -/
def argumentsTooLong : SystemError := ⟨7⟩

/-- The entry may not be used in this way. -/
def permissionDenied : SystemError := ⟨13⟩

/-- The entry is in use. -/
def busy : SystemError := ⟨16⟩

/-- The entry is there already. -/
def alreadyExists : SystemError := ⟨17⟩

/-- A part of a path that has to be a directory is none. -/
def notADirectory : SystemError := ⟨20⟩

/-- A directory stands where a file is needed. -/
def isADirectory : SystemError := ⟨21⟩

/-- A name or a path is too long. -/
def nameTooLong : SystemError := ⟨36⟩

/-! ### Texts -/

/-- The texts of the system, by number. -/
def texts : List (Int × String) :=
  [
    (1, "Operation not permitted"),
    (2, "No such file or directory"),
    (3, "No such process"),
    (4, "Interrupted system call"),
    (5, "Input/output error"),
    (6, "No such device or address"),
    (7, "Argument list too long"),
    (8, "Exec format error"),
    (9, "Bad file descriptor"),
    (10, "No child processes"),
    (11, "Resource temporarily unavailable"),
    (12, "Cannot allocate memory"),
    (13, "Permission denied"),
    (14, "Bad address"),
    (15, "Block device required"),
    (16, "Device or resource busy"),
    (17, "File exists"),
    (18, "Invalid cross-device link"),
    (19, "No such device"),
    (20, "Not a directory"),
    (21, "Is a directory"),
    (22, "Invalid argument"),
    (23, "Too many open files in system"),
    (24, "Too many open files"),
    (25, "Inappropriate ioctl for device"),
    (26, "Text file busy"),
    (27, "File too large"),
    (28, "No space left on device"),
    (29, "Illegal seek"),
    (30, "Read-only file system"),
    (31, "Too many links"),
    (32, "Broken pipe"),
    (33, "Numerical argument out of domain"),
    (34, "Numerical result out of range"),
    (35, "Resource deadlock avoided"),
    (36, "File name too long"),
    (37, "No locks available"),
    (38, "Function not implemented"),
    (39, "Directory not empty"),
    (40, "Too many levels of symbolic links"),
    (42, "No message of desired type"),
    (43, "Identifier removed"),
    (44, "Channel number out of range"),
    (45, "Level 2 not synchronized"),
    (46, "Level 3 halted"),
    (47, "Level 3 reset"),
    (48, "Link number out of range"),
    (49, "Protocol driver not attached"),
    (50, "No CSI structure available"),
    (51, "Level 2 halted"),
    (52, "Invalid exchange"),
    (53, "Invalid request descriptor"),
    (54, "Exchange full"),
    (55, "No anode"),
    (56, "Invalid request code"),
    (57, "Invalid slot"),
    (59, "Bad font file format"),
    (60, "Device not a stream"),
    (61, "No data available"),
    (62, "Timer expired"),
    (63, "Out of streams resources"),
    (64, "Machine is not on the network"),
    (65, "Package not installed"),
    (66, "Object is remote"),
    (67, "Link has been severed"),
    (68, "Advertise error"),
    (69, "Srmount error"),
    (70, "Communication error on send"),
    (71, "Protocol error"),
    (72, "Multihop attempted"),
    (73, "RFS specific error"),
    (74, "Bad message"),
    (75, "Value too large for defined data type"),
    (76, "Name not unique on network"),
    (77, "File descriptor in bad state"),
    (78, "Remote address changed"),
    (79, "Can not access a needed shared library"),
    (80, "Accessing a corrupted shared library"),
    (81, ".lib section in a.out corrupted"),
    (82, "Attempting to link in too many shared libraries"),
    (83, "Cannot exec a shared library directly"),
    (84, "Invalid or incomplete multibyte or wide character"),
    (85, "Interrupted system call should be restarted"),
    (86, "Streams pipe error"),
    (87, "Too many users"),
    (88, "Socket operation on non-socket"),
    (89, "Destination address required"),
    (90, "Message too long"),
    (91, "Protocol wrong type for socket"),
    (92, "Protocol not available"),
    (93, "Protocol not supported"),
    (94, "Socket type not supported"),
    (95, "Operation not supported"),
    (96, "Protocol family not supported"),
    (97, "Address family not supported by protocol"),
    (98, "Address already in use"),
    (99, "Cannot assign requested address"),
    (100, "Network is down"),
    (101, "Network is unreachable"),
    (102, "Network dropped connection on reset"),
    (103, "Software caused connection abort"),
    (104, "Connection reset by peer"),
    (105, "No buffer space available"),
    (106, "Transport endpoint is already connected"),
    (107, "Transport endpoint is not connected"),
    (108, "Cannot send after transport endpoint shutdown"),
    (109, "Too many references: cannot splice"),
    (110, "Connection timed out"),
    (111, "Connection refused"),
    (112, "Host is down"),
    (113, "No route to host"),
    (114, "Operation already in progress"),
    (115, "Operation now in progress"),
    (116, "Stale file handle"),
    (117, "Structure needs cleaning"),
    (118, "Not a XENIX named type file"),
    (119, "No XENIX semaphores available"),
    (120, "Is a named type file"),
    (121, "Remote I/O error"),
    (122, "Disk quota exceeded"),
    (123, "No medium found"),
    (124, "Wrong medium type"),
    (125, "Operation canceled"),
    (126, "Required key not available"),
    (127, "Key has expired"),
    (128, "Key has been revoked"),
    (129, "Key was rejected by service"),
    (130, "Owner died"),
    (131, "State not recoverable"),
    (132, "Operation not possible due to RF-kill"),
    (133, "Memory page has hardware error")
  ]

/-- The names of the classes of errors, by number. -/
def classNames : List (Int × String) :=
  [
    (1, "PermissionDenied"),
    (2, "NotFound"),
    (4, "Interrupted"),
    (7, "ArgumentListTooLong"),
    (11, "WouldBlock"),
    (12, "OutOfMemory"),
    (13, "PermissionDenied"),
    (16, "ResourceBusy"),
    (17, "AlreadyExists"),
    (18, "CrossesDevices"),
    (20, "NotADirectory"),
    (21, "IsADirectory"),
    (22, "InvalidInput"),
    (26, "ExecutableFileBusy"),
    (27, "FileTooLarge"),
    (28, "StorageFull"),
    (29, "NotSeekable"),
    (30, "ReadOnlyFilesystem"),
    (31, "TooManyLinks"),
    (32, "BrokenPipe"),
    (35, "Deadlock"),
    (36, "InvalidFilename"),
    (38, "Unsupported"),
    (39, "DirectoryNotEmpty"),
    (40, "FilesystemLoop"),
    (95, "Unsupported"),
    (98, "AddrInUse"),
    (99, "AddrNotAvailable"),
    (100, "NetworkDown"),
    (101, "NetworkUnreachable"),
    (103, "ConnectionAborted"),
    (104, "ConnectionReset"),
    (107, "NotConnected"),
    (110, "TimedOut"),
    (111, "ConnectionRefused"),
    (113, "HostUnreachable"),
    (115, "InProgress"),
    (116, "StaleNetworkFileHandle"),
    (122, "QuotaExceeded")
  ]

/-- The number in decimal. -/
def numberText (e : SystemError) : String :=
  String.ofList (Decimal.renderSigned e.number)

/-- The text of an error without its number. -/
def text (e : SystemError) : String :=
  ((texts.find? (fun p => p.1 = e.number)).map (·.2)).getD
    (if e.number = 0 then "Success" else "Unknown error " ++ e.numberText)

/-- The text of an error. -/
def message (e : SystemError) : String :=
  e.text ++ " (os error " ++ e.numberText ++ ")"

/-- The name of the class of an error. -/
def className (e : SystemError) : String :=
  ((classNames.find? (fun p => p.1 = e.number)).map (·.2)).getD "Uncategorized"

end SystemError

/-! ### Failures of files and programs -/

/-- Why a file or a program could not be used. -/
inductive IoFailure where
  | system (e : SystemError)
  /-- A path holds a zero character. -/
  | zeroInPath
  /-- The name or an argument of a program holds a zero character. -/
  | zeroInArgument
  /-- A file that has to be text is none. -/
  | notText
  /-- A path has no directory to start from. -/
  | noAncestor
  /-- A failure that is known by its wording only. -/
  | described (message : String)
  deriving DecidableEq, Repr, Inhabited

namespace IoFailure

/-- The wording of a failure. -/
def message : IoFailure → String
  | system e => e.message
  | zeroInPath => "file name contained an unexpected NUL byte"
  | zeroInArgument => "nul byte found in provided data"
  | notText => "stream did not contain valid UTF-8"
  | noAncestor => "failed to create whole tree"
  | described m => m

/-- The name of the class of a failure. -/
def className : IoFailure → String
  | system e => e.className
  | zeroInPath => "InvalidInput"
  | zeroInArgument => "InvalidInput"
  | notText => "InvalidData"
  | noAncestor => "Uncategorized"
  | described _ => "Other"

end IoFailure

end FlowDump
