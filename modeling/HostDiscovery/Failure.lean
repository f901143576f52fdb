/-!
# Failures

A failure is what a call on the platform answers instead of a result: its kind,
its text, and for a refused download the status line that came back. Callers
choose which failures they survive by the classes below; a kind may belong to
several classes. `label` is shown where a failure has no text of its own.
-/
namespace HostDiscovery

inductive FailureKind
  | os
  | connectionRefused
  | timedOut
  | permissionDenied
  | nameUnresolved
  | hostUnknown
  | notFound
  | alreadyExists
  | notDirectory
  | isDirectory
  | value
  | unicode
  | undecodable
  | unencodable
  | runtime
  | wrongType
  | overflow
  | request
  | httpStatus
  | requestConnection
  | requestTimeout
  | connectTimeout
  | readTimeout
  | tls
  | proxy
  | chunkedEncoding
  | contentDecoding
  | tooManyRedirects
  | invalidUrl
  | missingScheme
  | unknownScheme
  deriving DecidableEq, Repr

namespace FailureKind

def label : FailureKind → String
  | os => "OSError"
  | connectionRefused => "ConnectionRefusedError"
  | timedOut => "TimeoutError"
  | permissionDenied => "PermissionError"
  | nameUnresolved => "gaierror"
  | hostUnknown => "herror"
  | notFound => "FileNotFoundError"
  | alreadyExists => "FileExistsError"
  | notDirectory => "NotADirectoryError"
  | isDirectory => "IsADirectoryError"
  | value => "ValueError"
  | unicode => "UnicodeError"
  | undecodable => "UnicodeDecodeError"
  | unencodable => "UnicodeEncodeError"
  | runtime => "RuntimeError"
  | wrongType => "TypeError"
  | overflow => "OverflowError"
  | request => "RequestException"
  | httpStatus => "HTTPError"
  | requestConnection => "ConnectionError"
  | requestTimeout => "Timeout"
  | connectTimeout => "ConnectTimeout"
  | readTimeout => "ReadTimeout"
  | tls => "SSLError"
  | proxy => "ProxyError"
  | chunkedEncoding => "ChunkedEncodingError"
  | contentDecoding => "ContentDecodingError"
  | tooManyRedirects => "TooManyRedirects"
  | invalidUrl => "InvalidURL"
  | missingScheme => "MissingSchema"
  | unknownScheme => "InvalidSchema"

def isRequest : FailureKind → Bool
  | request | httpStatus | requestConnection | requestTimeout | connectTimeout | readTimeout
  | tls | proxy | chunkedEncoding | contentDecoding | tooManyRedirects | invalidUrl
  | missingScheme | unknownScheme => true
  | _ => false

/-- Failures that the operating system reports; those of a request are among them. -/
def isSystem (kind : FailureKind) : Bool :=
  kind.isRequest ||
    match kind with
    | os | connectionRefused | timedOut | permissionDenied | nameUnresolved | hostUnknown
    | notFound | alreadyExists | notDirectory | isDirectory => true
    | _ => false

def isUnicode : FailureKind → Bool
  | unicode | undecodable | unencodable => true
  | _ => false

def isValue (kind : FailureKind) : Bool :=
  kind.isUnicode ||
    match kind with
    | value | invalidUrl | missingScheme | unknownScheme => true
    | _ => false

def isRequestTimeout : FailureKind → Bool
  | requestTimeout | connectTimeout | readTimeout => true
  | _ => false

def isRequestConnection : FailureKind → Bool
  | requestConnection | connectTimeout | tls | proxy => true
  | _ => false

end FailureKind

structure Failure where
  kind : FailureKind
  message : String := ""
  /-- Status and reason phrase of the response that was refused. -/
  status : Option (Int × Option String) := none
  deriving DecidableEq, Repr

namespace Failure

def isSystemOrValue (f : Failure) : Bool := f.kind.isSystem || f.kind.isValue

end Failure

end HostDiscovery
