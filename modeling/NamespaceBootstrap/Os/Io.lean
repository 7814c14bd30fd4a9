import NamespaceBootstrap.Os.Errno

/-!
Failures of reading and writing a byte stream. A read that ends before the bytes asked for, a
write that the stream stops taking, a message that is malformed, a refusal of the stream's
owner, or an error of the operating system.
-/

namespace NamespaceBootstrap.Os

/-- A failed read, write or release of a byte stream: the stream ended before the bytes asked
for, took no more bytes, held bytes that do not form the message expected, refused, or the
operating system reported an error. -/
inductive IoFailure where
  | shortRead
  | shortWrite
  | malformed (reason : String)
  | refused (reason : String)
  | os (errno : Errno)
  deriving DecidableEq, Repr

def IoFailure.message : IoFailure → String
  | .shortRead => "failed to fill whole buffer"
  | .shortWrite => "failed to write whole buffer"
  | .malformed reason => reason
  | .refused reason => reason
  | .os e => e.osText

def IoFailure.kind : IoFailure → String
  | .shortRead => "UnexpectedEof"
  | .shortWrite => "WriteZero"
  | .malformed _ => "InvalidData"
  | .refused _ => "Other"
  | .os e => e.ioKind

end NamespaceBootstrap.Os
