/-!
# Why a reply cannot be read

A reply comes in three parts, each of which may be malformed: the head, the body, and within a body
that comes in chunks the lines between the chunks. The wording of every fault is in its `message`.
-/

namespace PulseBridge.Http

/-- Why header lines are refused. -/
inductive HeaderFault where
  | badName
  | badValue
  | badLineEnd
  | tooMany
  | cutShort
  deriving DecidableEq, Repr

/-- A fault in header lines, in words. -/
def HeaderFault.message : HeaderFault → String
  | .badName => "invalid header name"
  | .badValue => "invalid header value"
  | .badLineEnd => "invalid new line"
  | .tooMany => "too many headers"
  | .cutShort => "Partial header"

/-- Why a body in chunks is refused. -/
inductive ChunkFault where
  | sizeMissing
  | badSize
  | badSizeBlank
  | badSizeEnd
  | sizeTooLarge
  | lineInExtension
  | extensionsTooLong
  | badBodyReturn
  | badBodyEnd
  | badTrailerEnd
  | trailersTooLong
  | tooManyTrailers
  | badTrailer (fault : HeaderFault)
  | badEnd
  /-- The connection ends outside of the octets of a chunk. -/
  | cutShort
  deriving DecidableEq, Repr

/-- A fault in the chunks of a body, in words. -/
def ChunkFault.message : ChunkFault → String
  | .sizeMissing => "Invalid chunk size line: missing size digit"
  | .badSize => "Invalid chunk size line: Invalid Size"
  | .badSizeBlank => "Invalid chunk size linear white space"
  | .badSizeEnd => "Invalid chunk size LF"
  | .sizeTooLarge => "invalid chunk size: overflow"
  | .lineInExtension => "invalid chunk extension contains newline"
  | .extensionsTooLong => "chunk extensions over limit"
  | .badBodyReturn => "Invalid chunk body CR"
  | .badBodyEnd => "Invalid chunk body LF"
  | .badTrailerEnd => "Invalid trailer end LF"
  | .trailersTooLong => "chunk trailers bytes over limit"
  | .tooManyTrailers => "chunk trailers count overflow"
  | .badTrailer fault => fault.message
  | .badEnd => "Invalid chunk end LF"
  | .cutShort => "unexpected EOF during chunk size line"

/-- Why a body does not arrive as a whole. -/
inductive BodyFault where
  /-- The connection ends before the announced length. -/
  | cutShort
  | badChunk (fault : ChunkFault)
  /-- The rest does not come before the time is up. -/
  | timedOut
  deriving DecidableEq, Repr

/-- A fault in a body, in words, from the outermost cause inwards. -/
def BodyFault.messages : BodyFault → List String
  | .cutShort => [reading, "end of file before message length reached"]
  | .badChunk fault => [reading, fault.message]
  | .timedOut => ["operation timed out"]
where
  reading : String := "error reading a body from connection"

/-- Why the head of a reply is refused. -/
inductive ReplyFault where
  | badVersion
  | badStatus
  | badHeader
  | badLength
  /-- A reply of the old version that claims an encoding. -/
  | unexpectedEncoding
  | headTooLarge
  deriving DecidableEq, Repr

/-- A fault in the head of a reply, in words. -/
def ReplyFault.message : ReplyFault → String
  | .badVersion => "invalid HTTP version parsed"
  | .badStatus => "invalid HTTP status-code parsed"
  | .badHeader => "invalid HTTP header parsed"
  | .badLength => "invalid content-length parsed"
  | .unexpectedEncoding => "unexpected transfer-encoding parsed"
  | .headTooLarge => "message head is too large"

end PulseBridge.Http
