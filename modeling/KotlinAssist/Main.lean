import KotlinAssist.Server.Envelope

/-!
# The server on standard input and output

Each message is preceded by a header that gives its length in bytes.  The server reads messages
until the client leaves or the input ends.
-/

namespace KotlinAssist.Main

/-- The length that a line of a header gives. -/
def contentLength? (line : String) : Option Nat :=
  (Text.stripFront? "Content-Length:".toList line.toList).bind fun rest =>
    (rest.filter Char.isDigit |> String.ofList).toNat?

/-- Reads a header up to its empty line.  Nothing is returned when the input ends. -/
partial def readHeader (input : IO.FS.Stream) (length : Nat) : IO (Option Nat) := do
  let line ← input.getLine
  if line.isEmpty then return none
  if line == "\r\n" || line == "\n" then return some length
  readHeader input ((contentLength? line).getD length)

/-- Reads a number of bytes, or as many as there are. -/
partial def readBytes (input : IO.FS.Stream) (count : Nat) (read : ByteArray) : IO ByteArray := do
  if count ≤ read.size then return read
  let more ← input.read (count - read.size).toUSize
  if more.isEmpty then return read
  readBytes input count (read ++ more)

/-- Writes a message with its header. -/
def write (output : IO.FS.Stream) (text : String) : IO Unit := do
  output.putStr s!"Content-Length: {text.utf8ByteSize}\r\n\r\n{text}"
  output.flush

/-- Serves a client until it leaves. -/
partial def serve (input output : IO.FS.Stream) (session : Session) : IO Unit := do
  let some length ← readHeader input 0 | return
  let bytes ← readBytes input length ByteArray.empty
  let (session, sent) := session.receiveText ((String.fromUTF8? bytes).getD "")
  sent.forM (write output)
  if session.phase == .exited then return
  serve input output session

end KotlinAssist.Main

/-- Runs the server. -/
def main : IO Unit := do
  KotlinAssist.Main.serve (← IO.getStdin) (← IO.getStdout) {}
