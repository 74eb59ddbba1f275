import Econet.Piconet.Frame

/-!
# Lines from the serial adapter

Besides packets the adapter reports its status, errors, traffic that it monitors, and how a
transmission ended.

## Main definitions

* `TxResult`: how a transmission ended, with its code
* `Line`, `Line.parse`: a line, sorted by its first word
-/

namespace Econet.Piconet

open Text (isBlank trim splitOnce)

/-- How a transmission ended. -/
inductive TxResult where
  | ok
  | uninitialised
  | overflow
  | underrun
  | lineJammed
  | noScoutAck
  | noDataAck
  | timeout
  | misc
  | unexpected
  deriving DecidableEq, Repr

namespace TxResult

/-- All results. -/
def all : List TxResult :=
  [ok, uninitialised, overflow, underrun, lineJammed, noScoutAck, noDataAck, timeout, misc,
    unexpected]

/-- The code of a result. -/
def code : TxResult → String
  | ok => "OK"
  | uninitialised => "UNINITIALISED"
  | overflow => "OVERFLOW"
  | underrun => "UNDERRUN"
  | lineJammed => "LINE_JAMMED"
  | noScoutAck => "NO_SCOUT_ACK"
  | noDataAck => "NO_DATA_ACK"
  | timeout => "TIMEOUT"
  | misc => "MISC"
  | unexpected => "UNEXPECTED"

/-- The transmission succeeded. -/
def isOk (r : TxResult) : Bool := r = ok

/-- The result that a code denotes. -/
def parse (cs : List Char) : Except FrameError TxResult :=
  match all.find? (·.code.toList = cs) with
  | some r => .ok r
  | none => .error (.malformed (.unknownResult (String.ofList cs)))

end TxResult

/-- A line from the adapter. -/
inductive Line where
  | status (text : String)
  | error (text : String)
  | monitor (text : String)
  | result (r : TxResult)
  | packet (frame : Frame)
  | unknown (text : String)
  deriving DecidableEq, Repr

namespace Line

/-- The first word of a line and what follows it, outer blanks aside. -/
def split (line : List Char) : List Char × List Char :=
  match splitOnce isBlank line with
  | some (word, rest) => (word, trim rest)
  | none => (line, [])

/-- The line that a text denotes. -/
def parse (text : List Char) : Except FrameError Line :=
  let line := trim text
  let (word, rest) := split line
  if word = "STATUS".toList then .ok (.status (String.ofList rest))
  else if word = "ERROR".toList then .ok (.error (String.ofList rest))
  else if word = "MONITOR".toList then .ok (.monitor (String.ofList rest))
  else if word = "TX_RESULT".toList then (TxResult.parse rest).map .result
  else if (Kind.ofWord? word).isSome then (Frame.decode line).map .packet
  else .ok (.unknown (String.ofList line))

end Line

end Econet.Piconet
