/-!
# Links

The way out to one connection: a queue of texts, of limited length, which the far end reads.
The queue never waits; a text for which there is no room is refused.

## Main definitions

* `Link`: the queue and the state of both ends
* `Link.send`, `Link.receive`: the two ends of the queue
* `Link.Change`, `Link.change`: what happens to a link besides that texts are sent

## Main results

* `Link.send_eq_ok_iff`: when a text is taken, and what the link is then
-/

namespace Econet

/-- Why a link refuses a text. -/
inductive LinkError where
  /-- The connection has ended on this side. -/
  | closed
  | full
  /-- The far end reads no more. -/
  | abandoned
  deriving DecidableEq, Repr

/-- The wording of an error. -/
def LinkError.message : LinkError → String
  | closed => "Connection closed"
  | full => "Send queue full"
  | abandoned => "Send channel closed"

/-- The way out to one connection. -/
structure Link where
  /-- How many texts may be unread. -/
  capacity : Nat
  /-- The unread texts, oldest first. -/
  queue : List String
  /-- The connection has not ended on this side. -/
  isOpen : Bool
  /-- The far end still reads. -/
  isRead : Bool
  /-- How many texts were taken so far. A counter of 64 bits would last as long as any link, so this
  one has no bound. -/
  sent : Nat
  deriving DecidableEq, Repr

namespace Link

def ofCapacity (capacity : Nat) : Link := ⟨capacity, [], true, true, 0⟩

/-- Texts that are sent now can be read. -/
def isConnected (l : Link) : Bool := l.isOpen && l.isRead

def push (l : Link) (text : String) : Link :=
  { l with queue := l.queue ++ [text], sent := l.sent + 1 }

/-- The link after a text is sent. -/
def send (l : Link) (text : String) : Except LinkError Link :=
  if !l.isOpen then .error .closed
  else if !l.isRead then .error .abandoned
  else if l.capacity ≤ l.queue.length then .error .full
  else .ok (l.push text)

/-! ### What is not sent -/

/-- The oldest unread text, and the link after it is read. -/
def receive (l : Link) : Option String × Link := (l.queue.head?, { l with queue := l.queue.tail })

def readAll (l : Link) : Link := { l with queue := [] }

def close (l : Link) : Link := { l with isOpen := false }

def abandon (l : Link) : Link := { l with isRead := false, queue := [] }

/-- What happens to a link besides that texts are sent. -/
inductive Change where
  /-- The far end reads the oldest text. -/
  | receive
  /-- The far end reads all that it has not read. -/
  | readAll
  /-- The connection ends on this side. -/
  | close
  /-- The far end stops reading; what it has not read is lost. -/
  | abandon
  deriving DecidableEq, Repr

def change (l : Link) : Change → Link
  | .receive => l.receive.2
  | .readAll => l.readAll
  | .close => l.close
  | .abandon => l.abandon

/-! ### Small facts -/

theorem send_eq_ok_iff (l m : Link) (text : String) :
    l.send text = .ok m ↔
      l.isOpen = true ∧ l.isRead = true ∧ l.queue.length < l.capacity ∧ m = l.push text := by
  unfold send
  grind

end Link

end Econet
