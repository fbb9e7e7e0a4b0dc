import GelClient.BigEndian
import GelClient.Connection.Error

/-!
# Sockets

A socket as its user sees it: what each attempt to read and each attempt to write will come to,
and the bytes that were accepted so far. Reads and writes may come to a part of what was asked
for, to nothing yet, or to an error. What was accepted may still be held back until the socket
is flushed itself, which may come to nothing yet or to an error as well. Behind its schedule of
reads a socket is at the end of the stream or silent for ever, behind its schedule of writes it
takes everything, and behind that of its flushes it holds nothing back.

Something can be done in two ways: patiently, going on when nothing happens yet, or once, coming
back with `Poll.pending`.
-/

namespace GelClient

/-- A result, unless there is none yet. -/
inductive Poll (α : Type) where
  | ready (a : α)
  | pending
  deriving DecidableEq, Repr

/-- What an attempt to read comes to. -/
inductive ReadOutcome where
  /-- Some bytes; none at all are the end of the stream. -/
  | data (bytes : Bytes)
  | pending
  | failed (e : IoError)
  deriving DecidableEq, Repr

/-- What an attempt to write comes to. -/
inductive WriteOutcome where
  /-- At most the given number of bytes was accepted. -/
  | accepted (count : Nat)
  | pending
  | failed (e : IoError)
  deriving DecidableEq, Repr

/-- What an attempt to flush the socket itself comes to. -/
inductive FlushOutcome where
  | done
  | pending
  | failed (e : IoError)
  deriving DecidableEq, Repr

/-- What follows the schedule of reads. -/
inductive StreamEnd where
  | closed
  | silent
  deriving DecidableEq, Repr

/-- A socket. -/
structure Socket where
  reads : List ReadOutcome
  ending : StreamEnd := .closed
  writes : List WriteOutcome := []
  flushes : List FlushOutcome := []
  /-- The bytes that were accepted. -/
  sent : Bytes := []
  deriving DecidableEq, Repr

namespace Socket

/-- A socket that delivers some bytes at once and then ends. -/
def ofBytes (bytes : Bytes) : Socket :=
  { reads := [.data bytes] }

/-- A socket on which nothing ever arrives. -/
def mute : Socket :=
  { reads := [], ending := .silent }

/-- What came of writing a buffer. -/
structure Written where
  result : Poll (Except IoError Unit)
  accepted : Bytes
  rest : Bytes
  writes : List WriteOutcome

/-- More bytes in front of those that were accepted. -/
def Written.behind (front : Bytes) (w : Written) : Written :=
  { w with accepted := front ++ w.accepted }

/-- Writes a buffer, patiently or until nothing happens. -/
def writeAll (patient : Bool) (buffer : Bytes) : List WriteOutcome → Written
  | [] => ⟨.ready (.ok ()), buffer, [], []⟩
  | outcome :: writes =>
    if buffer.isEmpty then ⟨.ready (.ok ()), [], [], outcome :: writes⟩
    else
      match outcome with
      | .accepted 0 => ⟨.ready (.error .writeZero), [], buffer, writes⟩
      | .accepted count =>
        (writeAll patient (buffer.drop count) writes).behind (buffer.take count)
      | .pending =>
        if patient then writeAll patient buffer writes else ⟨.pending, [], buffer, writes⟩
      | .failed e => ⟨.ready (.error e), [], buffer, writes⟩

/-- Flushes the socket itself, patiently or until nothing happens, and gives what is left of the
schedule. -/
def settle (patient : Bool) : List FlushOutcome → Poll (Except IoError Unit) × List FlushOutcome
  | [] => (.ready (.ok ()), [])
  | .done :: flushes => (.ready (.ok ()), flushes)
  | .pending :: flushes => if patient then settle patient flushes else (.pending, flushes)
  | .failed e :: flushes => (.ready (.error e), flushes)

/-- Nothing is lost and nothing is written twice: what was accepted and what is left are the
buffer. -/
theorem writeAll_append (patient : Bool) (buffer : Bytes) (writes : List WriteOutcome) :
    (writeAll patient buffer writes).accepted ++ (writeAll patient buffer writes).rest
      = buffer := by
  induction writes generalizing buffer with
  | nil => simp [writeAll]
  | cons outcome writes ih =>
    unfold writeAll
    split
    · simp_all
    · split
      · simp
      · simp [Written.behind, List.append_assoc, ih]
      · split
        · exact ih buffer
        · simp
      · simp

end Socket

end GelClient
