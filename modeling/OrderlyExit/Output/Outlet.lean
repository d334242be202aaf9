import OrderlyExit.Marker
import OrderlyExit.Output.Sink

/-!
The outlet of a program: a sink together with what went through it. Bytes that the sink has taken are
pending until a flush succeeds; then they make up one entry, stamped with the time of the flush.

`emit` writes a marker as one line, in a few pieces, and flushes it. The first call that fails ends it.
-/

namespace OrderlyExit

/-- What one flush let out, and when, in milliseconds. -/
structure Flushed where
  time : Nat
  bytes : List UInt8
  deriving DecidableEq, Repr

/-- One call on a sink. -/
inductive SinkCall
  | write (offered : List UInt8) (reply : Reply)
  | flush (failure : Option IoError)
  deriving DecidableEq, Repr

/-- A sink's state and the history of what it took. -/
structure Outlet (σ : Type u) where
  state : σ
  pending : List UInt8 := []
  flushed : List Flushed := []
  /-- Every call made so far, in order. -/
  calls : List SinkCall := []

namespace Outlet

variable {σ : Type u}

/-- Everything the sink has taken, in order. -/
def accepted (o : Outlet σ) : List UInt8 := o.flushed.flatMap (·.bytes) ++ o.pending

/-- The outlet after a write call that took `taken`. -/
def wrote (o : Outlet σ) (offered : List UInt8) (reply : Reply) (next : σ) (taken : List UInt8) : Outlet σ :=
  { o with
    state := next
    pending := o.pending ++ taken
    calls := o.calls ++ [.write offered reply] }

/-- Offers the bytes until all are taken: an interrupted call is made again, a call that takes nothing
is a failure. -/
def writeAll (sink : Sink σ) (o : Outlet σ) (bytes : List UInt8) : Except IoError Unit × Outlet σ :=
  match bytes with
  | [] => (.ok (), o)
  | b :: rest =>
    match h : sink.write o.state (b :: rest) with
    | (.interrupted, s) => writeAll sink (o.wrote (b :: rest) .interrupted s []) (b :: rest)
    | (.failed e, s) => (.error e, o.wrote (b :: rest) (.failed e) s [])
    | (.accepted 0, s) => (.error .wroteNothing, o.wrote (b :: rest) (.accepted 0) s [])
    | (.accepted (n + 1), s) =>
      writeAll sink (o.wrote (b :: rest) (.accepted (n + 1)) s ((b :: rest).take (n + 1))) (rest.drop n)
termination_by (bytes.length, sink.patience o.state bytes)
decreasing_by
  · have := sink.patience_lt o.state (b :: rest) (by rw [h])
    rw [h] at this
    exact Prod.Lex.right _ this
  · refine Prod.Lex.left _ _ ?_
    simp only [List.length_drop, List.length_cons]
    omega

/-- Writes one piece after another, up to the first that fails. -/
def writeEach (sink : Sink σ) (o : Outlet σ) : List (List UInt8) → Except IoError Unit × Outlet σ
  | [] => (.ok (), o)
  | piece :: pieces =>
    match o.writeAll sink piece with
    | (.ok (), o') => o'.writeEach sink pieces
    | (.error e, o') => (.error e, o')

/-- Lets the pending bytes out as one entry. -/
def flush (sink : Sink σ) (clock : Nat) (o : Outlet σ) : Except IoError Unit × Outlet σ :=
  match sink.flush o.state with
  | (some e, s) => (.error e, { o with state := s, calls := o.calls ++ [.flush (some e)] })
  | (none, s) =>
    (.ok (), { o with
      state := s
      pending := []
      flushed := o.flushed ++ [⟨clock, o.pending⟩]
      calls := o.calls ++ [.flush none] })

/-- Writes a marker on a line of its own, piece by piece, and flushes it. -/
def emit (sink : Sink σ) (clock : Nat) (o : Outlet σ) (m : Marker) : Except IoError Unit × Outlet σ :=
  match o.writeEach sink (m.pieces.map Utf8.encode) with
  | (.ok (), o') => o'.flush sink clock
  | (.error e, o') => (.error e, o')

end Outlet

end OrderlyExit
