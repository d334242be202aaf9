/-
A program that ends in an orderly way, and an observer that judges whether it does; `OrderlyExit.Proofs`
holds the theory of both.

`Host`, `Tool` and `Shell`, but for `Shell.Token`, only simulate a host on which the programs can be run.
No theorem reaches them, so they are no part of what is verified; nor are the command line and the choice
of what is logged: `Main`, `CommandLine.WorkerOptions` and `LogFilter`.
-/
import OrderlyExit.Main
import OrderlyExit.Settings.Written
import OrderlyExit.Proofs.Sequence.Acceptance
import OrderlyExit.Proofs.Sequence.Deviation
import OrderlyExit.Proofs.Sequence.Extension
import OrderlyExit.Proofs.Worker.Truncation
import OrderlyExit.Proofs.Marker.Classification
import OrderlyExit.Proofs.Output.RoundTrip
import OrderlyExit.Proofs.Worker.Listener
import OrderlyExit.Proofs.Worker.Signals
import OrderlyExit.Proofs.Launch.Tokens
import OrderlyExit.Proofs.Launch.Command
import OrderlyExit.Proofs.Settings.Document
import OrderlyExit.Proofs.Settings.Valid
import OrderlyExit.Proofs.Worker.Fault
import OrderlyExit.Proofs.Observer.Reading
import OrderlyExit.Proofs.Observer.Ending
import OrderlyExit.Proofs.Observer.Calls
import OrderlyExit.Proofs.Observer.Cover
import OrderlyExit.Proofs.Observer.Record
import OrderlyExit.Proofs.Observer.Delivery
import OrderlyExit.Proofs.Observer.Announcement
import OrderlyExit.Proofs.Probe.Verdict
import OrderlyExit.Proofs.Output.Conservation
import OrderlyExit.Proofs.Output.Pace
import OrderlyExit.Proofs.Marker.Normal
import OrderlyExit.Proofs.Capture.Segments
import OrderlyExit.Proofs.Observer.Stream
import OrderlyExit.Proofs.Marker.Bytes
import OrderlyExit.Proofs.Observer.Marks
import OrderlyExit.Proofs.Worker.Receiving
import OrderlyExit.Proofs.Observer.Search
import OrderlyExit.Proofs.Observer.Outcome
import OrderlyExit.Proofs.Worker.Rounds
import OrderlyExit.Proofs.Observer.Rendering
import OrderlyExit.Proofs.Observer.Overflow
import OrderlyExit.Proofs.Settings.Written
import OrderlyExit.Proofs.Signal.Spelling
import OrderlyExit.Proofs.Settings.Problems
import OrderlyExit.Proofs.Outcome.Decoding
import OrderlyExit.Proofs.Probe.Printed
