import WorkQueue.Width
import WorkQueue.Text.Blank
import WorkQueue.Text.Digits
import WorkQueue.Text.Percent
import WorkQueue.Text.Quoted
import WorkQueue.Text.Utf8
import WorkQueue.Time.Reader
import WorkQueue.Time.Written
import WorkQueue.Json.Reader
import WorkQueue.Json.Printer
import WorkQueue.Json.Record
import WorkQueue.State
import WorkQueue.QueueName
import WorkQueue.Wire.Records
import WorkQueue.Wire.Request
import WorkQueue.Store.Statement
import WorkQueue.LockTable
import WorkQueue.Journal.Text
import WorkQueue.Service
import WorkQueue.Location.Opening
import WorkQueue.Location.Text
import WorkQueue.CommandLine.Run
import WorkQueue.Wire.Snapshot
import WorkQueue.Main
import WorkQueue.Proofs.Run.Moves
import WorkQueue.Proofs.Run.Changes
import WorkQueue.Proofs.Work.Effects
import WorkQueue.Proofs.Broker.Storage
import WorkQueue.Proofs.Run.Outcomes
import WorkQueue.Proofs.Run.Admission
import WorkQueue.Proofs.Store.Numbers
import WorkQueue.Proofs.Store.Fates
import WorkQueue.Proofs.Store.Coupling
import WorkQueue.Proofs.Delivery.Tally
import WorkQueue.Proofs.Delivery.Accounting
import WorkQueue.Proofs.Run.Calls
import WorkQueue.Proofs.Visibility.Barrier
import WorkQueue.Proofs.Visibility.Takers
import WorkQueue.Proofs.Time.DateOrder
import WorkQueue.Proofs.Time.StoredOrder
import WorkQueue.Proofs.Sweep.Expired
import WorkQueue.Proofs.Sweep.LazyExpiry
import WorkQueue.Proofs.Sweep.Settled
import WorkQueue.Proofs.Sweep.Restart
import WorkQueue.Proofs.Locks.Line
import WorkQueue.Proofs.Locks.Turns
import WorkQueue.Proofs.Interleaving.Traffic
import WorkQueue.Proofs.Interleaving.Exclusion
import WorkQueue.Proofs.Interleaving.Completion
import WorkQueue.Proofs.Delivery.Ranking
import WorkQueue.Proofs.Interleaving.Shares
import WorkQueue.Proofs.Store.Chronology
import WorkQueue.Proofs.Delivery.Draining
import WorkQueue.Proofs.Run.Clock
import WorkQueue.Proofs.Lifetime.Finality
import WorkQueue.Proofs.Lifetime.Passing
import WorkQueue.Proofs.Lifetime.Endings
import WorkQueue.Proofs.Lifetime.Failures
import WorkQueue.Proofs.Ledger.Deposits
import WorkQueue.Proofs.Ledger.Conservation
import WorkQueue.Proofs.Sending.Outcomes
import WorkQueue.Proofs.Sending.Leftovers
import WorkQueue.Proofs.Time.Minutes
import WorkQueue.Proofs.Delivery.Content
import WorkQueue.Proofs.Lifetime.Minutes
import WorkQueue.Proofs.Sweep.Rows
import WorkQueue.Proofs.Sweep.Frequency
import WorkQueue.Proofs.Sweep.Exactness
import WorkQueue.Proofs.Queues.Addresses
import WorkQueue.Proofs.Lifetime.Independence
import WorkQueue.Proofs.Queues.Names
import WorkQueue.Proofs.Queues.Identity
import WorkQueue.Proofs.Statements.Scripts
import WorkQueue.Proofs.Statements.Moves
import WorkQueue.Proofs.Statements.Schema
import WorkQueue.Proofs.Statements.Success
import WorkQueue.Proofs.Statements.Columns
import WorkQueue.Proofs.Statements.Answers
import WorkQueue.Proofs.Statements.Writes
import WorkQueue.Proofs.Journal.Books
import WorkQueue.Proofs.Journal.Calls
import WorkQueue.Proofs.Journal.Activities
import WorkQueue.Proofs.Journal.SweepRows
import WorkQueue.Proofs.Json.Literals
import WorkQueue.Proofs.Json.Values
import WorkQueue.Proofs.Time.ReadBack
import WorkQueue.Proofs.Json.Records
import WorkQueue.Proofs.Wire.RoundTrip
import WorkQueue.Proofs.Queues.Neighbours
import WorkQueue.Proofs.CommandLine.Scripts
import WorkQueue.Proofs.CommandLine.QueueCommands
import WorkQueue.Proofs.CommandLine.Addressing
import WorkQueue.Proofs.CommandLine.Receiving
import WorkQueue.Proofs.Queues.Counting
import WorkQueue.Proofs.Locks.Size
import WorkQueue.Proofs.Run.Parts
import WorkQueue.Proofs.Run.Operations
import WorkQueue.Proofs.Locks.Uses
import WorkQueue.Proofs.Settings.Acceptance
import WorkQueue.Proofs.Wire.Requests
import WorkQueue.Proofs.Text.ByteOrder
import WorkQueue.Proofs.Time.StoredForm
import WorkQueue.Proofs.Statements.TimeOrder
