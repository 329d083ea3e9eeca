import RingBus.Config.Basic
import RingBus.Config.Field
import RingBus.Config.File
import RingBus.Decimal.Reading
import RingBus.Decimal.Shortest
import RingBus.Discovery.Client
import RingBus.Discovery.Daemon
import RingBus.Discovery.Datagram
import RingBus.Discovery.Error
import RingBus.Discovery.Message
import RingBus.Discovery.Registry
import RingBus.Duration
import RingBus.Endpoint
import RingBus.FieldError
import RingBus.Host.Basic
import RingBus.Host.Catalog
import RingBus.Host.Errno
import RingBus.Host.Files
import RingBus.Host.Memory
import RingBus.Host.Shared
import RingBus.Interchange
import RingBus.Main
import RingBus.Path
import RingBus.Program.Alone
import RingBus.Program.Arguments
import RingBus.Program.Consume
import RingBus.Program.Exit
import RingBus.Program.Inspect
import RingBus.Program.Process
import RingBus.Program.Produce
import RingBus.Program.Validate
import RingBus.RetryPolicy
import RingBus.Ring.Basic
import RingBus.Ring.Error
import RingBus.Ring.Geometry
import RingBus.Ring.Header
import RingBus.Ring.Transfer
import RingBus.RingName
import RingBus.Scenario.Answer
import RingBus.Scenario.Discovery
import RingBus.Scenario.Files
import RingBus.Scenario.Labels
import RingBus.Scenario.Processes
import RingBus.Scenario.Rings
import RingBus.Scenario.Segments
import RingBus.Scenario.Semaphores
import RingBus.Scenario.Sockets
import RingBus.Scenario.Step
import RingBus.Scenario.World
import RingBus.Segment
import RingBus.Semaphore.Basic
import RingBus.Semaphore.Name
import RingBus.Semaphore.Triplet
import RingBus.ServiceKey
import RingBus.Text.Blank
import RingBus.Text.Lossy
import RingBus.Text.Printable
import RingBus.Text.Quoted
import RingBus.Text.Record
import RingBus.Yaml.Cursor
import RingBus.Yaml.Document
import RingBus.Yaml.Fault
import RingBus.Yaml.Node
import RingBus.Yaml.Place
import RingBus.Yaml.Readable
import RingBus.Yaml.Schema
import RingBus.Yaml.Token
import RingBus.Yaml.Token.Property
import RingBus.Yaml.Token.Reader
import RingBus.Yaml.Token.Scalar
import RingBus.Proofs.Names
import RingBus.Proofs.Semaphores
import RingBus.Proofs.Memory
import RingBus.Proofs.Ring.Slots
import RingBus.Proofs.Kernel
import RingBus.Proofs.Ring.Handle
import RingBus.Proofs.Ring.Transfer
import RingBus.Proofs.Ring.Opening
import RingBus.Proofs.Ring.Atomicity
import RingBus.Proofs.Ring.Confinement
import RingBus.Proofs.Ring.Queue
import RingBus.Proofs.Ring.Session
import RingBus.Proofs.Ring.Fifo
import RingBus.Proofs.Ring.Estate
import RingBus.Proofs.Ring.Coherence
import RingBus.Proofs.Ring.Generations
import RingBus.Proofs.Triplets
import RingBus.Proofs.Ring.Creation
import RingBus.Proofs.Discovery.Listing
import RingBus.Proofs.Discovery.Actions
import RingBus.Proofs.Discovery.Tally
import RingBus.Proofs.Discovery.Acquaintance
import RingBus.Proofs.Discovery.History
import RingBus.Proofs.Discovery.Words
import RingBus.Proofs.Discovery.RoundTrip
import RingBus.Proofs.Discovery.Grammar
import RingBus.Proofs.Discovery.Advertising
import RingBus.Proofs.Places
import RingBus.Proofs.Sockets
import RingBus.Proofs.Discovery.Tenancy
import RingBus.Proofs.Discovery.Requests
import RingBus.Proofs.Discovery.Agreement
import RingBus.Proofs.Discovery.Isolation
import RingBus.Proofs.Discovery.Introductions
import RingBus.Proofs.Discovery.Eviction
import RingBus.Proofs.Discovery.Quiescence
import RingBus.Proofs.Program.Writing
import RingBus.Proofs.Program.Accounts
import RingBus.Proofs.Program.Consuming
import RingBus.Proofs.Discovery.Presence
import RingBus.Proofs.Ring.Surroundings
import RingBus.Proofs.Program.Producing
import RingBus.Proofs.Program.Traceless
import RingBus.Proofs.SemaphoreNames
import RingBus.Proofs.DerivedNames
import RingBus.Proofs.Discovery.Hearing
import RingBus.Proofs.Config.Loading
import RingBus.Proofs.Durations
import RingBus.Proofs.Schedules
import RingBus.Proofs.Retrying
