import VantageNet.Interaction.Program
import VantageNet.Interaction.Ensures
import VantageNet.Interaction.Table
import VantageNet.Interaction.Collections
import VantageNet.Interaction.Registry
import VantageNet.Interaction.Mirror
import VantageNet.Interaction.Monitor
import VantageNet.Interaction.Pool
import VantageNet.Interaction.Tracking
import VantageNet.Interaction.Upserts
import VantageNet.Interaction.Ledger
import VantageNet.Interaction.Reservation
import VantageNet.Interaction.LockOrder
import VantageNet.Discovery.Types
import VantageNet.Discovery.Store
import VantageNet.Discovery.Sessions
import VantageNet.Discovery.Effects
import VantageNet.Discovery.UpdateEffects
import VantageNet.Discovery.CleanupEffects
import VantageNet.Discovery.Calls
import VantageNet.Discovery.SessionStore
import VantageNet.Discovery.History
import VantageNet.Discovery.Handover
import VantageNet.Discovery.Dispatch
import VantageNet.Discovery.LockDiscipline
import VantageNet.Discovery.Outstanding
import VantageNet.Discovery.Locking
import VantageNet.Discovery.Handlers
import VantageNet.Discovery.WorkOrder
import VantageNet.Discovery.PullMode
import VantageNet.Discovery.Isolation
import VantageNet.Discovery.Schedule
import VantageNet.Discovery.ScheduleEffects
import VantageNet.Discovery.Scheduler
import VantageNet.Discovery.Firing
import VantageNet.Inventory.Types
import VantageNet.Inventory.Database
import VantageNet.Inventory.Bindings
import VantageNet.Inventory.Canonical
import VantageNet.Inventory.Services
import VantageNet.Inventory.Hosts
import VantageNet.Inventory.Requests
import VantageNet.Inventory.Effects
import VantageNet.Inventory.Saving
import VantageNet.Inventory.Storing
import VantageNet.Inventory.Placing
import VantageNet.Inventory.Upkeep
import VantageNet.Inventory.Exclusivity
import VantageNet.Inventory.Merging
import VantageNet.Inventory.Rediscovery
import VantageNet.Inventory.Tenancy
import VantageNet.Inventory.Addressing
import VantageNet.Inventory.Atomicity
import VantageNet.Inventory.Claiming
import VantageNet.Inventory.Recognition
import VantageNet.Events.Types
import VantageNet.Events.Bus
import VantageNet.Events.Batches
import VantageNet.Events.Delivery
import VantageNet.Inventory.Versions
import VantageNet.Inventory.Consolidation
import VantageNet.Inventory.Updating
import VantageNet.Inventory.Relocating
import VantageNet.Inventory.Consolidated
import VantageNet.Inventory.Entering
import VantageNet.Inventory.Requested
import VantageNet.Inventory.Asked
import VantageNet.Inventory.Positions
import VantageNet.Inventory.Syncing
import VantageNet.Inventory.Settled
import VantageNet.Inventory.Editing
import VantageNet.Inventory.Members
import VantageNet.Inventory.Superseding
import VantageNet.Storage.Filtering
import VantageNet.Accounts.Database
import VantageNet.Accounts.Users
import VantageNet.Accounts.Owners
import VantageNet.Accounts.Admission
import VantageNet.Accounts.Escalation
import VantageNet.Accounts.Invites
import VantageNet.Topologies.Subscriber
import VantageNet.Topologies.Batching
import VantageNet.Topologies.Handlers
import VantageNet.Topologies.Confinement
import VantageNet.Topologies.Locking
import VantageNet.Interaction.Embedding
import VantageNet.Daemons.Registration
import VantageNet.Daemons.Networks
import VantageNet.Daemons.Straying
import VantageNet.Handlers.Queries
import VantageNet.Handlers.Crud
import VantageNet.Handlers.Tenants
import VantageNet.Interaction.Window
import VantageNet.Scanning.Concurrency
import VantageNet.Scanning.NetworkScan
import VantageNet.Scanning.Runs
import VantageNet.Shares.Handlers
import VantageNet.Shares.Sharing
import VantageNet.Interaction.Strict
import VantageNet.Scanning.Sessions
import VantageNet.Scanning.Endings
import VantageNet.Scanning.Budget
import VantageNet.Scanning.HostScan
import VantageNet.Scanning.Paths
import VantageNet.Scanning.Reporting
import VantageNet.Scanning.Cancelling
import VantageNet.Accounts.Lockout
import VantageNet.Scanning.OneAtATime
import VantageNet.ApiKeys.Keys
import VantageNet.ApiKeys.Requests
import VantageNet.ApiKeys.Revocation
import VantageNet.ApiKeys.Requesting
import VantageNet.ApiKeys.Outranking
import VantageNet.Subnets.Creating
import VantageNet.Subnets.OwnInterfaces
import VantageNet.Graph.Compression
import VantageNet.Graph.Separation
import VantageNet.Graph.Rebuild
import VantageNet.Graph.Outline
import VantageNet.Graph.Staleness
import VantageNet.Services.Accounting
import VantageNet.Services.Reach
import VantageNet.Services.Evaluation
import VantageNet.Inventory.Children
import VantageNet.Inventory.Covering
import VantageNet.Inventory.Identity
import VantageNet.Inventory.Availability
import VantageNet.Interfaces.Within
import VantageNet.Billing.Deliveries
import VantageNet.Daemons.Retrying
import VantageNet.Geometry.Segments
import VantageNet.Graph.Crossings
import VantageNet.Inventory.Numbering
import VantageNet.Inventory.Reordering
import VantageNet.Inventory.Listing
import VantageNet.Scanning.Batching
import VantageNet.Containers.Ports
import VantageNet.Containers.Bridge
import VantageNet.Containers.Payload
import VantageNet.Graph.Anchors
import VantageNet.Graph.Diagram
import VantageNet.Sql.Statements
import VantageNet.Storage.Generic
import VantageNet.Storage.Statements
import VantageNet.Inventory.PortTypes
import VantageNet.Storage.Entities
import VantageNet.Storage.Refinement
import VantageNet.Accounts.Resetting
import VantageNet.Accounts.Redemption
