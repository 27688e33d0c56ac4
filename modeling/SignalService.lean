import SignalService.Effect.Prog
import SignalService.Effect.Pool
import SignalService.Effect.Runs
import SignalService.Effect.Worlds
import SignalService.Effect.Buffer
import SignalService.Effect.Mirror
import SignalService.Effect.Mutexes
import SignalService.Effect.Lockers
import SignalService.Repair.Rounds
import SignalService.Revision.Register
import SignalService.Revision.Spaced
import SignalService.Delivery.Inbox
import SignalService.Codec.Frames
import SignalService.Codec.Utf8
import SignalService.Codec.Base64
import SignalService.Core
import SignalService.Proto
import SignalService.Content
import SignalService.Externals
import SignalService.Reference
import SignalService.Requests
import SignalService.Responses
import SignalService.Cipher.Padding
import SignalService.Cipher.Decrypt
import SignalService.Cipher.Encrypt
import SignalService.Cipher.Routes
import SignalService.Cipher.Spec
import SignalService.Cipher.Plaintext
import SignalService.Cipher.Admission
import SignalService.Cipher.Rejection
import SignalService.Cipher.SealedSender
import SignalService.Cipher.Agreement
import SignalService.Cipher.SideCar
import SignalService.WebSocket.Worker
import SignalService.WebSocket.InFlight
import SignalService.WebSocket.Pipe
import SignalService.WebSocket.Stream
import SignalService.WebSocket.Answers
import SignalService.WebSocket.Mailbox
import SignalService.WebSocket.Redelivery
import SignalService.WebSocket.Progress
import SignalService.Sender.Send
import SignalService.Sender.Batches
import SignalService.Sender.Attempts
import SignalService.Sender.Group
import SignalService.Sender.Transcript
import SignalService.Sender.Coverage
import SignalService.Sender.Provenance
import SignalService.Sender.Delivery
import SignalService.Sender.Service
import SignalService.Sender.Convergence
import SignalService.AccountManager
import SignalService.PniDistribution
import SignalService.Sessions.Locking
import SignalService.Sessions.Interleaving
import SignalService.Sessions.SenderKeys
import SignalService.Sessions.Guards
import SignalService.Attachments.Http
import SignalService.Attachments.Cdn
import SignalService.Attachments.Resume
import SignalService.Attachments.Cipher
import SignalService.Attachments.Upload
import SignalService.Attachments.Contacts
import SignalService.Attachments.Retrieval
import SignalService.PushService
import SignalService.StorageService
import SignalService.StorageService.Client
import SignalService.StorageService.Account
import SignalService.StorageService.Refinement
import SignalService.StorageService.Devices
import SignalService.Groups.Model
import SignalService.Groups.Operations
import SignalService.Groups.RoundTrip
import SignalService.Groups.Context
import SignalService.Groups.Entries
import SignalService.Groups.Creation
import SignalService.Groups.Manager
import SignalService.Groups.Credentials
import SignalService.Groups.Server
import SignalService.Groups.Members
import SignalService.Profile
import SignalService.UsernameLink
import SignalService.PreKeys
import SignalService.KeyRefresh
import SignalService.PreKeys.Vault
import SignalService.PreKeys.Availability
import SignalService.Provisioning.Cipher
import SignalService.Provisioning.Pipe
import SignalService.Provisioning.Link
import SignalService.Provisioning.Agreement
import SignalService.Provisioning.Rejection
import SignalService.Provisioning.Untrusted
import SignalService.Provisioning.Runner
import SignalService.Provisioning.DeviceName
import SignalService.TransferArchive
