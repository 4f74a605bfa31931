import BelleSip.Foundation.Machine
import BelleSip.Foundation.FrameQueue
import BelleSip.Foundation.Checked
import BelleSip.Channel.Termination
import BelleSip.Sip.Message
import BelleSip.Sip.ReturnHop
import BelleSip.Transaction.State
import BelleSip.Dialog.Ack
import BelleSip.Dialog.Sequence
import BelleSip.Dialog.Search
import BelleSip.Provider.Authorization
import BelleSip.Provider.Soundness
import BelleSip.Channel.KeepAlive
import BelleSip.Channel.ContentLength
import BelleSip.Foundation.Apart
import BelleSip.Dialog.Outcome
import BelleSip.Dialog.Wakeup
import BelleSip.Foundation.Turns
import BelleSip.Dialog.Drain
import BelleSip.Dialog.Tracking
import BelleSip.Dialog.Dispatch
import BelleSip.Dialog.AckTimers
import BelleSip.Foundation.Handover
import BelleSip.Dialog.Fifo
import BelleSip.Dialog.Identity
import BelleSip.Provider.Identity
import BelleSip.Provider.Distinction
import BelleSip.Transaction.Matching
import BelleSip.Transaction.Separation
import BelleSip.Resolver.Srv
import BelleSip.Sip.HeaderContainers
import BelleSip.Foundation.Segments
import BelleSip.Foundation.Mime
import BelleSip.Foundation.Allocation
import BelleSip.Body.PartHeaders
import BelleSip.Body.HeaderBuffer
import BelleSip.Body.Handler
import BelleSip.Body.Multipart
import BelleSip.Body.Delivery
import BelleSip.Body.Resending
import BelleSip.Body.Memory
import BelleSip.Sip.Uri
import BelleSip.Sip.UriEquality
import BelleSip.Channel.InputStream
import BelleSip.Channel.InputBounds
import BelleSip.Sip.UriText
import BelleSip.Sip.UriRoundTrip
import BelleSip.Refresher.Attendance
import BelleSip.Refresher.Delay
import BelleSip.Resolver.Election
import BelleSip.Transaction.Server
import BelleSip.Transaction.ServerRuns
import BelleSip.Channel.EndOfStream
import BelleSip.Foundation.Codec
import BelleSip.Foundation.Layout
import BelleSip.Sdp.Description
import BelleSip.Sdp.Grammar
import BelleSip.Sdp.Recovery
import BelleSip.MainLoop.Sources
import BelleSip.MainLoop.Iteration
import BelleSip.Object.Pool
import BelleSip.Object.Collection
import BelleSip.Object.WeakRefs
import BelleSip.Channel.ChunckedText
import BelleSip.Channel.ChunckedBody
import BelleSip.Sip.HeaderAddress
import BelleSip.Sip.HeaderAddressRuns
import BelleSip.Sip.HeaderRemoval
import BelleSip.Sip.Escaping
import BelleSip.Sip.EscapeBuffer
import BelleSip.Sip.Unescaping
import BelleSip.Sip.DisplayName
import BelleSip.Sip.ParametersMemory
import BelleSip.Dialog.Remote
import BelleSip.Sip.ParametersRuns
import BelleSip.Dialog.Ordering
import BelleSip.Dialog.AckNumber
import BelleSip.Transaction.Client
import BelleSip.Transaction.Retransmissions
import BelleSip.Transaction.Schedule
import BelleSip.Channel.ChunckedDelivery
import BelleSip.Sip.HeaderAuthorization
import BelleSip.Sip.PrintedNumbers
import BelleSip.Sip.Digest
import BelleSip.Foundation.Calendar
import BelleSip.Sip.HeaderDate
import BelleSip.Sip.RequestCreate
import BelleSip.Sip.FixContact
import BelleSip.Http.Cancellation
import BelleSip.Foundation.BitString
import BelleSip.Utils.OctetsText
import BelleSip.Foundation.Keyed
import BelleSip.Object.DataStore
import BelleSip.Object.FiniteMap
import BelleSip.Foundation.Scan
import BelleSip.Sdp.MimeParameter
import BelleSip.Sdp.MimeRoundTrip
import BelleSip.Foundation.Reassembly
import BelleSip.Channel.StartLine
import BelleSip.Channel.Reception
import BelleSip.Channel.Pieces
import BelleSip.Foundation.Reentrance
import BelleSip.Transaction.Callbacks
import BelleSip.Transaction.Aftermath
import BelleSip.Transaction.CallOuts
import BelleSip.Transaction.Silence
import BelleSip.Transaction.Reports
import BelleSip.Transaction.Exchange
import BelleSip.Transaction.FinalResponse
import BelleSip.Transaction.Agreement
import BelleSip.Transaction.Absorption
import BelleSip.Utils.Md5
import BelleSip.Transaction.Expiry
import BelleSip.Utils.Lists
import BelleSip.Utils.ListCalls
import BelleSip.Dialog.Naming
import BelleSip.Dialog.TwoEnds
