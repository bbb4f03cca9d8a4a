import CallWire.Bytes
import CallWire.Bytes.Hex
import CallWire.Text
import CallWire.Text.Printable
import CallWire.Text.Logged
import CallWire.Tracing
import CallWire.ErrorCode
import CallWire.FrameType
import CallWire.Fault
import CallWire.Cursor
import CallWire.Segment
import CallWire.Field
import CallWire.Headers
import CallWire.Headers.Index
import CallWire.Headers.Wire
import CallWire.Checksum
import CallWire.Chunks
import CallWire.Handshake
import CallWire.Call
import CallWire.Notice
import CallWire.Body
import CallWire.Pool
import CallWire.Pool.Registry
import CallWire.Pool.Exchange
import CallWire.Frame
import CallWire.Frame.Reading
import CallWire.Frame.Writing
import CallWire.LazyFrame
import CallWire.LazyFrame.Reading
import CallWire.LazyFrame.ErrorFields
import CallWire.ConnectionPools
import CallWire.Bytes.Queue
import CallWire.FrameSplitter
import CallWire.FrameSplitter.Receiver
import CallWire.Credits
import CallWire.Credits.Sharing
import CallWire.Json.Quoted
import CallWire.Json.Value
import CallWire.CallError
import CallWire.Response.Config
import CallWire.Arguments
import CallWire.ArgStream
import CallWire.Response.State
import CallWire.Response.Error
import CallWire.Response.Fragment
import CallWire.Response
import CallWire.Response.Streaming
import CallWire.Session
import CallWire.Session.Traffic
import CallWire.Proofs.Segments
import CallWire.Proofs.Reading
import CallWire.Proofs.Fields
import CallWire.Proofs.Bodies
import CallWire.Proofs.FrameBytes
import CallWire.Proofs.FrameRoundTrip
import CallWire.Proofs.Cutting
import CallWire.Proofs.Response.Batches
import CallWire.Proofs.Response.Delivery
import CallWire.Proofs.Response.Signals
import CallWire.Proofs.Response.Ending
import CallWire.Proofs.Response.Events
import CallWire.Proofs.Streaming.Scripts
import CallWire.Proofs.Streaming.Calls
import CallWire.Proofs.Streaming.Lifecycle
import CallWire.Proofs.Lengths
import CallWire.Proofs.Receiving
import CallWire.Proofs.Response.Carrying
import CallWire.Proofs.Streaming.Content
import CallWire.Proofs.Streaming.Intact
import CallWire.Proofs.Streaming.Arrival
import CallWire.Proofs.Exactness
import CallWire.Proofs.Measuring
import CallWire.Proofs.Merging
import CallWire.Proofs.WireBodies
import CallWire.Proofs.Decoding
import CallWire.Proofs.Canonical
import CallWire.Proofs.LazyAgreement
import CallWire.Proofs.StreamSplitting
import CallWire.Proofs.PoolLedger
import CallWire.Proofs.Holdings
import CallWire.Proofs.Pool.Histories
import CallWire.Proofs.Pool.Counters
import CallWire.Proofs.Pool.Images
import CallWire.Proofs.Pool.Recycling
import CallWire.Proofs.Pool.Forgetting
import CallWire.Proofs.Filling
import CallWire.Proofs.Response.Pacing
import CallWire.Proofs.Response.Tiling
import CallWire.Proofs.Streaming.Pacing
import CallWire.Proofs.Streaming.Delays
import CallWire.Proofs.Response.ErrorFrames
import CallWire.Proofs.Sharing.Interruptions
import CallWire.Proofs.Streaming.Opening
import CallWire.Proofs.BodyEnds
import CallWire.Proofs.Acceptance
import CallWire.Proofs.Forwarding
import CallWire.Proofs.RawFields
import CallWire.Proofs.Sharing.Conservation
import CallWire.Proofs.Draining
import CallWire.Proofs.Writing
import CallWire.Proofs.Encoders
import CallWire.Proofs.Streaming.Accepted
import CallWire.Proofs.Streaming.Lossless
import CallWire.Proofs.Streaming.Rejections
import CallWire.Proofs.Correlation
import CallWire.Proofs.Safety
import CallWire.Proofs.HeaderMaps
