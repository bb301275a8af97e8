import GhostProtocol.Common.Address

/-!
# Packets of the network interface

A packet from the interface is taken apart by a header parser; what the relay
sees of a TCP packet is the key of its flow, the sequence number, the flags and
the payload.  The packets it sends back are built from the fields that the
relay fills in.
-/

namespace GhostProtocol
namespace Tun

open Foundation Common

/-- A flow: source and destination addresses and ports. -/
structure FlowKey where
  srcIp : UInt32
  srcPort : UInt16
  dstIp : UInt32
  dstPort : UInt16
  deriving DecidableEq, Repr

/-- The key of the flow between two addresses. -/
def FlowKey.new
    (srcIp : Block 4)
    (srcPort : UInt16)
    (dstIp : Block 4)
    (dstPort : UInt16) : FlowKey where
  srcIp := u32FromBlock srcIp
  srcPort
  dstIp := u32FromBlock dstIp
  dstPort

/-- What the relay reads of an IPv4 header. -/
structure Ipv4Header where
  source : Block 4
  destination : Block 4
  protocol : UInt8
  /-- Bytes of the header, options included. -/
  length : Nat

/-- What the relay reads of a TCP header. -/
structure TcpHeader where
  sourcePort : UInt16
  destinationPort : UInt16
  sequenceNumber : UInt32
  syn : Bool
  ack : Bool
  fin : Bool
  rst : Bool
  /-- Bytes of the header, options included. -/
  length : Nat

/-- The header parser: the header in front of some bytes, if it is valid. -/
structure HeaderParser where
  ipv4 : Bytes → Option Ipv4Header
  tcp : Bytes → Option TcpHeader

/-- The protocol number of TCP. -/
def TCP : UInt8 := 6

/-- The headers that can fail to parse. -/
inductive HeaderError
  | ipv4
  | tcp
  deriving DecidableEq, Repr

/-- What the relay knows of a TCP packet once its headers are parsed. -/
structure Segment where
  key : FlowKey
  target : SocketAddr
  sequenceNumber : UInt32
  syn : Bool
  ack : Bool
  fin : Bool
  rst : Bool
  payload : Bytes

/-- A segment that opens a flow: a SYN without ACK or RST. -/
structure Segment.Opens (segment : Segment) : Prop where
  syn : segment.syn = true
  ack : segment.ack = false
  rst : segment.rst = false

/-- A segment without a reset opens a flow if it is a SYN. -/
theorem Segment.opens_iff
    {segment : Segment}
    (rst : segment.rst = false) :
    segment.Opens ↔ (segment.syn && !segment.ack) = true := by
  rw [Bool.and_eq_true, Bool.not_eq_true']
  constructor
  · exact fun opens => ⟨opens.syn, opens.ack⟩
  · rintro ⟨syn, ack⟩
    exact ⟨syn, ack, rst⟩

/-- Parse the TCP header behind an IPv4 header. -/
def parseSegment
    (parser : HeaderParser)
    (ip : Ipv4Header)
    (payload : Bytes) : Except HeaderError Segment :=
  match parser.tcp payload with
  | none => .error .tcp
  | some tcp => .ok {
      key := FlowKey.new ip.source tcp.sourcePort ip.destination
        tcp.destinationPort
      target := .v4 { ip := ip.destination, port := tcp.destinationPort }
      sequenceNumber := tcp.sequenceNumber
      syn := tcp.syn
      ack := tcp.ack
      fin := tcp.fin
      rst := tcp.rst
      payload := payload.drop tcp.length }

/-- The segment in a packet.  Short packets, packets of another IP version and
packets of another protocol are ignored. -/
def parsePacket
    (parser : HeaderParser)
    (data : Bytes) : Except HeaderError (Option Segment) :=
  if data.length < 20 then .ok none
  else if (data.headD 0 >>> 4) &&& 0x0F ≠ 4 then .ok none
  else
    match parser.ipv4 data with
    | none => .error .ipv4
    | some ip =>
        if ip.protocol = TCP then
          (parseSegment parser ip (data.drop ip.length)).map some
        else .ok none

/-! ## Packets to the interface -/

/-- A TCP packet without options, in an IPv4 packet without options. -/
structure Packet where
  srcIp : UInt32
  dstIp : UInt32
  ipPayloadLen : UInt16
  ttl : UInt8
  srcPort : UInt16
  dstPort : UInt16
  seq : UInt32
  ack : UInt32
  rst : Bool
  syn : Bool
  ackFlag : Bool
  fin : Bool
  psh : Bool
  windowSize : UInt16
  payload : Bytes
  deriving DecidableEq, Repr

/-- The packet with the given addresses, numbers, flags and payload. -/
def sendTcpPacket
    (srcIp dstIp : UInt32)
    (srcPort dstPort : UInt16)
    (seq ack : UInt32)
    (rst syn ackFlag fin psh : Bool)
    (payload : Bytes) : Packet where
  srcIp
  dstIp
  ipPayloadLen := UInt16.ofNat (20 + payload.length)
  ttl := 64
  srcPort
  dstPort
  seq
  ack
  rst
  syn
  ackFlag
  fin
  psh
  windowSize := 65535
  payload

end Tun
end GhostProtocol
