import GhostProtocol.Tun.Packet

/-!
# IPv4 and TCP headers as bytes

The header parser that the relay uses belongs to another package and is a
parameter of the model.  This module gives the parser of the header formats
themselves: what it reads back from the bytes of a segment is that segment.
-/

namespace GhostProtocol
namespace Tun

open Foundation Common

/-- The IPv4 header in front of some bytes. -/
def parseIpv4Header (data : Bytes) : Option Ipv4Header :=
  let first := data.getD 0 0
  let length := (first &&& 0x0F).toNat * 4
  if data.length < 20 ∨ first >>> 4 ≠ 4 ∨ length < 20 ∨ data.length < length
  then none
  else some {
    source := Block.ofBytes 4 (data.drop 12)
    destination := Block.ofBytes 4 (data.drop 16)
    protocol := data.getD 9 0
    length }

/-- The TCP header in front of some bytes. -/
def parseTcpHeader (data : Bytes) : Option TcpHeader :=
  let length := (data.getD 12 0 >>> 4).toNat * 4
  let flags := data.getD 13 0
  if data.length < 20 ∨ length < 20 ∨ data.length < length then none
  else some {
    sourcePort := u16FromBuffer data
    destinationPort := u16FromBuffer (data.drop 2)
    sequenceNumber := u32FromBlock (Block.ofBytes 4 (data.drop 4))
    syn := flags &&& 2 ≠ 0
    ack := flags &&& 16 ≠ 0
    fin := flags &&& 1 ≠ 0
    rst := flags &&& 4 ≠ 0
    length }

/-- The header parser of the IPv4 and TCP formats. -/
def headerFormats : HeaderParser where
  ipv4 := parseIpv4Header
  tcp := parseTcpHeader

/-- The control bits of a TCP segment. -/
structure Flags where
  syn : Bool
  ack : Bool
  fin : Bool
  rst : Bool
  deriving DecidableEq, Repr

/-- The byte of a TCP header that holds the control bits. -/
def Flags.byte (flags : Flags) : UInt8 :=
  (if flags.fin then 1 else 0) ||| (if flags.syn then 2 else 0) |||
    (if flags.rst then 4 else 0) ||| (if flags.ack then 16 else 0)

/-- The ends of a TCP connection, as they stand in the headers. -/
structure Endpoints where
  source : Block 4
  sourcePort : UInt16
  destination : Block 4
  destinationPort : UInt16
  deriving DecidableEq

/-- The flow between two ends. -/
def Endpoints.key (ends : Endpoints) : FlowKey :=
  FlowKey.new ends.source ends.sourcePort ends.destination
    ends.destinationPort

/-- The TCP part of a segment without options. -/
def tcpBytes
    (ends : Endpoints)
    (sequence : Block 4)
    (flags : Flags)
    (payload : Bytes) : Bytes :=
  u16Be ends.sourcePort ++ u16Be ends.destinationPort ++ sequence.toList ++
    [0, 0, 0, 0, 0x50, flags.byte, 0xFF, 0xFF, 0, 0, 0, 0] ++ payload

/-- The packet of a segment without options in either header. -/
def segmentBytes
    (ends : Endpoints)
    (sequence : Block 4)
    (flags : Flags)
    (payload : Bytes) : Bytes :=
  [0x45, 0] ++ u16Be (UInt16.ofNat (40 + payload.length)) ++
    [0, 0, 0x40, 0, 64, TCP, 0, 0] ++ ends.source.toList ++
    ends.destination.toList ++ tcpBytes ends sequence flags payload

/-- The control bits are read back. -/
theorem Flags.byte_bits (flags : Flags) :
    decide (flags.byte &&& 2 ≠ 0) = flags.syn ∧
      decide (flags.byte &&& 16 ≠ 0) = flags.ack ∧
      decide (flags.byte &&& 1 ≠ 0) = flags.fin ∧
      decide (flags.byte &&& 4 ≠ 0) = flags.rst := by
  obtain ⟨syn, ack, fin, rst⟩ := flags
  revert syn ack fin rst
  decide

/-- An array of four bytes is read back from the front of a buffer. -/
theorem ofBytes_append
    (block : Block 4)
    (rest : Bytes) :
    Block.ofBytes 4 (block.toList ++ rest) = block := by
  obtain ⟨bytes, four⟩ := block
  match bytes, four with
  | [first, second, third, fourth], four => rfl

/-- The TCP header is read back. -/
theorem parseTcpHeader_tcpBytes
    (ends : Endpoints)
    (sequence : Block 4)
    (flags : Flags)
    (payload : Bytes) :
    parseTcpHeader (tcpBytes ends sequence flags payload) = some {
      sourcePort := ends.sourcePort
      destinationPort := ends.destinationPort
      sequenceNumber := u32FromBlock sequence
      syn := flags.syn
      ack := flags.ack
      fin := flags.fin
      rst := flags.rst
      length := 20 } := by
  obtain ⟨syn, ack, fin, rst⟩ := flags.byte_bits
  have long : ¬(tcpBytes ends sequence flags payload).length < 20 := by
    simp [tcpBytes]
    omega
  have numbered : Block.ofBytes 4
      ((tcpBytes ends sequence flags payload).drop 4) = sequence := by
    simp only [tcpBytes, List.append_assoc]
    exact ofBytes_append sequence _
  obtain ⟨bytes, four⟩ := sequence
  match bytes, four with
  | [first, second, third, fourth], four =>
      have source : u16FromBuffer (tcpBytes ends ⟨_, four⟩ flags payload) =
          ends.sourcePort := u16FromBuffer_u16Be ends.sourcePort
      have destination : u16FromBuffer
          ((tcpBytes ends ⟨_, four⟩ flags payload).drop 2) =
            ends.destinationPort := u16FromBuffer_u16Be ends.destinationPort
      have offset : (tcpBytes ends ⟨_, four⟩ flags payload).getD 12 0 =
          0x50 := rfl
      have bits : (tcpBytes ends ⟨_, four⟩ flags payload).getD 13 0 =
          flags.byte := rfl
      simp only [parseTcpHeader, offset, bits, source, destination, numbered,
        syn, ack, fin, rst]
      exact if_neg (not_or.mpr ⟨long, not_or.mpr ⟨by decide, long⟩⟩)

/-- The IPv4 header is read back, and the TCP part stands behind it. -/
theorem parseIpv4Header_segmentBytes
    (ends : Endpoints)
    (sequence : Block 4)
    (flags : Flags)
    (payload : Bytes) :
    parseIpv4Header (segmentBytes ends sequence flags payload) = some {
        source := ends.source
        destination := ends.destination
        protocol := TCP
        length := 20 } ∧
      (segmentBytes ends sequence flags payload).drop 20 =
        tcpBytes ends sequence flags payload := by
  have long : ¬(segmentBytes ends sequence flags payload).length < 20 := by
    simp [segmentBytes]
    omega
  have source : Block.ofBytes 4
      ((segmentBytes ends sequence flags payload).drop 12) = ends.source := by
    simp only [segmentBytes, List.append_assoc]
    exact ofBytes_append ends.source _
  have destination : Block.ofBytes 4
      ((segmentBytes ends sequence flags payload).drop 16) =
        ends.destination := by
    simp only [segmentBytes, List.append_assoc]
    rw [← List.append_assoc, ← List.append_assoc, ← List.append_assoc,
      List.drop_left' (by simp)]
    exact ofBytes_append ends.destination _
  have first : (segmentBytes ends sequence flags payload).getD 0 0 =
      0x45 := rfl
  have protocol : (segmentBytes ends sequence flags payload).getD 9 0 =
      TCP := rfl
  constructor
  · simp only [parseIpv4Header, first, protocol, source, destination]
    refine if_neg (not_or.mpr ⟨long, not_or.mpr ⟨by decide, ?_⟩⟩)
    exact not_or.mpr ⟨by decide, long⟩
  · simp only [segmentBytes]
    rw [List.drop_left' (by simp)]

/-- The segment in the packet of a segment is read back. -/
theorem parsePacket_segmentBytes
    (ends : Endpoints)
    (sequence : Block 4)
    (flags : Flags)
    (payload : Bytes) :
    parsePacket headerFormats (segmentBytes ends sequence flags payload) =
      .ok (some {
        key := ends.key
        target := .v4 {
          ip := ends.destination, port := ends.destinationPort }
        sequenceNumber := u32FromBlock sequence
        syn := flags.syn
        ack := flags.ack
        fin := flags.fin
        rst := flags.rst
        payload }) := by
  obtain ⟨header, behind⟩ :=
    parseIpv4Header_segmentBytes ends sequence flags payload
  have long : ¬(segmentBytes ends sequence flags payload).length < 20 := by
    simp [segmentBytes]
    omega
  have first : (segmentBytes ends sequence flags payload).headD 0 = 0x45 := rfl
  have data : (tcpBytes ends sequence flags payload).drop 20 = payload := by
    rw [tcpBytes, List.drop_left' (by simp)]
  rw [parsePacket, if_neg long, first, if_neg (by decide)]
  simp only [headerFormats, header, behind, if_true, parseSegment,
    parseTcpHeader_tcpBytes, data, Except.map]
  rfl

/-- A connection from an application to a web server. -/
def webEnds : Endpoints where
  source := ⟨[10, 0, 0, 2], rfl⟩
  sourcePort := 40000
  destination := ⟨[93, 184, 216, 34], rfl⟩
  destinationPort := 443

/-- The packet of that connection with the given sequence number. -/
def webPacket
    (sequence : UInt8)
    (flags : Flags)
    (payload : Bytes) : Bytes :=
  segmentBytes webEnds ⟨[0, 0, 0, sequence], rfl⟩ flags payload

/-- The SYN of that connection. -/
def webSyn : Bytes :=
  webPacket 0 { syn := true, ack := false, fin := false, rst := false } []

/-- The segment of that SYN. -/
def webSynSegment : Segment where
  key := webEnds.key
  target := .v4 { ip := webEnds.destination, port := 443 }
  sequenceNumber := 0
  syn := true
  ack := false
  fin := false
  rst := false
  payload := []

/-- That segment is read back. -/
theorem parsePacket_webSyn :
    parsePacket headerFormats webSyn = .ok (some webSynSegment) :=
  parsePacket_segmentBytes webEnds ⟨[0, 0, 0, 0], rfl⟩ _ []

/-- The RST of that connection. -/
def webRst : Bytes :=
  webPacket 1 { syn := false, ack := true, fin := false, rst := true } []

/-- The segment of that RST. -/
def webRstSegment : Segment where
  key := webEnds.key
  target := .v4 { ip := webEnds.destination, port := 443 }
  sequenceNumber := 1
  syn := false
  ack := true
  fin := false
  rst := true
  payload := []

/-- That segment is read back. -/
theorem parsePacket_webRst :
    parsePacket headerFormats webRst = .ok (some webRstSegment) :=
  parsePacket_segmentBytes webEnds ⟨[0, 0, 0, 1], rfl⟩ _ []

/-- The first byte of that connection. -/
def webData : Bytes :=
  webPacket 1 { syn := false, ack := true, fin := false, rst := false } [1]

/-- The segment with the first byte. -/
def webDataSegment : Segment where
  key := webEnds.key
  target := .v4 { ip := webEnds.destination, port := 443 }
  sequenceNumber := 1
  syn := false
  ack := true
  fin := false
  rst := false
  payload := [1]

/-- That segment is read back. -/
theorem parsePacket_webData :
    parsePacket headerFormats webData = .ok (some webDataSegment) :=
  parsePacket_segmentBytes webEnds ⟨[0, 0, 0, 1], rfl⟩ _ [1]

/-- The FIN behind the first byte. -/
def webFin : Bytes :=
  webPacket 2 { syn := false, ack := true, fin := true, rst := false } []

/-- The segment of that FIN. -/
def webFinSegment : Segment where
  key := webEnds.key
  target := .v4 { ip := webEnds.destination, port := 443 }
  sequenceNumber := 2
  syn := false
  ack := true
  fin := true
  rst := false
  payload := []

/-- That segment is read back. -/
theorem parsePacket_webFin :
    parsePacket headerFormats webFin = .ok (some webFinSegment) :=
  parsePacket_segmentBytes webEnds ⟨[0, 0, 0, 2], rfl⟩ _ []

end Tun
end GhostProtocol
